import RootCatalog.Log.Level
import RootCatalog.Text.Quoted
/-! Log events and their text: the message, and then each field as a name and a value. -/
namespace RootCatalog.Log

structure EventField where
  name : String
  value : String
  inspected : Bool := false
  deriving DecidableEq, Repr

structure Event where
  level : Level
  target : String
  message : String
  fields : List EventField := []
  deriving DecidableEq, Repr

def EventField.text (f : EventField) : String :=
  f.name ++ "=" ++ if f.inspected then Text.quoted f.value else f.value

def Event.text (e : Event) : String :=
  if e.fields.isEmpty then e.message
  else
    let fields := " ".intercalate (e.fields.map EventField.text)
    if e.message.isEmpty then fields else e.message ++ " " ++ fields

end RootCatalog.Log
