import RootCatalog.CatalogError
import RootCatalog.Log.Event
/-! Panics: a call that neither returns nor reports an error. A hook logs one when it starts, and the
boundary to the host turns it into an internal error. -/
namespace RootCatalog

structure Panic where
  site : String
  payload : Option String
  deriving DecidableEq, Repr

namespace Panic

def target : String := "mndx_ffi::panic_guard"

def raisedEvent (p : Panic) : Log.Event where
  level := .error
  target := target
  message := "PANIC at " ++ p.site ++ ": " ++ p.payload.getD "Box<dyn Any>"

def caughtText (p : Panic) : String :=
  match p.payload with
  | some text => "bridge panicked: " ++ text
  | none => "bridge panicked with unknown payload"

def caughtEvent (p : Panic) : Log.Event where
  level := .error
  target := target
  message := "FFI panic caught: " ++ p.caughtText

end Panic

inductive Stop where
  | error (e : CatalogError)
  | panic (p : Panic)
  deriving DecidableEq, Repr

end RootCatalog
