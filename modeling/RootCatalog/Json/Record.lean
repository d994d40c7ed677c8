import RootCatalog.Json.Skim
/-! Reading a record with named scalar fields. The document is an object, with members in any order
and unknown ones passed over, or an array of the fields in their order. The reader is one step per
token, so the first fault from the left decides. -/
namespace RootCatalog.Json

structure Field (δ : Type) where
  name : String
  present : δ → Bool
  read : Token → δ → Except Fault δ

structure RecordForm (δ α : Type) where
  title : String
  fields : List (Field δ)
  blank : δ
  complete : δ → Except Fault α
  short : Nat → Option Fault

inductive Place (δ α : Type) where
  | opening
  | key (draft : δ) (first : Bool)
  | colon (draft : δ) (field : Option (Field δ))
  | value (draft : δ) (field : Field δ)
  | passing (draft : δ) (skim : Skim)
  | afterMember (draft : δ)
  | element (draft : δ) (left : List (Field δ)) (first : Bool)
  | afterElement (draft : δ) (left : List (Field δ))
  | closed (result : α)

namespace RecordForm

variable {δ α : Type} (form : RecordForm δ α)

def closeObject (draft : δ) : Except Fault (Place δ α) :=
  (form.complete draft).map .closed

def closeArray (draft : δ) (left : List (Field δ)) : Except Fault (Place δ α) :=
  if left.isEmpty then form.closeObject draft
  else match form.short (form.fields.length - left.length) with
    | some fault => .error fault
    | none => form.closeObject draft

def takeKey (draft : δ) (name : String) : Except Fault (Place δ α) :=
  match form.fields.find? fun f => f.name = name with
  | none => .ok (.colon draft none)
  | some f =>
    if f.present draft then .error (.data s!"duplicate field `{name}`")
    else .ok (.colon draft (some f))

def pass (draft : δ) (skim : Skim) (t : Token) : Except Fault (Place δ α) :=
  (skim.step t).map fun
    | none => .afterMember draft
    | some skim => .passing draft skim

def step : Place δ α → Token → Except Fault (Place δ α)
  | .opening, .openBrace => .ok (.key form.blank true)
  | .opening, .openBracket => .ok (.element form.blank form.fields true)
  | .opening, t => .error (t.mismatch form.title)
  | .key draft true, .closeBrace => form.closeObject draft
  | .key draft _, .string read _ => do form.takeKey draft (← read)
  | .key _ _, _ => .error .malformed
  | .colon draft (some f), .colon => .ok (.value draft f)
  | .colon draft none, .colon => .ok (.passing draft Skim.start)
  | .colon _ _, _ => .error .malformed
  | .value draft f, t => (f.read t draft).map .afterMember
  | .passing draft skim, t => pass draft skim t
  | .afterMember draft, .comma => .ok (.key draft false)
  | .afterMember draft, .closeBrace => form.closeObject draft
  | .afterMember _, _ => .error .malformed
  | .element draft left true, .closeBracket => form.closeArray draft left
  | .element draft (f :: left) _, t => (f.read t draft).map (.afterElement · left)
  | .element _ [] _, _ => .error .malformed
  | .afterElement draft left, .closeBracket => form.closeArray draft left
  | .afterElement draft (f :: left), .comma => .ok (.element draft (f :: left) false)
  | .afterElement _ _, _ => .error .malformed
  | .closed _, _ => .error .malformed

def finish : Place δ α → Except Fault α
  | .closed result => .ok result
  | _ => .error .truncated

def readTokens (ts : List Token) : Except Fault α := do
  finish (← ts.foldlM form.step .opening)

def read (document : Bytes) : Except Fault α := form.readTokens (tokens document)

end RecordForm
end RootCatalog.Json
