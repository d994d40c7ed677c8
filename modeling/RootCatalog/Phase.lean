import RootCatalog.Json.Printer
import RootCatalog.Json.Record
/-! The phases of one enumeration call. A forward move takes a handle that has to be released; a
move back records that it was. -/
namespace RootCatalog

inductive Phase where
  | unopened
  | sessionOpen
  | searchActive
  | done
  | failed
  deriving DecidableEq, Repr, Inhabited

namespace Phase

def all : List Phase := [unopened, sessionOpen, searchActive, done, failed]

def name : Phase → String
  | unopened => "Unopened"
  | sessionOpen => "SessionOpen"
  | searchActive => "SearchActive"
  | done => "Done"
  | failed => "Failed"

def allows : Phase → Phase → Bool
  | unopened, sessionOpen => true
  | sessionOpen, searchActive => true
  | searchActive, sessionOpen => true
  | sessionOpen, done => true
  | unopened, failed => true
  | sessionOpen, failed => true
  | searchActive, failed => true
  | _, _ => false

def holdsResources : Phase → Bool
  | sessionOpen | searchActive => true
  | _ => false

def isTerminal : Phase → Bool
  | done | failed => true
  | _ => false

def key : Phase → String
  | unopened => "unopened"
  | sessionOpen => "session_open"
  | searchActive => "search_active"
  | done => "done"
  | failed => "failed"

def json (p : Phase) : String := Json.stringText p.key

def ofKey (s : String) : Except Json.Fault Phase :=
  match all.find? fun p => p.key = s with
  | some p => .ok p
  | none => .error (.data (s!"unknown variant `{s}`, expected one of " ++
      ", ".intercalate (all.map fun p => "`" ++ p.key ++ "`")))

open Json in
def ofTokens : List Token → Except Fault Phase
  | [] => .error .truncated
  | .string read _ :: rest => do
    let p ← ofKey (← read)
    if rest.isEmpty then pure p else throw .malformed
  | .openBrace :: rest => do
    let some first := rest.head? | throw .truncated
    let .string read _ := first | throw .malformed
    let p ← ofKey (← read)
    let some second := rest[1]? | throw .truncated
    let .colon := second | throw .malformed
    let some third := rest[2]? | throw .truncated
    third.asNull "unit"
    let some last := rest[3]? | throw .truncated
    let .closeBrace := last | throw .malformed
    if rest.length = 4 then pure p else throw .malformed
  | _ :: _ => .error .malformed

def ofJson (document : Bytes) : Except Json.Fault Phase := ofTokens (Json.tokens document)

end Phase
end RootCatalog
