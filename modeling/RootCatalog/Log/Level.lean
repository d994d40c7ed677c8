/-! Log levels in ascending severity. `off` is a threshold that nothing reaches, not the level of a
record. -/
namespace RootCatalog.Log

inductive Level where
  | trace
  | debug
  | info
  | warn
  | error
  | off
  deriving DecidableEq, Repr, Ord

namespace Level

def code : Level → Nat
  | trace => 0
  | debug => 1
  | info => 2
  | warn => 3
  | error => 4
  | off => 5

def ofByte (b : UInt8) : Level :=
  if b = 0 then trace
  else if b = 1 then debug
  else if b = 2 then info
  else if b = 3 then warn
  else if b = 4 then error
  else off

def name : Level → String
  | trace => "TRACE"
  | debug => "DEBUG"
  | info => "INFO"
  | warn => "WARN"
  | error => "ERROR"
  | off => "OFF"

def reaches (l threshold : Level) : Bool := l != off && threshold.code ≤ l.code

theorem reachesIff {l threshold : Level} :
    l.reaches threshold = true ↔ l ≠ off ∧ threshold.code ≤ l.code := by
  simp [reaches]

end Level
end RootCatalog.Log
