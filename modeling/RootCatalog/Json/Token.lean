import RootCatalog.Decimal
import RootCatalog.Text.Quoted
/-! Tokens of a JSON document and the faults of reading one. A string or number may be read or only
skimmed, and the two find different faults, so its token carries the outcome of both. -/
namespace RootCatalog.Json

inductive Fault where
  | truncated
  | malformed
  | data (message : String)
  deriving DecidableEq, Repr

inductive Number where
  | integer (n : Int)
  | float (x : Float)
  deriving Repr

inductive Token where
  | openBrace
  | closeBrace
  | openBracket
  | closeBracket
  | comma
  | colon
  | null
  | bool (b : Bool)
  | number (read : Except Fault Number) (skim : Except Fault Unit)
  | string (read : Except Fault String) (skim : Except Fault Unit)
  | broken (fault : Fault)

def Number.describe : Number → String
  | .integer n => s!"integer `{n}`"
  | .float x => "floating point `" ++ Decimal.text x ++ "`"

namespace Token

def wrongType (found expected : String) : Fault :=
  .data ("invalid type: " ++ found ++ ", expected " ++ expected)

def mismatch (expected : String) : Token → Fault
  | null => wrongType "null" expected
  | bool b => wrongType (if b then "boolean `true`" else "boolean `false`") expected
  | number (.ok n) _ => wrongType n.describe expected
  | number (.error f) _ => f
  | string (.ok s) _ => wrongType ("string " ++ Text.quoted s) expected
  | string (.error f) _ => f
  | openBracket => wrongType "sequence" expected
  | openBrace => wrongType "map" expected
  | broken f => f
  | closeBrace | closeBracket | comma | colon => .malformed

def asString (expected : String) : Token → Except Fault String
  | string read _ => read
  | t => .error (t.mismatch expected)

def asBool : Token → Except Fault Bool
  | bool b => .ok b
  | t => .error (t.mismatch "a boolean")

def asNull (expected : String) : Token → Except Fault Unit
  | null => .ok ()
  | t => .error (t.mismatch expected)

def asNatBelow (bound : Nat) (expected : String) : Token → Except Fault Nat
  | number (.ok (.integer n)) _ =>
    if 0 ≤ n ∧ n.toNat < bound then .ok n.toNat
    else .error (.data ("invalid value: " ++ (Number.integer n).describe ++ ", expected " ++ expected))
  | t => .error (t.mismatch expected)

def asUInt32 (t : Token) : Except Fault UInt32 :=
  (t.asNatBelow UInt32.size "u32").map UInt32.ofNat

def asUInt64 (t : Token) : Except Fault UInt64 :=
  (t.asNatBelow UInt64.size "usize").map UInt64.ofNat

end Token
end RootCatalog.Json
