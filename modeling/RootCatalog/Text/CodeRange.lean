/-! Sets of code points as ascending lists of closed ranges. The search in a list ends at the first
range above the code point. -/
namespace RootCatalog.Text

structure CodeRange where
  first : Nat
  last : Nat
  deriving DecidableEq, Repr

namespace CodeRange

def contain (n : Nat) : List CodeRange → Bool
  | [] => false
  | r :: rest => if n < r.first then false else if n ≤ r.last then true else contain n rest

end CodeRange
end RootCatalog.Text
