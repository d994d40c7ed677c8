import RootCatalog.Text.Lowercase
/-! Paths. A path is cleaned segment by segment: empty segments and single dots say nothing, and two
dots take back the last segment that is left, if any. -/
namespace RootCatalog.Path

def split : List Char → List (List Char)
  | [] => [[]]
  | c :: rest =>
    if c = '/' then [] :: split rest
    else match split rest with
      | [] => [[c]]
      | segment :: more => (c :: segment) :: more

def segments (path : String) : List String := (split path.toList).map String.ofList

def resolve (left : List String) (segment : String) : List String :=
  if segment = "" ∨ segment = "." then left
  else if segment = ".." then left.tail
  else segment :: left

def clean (path : String) : List String := ((segments path).foldl resolve []).reverse

end RootCatalog.Path
