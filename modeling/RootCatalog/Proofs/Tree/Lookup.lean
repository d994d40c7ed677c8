import RootCatalog.Proofs.Tree.Entries
/-! Lookups in the tree of a list of entries. The answer depends on the list only: on the entry at the
path, on the first entry below it, or on one that the path goes on behind. What a directory holds is
said only as far as further lookups show it. -/
namespace RootCatalog.Tree

open Text (lowercase)

def Miss.error (path : String) : Miss → TreeError
  | .absent => .notFound path
  | .throughFile => .notADirectory path

end RootCatalog.Tree
