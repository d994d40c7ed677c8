import RootCatalog.Proofs.Path.Segments
import RootCatalog.Proofs.Tree.Entries
/-! What stands in a tree after any insertions, some of which may have failed: each directory has its
children in order, under names that a path can have, and what is counted, found and walked through is
those children; and the files are those of the entries taken in, one for each, in the order of their
paths. -/
namespace RootCatalog

open Text (lowercase byteOrder)

def Node.name : Node → String
  | .file name _ => name
  | .dir name _ => name

namespace Tree

/-- The files in the order of a walk that goes into each directory where it stands, each with the
keys on the way to it. -/
def listing : Tree → List (List String × Leaf)
  | empty => []
  | file key _ leaf rest => ([key], leaf) :: rest.listing
  | dir key _ inner rest =>
    inner.listing.map (fun found => (key :: found.1, found.2)) ++ rest.listing

def Sound : Tree → Prop
  | empty => True
  | file key name _ rest => (key = lowercase name ∧ Path.Plain name) ∧ rest.Sound
  | dir key name inner rest =>
    (key = lowercase name ∧ Path.Plain name) ∧ inner.isEmpty = false ∧ inner.Sound ∧ rest.Sound

structure Holds (t : Tree) (kept : List FileEntry) : Prop where
  ordered : t.Ordered
  sound : t.Sound
  listed : t.listing.Perm (kept.map fun e => (e.keys, e.leaf))

def binary : Leaf := ⟨1, 0, 7, .zero⟩

def text : Leaf := ⟨2, 0, 8, .zero⟩

end Tree
end RootCatalog
