import RootCatalog.FileEntry
import RootCatalog.Text.Quoted
import RootCatalog.Path
/-! The directory tree of a list of entries. Names are told apart by their lower-case form and keep
the case they were first seen with; siblings stand in the order of the octets of that form. An
insertion gives the tree afterwards even when it fails. -/
namespace RootCatalog

inductive TreeError where
  | dirFileClash (path : String)
  | fileExists (path : String)
  | notFound (path : String)
  | notADirectory (path : String)
  | invalidPath (path : String)
  deriving DecidableEq, Repr

def TreeError.message : TreeError → String
  | dirFileClash path => "file and directory have clashing names: " ++ path
  | fileExists path => "file has clashing name: " ++ path
  | notFound path => "no such file or directory: " ++ path
  | notADirectory path => "not a directory: " ++ path
  | invalidPath path => "invalid path: " ++ Text.quoted path

structure Leaf where
  size : UInt32
  localeFlags : UInt32
  fileDataId : UInt32
  contentKey : ContentKey
  deriving DecidableEq, Repr

def FileEntry.leaf (e : FileEntry) : Leaf := ⟨e.size, e.localeFlags, e.fileDataId, e.contentKey⟩

/-- A directory, as its children one after the other. -/
inductive Tree where
  | empty
  | file (key name : String) (leaf : Leaf) (rest : Tree)
  | dir (key name : String) (children rest : Tree)
  deriving DecidableEq, Repr

inductive Node where
  | file (name : String) (leaf : Leaf)
  | dir (name : String) (children : Tree)
  deriving DecidableEq, Repr

namespace Tree

def length : Tree → Nat
  | empty => 0
  | file _ _ _ rest => rest.length + 1
  | dir _ _ _ rest => rest.length + 1

def isEmpty : Tree → Bool
  | empty => true
  | _ => false

def children : Tree → List (String × Node)
  | empty => []
  | file key name leaf rest => (key, .file name leaf) :: rest.children
  | dir key name inner rest => (key, .dir name inner) :: rest.children

inductive Clash where
  | taken
  | blocked
  deriving DecidableEq, Repr

def attach (key : String) : Node → Tree → Tree
  | .file name leaf, rest => file key name leaf rest
  | .dir name inner, rest => dir key name inner rest

def visit (key : String) (change : Option Node → Except Clash Unit × Node) :
    Tree → Except Clash Unit × Tree
  | empty => (change none).map id (attach key · empty)
  | file own name leaf rest => match Text.byteOrder key own with
    | .lt => (change none).map id (attach key · (file own name leaf rest))
    | .eq => (change (some (.file name leaf))).map id (attach own · rest)
    | .gt => (visit key change rest).map id (file own name leaf)
  | dir own name inner rest => match Text.byteOrder key own with
    | .lt => (change none).map id (attach key · (dir own name inner rest))
    | .eq => (change (some (.dir name inner))).map id (attach own · rest)
    | .gt => (visit key change rest).map id (dir own name inner)

def addFile (name : String) (leaf : Leaf) : Option Node → Except Clash Unit × Node
  | none => (.ok (), .file name leaf)
  | some node => (.error .taken, node)

/-- Goes on in a directory, which is made if there is none. It stays even if what follows fails. -/
def enter (name : String) (inside : Tree → Except Clash Unit × Tree) :
    Option Node → Except Clash Unit × Node
  | none => (inside empty).map id (.dir name)
  | some (.dir old inner) => (inside inner).map id (.dir old)
  | some (.file old leaf) => (.error .blocked, .file old leaf)

def put (leaf : Leaf) (name : String) : List String → Tree → Except Clash Unit × Tree
  | [] => visit (Text.lowercase name) (addFile name leaf)
  | next :: more => visit (Text.lowercase name) (enter name (put leaf next more))

def insert (t : Tree) (e : FileEntry) : Except TreeError Unit × Tree :=
  match Path.clean e.name with
  | [] => (.error (.invalidPath e.name), t)
  | name :: more =>
    match t.put e.leaf name more with
    | (.ok (), t) => (.ok (), t)
    | (.error .taken, t) => (.error (.fileExists e.name), t)
    | (.error .blocked, t) => (.error (.dirFileClash e.name), t)

def insertAll (t : Tree) : List FileEntry → Except TreeError Tree
  | [] => .ok t
  | e :: rest =>
    match t.insert e with
    | (.ok (), t) => insertAll t rest
    | (.error error, _) => .error error

def ofEntries (entries : List FileEntry) : Except TreeError Tree := insertAll empty entries

def find? (t : Tree) (key : String) : Option Node :=
  (t.children.find? fun child => child.1 = key).map (·.2)

inductive Miss where
  | absent
  | throughFile
  deriving DecidableEq, Repr

def lookup (t : Tree) (name : String) : List String → Except Miss Node
  | [] => match t.find? (Text.lowercase name) with
    | none => .error .absent
    | some node => .ok node
  | next :: more => match t.find? (Text.lowercase name) with
    | none => .error .absent
    | some (.file _ _) => .error .throughFile
    | some (.dir _ inner) => lookup inner next more

def get (t : Tree) (path : String) : Except TreeError Node :=
  match Path.clean path with
  | [] => .error (.notFound path)
  | name :: more =>
    match t.lookup name more with
    | .ok node => .ok node
    | .error .absent => .error (.notFound path)
    | .error .throughFile => .error (.notADirectory path)

end Tree
end RootCatalog
