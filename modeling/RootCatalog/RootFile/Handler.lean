import RootCatalog.Handler
import RootCatalog.Mask
import RootCatalog.RootFile.Reader
/-! The handler of root files in the reference format. It counts what it opens, closes, begins and
ends, so that a caller can see whether everything was released. -/
namespace RootCatalog

namespace RootFile

structure Stats where
  opened : Nat := 0
  closed : Nat := 0
  searchesBegun : Nat := 0
  searchesEnded : Nat := 0
  deriving DecidableEq, Repr, Inhabited

namespace Stats

def since (now earlier : Stats) : Stats where
  opened := now.opened - earlier.opened
  closed := now.closed - earlier.closed
  searchesBegun := now.searchesBegun - earlier.searchesBegun
  searchesEnded := now.searchesEnded - earlier.searchesEnded

def isBalanced (s : Stats) : Bool :=
  s.opened = s.closed && s.searchesBegun = s.searchesEnded

end Stats

structure Cursor where
  mask : String
  faultIndex : UInt32
  position : Nat
  rest : List FileEntry
  deriving DecidableEq, Repr

def cursor (root : RootFile) (mask : String) : Cursor := ⟨mask, root.faultIndex, 0, root.entries⟩

namespace Cursor

def seek (mask : String) (faultIndex : UInt32) :
    Nat → List FileEntry → Except CatalogError (Option FileEntry) × Nat × List FileEntry
  | position, [] => (.ok none, position, [])
  | position, e :: rest =>
    if UInt32.ofNat position = faultIndex then
      (.error (.search s!"index corrupt at record {position}"), position, e :: rest)
    else if Mask.matchesName mask e.name then (.ok (some e), position + 1, rest)
    else seek mask faultIndex (position + 1) rest

theorem seekShorter {mask : String} {faultIndex : UInt32} {position : Nat} {entries : List FileEntry}
    {e : FileEntry} {position' : Nat} {rest : List FileEntry}
    (h : seek mask faultIndex position entries = (.ok (some e), position', rest)) :
    rest.length < entries.length := by
  induction entries generalizing position with
  | nil => simp [seek] at h
  | cons head tail ih =>
    unfold seek at h
    split at h
    · simp at h
    split at h
    · simp only [Prod.mk.injEq] at h
      simp [h.2.2]
    · exact Nat.lt_succ_of_lt (ih h)

def next (c : Cursor) : Except CatalogError (Option FileEntry) × Cursor :=
  match seek c.mask c.faultIndex c.position c.rest with
  | (r, position, rest) => (r, { c with position, rest })

theorem nextShorter {c c' : Cursor} {e : FileEntry} (h : c.next = (.ok (some e), c')) :
    c'.rest.length < c.rest.length := by
  unfold next at h
  split at h
  rename_i r position rest hs
  simp only [Prod.mk.injEq] at h
  obtain ⟨rfl, rfl⟩ := h
  exact seekShorter hs

def results (c : Cursor) : Nat → List (Except CatalogError (Option FileEntry))
  | 0 => []
  | n + 1 => c.next.1 :: c.next.2.results n

def untilEnd (c : Cursor) : List (Except CatalogError (Option FileEntry)) :=
  match _h : c.next with
  | (.ok (some e), c') => .ok (some e) :: c'.untilEnd
  | (r, _) => [r]
termination_by c.rest.length
decreasing_by exact nextShorter _h

end Cursor

def openCounted (blob : Bytes) (s : Stats) : Except CatalogError RootFile × Stats :=
  match parse blob with
  | .ok root => (.ok root, { s with opened := s.opened + 1 })
  | .error fault => (.error (.format fault.text), s)

def raised {α : Type} : Except CatalogError α → Except Stop α
  | .ok a => .ok a
  | .error e => .error (.error e)

theorem raisedOk {α : Type} {r : Except CatalogError α} {a : α} (h : raised r = .ok a) :
    r = .ok a := by
  cases r with
  | error e => cases h
  | ok b => cases h; rfl

def handler : Handler Stats where
  Root := RootFile
  Cursor := Cursor
  openRoot blob s := match openCounted blob s with | (r, s) => (raised r, s)
  fileCount root s := (.ok root.declaredCount, s)
  beginSearch root mask s :=
    (.ok (root.cursor mask), { s with searchesBegun := s.searchesBegun + 1 })
  nextMatch c s := match c.next with | (r, c) => (raised r, c, s)
  endSearch _ s := (.ok (), { s with searchesEnded := s.searchesEnded + 1 })
  close _ s := (.ok (), { s with closed := s.closed + 1 })

end RootFile
end RootCatalog
