import RootCatalog.Proofs.Enumeration.Course
import RootCatalog.Proofs.Session.Retrace
/-! The calls of an enumeration, made over again. From what the enumeration started with they lead to
the world and the destination that it left, whatever the handler and the destination answer, and no
handle is left unless the opening of the root leaks it. Queries of the declared count are among the
calls. -/
namespace RootCatalog.Hands.Leads

open Enumeration (Copies Searches Fills Passes)

variable {ω δ : Type} {h : Handler ω} {d : Destination δ} {blob : Bytes} {x : Hands h δ}
  {a b : Account ω δ} {roots : List h.Root} {cursors : List h.Cursor}

theorem copies {c c' : h.Cursor} {r : Except Stop Unit}
    (leads : Leads d blob x a roots (c :: cursors)) (copies : Copies h d c a r c' b) :
    Leads d blob x b roots (c' :: cursors) := by
  induction copies with
  | exhausted next => exact leads.nextMatch next
  | aborted next => exact (leads.nextMatch next).aborted
  | panicked next => exact leads.nextMatch next
  | refused next push => exact ((leads.nextMatch next).push push).aborted
  | copied next push rest ih => exact ih ((leads.nextMatch next).push push)

theorem searches {root : h.Root} {mask : String} {r : Except Stop Unit}
    (leads : Leads d blob x a (root :: roots) cursors)
    (searches : Searches h d root mask a r b) : Leads d blob x b (root :: roots) cursors := by
  cases searches with
  | unbegun begins => exact leads.begins begins
  | ended begins copied release still =>
    exact (((leads.begins begins).copies copied).endSearch release).searchLeft
  | broken begins copied release broken =>
    exact ((leads.begins begins).copies copied).endSearch release

theorem fills {root : h.Root} {config : Config} {r : Except Stop (UInt32 × UInt32)}
    (leads : Leads d blob x a (root :: roots) cursors) (fills : Fills h d config root a r b) :
    Leads d blob x b (root :: roots) cursors := by
  cases fills with
  | uncounted count => exact leads.fileCount count
  | noRoom count room => exact ((leads.fileCount count).reserve room).aborted
  | unfinished count room search => exact ((leads.fileCount count).reserve room).searches search
  | tooMany count room search many =>
    exact (((leads.fileCount count).reserve room).searches search).aborted
  | miscounted count room search few mismatch =>
    exact (((leads.fileCount count).reserve room).searches search).aborted
  | filled count room search few agreed =>
    exact ((leads.fileCount count).reserve room).searches search

theorem passes {config : Config} {shown : Bool} {r : Except Stop Unit}
    (leads : Leads d blob x a roots cursors) (passes : Passes h d config shown blob a r b) :
    Leads d blob x b roots cursors ∨
      Session.Leaks h shown blob a.world ∧ ∃ root, Leads d blob x b (root :: roots) cursors := by
  cases passes with
  | unopened opens => exact leads.unopened opens
  | closed opens filled release still =>
    exact .inl ((((leads.opened opens).fills filled).close release).sessionLeft _)
  | broken opens filled release broken =>
    exact .inl (((leads.opened opens).fills filled).close release)

theorem passesCalm (calm : h.NeverPanics) {config : Config} {shown : Bool} {r : Except Stop Unit}
    (leads : Leads d blob x a roots cursors) (passes : Passes h d config shown blob a r b) :
    Leads d blob x b roots cursors := by
  refine (leads.passes passes).resolve_right ?_
  rintro ⟨⟨-, root, w, p, w', -, panicked⟩, -⟩
  exact calm.fileCount root w p w' panicked

end RootCatalog.Hands.Leads
