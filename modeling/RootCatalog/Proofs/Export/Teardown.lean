import RootCatalog.Proofs.Enumeration.Retrace
import RootCatalog.Proofs.Export.Answer
import RootCatalog.Proofs.Run.Handles
/-! What is taken and given back in a call that panics. A root is not held by anyone until the record
of its opening is written, and writing that record asks the handler for the declared count; a panic
there leaks the root. Nowhere else is anything left behind, whatever the handler does. Only a call
that comes to an end is told of, as every call does in which a panic comes through. -/
namespace RootCatalog

def Answer.isPanic : Answer → Bool
  | .panic _ => true
  | _ => false

def panics (calls : List (Call × Answer)) : Nat := calls.countP (·.2.isPanic)

inductive Released : List Handle → Prop
  | nothing : Released []
  | root : Released [.opened, .closed]
  | search : Released [.opened, .begun, .ended, .closed]

namespace Enumeration

variable {ω δ : Type} {h : Handler ω} {d : Destination δ} {a b c : Account ω δ}

structure Holds (a b : Account ω δ) (ending : Ending) (taken : List Handle) : Prop where
  traced : handles b.calls = handles a.calls ++ taken
  calm : ending ≠ .unwinding → panics b.calls = panics a.calls

theorem holdsNothing (a : Account ω δ) (ending : Ending) : Holds a a ending [] where
  traced := by rw [List.append_nil]
  calm _ := rfl

namespace Holds

variable {ending : Ending} {taken more : List Handle}

theorem trans (first : Holds a b .finished taken) (second : Holds b c ending more) :
    Holds a c ending (taken ++ more) where
  traced := by rw [second.traced, first.traced, List.append_assoc]
  calm still := (second.calm still).trans (first.calm nofun)

theorem sameCalls (held : Holds a b ending taken) (same : c.calls = b.calls) :
    Holds a c ending taken where
  traced := by rw [same, held.traced]
  calm still := by rw [same, held.calm still]

theorem abandoned (held : Holds a b .finished taken) : Holds a b .abandoned taken where
  traced := held.traced
  calm _ := held.calm nofun

theorem unwound (held : Holds a b ending taken) : Holds a b .unwinding taken where
  traced := held.traced
  calm spared := absurd rfl spared

theorem oneMore (held : Holds a b ending taken) {call : Call} {r : Answer}
    (more : c.calls = b.calls ++ [(call, r)]) (still : ending ≠ .unwinding → r.isPanic = false) :
    Holds a c ending (taken ++ handles [(call, r)]) where
  traced := by rw [more, handlesMore, held.traced, List.append_assoc]
  calm spared := by
    rw [more, panics, List.countP_append, ← panics, held.calm spared]
    simp [still spared]

theorem call (held : Holds a b ending taken) (c : Call) (w : ω) (r : Answer)
    (still : ending ≠ .unwinding → r.isPanic = false) :
    Holds a (b.called w c r) ending (taken ++ handles [(c, r)]) :=
  held.oneMore (Account.called_calls b w c r) still

theorem gift (held : Holds a b ending taken) (c : Call) (d : δ) (r : Answer)
    (still : ending ≠ .unwinding → r.isPanic = false) :
    Holds a (b.gave d c r) ending (taken ++ handles [(c, r)]) :=
  held.oneMore (Account.gave_calls b d c r) still

end Holds

theorem feltCalm {ending : Ending} {q : Except Panic Unit} (still : ending.felt q = .ok ())
    (spared : ending ≠ .unwinding) : (Answer.ofRelease q).isPanic = false := by
  cases ending with
  | unwinding => exact absurd rfl spared
  | finished => rw [show q = .ok () from still]; rfl
  | abandoned => rw [show q = .ok () from still]; rfl

theorem copiesHold {c c' : h.Cursor} {r : Except Stop Unit} (copies : Copies h d c a r c' b) :
    Holds a b (.ofOutcome r) [] := by
  induction copies with
  | @exhausted c a c' w next =>
    exact (holdsNothing a .finished).call .nextMatch w .exhausted fun _ => rfl
  | @aborted c a c' w e next =>
    have asked := (holdsNothing a .abandoned).call .nextMatch w (.error e) fun _ => rfl
    exact asked.sameCalls (Account.callsAborted _)
  | @panicked c a c' w p next =>
    exact (holdsNothing a .unwinding).call .nextMatch w (.panic p) nofun
  | @refused c a c' w x e d' next push =>
    have asked := (holdsNothing a .abandoned).call .nextMatch w (.entry x) fun _ => rfl
    have given := asked.gift (.push x) d' (.error e) fun _ => rfl
    exact given.sameCalls (Account.callsAborted _)
  | @copied c a c' w x d' r c'' b next push rest ih =>
    have asked := (holdsNothing a .finished).call .nextMatch w (.entry x) fun _ => rfl
    exact (asked.gift (.push x) d' .done fun _ => rfl).trans ih

theorem beginsHold {root : h.Root} {mask : String} {cursor : h.Cursor}
    (begins : Session.Begins h root mask a (.ok cursor) b) : Holds a b .finished [.begun] := by
  cases begins with
  | @begun cursor w answer free =>
    have asked := (holdsNothing a .finished).call (.beginSearch mask) w .done fun _ => rfl
    exact asked.sameCalls rfl

theorem searchesHold {root : h.Root} {mask : String} {r : Except Stop Unit}
    (searches : Searches h d root mask a r b) :
    ∃ taken, (taken = [] ∨ taken = [.begun, .ended]) ∧ Holds a b (.ofOutcome r) taken := by
  cases searches with
  | unbegun begins =>
    cases begins with
    | @refused e w answer =>
      have asked := (holdsNothing a .abandoned).call (.beginSearch mask) w (.error e) fun _ => rfl
      exact ⟨_, .inl rfl, asked.sameCalls (Account.callsAborted _)⟩
    | @panicked p w answer =>
      have asked := (holdsNothing a .unwinding).call (.beginSearch mask) w (.panic p) nofun
      exact ⟨_, .inl rfl, asked⟩
    | @late cursor w q w' answer busy release =>
      have begun := (holdsNothing a .finished).call (.beginSearch mask) w .done fun _ => rfl
      cases q with
      | error p => exact ⟨_, .inr rfl, begun.unwound.call .endSearch w' (.panic p) nofun⟩
      | ok u => exact ⟨_, .inr rfl, begun.abandoned.call .endSearch w' .done fun _ => rfl⟩
  | @ended c b₁ r c' b' q w begins copies release still =>
    have copied := (beginsHold begins).trans (copiesHold copies)
    have ended := copied.call .endSearch w (.ofRelease q) (feltCalm still)
    exact ⟨_, .inr rfl, ended.sameCalls (Account.callsSearchLeft _)⟩
  | @broken c b₁ r c' b' q w p begins copies release broken =>
    have copied := (beginsHold begins).trans (copiesHold copies)
    exact ⟨_, .inr rfl, copied.unwound.call .endSearch w (.ofRelease q) nofun⟩

theorem fillsHold {config : Config} {root : h.Root} {r : Except Stop (UInt32 × UInt32)}
    (fills : Fills h d config root a r b) :
    ∃ taken, (taken = [] ∨ taken = [.begun, .ended]) ∧ Holds a b (.ofOutcome r) taken := by
  have reserved (n m) (w : ω) (d' : δ) : Holds a
      ((a.called w .fileCount (.count n)).gave d' (.reserve m) .done) .finished [] :=
    ((holdsNothing a .finished).call .fileCount w (.count n) fun _ => rfl).gift (.reserve m) d'
      .done fun _ => rfl
  cases fills with
  | @uncounted p w count =>
    exact ⟨_, .inl rfl, (holdsNothing a .unwinding).call .fileCount w (.panic p) nofun⟩
  | @noRoom n w e d' count room =>
    have counted := (holdsNothing a .abandoned).call .fileCount w (.count n) fun _ => rfl
    have given := counted.gift (.reserve (config.initialCapacity n)) d' (.error e) fun _ => rfl
    exact ⟨_, .inl rfl, given.sameCalls (Account.callsAborted _)⟩
  | unfinished count room search =>
    obtain ⟨taken, either, held⟩ := searchesHold search
    exact ⟨taken, either, (reserved _ _ _ _).trans held⟩
  | tooMany count room search many =>
    obtain ⟨taken, either, held⟩ := searchesHold search
    have searched := ((reserved _ _ _ _).trans held).abandoned
    exact ⟨taken, either, searched.sameCalls (Account.callsAborted _)⟩
  | miscounted count room search few mismatch =>
    obtain ⟨taken, either, held⟩ := searchesHold search
    have searched := ((reserved _ _ _ _).trans held).abandoned
    exact ⟨taken, either, searched.sameCalls (Account.callsAborted _)⟩
  | filled count room search few agreed =>
    obtain ⟨taken, either, held⟩ := searchesHold search
    exact ⟨taken, either, (reserved _ _ _ _).trans held⟩

theorem opensHold {shown : Bool} {blob : Bytes} {root : h.Root}
    (opens : Session.Opens h shown blob a (.ok root) b) :
    ¬ Session.Leaks h shown blob a.world ∧ Holds a b .finished [.opened] := by
  cases opens with
  | @unseen _ w answer fresh quiet =>
    have asked := (holdsNothing a .finished).call .openRoot w .done fun _ => rfl
    constructor
    · intro ⟨loud, _⟩
      cases quiet.symm.trans loud
    · exact asked.sameCalls rfl
  | @seen _ w n w' answer fresh loud count =>
    have asked := (holdsNothing a .finished).call .openRoot w .done fun _ => rfl
    have opened : Holds a ((a.called w .openRoot .done).entered .sessionOpen) .finished [.opened] :=
      asked.sameCalls rfl
    constructor
    · intro ⟨_, root', w₁, p, w₂, answer', panicked⟩
      cases answer.symm.trans answer'
      cases count.symm.trans panicked
    · exact opened.call .fileCount w' (.count n) fun _ => rfl

theorem passesHold {config : Config} {shown : Bool} {blob : Bytes} {r : Except Stop Unit}
    (passes : Passes h d config shown blob a r b) (fresh : a.phase = .unopened) :
    (Session.Leaks h shown blob a.world ∧ Holds a b (.ofOutcome r) [.opened]) ∨
    (¬ Session.Leaks h shown blob a.world ∧
      ∃ taken, Released taken ∧ Holds a b (.ofOutcome r) taken) := by
  have closing {taken} (either : taken = [] ∨ taken = [.begun, .ended]) :
      Released ([.opened] ++ taken ++ [.closed]) := by
    cases either with
    | inl none => rw [none]; exact .root
    | inr both => rw [both]; exact .search
  cases passes with
  | unopened opens =>
    cases opens with
    | @rejected e w answer =>
      have asked := (holdsNothing a .abandoned).call .openRoot w (.error e) fun _ => rfl
      refine .inr ⟨?_, _, .nothing, asked.sameCalls (Account.callsAborted _)⟩
      intro ⟨_, root, w₁, p, w₂, answer', _⟩
      cases answer.symm.trans answer'
    | @panicked p w answer =>
      have asked := (holdsNothing a .unwinding).call .openRoot w (.panic p) nofun
      refine .inr ⟨?_, _, .nothing, asked⟩
      intro ⟨_, root, w₁, p, w₂, answer', _⟩
      cases answer.symm.trans answer'
    | late answer spent release => simp [fresh, Phase.allows] at spent
    | @leaked root w p w' answer fresh loud count =>
      have asked := (holdsNothing a .finished).call .openRoot w .done fun _ => rfl
      have opened : Holds a ((a.called w .openRoot .done).entered .sessionOpen) .finished
          [.opened] := asked.sameCalls rfl
      refine .inl ⟨⟨loud, root, w, p, w', answer, count⟩, ?_⟩
      exact opened.unwound.call .fileCount w' (.panic p) nofun
  | @closed root b' r c q w opens fills release still =>
    obtain ⟨safe, opened⟩ := opensHold opens
    obtain ⟨taken, either, held⟩ := fillsHold fills
    have closed := (opened.trans held).call .close w (.ofRelease q) (feltCalm still)
    have left := closed.sameCalls (Account.callsSessionLeft (.ofOutcome r) _)
    exact .inr ⟨safe, _, closing either, by cases r <;> exact left⟩
  | @broken root b' r c q w p opens fills release broken =>
    obtain ⟨safe, opened⟩ := opensHold opens
    obtain ⟨taken, either, held⟩ := fillsHold fills
    have closed := (opened.trans held).unwound.call .close w (.ofRelease q) nofun
    exact .inr ⟨safe, _, closing either, closed⟩

theorem passesQuiet {config : Config} {shown : Bool} {blob : Bytes} {r : Except Stop Unit}
    (passes : Passes h d config shown blob a r b) (fresh : a.phase = .unopened)
    (calm : Ending.ofOutcome r ≠ .unwinding) : panics b.calls = panics a.calls := by
  rcases passesHold passes fresh with ⟨-, held⟩ | ⟨-, taken, -, held⟩
  · exact held.calm calm
  · exact held.calm calm

theorem passesReleased {config : Config} {shown : Bool} {blob : Bytes} {r : Except Stop Unit}
    (passes : Passes h d config shown blob a r b) (fresh : a.phase = .unopened)
    (idle : handles a.calls = []) :
    Released (handles b.calls) ↔ ¬ Session.Leaks h shown blob a.world := by
  rcases passesHold passes fresh with ⟨leak, held⟩ | ⟨safe, taken, released, held⟩
  · rw [held.traced, idle, List.nil_append]
    constructor
    · intro released
      cases released
    · intro safe
      exact absurd leak safe
  · rw [held.traced, idle, List.nil_append]
    constructor
    · intro _
      exact safe
    · intro _
      exact released

end Enumeration

namespace Export

variable {ω : Type}

def Leaks (h : Handler ω) (a : Arguments) (log : Log.Pipeline) (world : ω) : Prop :=
  ∃ blob config, a.blob = .ok blob ∧ a.settings = .ok config ∧
    Session.Leaks h (log.enabled .debug) blob world

/-- The call comes to an end. Its search is the only part that may not; a handler whose searches all
end makes every call end. -/
def Ends (h : Handler ω) (a : Arguments) (log : Log.Pipeline) (world : ω) : Prop :=
  ∃ r b, Answers h (log.enabled .debug) a ⟨world, .empty, .unopened, [], []⟩ r b

theorem finiteEnds {h : Handler ω} (finite : h.Finite) (a : Arguments) (log : Log.Pipeline)
    (world : ω) : Ends h a log world :=
  answersSomehow finite _ a _

/-- A call in which one call of the handler panics reports an internal error, and gives back all it
took unless it leaks; the calls noted are those that led to the handler's world behind it. -/
theorem panicTeardown (h : Handler ω) (a : Arguments) (log : Log.Pipeline) (world : ω)
    (ends : Ends h a log world) (once : panics (call h a log world).2.calls = 1) :
    (call h a log world).1 = ⟨8, none⟩ ∧
      (Released (handles (call h a log world).2.calls) ↔ ¬ Leaks h a log world) ∧
      ∃ blob roots, a.blob = .ok blob ∧
        Hands.retrace ResultSet.destination blob (⟨world, .empty, [], []⟩ : Hands h ResultSet)
          (call h a log world).2.calls = some ⟨(call h a log world).2.world,
            (call h a log world).2.destination, roots, []⟩ ∧
        (¬ Leaks h a log world → roots = []) := by
  obtain ⟨r, b, answers⟩ := ends
  obtain ⟨reply, same⟩ := callTakes answers
  have calls : (call h a log world).2.calls = b.calls := congrArg Account.calls same
  have left : (call h a log world).2.world = b.world := congrArg Account.world same
  have kept : (call h a log world).2.destination = b.destination :=
    congrArg Account.destination same
  rw [calls] at once ⊢
  rw [reply, left, kept]
  cases answers with
  | refused blob => cases once
  | unsettled blob settings => cases once
  | @passed bytes config b blob settings passes =>
    rw [Enumeration.passesQuiet passes rfl nofun] at once
    cases once
  | @stopped bytes config stop b blob settings passes =>
    cases stop with
    | error e =>
      rw [Enumeration.passesQuiet passes rfl nofun] at once
      cases once
    | panic p =>
      have leaks : Leaks h a log world ↔ Session.Leaks h (log.enabled .debug) bytes world := by
        constructor
        · intro ⟨bytes', config', blob', settings', leak⟩
          cases blob.symm.trans blob'
          exact leak
        · intro leak
          exact ⟨bytes, config, blob, settings, leak⟩
      rw [leaks]
      refine ⟨rfl, Enumeration.passesReleased passes rfl rfl, bytes, ?_⟩
      rcases (Hands.Leads.start world ResultSet.empty .unopened).passes passes with
        led | ⟨leak, root, led⟩
      · exact ⟨[], blob, led, fun _ => rfl⟩
      · exact ⟨[root], blob, led, fun safe => absurd leak safe⟩

def countless : Handler Unit where
  Root := Unit
  Cursor := Unit
  openRoot _ w := (.ok (), w)
  fileCount _ w := (.error ⟨"root.rs:1:1", some "no count"⟩, w)
  beginSearch _ _ w := (.ok (), w)
  nextMatch c w := (.ok none, c, w)
  endSearch _ w := (.ok (), w)
  close _ w := (.ok (), w)

theorem countlessFinite : countless.Finite :=
  fun _ _ _ c w _ => ⟨[], .ok (), .ended (rfl : countless.nextMatch c w = (.ok none, c, w))⟩

theorem countlessTeardown :
    let a : Arguments := ⟨some [], 0, none, 0, true, true⟩
    let debug : Log.Pipeline := ⟨⟨some 0, .debug⟩, some .debug⟩
    Ends countless a .bare () ∧ panics (call countless a .bare ()).2.calls = 1 ∧
      Released (handles (call countless a .bare ()).2.calls) ∧
      Hands.retrace ResultSet.destination [] (⟨(), .empty, [], []⟩ : Hands countless ResultSet)
        (call countless a .bare ()).2.calls = some ⟨(), .empty, [], []⟩ ∧
      Ends countless a debug () ∧ panics (call countless a debug ()).2.calls = 1 ∧
      (call countless a debug ()).1 = ⟨8, none⟩ ∧
      ¬ Released (handles (call countless a debug ()).2.calls) := by
  intro a debug
  have once : panics (call countless a .bare ()).2.calls = 1 := by decide
  have once' : panics (call countless a debug ()).2.calls = 1 := by decide
  have ends := finiteEnds countlessFinite a .bare ()
  have ends' := finiteEnds countlessFinite a debug ()
  have quiet := panicTeardown countless a .bare () ends once
  have loud := panicTeardown countless a debug () ends' once'
  have leak : Leaks countless a debug () := ⟨[], .default, rfl, rfl, rfl, (), (), _, (), rfl, rfl⟩
  have safe : ¬ Leaks countless a .bare () := fun ⟨_, _, _, _, shown, _⟩ => nomatch shown
  obtain ⟨blob, roots, given, led, idle⟩ := quiet.2.2
  cases given
  cases idle safe
  exact ⟨ends, once, quiet.2.1.mpr safe, led, ends', once', loud.1,
    fun released => loud.2.1.mp released leak⟩

end Export
end RootCatalog
