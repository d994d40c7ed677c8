import RootCatalog.Proofs.Enumeration.StrictCount
import RootCatalog.Proofs.Export.Agreement
import RootCatalog.Proofs.Export.RootFileReply
import RootCatalog.Proofs.Mask.Scan
/-! Masks that match the same names. A search of a root file yields the same for both. Whether the
count is compared is told from the text of the mask, though, so under a strict count the mask that is
spelled `*` can end in a mismatch where another that matches everything does not. Only the reference
format is searched here; other handlers may read masks as they like. -/
namespace RootCatalog

def Mask.Equivalent (m₁ m₂ : String) : Prop :=
  ∀ name, Mask.matchesName m₁ name = Mask.matchesName m₂ name

theorem Mask.starsEquivalent : Mask.Equivalent Mask.all "**" := by
  intro name
  have whole : Mask.matchesName Mask.all name = true := if_pos rfl
  have twice : Mask.matchesName "**" name = true := by
    unfold Mask.matchesName
    rw [if_neg (by decide), Mask.Scan.runPromising Mask.Scan.start nofun]
    refine .inl (Mask.matchesStar.mpr ⟨name.toList.length, Mask.matchesStar.mpr ⟨0, ?_⟩⟩)
    simpa [Mask.Scan.nameLeft, Mask.Scan.start] using Mask.Matches.nil
  rw [whole, twice]

namespace RootFile

variable {m₁ m₂ : String}

theorem seekEquivalent (same : Mask.Equivalent m₁ m₂) (faultIndex : UInt32) (n : Nat)
    (entries : List FileEntry) :
    Cursor.seek m₁ faultIndex n entries = Cursor.seek m₂ faultIndex n entries := by
  induction entries generalizing n with
  | nil => rfl
  | cons e rest ih => rw [Cursor.seek, Cursor.seek, same e.name, ih]

def Cursor.spelled (m : String) (c : Cursor) : handler.Cursor := { c with mask := m }

theorem nextEquivalent (same : Mask.Equivalent m₁ m₂) {c c' : handler.Cursor} {w w' : Stats}
    {r : Except Stop (Option FileEntry)} (first : c.mask = m₁)
    (next : handler.nextMatch c w = (r, c', w')) :
    handler.nextMatch (Cursor.spelled m₂ c) w = (r, Cursor.spelled m₂ c', w') ∧ c'.mask = m₁ := by
  rcases sought : Cursor.seek m₂ c.faultIndex c.position c.rest with ⟨q, n, rest⟩
  have alike : Cursor.seek c.mask c.faultIndex c.position c.rest = (q, n, rest) := by
    rw [first, seekEquivalent same, sought]
  cases next.symm.trans (nextSought alike w)
  exact ⟨nextSought sought w, first⟩

theorem yieldsEquivalent (same : Mask.Equivalent m₁ m₂) {c : handler.Cursor} {w : Stats}
    {found : List FileEntry} {ending : Except Stop Unit} (first : c.mask = m₁)
    (yields : handler.Yields c w found ending) :
    handler.Yields (Cursor.spelled m₂ c) w found ending := by
  induction yields with
  | ended next => exact .ended (nextEquivalent same first next).1
  | fault next => exact .fault (nextEquivalent same first next).1
  | more next rest ih =>
    obtain ⟨next', onward⟩ := nextEquivalent same first next
    exact .more next' (ih onward)

theorem searchedEquivalent (same : Mask.Equivalent m₁ m₂) {root : RootFile} {w : Stats}
    {found : List FileEntry} {ending : Except Stop Unit}
    (searched : handler.Searched root m₁ w found ending) :
    handler.Searched root m₂ w found ending := by
  cases searched with
  | unbegun answer => cases answer
  | begun answer yields =>
    cases answer
    exact .begun rfl (yieldsEquivalent same rfl yields)

theorem openedFault {blob : Bytes} {fault : Fault} (failed : parse blob = .error fault)
    (w : Stats) : handler.openRoot blob w = (.error (.error (.format fault.text)), w) := by
  simp only [handler, openCounted, failed]
  rfl

theorem yieldsFew {c : handler.Cursor} {w : Stats} {found : List FileEntry} {ending : Except Stop Unit}
    (yields : handler.Yields c w found ending) : found.length ≤ c.rest.length := by
  induction yields with
  | ended next => exact Nat.zero_le _
  | fault next => exact Nat.zero_le _
  | @more c w e c' w' found ending next rest ih =>
    have fewer : c'.rest.length < c.rest.length := by
      have step : handler.nextMatch c w = (raised c.next.1, c.next.2, w) := rfl
      rcases answer : c.next with ⟨e | none | x, onward⟩ <;> rw [answer] at step <;>
        cases next.symm.trans step
      exact Cursor.nextShorter answer
    exact Nat.lt_of_le_of_lt ih fewer

theorem searchedFew {blob : Bytes} {root : RootFile} (parsed : parse blob = .ok root)
    {mask : String} {w : Stats} {found : List FileEntry} {ending : Except Stop Unit}
    (searched : handler.Searched root mask w found ending) : found.length < UInt32.size := by
  cases searched with
  | unbegun answer => cases answer
  | begun answer yields =>
    cases answer
    exact Nat.lt_of_le_of_lt (yieldsFew yields) (parsedFew parsed)

end RootFile

open Enumeration (verdict tallied Mismatch)

variable {config : Config} {m₁ m₂ : String} {blob : Bytes}

theorem talliedMasks {declared : UInt32} {found : List FileEntry}
    (alike : config.strictEntryCount = false ∨ (m₁ = Mask.all ↔ m₂ = Mask.all)) :
    tallied (config.withSearchMask m₁) declared found =
      tallied (config.withSearchMask m₂) declared found := by
  have both : Mismatch (config.withSearchMask m₁) declared (UInt32.ofNat found.length) ↔
      Mismatch (config.withSearchMask m₂) declared (UInt32.ofNat found.length) := by
    simp only [Mismatch, Config.withSearchMask]
    rcases alike with lenient | alike
    · simp [lenient]
    · rw [alike]
  rw [tallied, tallied]
  simp only [both]

theorem talliedFiltered {declared : UInt32} {found : List FileEntry} (other : m₂ ≠ Mask.all) :
    tallied (config.withSearchMask m₂) declared found = .ok found :=
  if_neg fun mismatch => other mismatch.2.1

theorem talliedWhole {declared : UInt32} {found : List FileEntry}
    (strict : config.strictEntryCount = true) (few : found.length < UInt32.size) :
    tallied (config.withSearchMask Mask.all) declared found =
      if found.length = declared.toNat then .ok found
      else .error (.error (.entryCountMismatch declared (UInt32.ofNat found.length))) := by
  have apart : Mismatch (config.withSearchMask Mask.all) declared (UInt32.ofNat found.length) ↔
      ¬ found.length = declared.toNat := by
    rw [RootFile.mismatchIff few]
    simp [Config.withSearchMask, strict]
  rw [tallied]
  split <;> simp_all

theorem mappedInjective {α β : Type} {f : α → β} (injective : ∀ u v, f u = f v → u = v)
    {x y : Except Stop α} (same : x.map f = y.map f) : x = y := by
  cases y with
  | error stop => exact mappedError same
  | ok v =>
    obtain ⟨u, rfl, equal⟩ := mappedOk same
    rw [injective u v equal]

theorem enumerateFault {fault : RootFile.Fault} (failed : RootFile.parse blob = .error fault)
    (config : Config) (log : Log.Pipeline) (w : RootFile.Stats) :
    (enumerate RootFile.handler config blob log w).1 = .error (.error (.format fault.text)) := by
  have refused := RootFile.openedFault failed w
  have judged : (enumerate RootFile.handler config blob log w).1.map Array.toList = _ :=
    enumerateVerdict RootFile.neverPanics RootFile.steady RootFile.finite (.unopened refused)
      (Nat.zero_lt_succ _) log w
  rw [verdict, refused] at judged
  exact mappedError judged

theorem enumerateSearched {root : RootFile} (parsed : RootFile.parse blob = .ok root)
    (config : Config) {u : RootFile.Stats} {found : List FileEntry} {ending : Except Stop Unit}
    (searched : RootFile.handler.Searched root config.searchMask u found ending)
    (log : Log.Pipeline) (w : RootFile.Stats) :
    (enumerate RootFile.handler config blob log w).1.map Array.toList =
      ending.bind fun _ => tallied config root.declaredCount found := by
  have answer := RootFile.openedParsed parsed w
  rw [enumerateVerdict RootFile.neverPanics RootFile.steady RootFile.finite
    (.opened answer (RootFile.steady.searched searched _)) (RootFile.searchedFew parsed searched),
    Enumeration.verdictOpened answer]
  unfold Enumeration.rootVerdict Enumeration.accepted
  rw [List.findSome?_eq_none_iff.mpr fun _ _ => rfl]
  cases ending <;> rfl

theorem enumerateMasks (same : Mask.Equivalent m₁ m₂) (config : Config) (blob : Bytes)
    (l₁ l₂ : Log.Pipeline) (w₁ w₂ : RootFile.Stats) :
    (∃ stop,
      (enumerate RootFile.handler (config.withSearchMask m₁) blob l₁ w₁).1 = .error stop ∧
      (enumerate RootFile.handler (config.withSearchMask m₂) blob l₂ w₂).1 = .error stop) ∨
    ∃ root found, RootFile.parse blob = .ok root ∧ found.length < UInt32.size ∧
      (enumerate RootFile.handler (config.withSearchMask m₁) blob l₁ w₁).1.map Array.toList =
        tallied (config.withSearchMask m₁) root.declaredCount found ∧
      (enumerate RootFile.handler (config.withSearchMask m₂) blob l₂ w₂).1.map Array.toList =
        tallied (config.withSearchMask m₂) root.declaredCount found := by
  cases parsed : RootFile.parse blob with
  | error fault => exact .inl ⟨_, enumerateFault parsed _ l₁ w₁, enumerateFault parsed _ l₂ w₂⟩
  | ok root =>
    obtain ⟨found, ending, searched⟩ := RootFile.finite.searched root m₁ w₁
    have first := enumerateSearched parsed (config.withSearchMask m₁) searched l₁ w₁
    have second := enumerateSearched parsed (config.withSearchMask m₂)
      (RootFile.searchedEquivalent same searched) l₂ w₂
    cases ending with
    | error stop => exact .inl ⟨stop, mappedError first, mappedError second⟩
    | ok u => exact .inr ⟨root, found, rfl, RootFile.searchedFew parsed searched, first, second⟩

theorem equivalentMasks (same : Mask.Equivalent m₁ m₂) (config : Config) (blob : Bytes)
    (l₁ l₂ : Log.Pipeline) (w₁ w₂ : RootFile.Stats) :
    let r₁ := (enumerate RootFile.handler (config.withSearchMask m₁) blob l₁ w₁).1
    let r₂ := (enumerate RootFile.handler (config.withSearchMask m₂) blob l₂ w₂).1
    (config.strictEntryCount = false ∨ (m₁ = Mask.all ↔ m₂ = Mask.all) → r₁ = r₂) ∧
    (config.strictEntryCount = true → m₁ = Mask.all → m₂ ≠ Mask.all →
      (∀ stop, r₂ = .error stop → r₁ = .error stop) ∧
      ∀ v, r₂ = .ok v → ∃ root, RootFile.parse blob = .ok root ∧
        r₁ = if v.size = root.declaredCount.toNat then .ok v
          else .error (.error (.entryCountMismatch root.declaredCount (UInt32.ofNat v.size)))) := by
  intro r₁ r₂
  have byList {x y : Except Stop (Array FileEntry)}
      (equal : x.map Array.toList = y.map Array.toList) : x = y :=
    mappedInjective (fun _ _ => Array.ext') equal
  have compared := enumerateMasks same config blob l₁ l₂ w₁ w₂
  change (∃ stop, r₁ = .error stop ∧ r₂ = .error stop) ∨ ∃ root found, _ ∧ _ ∧
    r₁.map _ = _ ∧ r₂.map _ = _ at compared
  rcases compared with ⟨stop, first, second⟩ | ⟨root, found, parsed, few, first, second⟩
  · rw [first, second]
    exact ⟨fun _ => rfl, fun _ _ _ => ⟨fun _ => id, nofun⟩⟩
  -- Both found the same entries; what is left is how the text of the mask decides on the count.
  refine ⟨fun alike => byList (by rw [first, second, talliedMasks alike]), ?_⟩
  rintro strict rfl other
  rw [talliedFiltered other] at second
  obtain ⟨v, finished, rfl⟩ := mappedOk second
  rw [finished]
  refine ⟨nofun, ?_⟩
  rintro _ ⟨⟩
  refine ⟨root, parsed, byList ?_⟩
  rw [first, talliedWhole strict few, Array.length_toList]
  split <;> rfl

def overdeclared : Bytes :=
  (RootFile.Draft.build ⟨1, some 2, RootFile.noFault, [Enumeration.onlyEntry]⟩).toOption.getD []

theorem overdeclaredParsed : RootFile.parse overdeclared =
    .ok ⟨2, RootFile.noFault, [Enumeration.onlyEntry]⟩ := rfl

theorem overdeclaredSearched {mask : String}
    (whole : Mask.matchesName mask Enumeration.onlyEntry.name = true) (w : RootFile.Stats) :
    RootFile.handler.Searched ⟨2, RootFile.noFault, [Enumeration.onlyEntry]⟩ mask w
      [Enumeration.onlyEntry] (.ok ()) := by
  have sought : RootFile.Cursor.seek mask RootFile.noFault 0 [Enumeration.onlyEntry] =
      (.ok (some Enumeration.onlyEntry), 1, []) := (if_neg (by decide)).trans (if_pos whole)
  exact .begun rfl (.more (RootFile.nextSought sought _)
    (.ended (RootFile.nextSought (r := .ok none) rfl _)))

theorem doubleStarListed :
    let config := Config.default.withStrictEntryCount true
    (enumerate RootFile.handler (config.withSearchMask "**") overdeclared .bare {}).1 =
      .ok #[Enumeration.onlyEntry] := by
  intro config
  have listed := enumerateSearched overdeclaredParsed (config.withSearchMask "**")
    (overdeclaredSearched (by decide +kernel) {}) .bare {}
  exact mappedInjective (fun _ _ => Array.ext') (listed.trans (talliedFiltered (by decide)))

theorem starsCompared :
    let config := Config.default.withStrictEntryCount true
    (enumerate RootFile.handler (Config.default.withSearchMask Mask.all) overdeclared .bare {}).1 =
      (enumerate RootFile.handler (Config.default.withSearchMask "**") overdeclared .bare {}).1 ∧
    (enumerate RootFile.handler (config.withSearchMask Mask.all) overdeclared .bare {}).1 =
      .error (.error (.entryCountMismatch 2 1)) := by
  intro config
  obtain ⟨alike, -⟩ := equivalentMasks Mask.starsEquivalent Config.default overdeclared
    .bare .bare {} {}
  obtain ⟨-, apart⟩ := equivalentMasks Mask.starsEquivalent config overdeclared .bare .bare {} {}
  obtain ⟨-, compares⟩ := apart rfl rfl (by decide)
  obtain ⟨root, parsed, outcome⟩ := compares #[Enumeration.onlyEntry] doubleStarListed
  cases overdeclaredParsed.symm.trans parsed
  exact ⟨alike (.inl rfl), outcome⟩

theorem starsApart :
    let config := Config.default.withStrictEntryCount true
    Mask.Equivalent Mask.all "**" ∧
      (enumerate RootFile.handler (config.withSearchMask Mask.all) overdeclared .bare {}).1 =
        .error (.error (.entryCountMismatch 2 1)) ∧
      (enumerate RootFile.handler (config.withSearchMask "**") overdeclared .bare {}).1 =
        .ok #[Enumeration.onlyEntry] := by
  intro config
  have compared := enumerateSearched overdeclaredParsed (config.withSearchMask Mask.all)
    (overdeclaredSearched rfl {}) .bare {}
  exact ⟨Mask.starsEquivalent, mappedError compared, doubleStarListed⟩

end RootCatalog
