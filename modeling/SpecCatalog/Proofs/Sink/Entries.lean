import Mathlib.Logic.Function.Basic
import SpecCatalog.Proofs.Layout.Paths
import SpecCatalog.Proofs.Stateful
import SpecCatalog.Sink.Memory

/-!
# Writes into sinks

A write succeeds if the name is valid and the entry can be made to hold the descriptor, and it
fails if the one or the other does not hold (`writeSpecification_eq_ok_iff`,
`writeSpecification_eq_error_iff`). A batch writes one after the other up to the first that fails
(`writeSpecifications_eq_error_iff`).

A sink that keeps a map from paths to bytes may fail at any step: an entry may not open, its
stream may break after any of the bytes, and flushing may fail at last (`KeepsEntries`). Then the
entry is as it was or holds the beginning of what was put there, and no other entry is touched
(`KeepsEntries.of_put_eq_error`). The sink in memory is one of these.
-/

namespace SpecCatalog

namespace Sink

variable {σ η : Type} {sink : Sink σ η} {c : Codec} {s : Specification}
  {specs : List Specification} {before after : σ} {path : String} {paths : List String}
  {bs : Bytes} {e : CatalogError}

/-! ## One entry -/

theorem atEntry_eq_ok {α : Type} {x : EStateM IoError σ α} {a : α}
    (h : sink.atEntry path x before = .ok a after) : x before = .ok a after := by
  unfold atEntry at h
  split at h
  · rename_i hx
    injection h with ha hs
    rw [hx, ha, hs]
  · cases h

theorem atEntry_of_eq_ok {α : Type} {x : EStateM IoError σ α} {a : α}
    (h : x before = .ok a after) : sink.atEntry path x before = .ok a after := by
  unfold atEntry
  rw [h]

/-- What fails at an entry is told with what the sink calls the entry. -/
theorem exists_of_atEntry_eq_error {α : Type} {x : EStateM IoError σ α}
    (h : sink.atEntry path x before = .error e after) :
    ∃ cause, e = .io (sink.describe path) cause ∧ x before = .error cause after := by
  unfold atEntry at h
  split at h
  · cases h
  · rename_i cause s' hx
    cases h
    exact ⟨cause, rfl, hx⟩

theorem writeSpecification_of_invalid (hname : c.rules.isValid s.name = false) :
    sink.writeSpecification c s before = .error (.invalidName (some s.name)) before := by
  unfold writeSpecification
  rw [specPath_of_invalid hname]
  rfl

theorem writeSpecification_of_valid (hname : c.rules.isValid s.name = true) :
    sink.writeSpecification c s = (do
      sink.put (c.layout.pathOf s.name) (c.encode s)
      return c.layout.pathOf s.name) := by
  unfold writeSpecification
  rw [specPath_of_valid hname]

/-- A write succeeds if the codec accepts the name and the entry of that name can be made
to hold the descriptor. -/
theorem writeSpecification_eq_ok_iff :
    sink.writeSpecification c s before = .ok path after ↔
      c.rules.isValid s.name = true ∧ path = c.layout.pathOf s.name
        ∧ sink.put path (c.encode s) before = .ok () after := by
  cases hname : c.rules.isValid s.name with
  | false =>
    rw [writeSpecification_of_invalid hname]
    exact ⟨nofun, nofun⟩
  | true =>
    rw [writeSpecification_of_valid hname]
    constructor
    · intro h
      obtain ⟨_, _, hput, hpure⟩ := exists_of_bind_eq_ok h
      cases hpure
      exact ⟨rfl, rfl, hput⟩
    · rintro ⟨-, rfl, hput⟩
      rw [bind_of_eq_ok hput]
      rfl

/-- A write fails if the codec refuses the name, which leaves the sink alone, or if the entry
cannot be made to hold the descriptor. -/
theorem writeSpecification_eq_error_iff :
    sink.writeSpecification c s before = .error e after ↔
      c.rules.isValid s.name = false ∧ e = .invalidName (some s.name) ∧ after = before
      ∨ c.rules.isValid s.name = true
        ∧ sink.put (c.layout.pathOf s.name) (c.encode s) before = .error e after := by
  cases hname : c.rules.isValid s.name with
  | false =>
    rw [writeSpecification_of_invalid hname]
    constructor
    · intro h
      cases h
      exact .inl ⟨rfl, rfl, rfl⟩
    · rintro (⟨-, rfl, rfl⟩ | ⟨h, -⟩)
      · rfl
      · cases h
  | true =>
    rw [writeSpecification_of_valid hname]
    constructor
    · intro h
      rcases exists_of_bind_eq_error h with hput | ⟨_, _, _, hpure⟩
      · exact .inr ⟨rfl, hput⟩
      · cases hpure
    · rintro (⟨h, -⟩ | ⟨-, hput⟩)
      · cases h
      · exact bind_of_eq_error hput

/-- Whether a write gets as far as to have its entry open. -/
def opens (sink : Sink σ η) (c : Codec) (s : Specification) (before : σ) : Bool :=
  c.rules.isValid s.name && succeeded (sink.openEntry (c.layout.pathOf s.name) before)

theorem opens_of_invalid (hname : c.rules.isValid s.name = false) :
    sink.opens c s before = false := by
  unfold opens
  rw [hname, Bool.false_and]

theorem opens_of_valid (hname : c.rules.isValid s.name = true) :
    sink.opens c s before = succeeded (sink.openEntry (c.layout.pathOf s.name) before) := by
  unfold opens
  rw [hname, Bool.true_and]

/-! ## One write after the other -/

theorem writeSpecifications_cons_eq_ok_iff :
    sink.writeSpecifications c (s :: specs) before = .ok paths after ↔
      ∃ path between more, paths = path :: more
        ∧ sink.writeSpecification c s before = .ok path between
        ∧ sink.writeSpecifications c specs between = .ok more after := by
  constructor
  · intro h
    obtain ⟨path, between, hs, h⟩ := exists_of_bind_eq_ok h
    obtain ⟨more, _, hrest, hpure⟩ := exists_of_bind_eq_ok h
    cases hpure
    exact ⟨path, between, more, rfl, hs, hrest⟩
  · rintro ⟨path, between, more, rfl, hs, hrest⟩
    unfold writeSpecifications
    rw [bind_of_eq_ok hs, bind_of_eq_ok hrest]
    rfl

theorem writeSpecifications_cons_eq_error_iff :
    sink.writeSpecifications c (s :: specs) before = .error e after ↔
      sink.writeSpecification c s before = .error e after
        ∨ ∃ path between, sink.writeSpecification c s before = .ok path between
          ∧ sink.writeSpecifications c specs between = .error e after := by
  constructor
  · intro h
    rcases exists_of_bind_eq_error h with hs | ⟨path, between, hs, h⟩
    · exact .inl hs
    · rcases exists_of_bind_eq_error h with hrest | ⟨_, _, _, hpure⟩
      · exact .inr ⟨path, between, hs, hrest⟩
      · cases hpure
  · intro h
    unfold writeSpecifications
    rcases h with hs | ⟨path, between, hs, hrest⟩
    · exact bind_of_eq_error hs
    · rw [bind_of_eq_ok hs]
      exact bind_of_eq_error hrest

/-- A batch breaks off at the first write that fails, whatever comes behind it. -/
theorem writeSpecifications_eq_error_iff :
    sink.writeSpecifications c specs before = .error e after ↔
      ∃ earlier s later paths between, specs = earlier ++ s :: later
        ∧ sink.writeSpecifications c earlier before = .ok paths between
        ∧ sink.writeSpecification c s between = .error e after := by
  induction specs generalizing before with
  | nil =>
    refine ⟨nofun, ?_⟩
    rintro ⟨earlier, s, later, _, _, hspecs, _⟩
    exact absurd hspecs.symm (by simp)
  | cons s specs ih =>
    rw [writeSpecifications_cons_eq_error_iff]
    constructor
    · rintro (hs | ⟨path, between, hs, hrest⟩)
      · exact ⟨[], s, specs, [], before, rfl, rfl, hs⟩
      · obtain ⟨earlier, s', later, paths, between', rfl, hearlier, hs'⟩ := ih.1 hrest
        exact ⟨s :: earlier, s', later, path :: paths, between', rfl,
          writeSpecifications_cons_eq_ok_iff.2 ⟨path, between, paths, rfl, hs, hearlier⟩, hs'⟩
    · rintro ⟨earlier, s', later, paths, between, hspecs, hearlier, hs'⟩
      cases earlier with
      | nil =>
        cases hspecs
        cases hearlier
        exact .inl hs'
      | cons s earlier =>
        cases hspecs
        obtain ⟨path, first, more, rfl, hs, hearlier⟩ :=
          writeSpecifications_cons_eq_ok_iff.1 hearlier
        exact .inr ⟨path, first, hs, ih.2 ⟨earlier, s', later, more, _, rfl, hearlier, hs'⟩⟩

/-! ## Sinks that keep entries -/

/-- The sink keeps `held`, a map from paths to bytes, and may fail at any step. That a stream
is open for the entry at a path is `isOpen`. -/
structure KeepsEntries (sink : Sink σ η) (held : σ → String → Option Bytes)
    (isOpen : σ → η → String → Prop) : Prop where
  /-- Opening an entry empties it. -/
  opened : ∀ {path : String} {s s' : σ} {stream : η}, sink.openEntry path s = .ok stream s' →
    isOpen s' stream path ∧ held s' = Function.update (held s) path (some [])
  /-- An entry that does not open is left alone. -/
  refused : ∀ {path : String} {s s' : σ} {e : CatalogError},
    sink.openEntry path s = .error e s' → held s' = held s
  /-- What is written comes behind what the entry holds. -/
  written : ∀ {path : String} {s s' : σ} {stream : η} {old bs : Bytes},
    isOpen s stream path → held s path = some old → sink.write stream bs s = .ok () s' →
    isOpen s' stream path ∧ held s' = Function.update (held s) path (some (old ++ bs))
  /-- A stream that breaks has taken the beginning. -/
  broke : ∀ {path : String} {s s' : σ} {stream : η} {old bs : Bytes} {e : IoError},
    isOpen s stream path → held s path = some old → sink.write stream bs s = .error e s' →
    ∃ kept, kept <+: old ++ bs ∧ held s' = Function.update (held s) path (some kept)
  flushed : ∀ {path : String} {s s' : σ} {stream : η},
    isOpen s stream path → sink.flush stream s = .ok () s' → held s' = held s
  /-- An entry that is not flushed may lose its end. -/
  unflushed : ∀ {path : String} {s s' : σ} {stream : η} {old : Bytes} {e : IoError},
    isOpen s stream path → held s path = some old → sink.flush stream s = .error e s' →
    ∃ kept, kept <+: old ∧ held s' = Function.update (held s) path (some kept)

namespace KeepsEntries

variable {held : σ → String → Option Bytes} {isOpen : σ → η → String → Prop}

/-- An entry that was opened and written holds what was written. -/
theorem of_write_eq_ok (hsink : sink.KeepsEntries held isOpen) {stream : η} {opened written : σ}
    (hopen : sink.openEntry path before = .ok stream opened)
    (hwrite : sink.write stream bs opened = .ok () written) :
    isOpen written stream path
      ∧ held written = Function.update (held before) path (some bs) := by
  obtain ⟨hisOpen, hopened⟩ := hsink.opened hopen
  have hempty : held opened path = some [] := by rw [hopened, Function.update_self]
  obtain ⟨hisOpen, hwritten⟩ := hsink.written hisOpen hempty hwrite
  refine ⟨hisOpen, ?_⟩
  rw [hwritten, hopened, Function.update_idem, List.nil_append]

theorem of_put_eq_ok (hsink : sink.KeepsEntries held isOpen)
    (h : sink.put path bs before = .ok () after) :
    held after = Function.update (held before) path (some bs) := by
  obtain ⟨stream, opened, hopen, h⟩ := exists_of_bind_eq_ok h
  obtain ⟨_, written, hwrite, hflush⟩ := exists_of_bind_eq_ok (atEntry_eq_ok h)
  obtain ⟨hisOpen, hwritten⟩ := hsink.of_write_eq_ok hopen hwrite
  rw [hsink.flushed hisOpen hflush, hwritten]

/-- The entry does not open, or it is begun and keeps no more than the bytes. -/
theorem of_put_eq_error (hsink : sink.KeepsEntries held isOpen)
    (h : sink.put path bs before = .error e after) :
    sink.openEntry path before = .error e after ∧ held after = held before
      ∨ (∃ stream opened, sink.openEntry path before = .ok stream opened)
        ∧ ∃ kept, kept <+: bs ∧ held after = Function.update (held before) path (some kept) := by
  rcases exists_of_bind_eq_error h with hopen | ⟨stream, opened, hopen, h⟩
  · exact .inl ⟨hopen, hsink.refused hopen⟩
  · refine .inr ⟨⟨stream, opened, hopen⟩, ?_⟩
    obtain ⟨e', _, h⟩ := exists_of_atEntry_eq_error h
    rcases exists_of_bind_eq_error h with hwrite | ⟨_, written, hwrite, hflush⟩
    · obtain ⟨hisOpen, hopened⟩ := hsink.opened hopen
      have hempty : held opened path = some [] := by rw [hopened, Function.update_self]
      obtain ⟨kept, hkept, hbroke⟩ := hsink.broke hisOpen hempty hwrite
      exact ⟨kept, hkept, by rw [hbroke, hopened, Function.update_idem]⟩
    · obtain ⟨hisOpen, hwritten⟩ := hsink.of_write_eq_ok hopen hwrite
      have hfull : held written path = some bs := by rw [hwritten, Function.update_self]
      obtain ⟨kept, hkept, hunflushed⟩ := hsink.unflushed hisOpen hfull hflush
      exact ⟨kept, hkept, by rw [hunflushed, hwritten, Function.update_idem]⟩

end KeepsEntries

end Sink

/-! ## In memory -/

/-- A write into a store that succeeded put all the bytes behind those that were there. -/
theorem LimitedStore.written_of_write {bs : Bytes} {before after : LimitedStore}
    (h : LimitedStore.write bs before = .ok () after) : after.written = before.written ++ bs := by
  unfold LimitedStore.write at h
  split at h
  · injection h with _ h
    rw [← h]
  · dsimp only at h
    split at h
    · rename_i hfits
      injection h with _ h
      rw [← h, List.take_of_length_le hfits]
    · cases h

/-- One that failed put the beginning there. -/
theorem LimitedStore.written_of_write_eq_error {bs : Bytes} {before after : LimitedStore}
    {e : IoError} (h : LimitedStore.write bs before = .error e after) :
    ∃ taken, taken <+: bs ∧ after.written = before.written ++ taken := by
  unfold LimitedStore.write at h
  split at h
  · cases h
  · dsimp only at h
    split at h
    · cases h
    · cases h
      exact ⟨_, List.take_prefix _ bs, rfl⟩

theorem NameMap.get?_insert_eq_update {α : Type} (m : NameMap α) (name : String) (a : α) :
    (m.insert name a).get? = Function.update m.get? name (some a) := by
  funext other
  rw [get?_insert, Function.update_apply]

namespace MemoryEntries

theorem entries_of_append {path : String} {bs : Bytes} {before after : MemoryEntries}
    (h : append path bs before = .ok () after) :
    after.entries
      = before.entries.insert path ((before.entries.get? path).getD [] ++ bs) := by
  unfold append at h
  dsimp only at h
  split at h
  · rename_i hwrite
    cases h
    rw [LimitedStore.written_of_write hwrite]
  · cases h

theorem entries_of_append_eq_error {path : String} {bs : Bytes} {before after : MemoryEntries}
    {e : IoError} (h : append path bs before = .error e after) :
    ∃ taken, taken <+: bs ∧ after.entries
      = before.entries.insert path ((before.entries.get? path).getD [] ++ taken) := by
  unfold append at h
  dsimp only at h
  split at h
  · cases h
  · rename_i hwrite
    cases h
    obtain ⟨taken, htaken, hwritten⟩ := LimitedStore.written_of_write_eq_error hwrite
    exact ⟨taken, htaken, by rw [hwritten]⟩

/-- A sink in memory keeps its entries, whatever it was told to fail at. -/
theorem keepsEntries :
    sink.KeepsEntries (fun m path => m.entries.get? path) fun _ stream path => stream = path where
  opened := by
    intro path m m' stream h
    unfold sink at h
    dsimp only at h
    split at h
    · cases h
    · cases h
      exact ⟨rfl, m.entries.get?_insert_eq_update path []⟩
  refused := by
    intro path m m' e h
    unfold sink at h
    dsimp only at h
    split at h
    · cases h
      rfl
    · cases h
  written := by
    rintro path m m' _ old bs rfl hold h
    refine ⟨rfl, ?_⟩
    rw [entries_of_append h, hold]
    exact m.entries.get?_insert_eq_update _ _
  broke := by
    rintro path m m' _ old bs e rfl hold h
    obtain ⟨taken, htaken, hentries⟩ := entries_of_append_eq_error h
    refine ⟨old ++ taken, (List.prefix_append_right_inj old).2 htaken, ?_⟩
    rw [hentries, hold]
    exact m.entries.get?_insert_eq_update _ _
  flushed := by
    rintro path m m' _ rfl h
    unfold sink at h
    dsimp only at h
    split at h
    · cases h
    · cases h
      rfl
  unflushed := by
    rintro path m m' _ old e rfl hold h
    unfold sink at h
    dsimp only at h
    split at h
    · cases h
      refine ⟨old, List.prefix_rfl, ?_⟩
      rw [← hold]
      exact (Function.update_eq_self _ _).symm
    · cases h

end MemoryEntries

end SpecCatalog
