import SpecCatalog.Proofs.Closure.LoadBound

/-!
# What a look-up finds, without order

A look-up goes through its sources in order, and the order shows in its failures. Two of its
answers hang on the sources one by one and so on no order: that a specification is found
(`lookup_eq_ok_iff`) and that no source has the name (`lookup_eq_notFound_iff`). The second
is never the answer of a source that cannot tell, since such a source reports a failure of
the file system or of an archive.
-/

namespace SpecCatalog

variable {t : FileTree} {c : Codec} {sources : SearchPath} {path name : String}

/-! ## Failures of sources -/

/-- A failure of the file system or of an archive, and of nothing that was read there. -/
def CatalogError.IsFault (e : CatalogError) : Prop := e.kind = .io ∨ e.kind = .archive

theorem isFault_of_openArchive {path : String} {e : CatalogError}
    (h : openArchive t path = .error e) : e.IsFault := by
  unfold openArchive at h
  split at h
  · cases h; exact .inl rfl
  · obtain ⟨_, _, rfl⟩ := mapError_eq_error_iff.1 h
    exact .inr rfl
  · cases h; exact .inr rfl
  · cases h; exact .inl rfl

theorem Source.isFault_of_locate {s : Source} {e : CatalogError} (h : s.locate t path = .error e) :
    e.IsFault := by
  unfold Source.locate at h
  split at h
  · dsimp only at h
    split at h
    · cases h
    · cases h
    · cases h
    · cases h; exact .inl rfl
  · rcases bind_eq_error_iff.1 h with h | ⟨_, _, h⟩
    · exact isFault_of_openArchive h
    · cases h

theorem Location.isFault_of_read {l : Location} {e : CatalogError} (h : l.read t = .error e) :
    e.IsFault := by
  unfold Location.read at h
  split at h
  · split at h
    · cases h
    · cases h; exact .inl rfl
  · rcases bind_eq_error_iff.1 h with h | ⟨_, _, h⟩
    · exact isFault_of_openArchive h
    · split at h
      · cases h; exact .inr rfl
      · split at h
        · cases h; exact .inr rfl
        · cases h; exact .inl rfl
        · cases h

/-! ## Answers -/

/-- All places are known exactly if each source can tell. -/
theorem exists_locates_iff :
    (∃ ls, Locates t path sources ls) ↔ ∀ s ∈ sources, ∃ found, s.locate t path = .ok found := by
  constructor
  · rintro ⟨ls, h⟩
    induction h with
    | nil => simp
    | missing hs _ ih => exact List.forall_mem_cons.2 ⟨⟨_, hs⟩, ih⟩
    | found hs _ ih => exact List.forall_mem_cons.2 ⟨⟨_, hs⟩, ih⟩
  · intro h
    induction sources with
    | nil => exact ⟨[], .nil⟩
    | cons s rest ih =>
        obtain ⟨⟨found, hs⟩, hrest⟩ := List.forall_mem_cons.1 h
        obtain ⟨ls, hls⟩ := ih hrest
        cases found with
        | none => exact ⟨ls, .missing hs hls⟩
        | some l => exact ⟨l :: ls, .found hs hls⟩

theorem Locates.mem_iff {ls : List Location} {l : Location} (h : Locates t path sources ls) :
    l ∈ ls ↔ ∃ s ∈ sources, s.locate t path = .ok (some l) := by
  refine ⟨h.exists_source, ?_⟩
  rintro ⟨s, hs, hl⟩
  induction h with
  | nil => exact absurd hs List.not_mem_nil
  | missing hs' _ ih =>
      rcases List.mem_cons.1 hs with rfl | hs
      · rw [hl] at hs'; cases hs'
      · exact ih hs
  | found hs' _ ih =>
      rcases List.mem_cons.1 hs with rfl | hs
      · rw [hl] at hs'
        cases hs'
        exact List.mem_cons_self
      · exact List.mem_cons_of_mem _ (ih hs)

/-- A specification is found exactly if each source can tell, some source has the name and
whatever place has it declares that specification. -/
theorem lookup_eq_ok_iff {spec : Specification} :
    sources.lookup t c name = .ok spec ↔ c.rules.isValid name = true
      ∧ (∀ s ∈ sources, ∃ found, s.locate t (c.layout.pathOf name) = .ok found)
      ∧ (∃ s ∈ sources, ∃ l, s.locate t (c.layout.pathOf name) = .ok (some l))
      ∧ ∀ s ∈ sources, ∀ l, s.locate t (c.layout.pathOf name) = .ok (some l) →
          c.Declares t l spec := by
  constructor
  · intro h
    obtain ⟨hn, ls, hls, hne, hdecl⟩ := lookup_ok h
    obtain ⟨l, hl⟩ := List.exists_mem_of_ne_nil ls hne
    obtain ⟨s, hs, hsl⟩ := hls.mem_iff.1 hl
    exact ⟨hn, exists_locates_iff.1 ⟨ls, hls⟩, ⟨s, hs, l, hsl⟩,
      fun s hs l hl => hdecl l (hls.mem_iff.2 ⟨s, hs, hl⟩)⟩
  · rintro ⟨hn, htell, ⟨s, hs, l, hl⟩, hdecl⟩
    obtain ⟨ls, hls⟩ := exists_locates_iff.2 htell
    refine Outcome.lookup_eq (.agreed hn hls ?_ fun l' hl' => ?_)
    · exact List.ne_nil_of_mem (hls.mem_iff.2 ⟨s, hs, hl⟩)
    · obtain ⟨s', hs', hsl'⟩ := hls.mem_iff.1 hl'
      exact hdecl s' hs' l' hsl'

/-- A name is not found exactly if it is valid and each source can tell that it does not
have it. -/
theorem lookup_eq_notFound_iff {n p : String} :
    sources.lookup t c name = .error (.notFound n p) ↔ c.rules.isValid name = true
      ∧ (∀ s ∈ sources, s.locate t (c.layout.pathOf name) = .ok none)
      ∧ n = name ∧ p = c.layout.pathOf name := by
  constructor
  · intro h
    have hout := outcome_lookup t c sources name
    rw [h] at hout
    cases hout with
    | unlocated _ _ _ he =>
        rcases Source.isFault_of_locate he with hk | hk
        · cases hk
        · cases hk
    | absent hn hnone => exact ⟨hn, hnone, rfl, rfl⟩
    | unread _ _ _ he =>
        rcases Location.isFault_of_read he with hk | hk
        · cases hk
        · cases hk
  · rintro ⟨hn, hnone, rfl, rfl⟩
    exact Outcome.lookup_eq (.absent hn hnone)

end SpecCatalog
