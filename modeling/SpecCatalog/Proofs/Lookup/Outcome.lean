import SpecCatalog.Lookup

/-!
# What a look-up comes to

A look-up asks every source, reads every place that has the name and compares all that it
read. `Outcome` says without any of these loops what comes of it: a case for each way it
can end, in the order in which they take precedence. `lookup_eq_iff` says that the look-up
comes to exactly that.

The three passes have a lemma each for their success and one for their failure. A pass that
fails does so at the first place where it cannot go on: everything before was fine.
-/

namespace SpecCatalog

variable {t : FileTree} {c : Codec} {sources : SearchPath} {path name : String}

/-! ## Asking the sources -/

/-- The places where sources have a resource, in order; every source was able to tell. -/
inductive Locates (t : FileTree) (path : String) : SearchPath → List Location → Prop where
  | nil : Locates t path [] []
  | missing {s : Source} {sources : SearchPath} {ls : List Location} :
      s.locate t path = .ok none → Locates t path sources ls → Locates t path (s :: sources) ls
  | found {s : Source} {sources : SearchPath} {l : Location} {ls : List Location} :
      s.locate t path = .ok (some l) → Locates t path sources ls →
      Locates t path (s :: sources) (l :: ls)

theorem locate_cons (s : Source) (rest : SearchPath) :
    SearchPath.locate t (s :: rest) path = (do
      let here ← s.locate t path
      let others ← SearchPath.locate t rest path
      return here.toList ++ others) := rfl

theorem locate_eq_ok_iff {ls : List Location} :
    sources.locate t path = .ok ls ↔ Locates t path sources ls := by
  constructor
  · intro h
    induction sources generalizing ls with
    | nil => cases h; exact .nil
    | cons s rest ih =>
        rw [locate_cons] at h
        obtain ⟨here, hs, h⟩ := bind_eq_ok_iff.1 h
        obtain ⟨others, hrest, h⟩ := bind_eq_ok_iff.1 h
        cases h
        cases here with
        | none => exact .missing hs (ih hrest)
        | some l => exact .found hs (ih hrest)
  · intro h
    induction h with
    | nil => rfl
    | missing hs _ ih => rw [locate_cons, hs, ih]; rfl
    | found hs _ ih => rw [locate_cons, hs, ih]; rfl

/-- All sources are asked, and those that have nothing are left out. -/
theorem locate_eq_mapM (sources : SearchPath) :
    sources.locate t path
      = (sources.mapM (Source.locate t · path)).map fun found => found.flatMap (·.toList) := by
  induction sources with
  | nil => rfl
  | cons s rest ih =>
      rw [locate_cons, ih, List.mapM_cons]
      cases s.locate t path with
      | error e => rfl
      | ok here =>
          cases rest.mapM (Source.locate t · path) with
          | error e => rfl
          | ok others => rfl

theorem locate_eq_error_iff {e : CatalogError} :
    sources.locate t path = .error e ↔ ∃ before s after, sources = before ++ s :: after
      ∧ (∀ b ∈ before, ∃ l, b.locate t path = .ok l) ∧ s.locate t path = .error e := by
  rw [locate_eq_mapM, map_eq_error_iff, mapM_eq_error_iff]

/-- Nothing is located exactly when no source has the resource. -/
theorem locates_nil_iff :
    Locates t path sources [] ↔ ∀ s ∈ sources, s.locate t path = .ok none := by
  constructor
  · intro h
    generalize hn : ([] : List Location) = ls at h
    induction h with
    | nil => simp
    | missing hs _ ih =>
        intro s' hm
        rcases List.mem_cons.1 hm with rfl | hm
        · exact hs
        · exact ih hn s' hm
    | found _ _ _ => cases hn
  · intro h
    induction sources with
    | nil => exact .nil
    | cons s rest ih =>
        exact .missing (h s List.mem_cons_self) (ih fun s' hm => h s' (List.mem_cons_of_mem _ hm))

/-! ## Reading the places -/

/-- The place can be read, and the descriptor there is of the specification. -/
def Codec.Declares (c : Codec) (t : FileTree) (l : Location) (s : Specification) : Prop :=
  ∃ body, l.read t = .ok body ∧ c.decode body = .ok s

theorem decodeAt_eq_ok_iff {l : Location} {s : Specification} :
    c.decodeAt t l = .ok s ↔ c.Declares t l s := by
  unfold Codec.decodeAt Codec.Declares
  rw [bind_eq_ok_iff]
  simp only [mapError_eq_ok_iff]

theorem decodeAt_eq_error_iff {l : Location} {e : CatalogError} :
    c.decodeAt t l = .error e ↔ l.read t = .error e
      ∨ ∃ body cause, l.read t = .ok body ∧ c.decode body = .error cause
        ∧ e = .malformed l cause := by
  unfold Codec.decodeAt
  rw [bind_eq_error_iff]
  simp only [mapError_eq_error_iff]
  constructor
  · rintro (h | ⟨body, hr, cause, hd, rfl⟩)
    · exact .inl h
    · exact .inr ⟨body, cause, hr, hd, rfl⟩
  · rintro (h | ⟨body, cause, hr, hd, rfl⟩)
    · exact .inl h
    · exact .inr ⟨body, hr, cause, hd, rfl⟩

/-- One place declares one specification at most. -/
theorem Codec.Declares.unique {l : Location} {s s' : Specification}
    (h : c.Declares t l s) (h' : c.Declares t l s') : s = s' := by
  have he := decodeAt_eq_ok_iff.2 h
  rw [decodeAt_eq_ok_iff.2 h'] at he
  exact (Except.ok.inj he).symm

theorem definitionsAt_cons (l : Location) (ls : List Location) :
    c.definitionsAt t (l :: ls) = (do
      let s ← c.decodeAt t l
      let rest ← c.definitionsAt t ls
      return (l, s) :: rest) := rfl

theorem definitionsAt_eq_ok_iff {ls : List Location} {defs : List (Location × Specification)} :
    c.definitionsAt t ls = .ok defs
      ↔ defs.map (·.1) = ls ∧ ∀ d ∈ defs, c.Declares t d.1 d.2 := by
  induction ls generalizing defs with
  | nil =>
      constructor
      · intro h; cases h; simp
      · rintro ⟨h, _⟩
        rw [List.map_eq_nil_iff.1 h]
        rfl
  | cons l ls ih =>
      rw [definitionsAt_cons]
      constructor
      · intro h
        obtain ⟨s, hs, h⟩ := bind_eq_ok_iff.1 h
        obtain ⟨rest, hrest, h⟩ := bind_eq_ok_iff.1 h
        cases h
        obtain ⟨hmap, hdecl⟩ := ih.1 hrest
        refine ⟨by rw [List.map_cons, hmap], ?_⟩
        intro d hm
        rcases List.mem_cons.1 hm with rfl | hm
        · exact decodeAt_eq_ok_iff.1 hs
        · exact hdecl d hm
      · rintro ⟨hmap, hdecl⟩
        cases defs with
        | nil => cases hmap
        | cons d defs =>
            cases hmap
            have hd := decodeAt_eq_ok_iff.2 (hdecl d List.mem_cons_self)
            have hrest := ih.2 ⟨rfl, fun d' hm => hdecl d' (List.mem_cons_of_mem _ hm)⟩
            rw [hd, hrest]
            rfl

theorem definitionsAt_eq_mapM (ls : List Location) :
    c.definitionsAt t ls = ls.mapM fun l => (c.decodeAt t l).map (l, ·) := by
  induction ls with
  | nil => rfl
  | cons l ls ih =>
      rw [definitionsAt_cons, ih, List.mapM_cons]
      cases c.decodeAt t l with
      | error e => rfl
      | ok s => rfl

theorem definitionsAt_eq_error_iff {ls : List Location} {e : CatalogError} :
    c.definitionsAt t ls = .error e ↔ ∃ before l after, ls = before ++ l :: after
      ∧ (∀ b ∈ before, ∃ s, c.Declares t b s) ∧ c.decodeAt t l = .error e := by
  have hok : ∀ l, (∃ d, (c.decodeAt t l).map (l, ·) = .ok d) ↔ ∃ s, c.Declares t l s := by
    intro l
    simp only [← decodeAt_eq_ok_iff]
    cases c.decodeAt t l with
    | error e => simp [Except.map]
    | ok s => simp [Except.map]
  rw [definitionsAt_eq_mapM, mapM_eq_error_iff]
  simp only [hok, map_eq_error_iff]

/-! ## Comparing what was read -/

theorem agreed_eq_none_iff {defs : List (Location × Specification)} :
    agreed name defs = .ok none ↔ defs = [] := by
  unfold agreed
  split
  · simp
  · split
    · simp
    · simp

theorem agreed_eq_some_iff {defs : List (Location × Specification)} {s : Specification} :
    agreed name defs = .ok (some s) ↔ defs ≠ [] ∧ ∀ d ∈ defs, d.2 = s := by
  unfold agreed
  split
  · simp
  · rename_i l first rest
    split
    · rename_i hall
      simp only [List.all_eq_true, decide_eq_true_eq] at hall
      constructor
      · intro h
        cases h
        exact ⟨by simp, List.forall_mem_cons.2 ⟨rfl, hall⟩⟩
      · rintro ⟨_, h⟩
        have hfirst : first = s := h _ List.mem_cons_self
        rw [hfirst]
    · -- one that differs from the first differs from what all would be
      rename_i hall
      constructor
      · intro h; cases h
      · rintro ⟨_, h⟩
        refine absurd ?_ hall
        simp only [List.all_eq_true, decide_eq_true_eq]
        intro d hd
        have hfirst : first = s := h _ List.mem_cons_self
        rw [h d (List.mem_cons_of_mem _ hd), hfirst]

/-- It is enough to compare with the first: any two that differ cannot both be like it. -/
theorem agreed_eq_error_iff {defs : List (Location × Specification)} {e : CatalogError} :
    agreed name defs = .error e
      ↔ (∃ d ∈ defs, ∃ d' ∈ defs, d.2 ≠ d'.2) ∧ e = .conflict name defs := by
  unfold agreed
  split
  · simp
  · rename_i l first rest
    split
    · rename_i hall
      simp only [List.all_eq_true, decide_eq_true_eq] at hall
      have hsame : ∀ d ∈ (l, first) :: rest, d.2 = first := List.forall_mem_cons.2 ⟨rfl, hall⟩
      constructor
      · intro h; cases h
      · rintro ⟨⟨d, hd, d', hd', hne⟩, _⟩
        exact absurd ((hsame d hd).trans (hsame d' hd').symm) hne
    · rename_i hall
      simp only [List.all_eq_true, decide_eq_true_eq, Classical.not_forall] at hall
      obtain ⟨d, hd, hne⟩ := hall
      constructor
      · intro h
        cases h
        exact ⟨⟨d, List.mem_cons_of_mem _ hd, _, List.mem_cons_self, hne⟩, rfl⟩
      · rintro ⟨_, rfl⟩
        rfl

/-! ## The outcome -/

/-- What comes of looking up a name. -/
inductive Outcome (t : FileTree) (c : Codec) (sources : SearchPath) (name : String) :
    Fallible Specification → Prop where
  /-- The name is not valid; no source is asked. -/
  | invalid : c.rules.isValid name = false →
      Outcome t c sources name (.error (.invalidName (some name)))
  /-- A source cannot tell whether it has the name, and all before it could. -/
  | unlocated {before after : SearchPath} {s : Source} {e : CatalogError} :
      c.rules.isValid name = true → sources = before ++ s :: after →
      (∀ b ∈ before, ∃ l, b.locate t (c.layout.pathOf name) = .ok l) →
      s.locate t (c.layout.pathOf name) = .error e →
      Outcome t c sources name (.error e)
  /-- No source has the name. -/
  | absent : c.rules.isValid name = true →
      (∀ s ∈ sources, s.locate t (c.layout.pathOf name) = .ok none) →
      Outcome t c sources name (.error (.notFound name (c.layout.pathOf name)))
  /-- A place cannot be read, and all before it declare something. -/
  | unread {before after : List Location} {l : Location} {e : CatalogError} :
      c.rules.isValid name = true →
      Locates t (c.layout.pathOf name) sources (before ++ l :: after) →
      (∀ b ∈ before, ∃ s, c.Declares t b s) → l.read t = .error e →
      Outcome t c sources name (.error e)
  /-- A place holds no descriptor, and all before it declare something. -/
  | malformed {before after : List Location} {l : Location} {body : Bytes}
      {cause : CatalogError} :
      c.rules.isValid name = true →
      Locates t (c.layout.pathOf name) sources (before ++ l :: after) →
      (∀ b ∈ before, ∃ s, c.Declares t b s) → l.read t = .ok body →
      c.decode body = .error cause →
      Outcome t c sources name (.error (.malformed l cause))
  /-- All places declare something, but not all the same. -/
  | conflict {defs : List (Location × Specification)} :
      c.rules.isValid name = true →
      Locates t (c.layout.pathOf name) sources (defs.map (·.1)) →
      (∀ d ∈ defs, c.Declares t d.1 d.2) → (∃ d ∈ defs, ∃ d' ∈ defs, d.2 ≠ d'.2) →
      Outcome t c sources name (.error (.conflict name defs))
  /-- There are places, and all declare the same. -/
  | agreed {ls : List Location} {s : Specification} :
      c.rules.isValid name = true → Locates t (c.layout.pathOf name) sources ls → ls ≠ [] →
      (∀ l ∈ ls, c.Declares t l s) →
      Outcome t c sources name (.ok s)

theorem lookup_of_invalid (h : c.rules.isValid name = false) :
    sources.lookup t c name = .error (.invalidName (some name)) := by
  unfold SearchPath.lookup Codec.specPath Layout.specPath NameRules.validate
  rw [if_neg (by rw [h]; exact Bool.false_ne_true)]
  rfl

theorem lookup_of_valid (h : c.rules.isValid name = true) :
    sources.lookup t c name = (do
      let locations ← sources.locate t (c.layout.pathOf name)
      let definitions ← c.definitionsAt t locations
      match ← agreed name definitions with
      | some s => return s
      | none => throw (.notFound name (c.layout.pathOf name))) := by
  unfold SearchPath.lookup Codec.specPath Layout.specPath NameRules.validate
  rw [if_pos h]
  rfl

/-- What a valid name comes to once its places are known. -/
theorem lookup_of_locates {ls : List Location} (h : c.rules.isValid name = true)
    (hl : Locates t (c.layout.pathOf name) sources ls) :
    sources.lookup t c name = (do
      let definitions ← c.definitionsAt t ls
      match ← SpecCatalog.agreed name definitions with
      | some s => return s
      | none => throw (.notFound name (c.layout.pathOf name))) := by
  rw [lookup_of_valid h, locate_eq_ok_iff.2 hl]
  rfl

/-- The look-up comes to what the outcome says. -/
theorem Outcome.lookup_eq {r : Fallible Specification} (h : Outcome t c sources name r) :
    sources.lookup t c name = r := by
  cases h with
  | invalid hn => exact lookup_of_invalid hn
  | unlocated hn hs hb he =>
      rw [lookup_of_valid hn, locate_eq_error_iff.2 ⟨_, _, _, hs, hb, he⟩]
      rfl
  | absent hn hnone =>
      rw [lookup_of_locates hn (locates_nil_iff.2 hnone)]
      rfl
  | unread hn hl hb he =>
      have hdecode := decodeAt_eq_error_iff (c := c).2 (.inl he)
      rw [lookup_of_locates hn hl, definitionsAt_eq_error_iff.2 ⟨_, _, _, rfl, hb, hdecode⟩]
      rfl
  | malformed hn hl hb hr he =>
      have hdecode := decodeAt_eq_error_iff.2 (.inr ⟨_, _, hr, he, rfl⟩)
      rw [lookup_of_locates hn hl, definitionsAt_eq_error_iff.2 ⟨_, _, _, rfl, hb, hdecode⟩]
      rfl
  | conflict hn hl hd hne =>
      rw [lookup_of_locates hn hl, definitionsAt_eq_ok_iff.2 ⟨rfl, hd⟩]
      show (SpecCatalog.agreed name _ >>= _) = _
      rw [agreed_eq_error_iff.2 ⟨hne, rfl⟩]
      rfl
  | @agreed ls s hn hl hls hd =>
      have hdefs : c.definitionsAt t ls = .ok (ls.map (·, s)) := by
        refine definitionsAt_eq_ok_iff.2 ⟨by simp [Function.comp_def], ?_⟩
        intro d hm
        obtain ⟨l, hin, rfl⟩ := List.mem_map.1 hm
        exact hd l hin
      have hagreed : SpecCatalog.agreed name (ls.map (·, s)) = .ok (some s) := by
        refine agreed_eq_some_iff.2 ⟨by simpa using hls, ?_⟩
        intro d hm
        obtain ⟨l, _, rfl⟩ := List.mem_map.1 hm
        rfl
      rw [lookup_of_locates hn hl, hdefs]
      show (SpecCatalog.agreed name _ >>= _) = _
      rw [hagreed]
      rfl

/-- Every look-up has an outcome. -/
theorem exists_outcome (t : FileTree) (c : Codec) (sources : SearchPath) (name : String) :
    ∃ r, Outcome t c sources name r := by
  cases hn : c.rules.isValid name with
  | false => exact ⟨_, .invalid hn⟩
  | true =>
      cases hl : sources.locate t (c.layout.pathOf name) with
      | error e =>
          obtain ⟨_, _, _, hs, hb, he⟩ := locate_eq_error_iff.1 hl
          exact ⟨_, .unlocated hn hs hb he⟩
      | ok ls =>
          -- all sources could tell; what is left hangs on the places alone
          have hlocates := locate_eq_ok_iff.1 hl
          cases hd : c.definitionsAt t ls with
          | error e =>
              obtain ⟨before, l, after, rfl, hb, he⟩ := definitionsAt_eq_error_iff.1 hd
              rcases decodeAt_eq_error_iff.1 he with he | ⟨body, cause, hr, he, _⟩
              · exact ⟨_, .unread hn hlocates hb he⟩
              · exact ⟨_, .malformed hn hlocates hb hr he⟩
          | ok defs =>
              obtain ⟨rfl, hdecl⟩ := definitionsAt_eq_ok_iff.1 hd
              cases ha : SpecCatalog.agreed name defs with
              | error e => exact ⟨_, .conflict hn hlocates hdecl (agreed_eq_error_iff.1 ha).1⟩
              | ok found =>
                  cases found with
                  | none =>
                      rw [agreed_eq_none_iff.1 ha] at hlocates
                      exact ⟨_, .absent hn (locates_nil_iff.1 hlocates)⟩
                  | some s =>
                      obtain ⟨hne, hall⟩ := agreed_eq_some_iff.1 ha
                      refine ⟨_, .agreed (s := s) hn hlocates (by simpa using hne) ?_⟩
                      intro l hm
                      obtain ⟨d, hin, rfl⟩ := List.mem_map.1 hm
                      rw [← hall d hin]
                      exact hdecl d hin

theorem outcome_lookup (t : FileTree) (c : Codec) (sources : SearchPath) (name : String) :
    Outcome t c sources name (sources.lookup t c name) := by
  obtain ⟨r, hr⟩ := exists_outcome t c sources name
  rw [hr.lookup_eq]
  exact hr

/-- A specification is found only where a source has the name, and all places declare it. -/
theorem lookup_ok {s : Specification} (h : sources.lookup t c name = .ok s) :
    c.rules.isValid name = true ∧ ∃ ls, Locates t (c.layout.pathOf name) sources ls
      ∧ ls ≠ [] ∧ ∀ l ∈ ls, c.Declares t l s := by
  have hout := outcome_lookup t c sources name
  rw [h] at hout
  cases hout with
  | agreed hn hl hne hd => exact ⟨hn, _, hl, hne, hd⟩

/--
**A look-up comes to exactly one outcome.**

The name counts before any source, a source that cannot tell before any place, the places
in order before what they declare, and then all that was read, wherever it stands.
-/
theorem lookup_eq_iff (t : FileTree) (c : Codec) (sources : SearchPath) (name : String)
    (r : Fallible Specification) :
    sources.lookup t c name = r ↔ Outcome t c sources name r := by
  refine ⟨?_, Outcome.lookup_eq⟩
  rintro rfl
  exact outcome_lookup t c sources name

end SpecCatalog
