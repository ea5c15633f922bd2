import Mathlib.Data.List.Induction
import SpecCatalog.Discovery

/-!
# What a registry holds

A search path is scanned source by source (`Scanned`), to its end exactly when each source
is, and what is found is then what the sources have, one after the other
(`scanned_none_iff`).

Adding what was found to a registry never looks back at the descriptors. `Registry.Indexes`
is the invariant that ties the two: under each name the registry holds the earliest
descriptor that declares it. So all is added exactly when all of it agrees, however far
apart two descriptors of one name are (`Registry.exists_indexes`,
`Registry.agree_of_foldlM`).
-/

namespace SpecCatalog

variable {t : FileTree} {c : Codec} {sources : SearchPath}

/-! ## Scanning a search path -/

theorem descriptors_cons (s : Source) (rest : SearchPath) :
    SearchPath.descriptors t c (s :: rest)
      = (s.descriptors t c).append (SearchPath.descriptors t c rest) := rfl

/-- What scanning the sources in order finds, and the error that broke a scan off. No source
after that one is scanned. -/
inductive Scanned (t : FileTree) (c : Codec) :
    SearchPath → List (Location × Bytes) → Option CatalogError → Prop where
  | nil : Scanned t c [] [] none
  | through {s : Source} {rest : SearchPath} {xs ys : List (Location × Bytes)}
      {broke : Option CatalogError} :
      s.descriptors t c = ⟨xs, none⟩ → Scanned t c rest ys broke →
      Scanned t c (s :: rest) (xs ++ ys) broke
  | broken {s : Source} {rest : SearchPath} {xs : List (Location × Bytes)} {e : CatalogError} :
      s.descriptors t c = ⟨xs, some e⟩ → Scanned t c (s :: rest) xs (some e)

theorem Scanned.descriptors_eq {xs : List (Location × Bytes)} {broke : Option CatalogError}
    (h : Scanned t c sources xs broke) : sources.descriptors t c = ⟨xs, broke⟩ := by
  induction h with
  | nil => rfl
  | through hs _ ih => rw [descriptors_cons, hs, ih]; rfl
  | broken hs => rw [descriptors_cons, hs]; rfl

theorem scanned_descriptors (t : FileTree) (c : Codec) (sources : SearchPath) :
    Scanned t c sources (sources.descriptors t c).found (sources.descriptors t c).broke := by
  induction sources with
  | nil => exact .nil
  | cons s rest ih =>
      rw [descriptors_cons]
      cases hs : s.descriptors t c with
      | mk xs broke =>
          cases broke with
          | none => exact .through hs ih
          | some e => exact .broken hs

/-- A scan of all sources is completed exactly when each of them is, and then finds what they
have, one after the other. -/
theorem scanned_none_iff {xs : List (Location × Bytes)} :
    Scanned t c sources xs none ↔ (∀ s ∈ sources, (s.descriptors t c).broke = none)
      ∧ xs = sources.flatMap fun s => (s.descriptors t c).found := by
  constructor
  · intro h
    generalize hb : (none : Option CatalogError) = broke at h
    induction h with
    | nil => exact ⟨by simp, rfl⟩
    | through hs _ ih =>
        subst hb
        obtain ⟨hrest, rfl⟩ := ih rfl
        refine ⟨List.forall_mem_cons.2 ⟨by rw [hs], hrest⟩, ?_⟩
        rw [List.flatMap_cons, hs]
    | broken _ => cases hb
  · rintro ⟨hall, rfl⟩
    induction sources with
    | nil => exact .nil
    | cons s rest ih =>
        obtain ⟨hs, hrest⟩ := List.forall_mem_cons.1 hall
        exact .through (by rw [← hs]) (ih hrest)

/-! ## What is declared -/

namespace Codec

/-- What a descriptor that was found declares, and where. -/
def declared? (c : Codec) (x : Location × Bytes) : Option (Location × Specification) :=
  (c.decode x.2).toOption.map (x.1, ·)

/-- What the descriptors that were found declare, in order. -/
def declarations (c : Codec) (xs : List (Location × Bytes)) : List (Location × Specification) :=
  xs.filterMap c.declared?

/-- The earliest declaration of a name. -/
def earliest? (c : Codec) (xs : List (Location × Bytes)) (name : String) :
    Option (Location × Specification) :=
  (c.declarations xs).find? (·.2.name = name)

/-- All that was found are descriptors, and none differs from another of its name. -/
structure Agree (c : Codec) (xs : List (Location × Bytes)) : Prop where
  decoded : ∀ x ∈ xs, ∃ s, c.decode x.2 = .ok s
  same : ∀ d ∈ c.declarations xs, ∀ d' ∈ c.declarations xs, d.2.name = d'.2.name → d.2 = d'.2

theorem declared?_of_ok {x : Location × Bytes} {s : Specification} (h : c.decode x.2 = .ok s) :
    c.declared? x = some (x.1, s) := by
  unfold declared?; rw [h]; rfl

theorem mem_declarations {xs : List (Location × Bytes)} {d : Location × Specification} :
    d ∈ c.declarations xs ↔ ∃ x ∈ xs, x.1 = d.1 ∧ c.decode x.2 = .ok d.2 := by
  unfold declarations
  rw [List.mem_filterMap]
  constructor
  · rintro ⟨x, hx, hd⟩
    unfold declared? at hd
    cases hs : c.decode x.2 with
    | error e => rw [hs] at hd; cases hd
    | ok s => rw [hs] at hd; cases hd; exact ⟨x, hx, rfl, hs⟩
  · rintro ⟨x, hx, hl, hs⟩
    refine ⟨x, hx, ?_⟩
    rw [declared?_of_ok hs, hl]

theorem declarations_subset {xs ys : List (Location × Bytes)} (h : xs ⊆ ys) :
    c.declarations xs ⊆ c.declarations ys := by
  intro d hd
  obtain ⟨x, hx, hl, hs⟩ := mem_declarations.1 hd
  exact mem_declarations.2 ⟨x, h hx, hl, hs⟩

theorem declarations_concat {xs : List (Location × Bytes)} {x : Location × Bytes}
    {s : Specification} (h : c.decode x.2 = .ok s) :
    c.declarations (xs ++ [x]) = c.declarations xs ++ [(x.1, s)] := by
  unfold declarations
  rw [List.filterMap_append]
  congr 1
  simp [declared?_of_ok h]

/-- One more descriptor is the earliest of its name if there was none. -/
theorem earliest?_concat {xs : List (Location × Bytes)} {x : Location × Bytes}
    {s : Specification} (h : c.decode x.2 = .ok s) (name : String) :
    c.earliest? (xs ++ [x]) name
      = (c.earliest? xs name).or (if s.name = name then some (x.1, s) else none) := by
  unfold earliest?
  rw [declarations_concat h, List.find?_append]
  congr 1
  by_cases hn : s.name = name
  · simp [hn]
  · simp [hn]

/-- The earliest declaration of a name is one, and of that name. -/
theorem earliest?_eq_some {xs : List (Location × Bytes)} {name : String}
    {d : Location × Specification} (h : c.earliest? xs name = some d) :
    d ∈ c.declarations xs ∧ d.2.name = name :=
  ⟨List.mem_of_find?_eq_some h, by simpa using List.find?_some h⟩

theorem earliest?_eq_none_iff {xs : List (Location × Bytes)} {name : String} :
    c.earliest? xs name = none ↔ ∀ d ∈ c.declarations xs, d.2.name ≠ name := by
  unfold earliest?
  simp

theorem agree_nil : c.Agree [] := ⟨by simp, by simp [declarations]⟩

/-- What agrees also does so in part and in another order. -/
theorem Agree.of_subset {xs ys : List (Location × Bytes)} (h : c.Agree ys) (hsub : xs ⊆ ys) :
    c.Agree xs where
  decoded x hx := h.decoded x (hsub hx)
  same d hd d' hd' := h.same d (declarations_subset hsub hd) d' (declarations_subset hsub hd')

/-- What agrees also does so at other places. -/
theorem Agree.of_bodies {xs ys : List (Location × Bytes)} (h : c.Agree ys)
    (hbodies : ∀ x ∈ xs, ∃ y ∈ ys, y.2 = x.2) : c.Agree xs := by
  have hdeclared : ∀ d ∈ c.declarations xs, ∃ l, (l, d.2) ∈ c.declarations ys := by
    intro d hd
    obtain ⟨x, hx, _, hs⟩ := mem_declarations.1 hd
    obtain ⟨y, hy, hsame⟩ := hbodies x hx
    refine ⟨y.1, mem_declarations.2 ⟨y, hy, rfl, ?_⟩⟩
    rw [hsame, hs]
  constructor
  · intro x hx
    obtain ⟨y, hy, hsame⟩ := hbodies x hx
    rw [← hsame]
    exact h.decoded y hy
  · intro d hd d' hd' hname
    obtain ⟨l, hl⟩ := hdeclared d hd
    obtain ⟨l', hl'⟩ := hdeclared d' hd'
    exact h.same (l, d.2) hl (l', d'.2) hl' hname

/-- It is enough to compare one more descriptor with the earliest of its name. -/
theorem agree_concat_iff {xs : List (Location × Bytes)} {x : Location × Bytes} :
    c.Agree (xs ++ [x]) ↔ c.Agree xs ∧ ∃ s, c.decode x.2 = .ok s
      ∧ ∀ d, c.earliest? xs s.name = some d → d.2 = s := by
  constructor
  · intro h
    obtain ⟨s, hs⟩ := h.decoded x (by simp)
    have hsame := h.same
    rw [declarations_concat hs] at hsame
    refine ⟨⟨fun y hy => h.decoded y (List.mem_append_left _ hy), ?_⟩, s, hs, ?_⟩
    · intro d hd d' hd'
      exact hsame d (List.mem_append_left _ hd) d' (List.mem_append_left _ hd')
    · intro d hd
      obtain ⟨hin, hn⟩ := earliest?_eq_some hd
      exact hsame d (List.mem_append_left _ hin) (x.1, s) (by simp) hn
  · rintro ⟨h, s, hs, hfirst⟩
    -- whatever has the name of the new one is like the earliest, and so like the new one
    have hnew : ∀ d ∈ c.declarations xs, d.2.name = s.name → d.2 = s := by
      intro d hd hn
      cases hf : c.earliest? xs s.name with
      | none => exact absurd hn (earliest?_eq_none_iff.1 hf d hd)
      | some d₁ =>
          obtain ⟨hin, hn₁⟩ := earliest?_eq_some hf
          rw [h.same d hd d₁ hin (hn.trans hn₁.symm)]
          exact hfirst d₁ hf
    refine ⟨?_, ?_⟩
    · intro y hy
      rcases List.mem_append.1 hy with hy | hy
      · exact h.decoded y hy
      · rw [List.mem_singleton.1 hy]
        exact ⟨s, hs⟩
    · rw [declarations_concat hs]
      intro d hd d' hd' hn
      rcases List.mem_append.1 hd with hd | hd
      · rcases List.mem_append.1 hd' with hd' | hd'
        · exact h.same d hd d' hd' hn
        · cases List.mem_singleton.1 hd'
          exact hnew d hd hn
      · cases List.mem_singleton.1 hd
        rcases List.mem_append.1 hd' with hd' | hd'
        · exact (hnew d' hd' hn.symm).symm
        · cases List.mem_singleton.1 hd'
          rfl

end Codec

/-! ## Filling the registry -/

namespace Registry

/-- Under each name stands the earliest of the descriptors that declares it. -/
def Indexes (c : Codec) (r : Registry) (xs : List (Location × Bytes)) : Prop :=
  ∀ name, r.get? name = c.earliest? xs name

variable {r r' : Registry} {xs : List (Location × Bytes)} {x : Location × Bytes}

theorem add_of_ok {s : Specification} (h : c.decode x.2 = .ok s) :
    add c r x = r.register x.1 s := by
  unfold add
  rw [h]
  rfl

/-- A descriptor is added if it agrees with the earliest of its name, which stays. -/
theorem Indexes.add_eq_ok (hr : Indexes c r xs) {s : Specification} (hs : c.decode x.2 = .ok s)
    (hfirst : ∀ d, c.earliest? xs s.name = some d → d.2 = s) :
    ∃ r', add c r x = .ok r' ∧ Indexes c r' (xs ++ [x]) := by
  rw [add_of_ok hs]
  unfold register
  rw [hr s.name]
  cases hf : c.earliest? xs s.name with
  | none =>
      refine ⟨_, rfl, fun name => ?_⟩
      rw [Codec.earliest?_concat hs, NameMap.get?_insert, hr name]
      by_cases hn : s.name = name
      · subst hn
        rw [hf, if_pos rfl, Option.none_or]
      · rw [if_neg (Ne.symm hn), if_neg hn, Option.or_none]
  | some d =>
      refine ⟨r, if_pos (hfirst d hf), fun name => ?_⟩
      rw [Codec.earliest?_concat hs, hr name]
      by_cases hn : s.name = name
      · subst hn
        rw [hf]
        rfl
      · rw [if_neg hn, Option.or_none]

/-- A descriptor is not added for one of two reasons. -/
theorem Indexes.add_eq_error_iff (hr : Indexes c r xs) {e : CatalogError} :
    add c r x = .error e
      ↔ (∃ cause, c.decode x.2 = .error cause ∧ e = .malformed x.1 cause)
        ∨ ∃ s d, c.decode x.2 = .ok s ∧ c.earliest? xs s.name = some d ∧ d.2 ≠ s
          ∧ e = .conflict s.name [d, (x.1, s)] := by
  cases hs : c.decode x.2 with
  | error cause =>
      unfold add
      rw [hs]
      constructor
      · intro h
        cases h
        exact .inl ⟨cause, rfl, rfl⟩
      · rintro (⟨_, h, rfl⟩ | ⟨_, _, h, _⟩)
        · cases h
          rfl
        · cases h
  | ok s =>
      rw [add_of_ok hs]
      unfold register
      rw [hr s.name]
      cases hf : c.earliest? xs s.name with
      | none =>
          -- the first of its name has none to differ from
          constructor
          · intro h
            cases h
          · rintro (⟨_, h, _⟩ | ⟨_, _, h, h', _⟩)
            · cases h
            · cases h
              rw [hf] at h'
              cases h'
      | some d =>
          dsimp only
          constructor
          · intro h
            split at h
            · cases h
            · rename_i hne
              cases h
              exact .inr ⟨s, d, rfl, hf, hne, rfl⟩
          · rintro (⟨_, h, _⟩ | ⟨_, _, h, h', hne, rfl⟩)
            · cases h
            · cases h
              rw [hf] at h'
              cases h'
              rw [if_neg hne]

/-- What was added agrees with all before it. -/
theorem Indexes.of_add_eq_ok (hr : Indexes c r xs) (h : add c r x = .ok r') :
    ∃ s, c.decode x.2 = .ok s ∧ ∀ d, c.earliest? xs s.name = some d → d.2 = s := by
  obtain ⟨s, hs, _⟩ := bind_eq_ok_iff.1 h
  have hs := mapError_eq_ok_iff.1 hs
  refine ⟨s, hs, fun d hd => Decidable.not_not.1 fun hne => ?_⟩
  rw [hr.add_eq_error_iff.2 (.inr ⟨s, d, hs, hd, hne, rfl⟩)] at h
  cases h

theorem indexes_empty (c : Codec) : Indexes c .empty [] := fun _ => rfl

/-- Whatever agrees is all added. -/
theorem exists_indexes (h : c.Agree xs) :
    ∃ r, xs.foldlM (add c) .empty = .ok r ∧ Indexes c r xs := by
  induction xs using List.reverseRecOn with
  | nil => exact ⟨.empty, rfl, indexes_empty c⟩
  | append_singleton xs x ih =>
      obtain ⟨h, s, hs, hfirst⟩ := Codec.agree_concat_iff.1 h
      obtain ⟨r, hfold, hr⟩ := ih h
      obtain ⟨r', hadd, hr'⟩ := hr.add_eq_ok hs hfirst
      refine ⟨r', ?_, hr'⟩
      rw [List.foldlM_append]
      exact bind_eq_ok_iff.2 ⟨r, hfold, bind_eq_ok_iff.2 ⟨r', hadd, rfl⟩⟩

/-- Only what agrees is all added, and the registry then holds the earliest of each name. -/
theorem agree_of_foldlM (h : xs.foldlM (add c) .empty = .ok r) : c.Agree xs ∧ Indexes c r xs := by
  induction xs using List.reverseRecOn generalizing r with
  | nil =>
      cases h
      exact ⟨Codec.agree_nil, indexes_empty c⟩
  | append_singleton xs x ih =>
      rw [List.foldlM_append] at h
      obtain ⟨r₀, hfold, h⟩ := bind_eq_ok_iff.1 h
      obtain ⟨r₁, hadd, h⟩ := bind_eq_ok_iff.1 h
      cases h
      obtain ⟨hagree, hr⟩ := ih hfold
      obtain ⟨s, hs, hfirst⟩ := hr.of_add_eq_ok hadd
      obtain ⟨r₂, hadd', hr'⟩ := hr.add_eq_ok hs hfirst
      rw [hadd] at hadd'
      cases hadd'
      exact ⟨Codec.agree_concat_iff.2 ⟨hagree, s, hs, hfirst⟩, hr'⟩

end Registry

end SpecCatalog
