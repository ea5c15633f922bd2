import SpecCatalog.Specification.Valid

/-!
# Specifications under rules

What rules refuse about a specification. `ofOptions` judges what it makes, so the
dependencies of what it made are valid (`isValid_of_ofOptions`). Under other rules a
specification can be judged again by its own name and dependencies, and since these are a
set and in order already, nothing about it changes (`ofOptions_self`).
-/

namespace SpecCatalog

theorem NameSet.toList_ofList {l : List String} (h : l.Pairwise (· < ·)) :
    (ofList l).toList = l :=
  eq_of_increasing (ofList l).increasing h fun _ => mem_ofList

/-- A set knows neither the order nor the repetitions of the list it is made of. -/
theorem NameSet.ofList_congr {l m : List String} (h : ∀ x, x ∈ l ↔ x ∈ m) : ofList l = ofList m :=
  ext fun x => by rw [mem_ofList, mem_ofList, h x]

namespace Specification

variable {rules : NameRules} {s : Specification}

/-! ## What is refused -/

/-- The dependencies that the rules refuse, in order. -/
def refusedDependencies (rules : NameRules) (s : Specification) : List String :=
  s.dependencies.toList.filter fun d => !rules.isValid d

theorem refusedDependencies_increasing : (s.refusedDependencies rules).Pairwise (· < ·) :=
  s.dependencies.increasing.filter _

theorem mem_refusedDependencies {d : String} :
    d ∈ s.refusedDependencies rules ↔ d ∈ s.dependencies ∧ rules.isValid d = false := by
  simp only [refusedDependencies, List.mem_filter, Bool.not_eq_true', NameSet.mem_toList]

theorem refusedDependencies_eq_nil_iff :
    s.refusedDependencies rules = [] ↔ ∀ d ∈ s.dependencies, rules.isValid d = true := by
  simp only [List.eq_nil_iff_forall_not_mem, mem_refusedDependencies, not_and,
    Bool.not_eq_false]

/-! ## Judging again -/

/-- What is refused of a list without gaps that is in order already. -/
theorem refused_map_some {l : List String} (h : l.Pairwise (· < ·)) :
    refused rules (l.map some) = (l.filter fun d => !rules.isValid d).map some := by
  have hbad : (l.map some).filter (fun d => !rules.accepts d)
      = (l.filter fun d => !rules.isValid d).map some := by
    rw [List.filter_map]
    rfl
  have hnames : ((l.filter fun d => !rules.isValid d).map some).filterMap id
      = l.filter fun d => !rules.isValid d := by
    simp
  unfold refused
  simp only [hbad, hnames, NameSet.toList_ofList (h.filter _)]
  simp

/-- A specification judged under other rules: they may refuse its dependencies or its
name, and nothing about it changes. -/
theorem ofOptions_self (rules : NameRules) (s : Specification) :
    ofOptions rules (some s.name) (some (s.dependencies.toList.map some)) =
      if s.refusedDependencies rules = [] then
        if rules.isValid s.name then .ok s else .error (.invalidName (some s.name))
      else .error (.invalidDependencies ((s.refusedDependencies rules).map some)) := by
  have hrefused : refused rules (s.dependencies.toList.map some)
      = (s.refusedDependencies rules).map some := refused_map_some s.dependencies.increasing
  have hnames : (s.dependencies.toList.map some).filterMap id = s.dependencies.toList := by simp
  have hself : NameSet.ofList s.dependencies.toList = s.dependencies :=
    NameSet.ext fun _ => NameSet.mem_ofList
  unfold ofOptions
  simp only [Option.getD_some, hrefused, hnames, hself]
  cases s.refusedDependencies rules with
  | nil => rfl
  | cons d ds => rfl

/-! ## What does not matter -/

theorem refused_congr {deps deps' : List (Option String)} (h : ∀ d, d ∈ deps ↔ d ∈ deps') :
    refused rules deps = refused rules deps' := by
  have hbad : ∀ d, d ∈ deps.filter (fun d => !rules.accepts d)
      ↔ d ∈ deps'.filter (fun d => !rules.accepts d) := by
    intro d
    rw [List.mem_filter, List.mem_filter, h d]
  have hnone : (deps.filter fun d => !rules.accepts d).contains none
      = (deps'.filter fun d => !rules.accepts d).contains none := by
    rw [Bool.eq_iff_iff, List.contains_iff_mem, List.contains_iff_mem, hbad none]
  have hnames : NameSet.ofList ((deps.filter fun d => !rules.accepts d).filterMap id)
      = NameSet.ofList ((deps'.filter fun d => !rules.accepts d).filterMap id) := by
    refine NameSet.ofList_congr fun x => ?_
    rw [List.mem_filterMap, List.mem_filterMap]
    exact exists_congr fun d => and_congr_left' (hbad d)
  unfold refused
  simp only [hnone, hnames]

/-- The order and the repetitions of the dependencies do not matter, nor whether an empty list
of them is given at all. -/
theorem ofOptions_congr {name : Option String} {deps deps' : Option (List (Option String))}
    (h : ∀ d, d ∈ deps.getD [] ↔ d ∈ deps'.getD []) :
    ofOptions rules name deps = ofOptions rules name deps' := by
  have hnames : NameSet.ofList ((deps.getD []).filterMap id)
      = NameSet.ofList ((deps'.getD []).filterMap id) := by
    refine NameSet.ofList_congr fun x => ?_
    rw [List.mem_filterMap, List.mem_filterMap]
    exact exists_congr fun d => and_congr_left' (h d)
  unfold ofOptions
  simp only [refused_congr h, hnames]

/-- Whatever is wrong, it is not the notation. -/
theorem ofOptions_ne_decode {name : Option String} {deps : Option (List (Option String))}
    {cause : DocumentError} : ofOptions rules name deps ≠ .error (.decode cause) := by
  unfold ofOptions
  dsimp only
  cases refused rules (deps.getD []) with
  | cons d ds => nofun
  | nil =>
    cases name with
    | none => nofun
    | some n =>
      dsimp only
      split
      · nofun
      · nofun

/-! ## Judging what was made -/

theorem isValid_of_refused_eq_nil {deps : List (Option String)} (h : refused rules deps = [])
    {d : String} (hd : some d ∈ deps) : rules.isValid d = true := by
  cases hv : rules.isValid d with
  | true => rfl
  | false =>
    have hbad : some d ∈ deps.filter fun d => !rules.accepts d :=
      List.mem_filter.2 ⟨hd, by rw [NameRules.accepts, Option.any_some, hv]; rfl⟩
    have hnames := List.map_eq_nil_iff.1 (List.append_eq_nil_iff.1 h).2
    have hmem := NameSet.mem_ofList.2 (List.mem_filterMap (f := id).2 ⟨some d, hbad, rfl⟩)
    rw [← NameSet.mem_toList, hnames] at hmem
    exact absurd hmem List.not_mem_nil

/-- What the rules let through they find valid. -/
theorem isValid_of_ofOptions {name : Option String} {deps : Option (List (Option String))}
    (h : ofOptions rules name deps = .ok s) : ∀ d ∈ s.dependencies, rules.isValid d = true := by
  unfold ofOptions at h
  dsimp only at h
  split at h
  · rename_i hrefused
    cases name with
    | none => cases h
    | some n =>
      dsimp only at h
      split at h
      · injection h with h
        subst h
        intro d hd
        obtain ⟨_, he, rfl⟩ := List.mem_filterMap.1 (NameSet.mem_ofList.1 hd)
        exact isValid_of_refused_eq_nil hrefused he
      · cases h
  · cases h

theorem isValid_name_of_ofOptions {name : Option String} {deps : Option (List (Option String))}
    (h : ofOptions rules name deps = .ok s) : rules.isValid s.name = true := by
  unfold ofOptions at h
  dsimp only at h
  split at h
  · cases name with
    | none => cases h
    | some n =>
      dsimp only at h
      split at h
      · rename_i hn
        injection h with h
        subst h
        exact hn
      · cases h
  · cases h

/-- Rules that find all dependencies valid refuse none. -/
theorem refused_eq_nil {deps : List String} (h : ∀ d ∈ deps, rules.isValid d = true) :
    refused rules (deps.map some) = [] := by
  have hbad : (deps.map some).filter (fun d => !rules.accepts d) = [] := by
    refine List.filter_eq_nil_iff.2 fun d hd => ?_
    obtain ⟨n, hn, rfl⟩ := List.mem_map.1 hd
    rw [NameRules.accepts, Option.any_some, h n hn]
    decide
  unfold refused
  simp only [hbad]
  rfl

/-- What is made of a name and dependencies: they are as given, and all of them are valid. -/
theorem ofRules_eq_ok_iff {name : String} {deps : List String} :
    ofRules rules name deps = .ok s ↔
      rules.isValid name = true ∧ (∀ d ∈ deps, rules.isValid d = true)
        ∧ s = ⟨name, .ofList deps⟩ := by
  have hnames : (deps.map some).filterMap id = deps := by simp
  constructor
  · intro h
    unfold ofRules at h
    have hrefused : refused rules (deps.map some) = [] := by
      cases hr : refused rules (deps.map some) with
      | nil => rfl
      | cons d ds => rw [ofOptions, Option.getD_some, hr] at h; cases h
    have hdeps : ∀ d ∈ deps, rules.isValid d = true := fun d hd =>
      isValid_of_refused_eq_nil hrefused (List.mem_map.2 ⟨d, hd, rfl⟩)
    rw [ofOptions, Option.getD_some, hrefused, hnames] at h
    dsimp only at h
    split at h
    · rename_i hname
      cases h
      exact ⟨hname, hdeps, rfl⟩
    · cases h
  · rintro ⟨hname, hdeps, rfl⟩
    rw [ofRules, ofOptions, Option.getD_some, refused_eq_nil hdeps, hnames]
    dsimp only
    rw [if_pos hname]

end Specification

end SpecCatalog
