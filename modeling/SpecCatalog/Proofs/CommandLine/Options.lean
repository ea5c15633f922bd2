import SpecCatalog.CommandLine.Arguments
import SpecCatalog.Error

/-!
# What the options of an invocation hold

An option whose rule says that it is a path never has an empty value. Adding an option sees to
it (`PathsOf.add`), and reading adds options and does nothing else to them, so it holds of all
that is read (`readGiven_pathsOf`).
-/

namespace SpecCatalog.CommandLine

variable {rules : List OptionRule} {rule : OptionRule} {g g' : Given} {name value : String}

/-- All values of the option are paths that can be looked at. -/
def Given.PathsOf (g : Given) (name : String) : Prop := ∀ value ∈ g.values name, value ≠ ""

/-- The option is a path by the rules. -/
def IsPathOption (rules : List OptionRule) (name : String) : Prop :=
  ∀ rule ∈ rules, rule.name = name → rule.isPath = true

theorem mem_of_ruleFor {shape : Shape} (h : ruleFor rules shape = .ok rule) : rule ∈ rules := by
  unfold ruleFor at h
  split at h
  · split at h
    · cases h
    · split at h
      · rename_i hfind
        cases h
        exact List.mem_of_find?_eq_some hfind
      · cases h
  · split at h
    · cases h
    · split at h
      · rename_i hfind
        cases h
        exact List.mem_of_find?_eq_some hfind
      · cases h
  · cases h

theorem add_eq_ok (h : g.add rule value = .ok g') :
    (rule.isPath = true → value ≠ "")
      ∧ g' = { g with options := g.options ++ [(rule.name, value)] } := by
  unfold Given.add at h
  split at h
  · cases h
  · rename_i hempty
    split at h
    · cases h
    · cases h
      exact ⟨fun hpath he => hempty ⟨hpath, he⟩, rfl⟩

/-- One more option keeps to its rule. -/
theorem Given.PathsOf.add (h : g.PathsOf name) (hrule : rule.name = name → rule.isPath = true)
    (hadd : g.add rule value = .ok g') : g'.PathsOf name := by
  obtain ⟨hpath, rfl⟩ := add_eq_ok hadd
  intro v hv
  unfold Given.values at hv
  rw [List.filter_append, List.map_append] at hv
  rcases List.mem_append.1 hv with hv | hv
  · exact h v hv
  · by_cases hname : rule.name = name
    · simp only [List.filter_cons, hname, decide_true, if_true, List.filter_nil, List.map_cons,
        List.map_nil, List.mem_singleton] at hv
      rw [hv]
      exact hpath (hrule hname)
    · simp [hname] at hv

theorem Given.PathsOf.addValue (h : g.PathsOf name) (hrule : rule.name = name → rule.isPath = true)
    (hadd : g.addValue rule value = .ok g') : g'.PathsOf name := by
  unfold Given.addValue at hadd
  split at hadd
  · exact h.add hrule hadd
  · cases hadd

/-- An option that is taken up keeps to its rule, and the one that waits for its value has one. -/
theorem Given.PathsOf.addShape {shape : Shape} {waiting : Option OptionRule} (h : g.PathsOf name)
    (hrules : IsPathOption rules name) (hadd : g.addShape rules shape = .ok (g', waiting)) :
    g'.PathsOf name ∧ ∀ r, waiting = some r → r ∈ rules := by
  unfold Given.addShape at hadd
  obtain ⟨rule, hrule, hadd⟩ := bind_eq_ok_iff.1 hadd
  split at hadd
  · obtain ⟨g₁, hone, hpure⟩ := bind_eq_ok_iff.1 hadd
    cases hpure
    refine ⟨h.add (hrules rule (mem_of_ruleFor hrule)) hone, ?_⟩
    rintro r he
    cases he
  · cases hadd
    refine ⟨h, ?_⟩
    rintro r he
    cases he
    exact mem_of_ruleFor hrule

/-- **What is read keeps to the rules.** -/
theorem readGiven_pathsOf {args : List String} {waiting : Option OptionRule}
    (hrules : IsPathOption rules name) (h : g.PathsOf name)
    (hwaiting : ∀ r, waiting = some r → r ∈ rules)
    (hread : readGiven rules g waiting args = .ok g') : g'.PathsOf name := by
  induction args generalizing g waiting with
  | nil =>
    cases waiting with
    | none =>
      cases hread
      exact h
    | some rule => cases hread
  | cons arg rest ih =>
    cases waiting with
    | some rule =>
      -- the argument is the value that the option before it waits for
      obtain ⟨g₁, hadd, hread⟩ := bind_eq_ok_iff.1 hread
      refine ih (h.addValue (hrules rule (hwaiting rule rfl)) hadd) ?_ hread
      rintro r he
      cases he
    | none =>
      unfold readGiven at hread
      split at hread
      · exact ih (g := { g with free := g.free ++ [arg] }) h hwaiting hread
      · cases hread
        exact h
      · obtain ⟨⟨g₁, waiting⟩, hadd, hread⟩ := bind_eq_ok_iff.1 hread
        obtain ⟨hpaths, hmem⟩ := h.addShape hrules hadd
        exact ih hpaths hmem hread

theorem required_eq_ok {v : Option String} (h : required v = .ok value) : v = some value := by
  unfold required at h
  split at h
  · cases h
    rfl
  · cases h

/-- A write was read with its options. -/
theorem exists_given_of_write {args : List String} {i : Invocation} {out : String}
    {deps : List String} (hargs : Invocation.ofArguments args = .ok i)
    (hcommand : i.command = .write out name deps) :
    ∃ g rest, readGiven (globalOptions ++ writeOptions) {} none rest = .ok g
      ∧ g.value? "out" = some out ∧ g.value? "name" = some name ∧ g.values "dep" = deps := by
  unfold Invocation.ofArguments at hargs
  obtain ⟨⟨before, command, rest⟩, _, hargs⟩ := bind_eq_ok_iff.1 hargs
  dsimp only at hargs
  split at hargs
  · obtain ⟨g, hread, hargs⟩ := bind_eq_ok_iff.1 hargs
    obtain ⟨_, _, hargs⟩ := bind_eq_ok_iff.1 hargs
    obtain ⟨_, hout, hargs⟩ := bind_eq_ok_iff.1 hargs
    obtain ⟨_, hname, hargs⟩ := bind_eq_ok_iff.1 hargs
    cases hargs
    cases hcommand
    exact ⟨g, rest, hread, required_eq_ok hout, required_eq_ok hname, rfl⟩
  -- every other command makes another invocation or none
  · split at hargs
    · obtain ⟨_, _, hargs⟩ := bind_eq_ok_iff.1 hargs
      obtain ⟨_, _, hargs⟩ := bind_eq_ok_iff.1 hargs
      obtain ⟨_, _, hargs⟩ := bind_eq_ok_iff.1 hargs
      cases hargs
      cases hcommand
    · split at hargs
      · obtain ⟨_, _, hargs⟩ := bind_eq_ok_iff.1 hargs
        obtain ⟨_, _, hargs⟩ := bind_eq_ok_iff.1 hargs
        obtain ⟨_, _, hargs⟩ := bind_eq_ok_iff.1 hargs
        cases hargs
        cases hcommand
      · split at hargs
        · cases hargs
        · cases hargs

/-- **The place that a write is for is a path that can be looked at.** -/
theorem out_ne_empty {args : List String} {i : Invocation} {out : String} {deps : List String}
    (hargs : Invocation.ofArguments args = .ok i) (hcommand : i.command = .write out name deps) :
    out ≠ "" := by
  obtain ⟨g, rest, hread, hout, _, _⟩ := exists_given_of_write hargs hcommand
  have hrules : IsPathOption (globalOptions ++ writeOptions) "out" := by
    simp [IsPathOption, globalOptions, writeOptions]
  have hnothing : Given.PathsOf {} "out" := by
    simp [Given.PathsOf, Given.values]
  have hpaths : g.PathsOf "out" := readGiven_pathsOf hrules hnothing (by simp) hread
  exact hpaths out (List.mem_of_mem_head? hout)

end SpecCatalog.CommandLine
