import Mathlib.Data.List.Sort
import SpecCatalog.Proofs.Specification.Judging
import SpecCatalog.Proofs.Text.Order

/-!
# What a name and entries come to

A specification is asked for with a name and a list of entries, and both may have gaps. There are
three answers, and `Verdict` says when each of them is given: all entries that are refused, or
else the name that is refused, or else a specification. The verdict is the only one there is
(`Verdict.unique`), since both the refused entries and the dependencies are listed in the order of
their bytes and each of them once.
-/

namespace SpecCatalog

/-- The names of a set are in the order of their bytes. -/
theorem NameSet.pairwise_toBytes (s : NameSet) :
    s.toList.Pairwise fun a b => Text.toBytes a < Text.toBytes b :=
  s.increasing.imp Text.toBytes_lt_iff.2

namespace Specification

variable {rules : NameRules} {name : Option String} {entries : List (Option String)}

/-! ## Entries -/

/-- What the rules refuse, as a name or as an entry. -/
inductive Refused (rules : NameRules) : Option String → Prop where
  | absent : Refused rules none
  | invalid {n : String} : rules.isValid n = false → Refused rules (some n)

theorem refused_iff {d : Option String} : Refused rules d ↔ rules.accepts d = false := by
  constructor
  · intro h
    cases h with
    | absent => rfl
    | invalid hn => exact hn
  · intro h
    cases d with
    | none => exact .absent
    | some n => exact .invalid h

theorem not_refused_some_iff {n : String} : ¬ Refused rules (some n) ↔ rules.isValid n = true := by
  rw [refused_iff, Bool.not_eq_false]
  rfl

/-- The order in which entries are listed: an absent one before all others, and these by their
bytes. -/
inductive Before : Option String → Option String → Prop where
  | absent {n : String} : Before none (some n)
  | bytes {n m : String} : Text.toBytes n < Text.toBytes m → Before (some n) (some m)

instance : Std.Irrefl Before where
  irrefl := by
    rintro _ (_ | hlt)
    exact List.lt_irrefl _ hlt

instance : Std.Antisymm Before where
  antisymm := by
    rintro _ _ (_ | hlt) hback
    · cases hback
    · cases hback with
      | bytes hgt => exact absurd (List.lt_trans hlt hgt) (List.lt_irrefl _)

theorem mem_refused {d : Option String} :
    d ∈ refused rules entries ↔ d ∈ entries ∧ Refused rules d := by
  have hbad : d ∈ entries.filter (fun d => !rules.accepts d) ↔ d ∈ entries ∧ Refused rules d := by
    rw [List.mem_filter, Bool.not_eq_true', refused_iff]
  rw [← hbad, refused]
  generalize entries.filter (fun d => !rules.accepts d) = bad
  cases d with
  | none => by_cases h : none ∈ bad <;> simp [h]
  | some n => by_cases h : none ∈ bad <;> simp [h, NameSet.mem_toList]

theorem pairwise_refused : (refused rules entries).Pairwise Before := by
  have hnames : ∀ s : NameSet, (s.toList.map some).Pairwise Before := fun s =>
    List.pairwise_map.2 ((NameSet.pairwise_toBytes s).imp .bytes)
  unfold refused
  dsimp only
  split
  · refine List.pairwise_cons.2 ⟨fun d hd => ?_, hnames _⟩
    obtain ⟨n, _, rfl⟩ := List.mem_map.1 hd
    exact .absent
  · exact hnames _

theorem refused_eq_nil_iff : refused rules entries = [] ↔ ∀ d ∈ entries, ¬ Refused rules d := by
  rw [List.eq_nil_iff_forall_not_mem]
  simp only [mem_refused, not_and]

/-! ## Verdicts -/

/-- The answer that a name and entries are to have under some rules. -/
inductive Verdict (rules : NameRules) (name : Option String) (entries : List (Option String)) :
    Fallible Specification → Prop where
  | badEntries {invalid : List (Option String)} :
      (∃ d ∈ entries, Refused rules d) → invalid.Pairwise Before →
      (∀ d, d ∈ invalid ↔ d ∈ entries ∧ Refused rules d) →
      Verdict rules name entries (.error (.invalidDependencies invalid))
  | badName :
      (∀ d ∈ entries, ¬ Refused rules d) → Refused rules name →
      Verdict rules name entries (.error (.invalidName name))
  | made {s : Specification} :
      (∀ d ∈ entries, ¬ Refused rules d) → ¬ Refused rules name → name = some s.name →
      (s.dependencies.toList.Pairwise fun a b => Text.toBytes a < Text.toBytes b) →
      (∀ d, d ∈ s.dependencies.toList ↔ some d ∈ entries) →
      Verdict rules name entries (.ok s)

theorem Verdict.unique {answer answer' : Fallible Specification}
    (h : Verdict rules name entries answer) (h' : Verdict rules name entries answer') :
    answer = answer' := by
  cases h with
  | badEntries hsome horder hmem =>
    obtain ⟨d, hd, hrefused⟩ := hsome
    cases h' with
    | badEntries _ horder' hmem' =>
      rw [horder.eq_of_mem_iff horder' fun d => (hmem d).trans (hmem' d).symm]
    | badName hnone _ => exact absurd hrefused (hnone d hd)
    | made hnone _ _ _ _ => exact absurd hrefused (hnone d hd)
  | badName hnone hname =>
    cases h' with
    | badEntries hsome _ _ =>
      obtain ⟨d, hd, hrefused⟩ := hsome
      exact absurd hrefused (hnone d hd)
    | badName _ _ => rfl
    | made _ hname' _ _ _ => exact absurd hname hname'
  | @made s hnone hname hs _ hmem =>
    cases h' with
    | badEntries hsome _ _ =>
      obtain ⟨d, hd, hrefused⟩ := hsome
      exact absurd hrefused (hnone d hd)
    | badName _ hname' => exact absurd hname' hname
    | @made s' _ _ hs' _ hmem' =>
      -- both have the name that was given and the same set of dependencies
      have hsame : s.name = s'.name := Option.some.inj (hs.symm.trans hs')
      have hdeps : s.dependencies = s'.dependencies :=
        NameSet.ext fun d => (hmem d).trans (hmem' d).symm
      cases s
      cases s'
      cases hsame
      cases hdeps
      rfl

theorem verdict_ofOptions (rules : NameRules) (name : Option String)
    (deps : Option (List (Option String))) :
    Verdict rules name (deps.getD []) (ofOptions rules name deps) := by
  unfold ofOptions
  dsimp only
  cases hrefused : refused rules (deps.getD []) with
  | cons d ds =>
    -- the entries come first, whatever the name is
    have hd : d ∈ refused rules (deps.getD []) := hrefused ▸ List.mem_cons_self
    refine .badEntries ⟨d, mem_refused.1 hd⟩ (hrefused ▸ pairwise_refused) fun e => ?_
    rw [← hrefused, mem_refused]
  | nil =>
    have hfine := refused_eq_nil_iff.1 hrefused
    cases name with
    | none => exact .badName hfine .absent
    | some n =>
      dsimp only
      split
      · rename_i hn
        refine .made hfine (not_refused_some_iff.2 hn) rfl (NameSet.pairwise_toBytes _) fun d => ?_
        simp [NameSet.mem_toList]
      · rename_i hn
        exact .badName hfine (.invalid (Bool.eq_false_iff.2 hn))

/-- **Every refused entry is reported, then the name, and the order does not matter.**

The answer is the verdict: the refused entries in order and each once if there are any, or else
the name if it is refused, or else a specification of that name with the entries as dependencies.
Lists of the same entries have the same answer. -/
theorem ofOptions_judges (rules : NameRules) (name : Option String)
    (deps : Option (List (Option String))) :
    (∀ answer, ofOptions rules name deps = answer ↔ Verdict rules name (deps.getD []) answer) ∧
    ∀ deps' : Option (List (Option String)), (∀ d, d ∈ deps'.getD [] ↔ d ∈ deps.getD []) →
      ofOptions rules name deps' = ofOptions rules name deps := by
  have hverdict := verdict_ofOptions rules name deps
  refine ⟨fun answer => ⟨?_, ?_⟩, fun deps' hsame => ofOptions_congr hsame⟩
  · rintro rfl
    exact hverdict
  · intro h
    exact hverdict.unique h

/-- Entries with a gap and a name that is none, in two orders. -/
theorem ofOptions_judges_shuffled :
    (∀ d, d ∈ [some "b c", none, some "a", none] ↔ d ∈ [some "a", none, some "b c"]) ∧
    ofOptions .standard (some "") (some [some "a", none, some "b c"])
      = .error (.invalidDependencies [none, some "b c"]) ∧
    ofOptions .standard (some "") (some [some "b c", none, some "a", none])
      = .error (.invalidDependencies [none, some "b c"]) := by
  have hmem : ∀ d, d ∈ [some "b c", none, some "a", none] ↔ d ∈ [some "a", none, some "b c"] := by
    intro d
    simp only [List.mem_cons, List.not_mem_nil, or_false]
    tauto
  have hgood : ¬ Refused .standard (some "a") := not_refused_some_iff.2 (by decide +kernel)
  have hbad : Refused .standard (some "b c") := .invalid (by decide +kernel)
  obtain ⟨hanswer, hsame⟩ :=
    ofOptions_judges .standard (some "") (some [some "a", none, some "b c"])
  have hreported : ofOptions .standard (some "") (some [some "a", none, some "b c"])
      = .error (.invalidDependencies [none, some "b c"]) := by
    refine (hanswer _).2 (.badEntries ⟨none, by simp, .absent⟩ ?_ fun d => ?_)
    · exact .cons (by rintro _ (_ | ⟨_, ⟨⟩⟩); exact .absent) (List.pairwise_singleton _ _)
    · simp only [Option.getD_some, List.mem_cons, List.not_mem_nil, or_false]
      constructor
      · rintro (rfl | rfl)
        · exact ⟨by simp, .absent⟩
        · exact ⟨by simp, hbad⟩
      · rintro ⟨rfl | rfl | rfl, h⟩
        · exact absurd h hgood
        · exact .inl rfl
        · exact .inr rfl
  exact ⟨hmem, hreported, (hsame (some _) hmem).trans hreported⟩

end Specification

end SpecCatalog
