import SpecCatalog.Name.Rules

/-!
# The standard pattern

A search for the standard pattern begins a piece at the start of the text only, and what it
has begun goes on as long as the characters are right and must come to the end of the text. So
the pattern is found exactly in texts of the right characters (`foundIn_standard`).
-/

namespace SpecCatalog.NameRules

open Pattern Pattern.Expr

variable {name : String}

/-- What a name may begin with. -/
def firstChar : CharClass :=
  .or (.or (.or (.span 'A' 'Z') (.span 'a' 'z')) (.span '0' '9')) (.span '_' '_')

/-- What a name may go on with. -/
def laterChar : CharClass := .or firstChar (.span '-' '-')

/-- What is asked for behind the first character. -/
def later : Expr := .cat (.times (.chars laterChar) 0 none) (.look .textEnd)

theorem pattern_standard :
    standard.pattern = .cat (.look .textStart) (.cat (.chars firstChar) later) := by
  decide +kernel

/-! ## Going on -/

theorem nullable_later (p : Place) : later.nullable p = p.after.isNone := rfl

theorem derivatives_later (p : Place) (c : Char) :
    derivatives p c later = if laterChar.contains c then [later] else [] := by
  unfold later
  simp only [derivatives, nullable]
  cases laterChar.contains c with
  | true => rfl
  | false => rfl

theorem nullable_standard (p : Place) : standard.pattern.nullable p = false := by
  rw [pattern_standard]
  simp [nullable]

theorem derivatives_standard (p : Place) (c : Char) : derivatives p c standard.pattern
    = if p.before.isNone && firstChar.contains c then [later] else [] := by
  obtain ⟨before, after⟩ := p
  rw [pattern_standard]
  simp only [derivatives, nullable, Look.holds]
  cases before with
  | none =>
    cases firstChar.contains c with
    | true => rfl
    | false => rfl
  | some b => rfl

/-- After the start no new piece is begun. -/
theorem searchFrom_nothing (b : Char) (cs : List Char) :
    searchFrom standard.pattern [] (some b) cs = false := by
  induction cs generalizing b with
  | nil => simp [searchFrom, nullable_standard]
  | cons c cs ih =>
    rw [searchFrom]
    simp only [List.any_cons, List.any_nil, nullable_standard, List.flatMap_cons, List.flatMap_nil,
      derivatives_standard]
    exact ih c

theorem searchFrom_later (b : Char) (cs : List Char) :
    searchFrom standard.pattern [later] (some b) cs = cs.all laterChar.contains := by
  induction cs generalizing b with
  | nil => simp [searchFrom, nullable_standard, nullable_later]
  | cons c cs ih =>
    rw [searchFrom]
    simp only [List.any_cons, List.any_nil, nullable_standard, nullable_later, List.flatMap_cons,
      List.flatMap_nil, derivatives_standard, derivatives_later, List.all_cons]
    cases laterChar.contains c with
    | true => exact ih c
    | false => exact searchFrom_nothing c cs

/-- **The pattern is found in one right first character with right characters behind it.** -/
theorem foundIn_standard : standard.pattern.foundIn name = true ↔
    ∃ c cs, name.toList = c :: cs ∧ firstChar.contains c = true
      ∧ ∀ d ∈ cs, laterChar.contains d = true := by
  unfold foundIn
  cases name.toList with
  | nil => simp [searchFrom, nullable_standard]
  | cons c cs =>
    rw [searchFrom]
    simp only [List.any_cons, List.any_nil, nullable_standard, List.flatMap_cons, List.flatMap_nil,
      derivatives_standard]
    cases hc : firstChar.contains c with
    | true =>
      change searchFrom standard.pattern [later] (some c) cs = true ↔ _
      rw [searchFrom_later, List.all_eq_true]
      constructor
      · exact fun h => ⟨c, cs, rfl, hc, h⟩
      · rintro ⟨d, ds, he, _, h⟩
        cases he
        exact h
    | false =>
      change searchFrom standard.pattern [] (some c) cs = true ↔ _
      rw [searchFrom_nothing]
      refine ⟨nofun, ?_⟩
      rintro ⟨d, ds, he, hd, _⟩
      cases he
      rw [hc] at hd
      cases hd

theorem laterChar_of_firstChar {c : Char} (h : firstChar.contains c = true) :
    laterChar.contains c = true := by
  rw [laterChar, CharClass.contains, h]
  rfl

/-- All characters of a valid name are right. -/
theorem laterChar_of_isValid (h : standard.isValid name = true) :
    ∀ c ∈ name.toList, laterChar.contains c = true := by
  unfold isValid at h
  rw [Bool.and_eq_true] at h
  obtain ⟨c, cs, he, hc, hcs⟩ := foundIn_standard.1 h.2
  rw [he]
  exact List.forall_mem_cons.2 ⟨laterChar_of_firstChar hc, hcs⟩

theorem nul_not_mem_of_isValid (h : standard.isValid name = true) : '\x00' ∉ name.toList := by
  intro hnul
  have hright := laterChar_of_isValid h _ hnul
  revert hright
  decide

end SpecCatalog.NameRules
