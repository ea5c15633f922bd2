import SpecCatalog.Proofs.Layout.Paths
import SpecCatalog.Proofs.Name.Standard

/-!
# Standard names by their characters

The standard pattern is written in ranges and searched for in all of a text. What comes of that
is a plain condition on the characters: a letter, a digit or an underscore first, and then any
number of these or of hyphens, all of them ASCII (`isValid_standard_iff`). Every character
counts, the last one as well, so a name with a line break at its end is none.
-/

namespace SpecCatalog.NameRules

variable {c : Char} {name : String}

/-- An ASCII letter or digit, or an underscore. -/
def BeginsName (c : Char) : Prop := c.isAlphanum = true ∨ c = '_'

def ContinuesName (c : Char) : Prop := BeginsName c ∨ c = '-'

theorem span_self (d : Char) : (Pattern.CharClass.span d d).contains c = true ↔ c = d := by
  rw [Pattern.CharClass.contains, Bool.and_eq_true, decide_eq_true_eq, decide_eq_true_eq]
  exact ⟨fun h => Char.le_antisymm h.2 h.1, fun h => h ▸ ⟨Char.le_refl c, Char.le_refl c⟩⟩

theorem isAlphanum_iff : c.isAlphanum = true ↔
    ((65 ≤ c.toNat ∧ c.toNat ≤ 90) ∨ 97 ≤ c.toNat ∧ c.toNat ≤ 122)
      ∨ 48 ≤ c.toNat ∧ c.toNat ≤ 57 := by
  change ((decide ('A'.val ≤ c.val ∧ c.val ≤ 'Z'.val)
    || (decide ('a'.val ≤ c.val) && decide (c.val ≤ 'z'.val)))
    || (decide ('0'.val ≤ c.val) && decide (c.val ≤ '9'.val))) = true ↔ _
  simp only [Bool.or_eq_true, Bool.and_eq_true, decide_eq_true_eq, UInt32.le_iff_toNat_le]
  exact Iff.rfl

theorem firstChar_iff : firstChar.contains c = true ↔ BeginsName c := by
  unfold firstChar BeginsName
  rw [Pattern.CharClass.contains, Bool.or_eq_true, span_self, isAlphanum_iff]
  refine or_congr_left ?_
  simp only [Pattern.CharClass.contains, Bool.or_eq_true, Bool.and_eq_true, decide_eq_true_eq]
  exact Iff.rfl

theorem laterChar_iff : laterChar.contains c = true ↔ ContinuesName c := by
  unfold laterChar ContinuesName
  rw [Pattern.CharClass.contains, Bool.or_eq_true, span_self, firstChar_iff]

/-! ## Characters that no name has -/

/-- All blanks and line breaks of Unicode, dots, what divides paths, and all that is no ASCII. -/
def OutsideNames (c : Char) : Prop :=
  Unicode.whiteSpace.contains c = true ∨ c ∈ ['.', '/', '\\'] ∨ 127 < c.toNat

theorem spans_whiteSpace : Unicode.whiteSpace.spans = [(9, 13), (32, 32), (133, 133), (160, 160),
    (5760, 5760), (8192, 8202), (8232, 8233), (8239, 8239), (8287, 8287), (12288, 12288)] := by
  decide +kernel

theorem toNat_of_continuesName (h : ContinuesName c) : c.toNat ∈ [45, 95]
    ∨ (48 ≤ c.toNat ∧ c.toNat ≤ 57) ∨ (65 ≤ c.toNat ∧ c.toNat ≤ 90)
    ∨ (97 ≤ c.toNat ∧ c.toNat ≤ 122) := by
  rcases h with (h | rfl) | rfl
  · rw [isAlphanum_iff] at h
    omega
  · exact .inl (by decide)
  · exact .inl (by decide)

theorem not_continuesName_of_outside (h : OutsideNames c) : ¬ ContinuesName c := by
  intro hname
  have hcode := toNat_of_continuesName hname
  rw [List.mem_cons, List.mem_singleton] at hcode
  rcases h with hspace | hsign | hlarge
  · unfold Unicode.Ranges.contains at hspace
    rw [spans_whiteSpace] at hspace
    simp only [List.any_cons, List.any_nil, Bool.or_eq_true, Bool.and_eq_true,
      decide_eq_true_eq, Bool.false_eq_true, or_false] at hspace
    omega
  · have hsigns : c.toNat ∈ [46, 47, 92] := List.mem_map.2 ⟨c, hsign, rfl⟩
    simp only [List.mem_cons, List.not_mem_nil, or_false] at hsigns
    omega
  · omega

/-! ## Names -/

theorem ne_slash_of_continuesName (h : ContinuesName c) : c ≠ '/' ∧ c ≠ '\\' := by
  constructor
  · rintro rfl
    exact not_continuesName_of_outside (.inr (.inl (by decide))) h
  · rintro rfl
    exact not_continuesName_of_outside (.inr (.inl (by decide))) h

/-- A text of the right characters. -/
def IsStandardName (name : String) : Prop :=
  ∃ first rest, name.toList = first :: rest ∧ BeginsName first ∧ ∀ c ∈ rest, ContinuesName c

theorem IsStandardName.continuesName (h : IsStandardName name) :
    ∀ c ∈ name.toList, ContinuesName c := by
  obtain ⟨first, rest, hname, hfirst, hrest⟩ := h
  rw [hname]
  exact List.forall_mem_cons.2 ⟨.inl hfirst, hrest⟩

theorem foundIn_standard_iff : standard.pattern.foundIn name = true ↔ IsStandardName name := by
  rw [foundIn_standard]
  unfold IsStandardName
  simp only [firstChar_iff, laterChar_iff]

theorem isValid_iff_isStandardName : standard.isValid name = true ↔ IsStandardName name := by
  unfold isValid
  rw [Bool.and_eq_true, foundIn_standard_iff]
  refine ⟨fun h => h.2, fun h => ⟨?_, h⟩⟩
  -- the right characters make the text a file name as well
  rw [Bool.and_eq_true, List.all_eq_true]
  refine ⟨?_, fun c hc => ?_⟩
  · obtain ⟨first, rest, hname, -⟩ := h
    rw [Bool.not_eq_true', String.isEmpty_eq_false_iff]
    rintro rfl
    cases hname
  · obtain ⟨hslash, hback⟩ := ne_slash_of_continuesName (h.continuesName c hc)
    simp [hslash, hback]

/-- **The standard pattern means what it says on every text.** It is a pattern that can be read,
and the names it stands for are the texts that begin with an ASCII letter, a digit or an
underscore and go on with these and hyphens. So nothing with a line break, also at its end, with
any other blank, a dot, a slash or a backslash, or with a character beyond ASCII is a name. -/
theorem isValid_standard_iff (name : String) :
    ofPattern standardPattern = .ok standard
      ∧ (standard.isValid name = true ↔ ∃ first rest, name.toList = first :: rest
          ∧ (first.isAlphanum = true ∨ first = '_')
          ∧ ∀ c ∈ rest, c.isAlphanum = true ∨ c = '_' ∨ c = '-')
      ∧ ∀ c ∈ name.toList,
          Unicode.whiteSpace.contains c = true ∨ c ∈ ['.', '/', '\\'] ∨ 127 < c.toNat →
          standard.isValid name = false := by
  refine ⟨ofPattern_standardPattern, ?_, fun c hc houtside => ?_⟩
  · rw [isValid_iff_isStandardName]
    unfold IsStandardName ContinuesName BeginsName
    simp only [or_assoc]
  · rw [Bool.eq_false_iff]
    intro hvalid
    have hname := isValid_iff_isStandardName.1 hvalid
    exact not_continuesName_of_outside houtside (hname.continuesName c hc)

/-- A name, and the same text with a line break at its end. -/
theorem isValid_standard_broken : standard.isValid "m3-core" = true
    ∧ '\n' ∈ "m3-core\n".toList ∧ Unicode.whiteSpace.contains '\n' = true
    ∧ standard.isValid "m3-core\n" = false := by
  have hbreak : '\n' ∈ "m3-core\n".toList := by decide
  have hspace : Unicode.whiteSpace.contains '\n' = true := by decide +kernel
  have hrest : ['3', '-', 'c', 'o', 'r', 'e'].all
      (fun c => c.isAlphanum = true ∨ c = '_' ∨ c = '-') = true := by decide
  refine ⟨(isValid_standard_iff "m3-core").2.1.2 ⟨'m', ['3', '-', 'c', 'o', 'r', 'e'], ?_, ?_, ?_⟩,
    hbreak, hspace, (isValid_standard_iff "m3-core\n").2.2 '\n' hbreak (.inl hspace)⟩
  · decide
  · decide
  · exact fun c hc => of_decide_eq_true (List.all_eq_true.1 hrest c hc)

end SpecCatalog.NameRules
