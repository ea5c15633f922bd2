import SpecCatalog.Text.Lossy

/-!
# Reading text loses nothing of a text

Reading bytes with replacements gives back the text if they are the UTF-8 form of one
(`ofBytesLossy_toBytes`). This goes by the characters of the text: a character of one byte is
read as it is, and one of more is put together from the bytes that its first byte announces
(`lossyFrom_announced`).
-/

namespace SpecCatalog.Text

/-- A text is written character by character. -/
theorem toBytes_eq (s : String) : toBytes s = s.toList.flatMap String.utf8EncodeChar := by
  unfold toBytes
  rw [← String.utf8Encode_toList, List.utf8Encode]
  simp

/-! ## The bytes of one character -/

theorem lossyFrom_pending (tail rest : Bytes) :
    lossyFrom tail.length (tail ++ rest) = lossyFrom 0 rest := by
  induction tail with
  | nil => rfl
  | cons b tail ih => exact ih

theorem continuing_cons {wanted : Nat} {low high b : UInt8} {bs : Bytes}
    (hlow : low.toNat ≤ b.toNat) (hhigh : b.toNat ≤ high.toNat) :
    continuing (wanted + 1) low high (b :: bs) = continuing wanted 0x80 0xbf bs + 1 := by
  rw [continuing, if_pos]
  rw [Bool.and_eq_true, decide_eq_true_eq, decide_eq_true_eq]
  exact ⟨hlow, hhigh⟩

/-- The first byte announces so many bytes, and the next is in the range it asks for. -/
def Announces (b next : UInt8) (wanted : Nat) : Prop :=
  ¬ b < 0x80 ∧ ∃ low high, continuation b = some (wanted, low, high)
    ∧ low.toNat ≤ next.toNat ∧ next.toNat ≤ high.toNat

/-- A byte that goes on with a character. -/
def GoesOn (b : UInt8) : Prop := 0x80 ≤ b.toNat ∧ b.toNat ≤ 0xbf

theorem announces_one {b next : UInt8} (hb : 0xc2 ≤ b.toNat ∧ b.toNat ≤ 0xdf)
    (hnext : GoesOn next) : Announces b next 1 := by
  refine ⟨?_, 0x80, 0xbf, ?_, hnext⟩
  · rw [UInt8.lt_iff_toNat_lt, Nat.not_lt]
    exact Nat.le_trans (by decide) hb.1
  · unfold continuation
    rw [if_pos]
    rw [Bool.and_eq_true, decide_eq_true_eq, decide_eq_true_eq]
    exact hb

theorem continuation_of_two {b : UInt8} (hb : 0xe0 ≤ b.toNat ∧ b.toNat ≤ 0xef) :
    (b.toNat = 0xe0 ∧ continuation b = some (2, 0xa0, 0xbf))
      ∨ (b.toNat = 0xed ∧ continuation b = some (2, 0x80, 0x9f))
      ∨ continuation b = some (2, 0x80, 0xbf) := by
  unfold continuation
  simp only [UInt8.le_iff_toNat_le, ← UInt8.toNat_inj, Bool.and_eq_true, decide_eq_true_eq]
  simp
  grind

theorem continuation_of_three {b : UInt8} (hb : 0xf0 ≤ b.toNat ∧ b.toNat ≤ 0xf4) :
    (b.toNat = 0xf0 ∧ continuation b = some (3, 0x90, 0xbf))
      ∨ (b.toNat = 0xf4 ∧ continuation b = some (3, 0x80, 0x8f))
      ∨ continuation b = some (3, 0x80, 0xbf) := by
  unfold continuation
  simp only [UInt8.le_iff_toNat_le, ← UInt8.toNat_inj, Bool.and_eq_true, decide_eq_true_eq]
  simp
  grind

/-- What comes first after two of the first bytes is kept from short or surrogate forms. -/
theorem announces_two {b next : UInt8} (hb : 0xe0 ≤ b.toNat ∧ b.toNat ≤ 0xef)
    (hnext : GoesOn next) (hlow : b.toNat = 0xe0 → 0xa0 ≤ next.toNat)
    (hhigh : b.toNat = 0xed → next.toNat ≤ 0x9f) : Announces b next 2 := by
  refine ⟨by rw [UInt8.lt_iff_toNat_lt, Nat.not_lt]; exact Nat.le_trans (by decide) hb.1, ?_⟩
  rcases continuation_of_two hb with ⟨h, hb⟩ | ⟨h, hb⟩ | hb
  · exact ⟨_, _, hb, hlow h, hnext.2⟩
  · exact ⟨_, _, hb, hnext.1, hhigh h⟩
  · exact ⟨_, _, hb, hnext⟩

/-- The same for short forms and those past the last character. -/
theorem announces_three {b next : UInt8} (hb : 0xf0 ≤ b.toNat ∧ b.toNat ≤ 0xf4)
    (hnext : GoesOn next) (hlow : b.toNat = 0xf0 → 0x90 ≤ next.toNat)
    (hhigh : b.toNat = 0xf4 → next.toNat ≤ 0x8f) : Announces b next 3 := by
  refine ⟨by rw [UInt8.lt_iff_toNat_lt, Nat.not_lt]; exact Nat.le_trans (by decide) hb.1, ?_⟩
  rcases continuation_of_three hb with ⟨h, hb⟩ | ⟨h, hb⟩ | hb
  · exact ⟨_, _, hb, hlow h, hnext.2⟩
  · exact ⟨_, _, hb, hnext.1, hhigh h⟩
  · exact ⟨_, _, hb, hnext⟩

theorem continuing_goesOn {tail : Bytes} (h : ∀ b ∈ tail, GoesOn b) (rest : Bytes) :
    continuing tail.length 0x80 0xbf (tail ++ rest) = tail.length := by
  induction tail with
  | nil => cases rest <;> rfl
  | cons b tail ih =>
    rw [List.forall_mem_cons] at h
    have hlow : (0x80 : UInt8).toNat ≤ b.toNat := h.1.1
    have hhigh : b.toNat ≤ (0xbf : UInt8).toNat := h.1.2
    exact (continuing_cons hlow hhigh).trans (congrArg (· + 1) (ih h.2))

/-- A byte that announces those after it makes a character of them all. -/
theorem lossyFrom_announced {b next : UInt8} {tail : Bytes}
    (hb : Announces b next (tail.length + 1)) (htail : ∀ b ∈ tail, GoesOn b) (rest : Bytes) :
    lossyFrom 0 (b :: next :: tail ++ rest)
      = Char.ofNat ((next :: tail).foldl (fun n b => n * 64 + b.toNat % 64)
          (b.toNat % Nat.pow 2 (6 - (tail.length + 1)))) :: lossyFrom 0 rest := by
  obtain ⟨hlarge, low, high, hfirst, hlow, hhigh⟩ := hb
  have hall : continuing (tail.length + 1) low high (next :: tail ++ rest) = tail.length + 1 :=
    (continuing_cons hlow hhigh).trans (congrArg (· + 1) (continuing_goesOn htail rest))
  have htake : (next :: tail ++ rest).take (tail.length + 1) = next :: tail := by
    rw [← List.length_cons, List.take_left]
  rw [List.cons_append, lossyFrom, if_neg hlarge, hfirst]
  dsimp only
  rw [hall, if_pos rfl, htake]
  exact congrArg _ (lossyFrom_pending (next :: tail) rest)

/-! ## Characters -/

theorem toNat_ofNat {n : Nat} (h : n < 256) : (UInt8.ofNat n).toNat = n := by
  rw [UInt8.toNat_ofNat', Nat.mod_eq_of_lt h]

theorem goesOn_ofNat (n : Nat) : GoesOn (UInt8.ofNat (n % 64 + 128)) := by
  unfold GoesOn
  rw [toNat_ofNat (by omega)]
  omega

/-- **A character is read from its bytes.** -/
theorem lossyFrom_utf8EncodeChar (c : Char) (rest : Bytes) :
    lossyFrom 0 (String.utf8EncodeChar c ++ rest) = c :: lossyFrom 0 rest := by
  have hvalid : c.val.toNat < 0xd800 ∨ 0xdfff < c.val.toNat ∧ c.val.toNat < 0x110000 := c.valid
  have hc : ∀ n, n = c.val.toNat → Char.ofNat n = c := fun n hn => hn ▸ Char.ofNat_toNat c
  unfold String.utf8EncodeChar
  dsimp only
  generalize c.val.toNat = v at hvalid hc
  -- characters of one byte, then of two, three and four
  split
  · have hb := toNat_ofNat (show v < 256 by omega)
    have hsmall : UInt8.ofNat v < 0x80 := by
      rw [UInt8.lt_iff_toNat_lt, hb]
      exact Nat.lt_succ_of_le ‹v ≤ 127›
    rw [List.singleton_append, lossyFrom, if_pos hsmall, hb, hc v rfl]
  split
  · have hb := toNat_ofNat (show v / 64 % 32 + 192 < 256 by omega)
    refine (lossyFrom_announced (announces_one ?_ (goesOn_ofNat v)) ?_ rest).trans ?_
    · rw [hb]
      omega
    · nofun
    · rw [hc]
      simp
      omega
  split
  · have hb := toNat_ofNat (show v / 4096 % 16 + 224 < 256 by omega)
    have hnext := toNat_ofNat (show v / 64 % 64 + 128 < 256 by omega)
    refine (lossyFrom_announced (announces_two ?_ (goesOn_ofNat (v / 64)) ?_ ?_) ?_ rest).trans ?_
    · rw [hb]
      omega
    · rw [hb, hnext]
      omega
    · rw [hb, hnext]
      omega
    · exact List.forall_mem_singleton.2 (goesOn_ofNat v)
    · rw [hc]
      simp
      omega
  · have hb := toNat_ofNat (show v / 262144 % 8 + 240 < 256 by omega)
    have hnext := toNat_ofNat (show v / 4096 % 64 + 128 < 256 by omega)
    refine (lossyFrom_announced (announces_three ?_ (goesOn_ofNat (v / 4096)) ?_ ?_) ?_
      rest).trans ?_
    · rw [hb]
      omega
    · rw [hb, hnext]
      omega
    · rw [hb, hnext]
      omega
    · exact List.forall_mem_cons.2
        ⟨goesOn_ofNat (v / 64), List.forall_mem_singleton.2 (goesOn_ofNat v)⟩
    · rw [hc]
      simp
      omega

theorem lossyFrom_flatMap (cs : List Char) :
    lossyFrom 0 (cs.flatMap String.utf8EncodeChar) = cs := by
  induction cs with
  | nil => rfl
  | cons c cs ih => rw [List.flatMap_cons, lossyFrom_utf8EncodeChar, ih]

/-- **Reading with replacements loses nothing of a text.** -/
theorem ofBytesLossy_toBytes (s : String) : ofBytesLossy (toBytes s) = s := by
  rw [ofBytesLossy, toBytes_eq, lossyFrom_flatMap, String.ofList_toList]

end SpecCatalog.Text
