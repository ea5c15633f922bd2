import SpecCatalog.Name.Set
import SpecCatalog.Proofs.Text.Lossless

/-!
# Texts in the order of their bytes

Names are kept in the order of their characters. That is the order of their bytes as well
(`toBytes_lt_iff`): of two characters the one with the smaller code point has the smaller bytes,
because a form of more bytes begins with a larger one.
-/

namespace SpecCatalog.Text

theorem ofNat_cons_lt_iff {m n : Nat} (hm : m < 256) (hn : n < 256) {l l' : Bytes} :
    UInt8.ofNat m :: l < UInt8.ofNat n :: l' ↔ m < n ∨ m = n ∧ l < l' := by
  rw [List.cons_lt_cons_iff, UInt8.lt_iff_toNat_lt, ← UInt8.toNat_inj, toNat_ofNat hm,
    toNat_ofNat hn]

/-- The smaller of two characters has the smaller bytes, whatever follows. -/
theorem utf8EncodeChar_append_lt {a b : Char} (h : a < b) (x y : Bytes) :
    String.utf8EncodeChar a ++ x < String.utf8EncodeChar b ++ y := by
  have hlt : a.val.toNat < b.val.toNat := h
  have hb : b.val.toNat < 0x110000 := by
    rcases b.valid with hb | hb
    · exact Nat.lt_trans hb (by decide)
    · exact hb.2
  unfold String.utf8EncodeChar
  dsimp only
  generalize a.val.toNat = v at hlt
  generalize b.val.toNat = w at hlt hb
  have htwo : ∀ n : Nat, n / 4096 = n / 64 / 64 := fun n => (Nat.div_div_eq_div_mul n 64 64).symm
  have hthree : ∀ n : Nat, n / 262144 = n / 64 / 64 / 64 := by
    intro n
    rw [Nat.div_div_eq_div_mul, Nat.div_div_eq_div_mul]
  -- characters of one byte, then of two, three and four, against each of these
  repeat' split
  all_goals
    simp (disch := omega) only [List.cons_append, List.nil_append, htwo, hthree,
      ofNat_cons_lt_iff]
    omega

theorem flatMap_utf8EncodeChar_lt {as bs : List Char} (h : as < bs) :
    as.flatMap String.utf8EncodeChar < bs.flatMap String.utf8EncodeChar := by
  induction h with
  | nil =>
    rename_i b bs
    rw [List.flatMap_nil, List.flatMap_cons]
    cases hb : String.utf8EncodeChar b with
    | nil => exact absurd hb String.utf8EncodeChar_ne_nil
    | cons x xs => exact .nil
  | rel h =>
    rw [List.flatMap_cons, List.flatMap_cons]
    exact utf8EncodeChar_append_lt h _ _
  | cons _ ih =>
    rw [List.flatMap_cons, List.flatMap_cons]
    exact List.append_left_lt ih

/-- **Names are in the order of their bytes.** -/
theorem toBytes_lt_iff {a b : String} : toBytes a < toBytes b ↔ a < b := by
  have hlt : ∀ {a b : String}, a < b → toBytes a < toBytes b := by
    intro a b h
    rw [toBytes_eq, toBytes_eq]
    exact flatMap_utf8EncodeChar_lt h
  refine ⟨fun h => ?_, hlt⟩
  refine Classical.byContradiction fun hnot => ?_
  by_cases heq : a = b
  · exact List.lt_irrefl _ (heq ▸ h)
  · exact List.lt_irrefl _ (List.lt_trans h (hlt (NameSet.lt_of_not_lt_of_ne hnot heq)))

end SpecCatalog.Text
