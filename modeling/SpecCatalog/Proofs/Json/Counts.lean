import SpecCatalog.Proofs.Json.Records

/-!
# Counts

A count is written as a whole number: the digit zero, or digits that begin with another one,
without a sign, a fraction or an exponent. Where a count is wanted the reader takes these forms
as long as the number fits into 64 bits (`takesInside_countValue`), and no other number: one with
a sign is negative or kept as floating point, and so is one with a fraction, with an exponent, or
of more than 64 bits (`derived_countValue`).

The digits of a number only end where something else comes, so a count is read inside of a
container, where a blank, a comma or a bracket comes next.
-/

namespace SpecCatalog.Json

open Scan Number

/-- The counts that fit into 64 bits are below this bound. -/
def countLimit : Nat := Nat.pow 2 64

def IsDigit (b : UInt8) : Prop := 0x30 ≤ b ∧ b ≤ 0x39

def digitValue (b : UInt8) : Nat := b.toNat - 0x30

/-- The number that more digits make of a number. -/
def extended (n : Nat) (w : Bytes) : Nat := w.foldl (fun n b => n * 10 + digitValue b) n

inductive CountForm : Writing Nat where
  | zero : CountForm [Byte.zero] 0
  | digits {b : UInt8} {w : Bytes} :
      IsDigit b → b ≠ Byte.zero → (∀ d ∈ w, IsDigit d) →
      CountForm (b :: w) (extended (digitValue b) w)

theorem isDigit_iff {b : UInt8} : (0x30 ≤ b && b ≤ 0x39) = true ↔ IsDigit b := by
  rw [Bool.and_eq_true, decide_eq_true_eq, decide_eq_true_eq]
  rfl

theorem digitValue_lt {b : UInt8} (h : IsDigit b) : digitValue b < 10 := by
  have hle : b.toNat ≤ 57 := UInt8.le_iff_toNat_le.1 h.2
  unfold digitValue
  omega

theorem countForm_head {w : Bytes} {n : Nat} (h : CountForm w n) :
    ∃ b rest, w = b :: rest ∧ IsDigit b := by
  cases h with
  | zero => exact ⟨Byte.zero, [], rfl, by decide, by decide⟩
  | @digits b w hb _ _ => exact ⟨b, w, rfl, hb⟩

theorem isDigit_not_blank {b : UInt8} (h : IsDigit b) :
    isBlank b = false ∧ b ≠ Byte.minus ∧ b ≠ Byte.closeList := by
  have hle := UInt8.le_iff_toNat_le.1 h.1
  refine ⟨?_, ?_, ?_⟩
  · unfold isBlank
    simp only [Bool.or_eq_false_iff, decide_eq_false_iff_not]
    refine ⟨⟨⟨?_, ?_⟩, ?_⟩, ?_⟩
    all_goals
      rintro rfl
      exact absurd hle (by decide)
  · rintro rfl
    exact absurd hle (by decide)
  · rintro rfl
    exact absurd h.2 (by decide)

/-! ## Digits and 64 bits -/

theorem le_extended (n : Nat) (w : Bytes) : n ≤ extended n w := by
  induction w generalizing n with
  | nil => exact Nat.le_refl n
  | cons b w ih =>
    have hmore := ih (n * 10 + digitValue b)
    change n ≤ extended (n * 10 + digitValue b) w
    omega

theorem gather_of_lt {n : Nat} {w : Bytes} (h : extended n w < countLimit) :
    gather n (w.map digitValue) = (extended n w, w.length) := by
  induction w generalizing n with
  | nil => rfl
  | cons b w ih =>
    have hfits : n * 10 + digitValue b < Nat.pow 2 64 :=
      Nat.lt_of_le_of_lt (le_extended _ w) h
    rw [List.map_cons, gather, if_pos hfits, ih h]
    rfl

theorem gather_le (n : Nat) (ds : List Nat) : (gather n ds).2 ≤ ds.length := by
  induction ds generalizing n with
  | nil => exact Nat.le_refl 0
  | cons d ds ih =>
    rw [gather]
    split
    · exact Nat.succ_le_succ (ih _)
    · exact Nat.zero_le _

/-- All digits go in only if the number fits. -/
theorem of_gather_all {n : Nat} {w : Bytes} (hn : n < countLimit)
    (h : (gather n (w.map digitValue)).2 = w.length) :
    (gather n (w.map digitValue)).1 = extended n w ∧ extended n w < countLimit := by
  induction w generalizing n with
  | nil => exact ⟨rfl, hn⟩
  | cons b w ih =>
    rw [List.map_cons, gather] at h ⊢
    split at h
    · rename_i hfits
      rw [if_pos hfits]
      exact ih hfits (Nat.succ.inj h)
    · cases h

/-! ## The reader takes every count -/

/-- What may come after a number inside of a container does not go on with it. -/
def EndsNumber (b : UInt8) : Prop :=
  ¬ IsDigit b ∧ b ≠ Byte.point ∧ b ≠ Byte.ofChar 'e' ∧ b ≠ Byte.ofChar 'E'

theorem Stops.endsNumber {t : Bytes} (h : Stops t) : ∃ b rest, t = b :: rest ∧ EndsNumber b := by
  obtain ⟨b, rest, rfl, hb⟩ := h
  refine ⟨b, rest, rfl, ?_⟩
  unfold isBlank at hb
  simp only [Bool.or_eq_true, decide_eq_true_eq] at hb
  rcases hb with (((rfl | rfl) | rfl) | rfl) | rfl | rfl | rfl
  all_goals exact ⟨fun hd => absurd hd (by unfold IsDigit; decide), by decide, by decide, by decide⟩

theorem gives_peekDigit {b : UInt8} (h : IsDigit b) (t : Bytes) :
    Gives peekDigit (b :: t) (some (digitValue b)) (b :: t) := by
  refine (gives_peek b t).bind ?_
  dsimp only
  rw [if_pos (isDigit_iff.2 h)]
  exact .pure _ _

theorem gives_peekDigit_none {b : UInt8} (h : ¬ IsDigit b) (t : Bytes) :
    Gives peekDigit (b :: t) none (b :: t) := by
  refine (gives_peek b t).bind ?_
  dsimp only
  rw [if_neg (fun hd => h (isDigit_iff.1 hd))]
  exact .pure _ _

theorem gives_digitsFor {w t : Bytes} {b : UInt8} (hw : ∀ d ∈ w, IsDigit d) (hb : ¬ IsDigit b)
    {fuel : Nat} (hfuel : w.length < fuel) :
    Gives (digitsFor fuel) (w ++ b :: t) (w.map digitValue) (b :: t) := by
  induction w generalizing fuel with
  | nil =>
    cases fuel with
    | zero => exact absurd hfuel (Nat.not_lt_zero _)
    | succ fuel => exact (gives_peekDigit_none hb t).bind (.pure [] _)
  | cons d w ih =>
    rw [List.forall_mem_cons] at hw
    cases fuel with
    | zero => exact absurd hfuel (Nat.not_lt_zero _)
    | succ fuel =>
      have hmore := ih hw.2 (Nat.lt_of_succ_lt_succ hfuel)
      exact (gives_peekDigit hw.1 _).bind ((gives_skip d _).bind (hmore.bind (.pure _ _)))

theorem gives_digits {w t : Bytes} {b : UInt8} (hw : ∀ d ∈ w, IsDigit d) (hb : ¬ IsDigit b) :
    Gives digits (w ++ b :: t) (w.map digitValue) (b :: t) := by
  have hfuel : w.length < (w ++ b :: t).length := by
    rw [List.length_append, List.length_cons]
    omega
  exact .measured (g := digitsFor) (gives_digitsFor hw hb hfuel)

theorem gives_rest {b : UInt8} (hb : EndsNumber b) (n : Nat) (t : Bytes) :
    Gives (number.rest true n 0) (b :: t) (.integer n) (b :: t) := by
  refine (gives_peek b t).bind ?_
  dsimp only
  rw [if_neg hb.2.1, if_neg (by simpa using hb.2.2)]
  exact .pure _ _

theorem gives_number {w t : Bytes} {n : Nat} (hw : CountForm w n) (hn : n < countLimit)
    (ht : Stops t) : Gives (number true) (w ++ t) (.integer n) t := by
  obtain ⟨b, rest, rfl, hb⟩ := ht.endsNumber
  cases hw with
  | zero =>
    refine (gives_next _ _).bind ?_
    dsimp only
    rw [if_pos rfl]
    refine (gives_peekDigit_none hb.1 _).bind ?_
    exact gives_rest hb 0 rest
  | @digits d w hd hzero hmore =>
    have hlow : (0x31 ≤ d && d ≤ 0x39) = true := by
      have hle := UInt8.le_iff_toNat_le.1 hd.1
      have hne : d.toNat ≠ 48 := fun he => hzero (UInt8.toNat_inj.1 he)
      rw [Bool.and_eq_true, decide_eq_true_eq, decide_eq_true_eq]
      refine ⟨UInt8.le_iff_toNat_le.2 ?_, hd.2⟩
      change 48 ≤ d.toNat at hle
      change 49 ≤ d.toNat
      omega
    rw [List.cons_append]
    refine (gives_next d _).bind ?_
    dsimp only
    rw [if_neg hzero, if_pos hlow]
    refine (gives_digits hmore hb.1).bind ?_
    -- below the limit all digits go in and none is dropped
    have hgather : gather (d.toNat - 0x30) (w.map digitValue)
        = (extended (digitValue d) w, w.length) := gather_of_lt hn
    rw [hgather]
    dsimp only
    rw [List.length_map, Nat.sub_self]
    exact gives_rest hb _ rest

/-- The counts that are taken. -/
def BoundedCount : Writing Nat := fun w n => CountForm w n ∧ n < countLimit

theorem takesInside_countValue : TakesInside countValue BoundedCount := by
  rintro u w n hu ⟨hw, hn⟩ t ht
  obtain ⟨b, rest, rfl, hb⟩ := countForm_head hw
  obtain ⟨hblank, hminus, -⟩ := isDigit_not_blank hb
  rw [List.cons_append]
  refine .placed ((gives_peekPastBlanks hu hblank _).bind ?_)
  dsimp only
  rw [if_neg hminus, if_pos (isDigit_iff.2 hb)]
  exact (gives_number hw hn ht).bind (.pure n t)

/-! ## Whatever is read is a count -/

variable {c c' : Cursor} {positive : Bool} {n : Nat} {m : Number}

/-- Whatever the step gives is of this kind. -/
def OnlyGives {α : Type} (P : α → Prop) (x : Scan α) : Prop :=
  ∀ ⦃c c' : Cursor⦄ ⦃a : α⦄, x c = .ok a c' → P a

theorem onlyGives_pure {α : Type} {P : α → Prop} {a : α} (h : P a) :
    OnlyGives P (pure a : Scan α) := by
  intro c c' b hb
  cases hb
  exact h

/-- The last step decides about what is given. -/
theorem onlyGives_bind {α β : Type} {P : β → Prop} {x : Scan α} {f : α → Scan β}
    (hf : ∀ a, OnlyGives P (f a)) : OnlyGives P (x >>= f) := by
  intro c c' b h
  obtain ⟨a, c₁, _, h⟩ := exists_of_bind_eq_ok h
  exact hf a h

def Number.IsReal (m : Number) : Prop := ∃ x, m = .real x

theorem onlyGives_realNumber (positive : Bool) (n : Nat) (e : Int) :
    OnlyGives Number.IsReal (realNumber positive n e) := by
  unfold realNumber
  cases scaled n e with
  | some f => exact onlyGives_pure ⟨_, rfl⟩
  | none => exact nofun

theorem onlyGives_withExponent (positive : Bool) (n : Nat) (e : Int) :
    OnlyGives Number.IsReal (withExponent positive n e) := by
  unfold withExponent
  refine onlyGives_bind fun _ => onlyGives_bind fun rising => onlyGives_bind fun b? => ?_
  cases b? with
  | none => exact nofun
  | some b =>
    dsimp only
    split
    · refine onlyGives_bind fun x? => ?_
      cases x? with
      | some x => exact onlyGives_realNumber _ _ _
      | none => exact onlyGives_pure ⟨_, rfl⟩
    · exact nofun

theorem onlyGives_withFraction (positive : Bool) (n : Nat) (e : Int) :
    OnlyGives Number.IsReal (withFraction positive n e) := by
  unfold withFraction
  refine onlyGives_bind fun _ => onlyGives_bind fun ds => ?_
  split
  · refine onlyGives_bind fun b? => ?_
    cases b? with
    | none => exact nofun
    | some b => exact nofun
  · refine onlyGives_bind fun more => ?_
    split
    · exact onlyGives_withExponent _ _ _
    · exact onlyGives_realNumber _ _ _

/-- After its digits a number is whole, if all of them went in, or it is real. -/
theorem rest_cases {dropped : Nat} (h : number.rest positive n dropped c = .ok m c') :
    m.IsReal ∨ dropped = 0 ∧ m = ofSigned positive n ∧ Taken c [] c' := by
  have hwhole : ∀ {c₁ : Cursor}, Taken c [] c₁ → number.whole positive n dropped c₁ = .ok m c' →
      m.IsReal ∨ dropped = 0 ∧ m = ofSigned positive n ∧ Taken c [] c' := by
    intro c₁ htaken h
    unfold number.whole at h
    split at h
    · rename_i hnone
      cases h
      exact .inr ⟨hnone, rfl, htaken⟩
    · exact .inl (onlyGives_realNumber _ _ _ h)
  obtain ⟨b?, c₁, hpeek, h⟩ := exists_of_bind_eq_ok h
  have htaken := (taken_peek hpeek).1
  cases b? with
  | none => exact hwhole htaken h
  | some b =>
    dsimp only at h
    split at h
    · exact .inl (onlyGives_withFraction _ _ _ h)
    split at h
    · exact .inl (onlyGives_withExponent _ _ _ h)
    · exact hwhole htaken h

theorem taken_peekDigit {d? : Option Nat} (h : peekDigit c = .ok d? c') :
    Taken c [] c' ∧ ∀ d, d? = some d → ∃ b rest, c'.rest = b :: rest ∧ IsDigit b
      ∧ d = digitValue b := by
  obtain ⟨b?, c₁, hpeek, h⟩ := exists_of_bind_eq_ok h
  obtain ⟨htaken, hb⟩ := taken_peek hpeek
  cases b? with
  | none =>
    cases h
    exact ⟨htaken, nofun⟩
  | some b =>
    dsimp only at h
    split at h
    · rename_i hdigit
      cases h
      obtain ⟨rest, hrest⟩ := List.head?_eq_some_iff.1 hb.symm
      refine ⟨htaken, ?_⟩
      rintro d hd
      cases hd
      exact ⟨b, rest, hrest, isDigit_iff.1 hdigit, rfl⟩
    · cases h
      exact ⟨htaken, nofun⟩

theorem taken_digitsFor {fuel : Nat} {ds : List Nat} (h : digitsFor fuel c = .ok ds c') :
    ∃ w, (∀ b ∈ w, IsDigit b) ∧ ds = w.map digitValue ∧ Taken c w c' := by
  induction fuel generalizing c ds with
  | zero =>
    cases h
    exact ⟨[], nofun, rfl, .nil _⟩
  | succ fuel ih =>
    obtain ⟨d?, c₁, hpeek, h⟩ := exists_of_bind_eq_ok h
    obtain ⟨hpeeked, hdigit⟩ := taken_peekDigit hpeek
    cases d? with
    | none =>
      cases h
      exact ⟨[], nofun, rfl, hpeeked⟩
    | some d =>
      obtain ⟨b, rest, hrest, hb, rfl⟩ := hdigit d rfl
      obtain ⟨c₂, hskipped, h⟩ := exists_of_skip h hrest
      obtain ⟨ds', c₃, hmore, h⟩ := exists_of_bind_eq_ok h
      cases h
      obtain ⟨w, hw, rfl, htaken⟩ := ih hmore
      exact ⟨b :: w, List.forall_mem_cons.2 ⟨hb, hw⟩, rfl,
        hpeeked.append (hskipped.append htaken)⟩

/-- A number is real, or it has the form of a count behind its sign. -/
theorem number_cases (h : number positive c = .ok m c') :
    m.IsReal ∨ ∃ w n, BoundedCount w n ∧ m = ofSigned positive n ∧ Taken c w c' := by
  obtain ⟨b?, c₁, hnext, h⟩ := exists_of_bind_eq_ok h
  cases b? with
  | none => cases h
  | some b =>
    have hfirst := taken_next hnext
    dsimp only at h
    split at h
    · -- a zero has no digit after it
      rename_i hzero
      subst hzero
      obtain ⟨d?, c₂, hpeek, h⟩ := exists_of_bind_eq_ok h
      have hpeeked := (taken_peekDigit hpeek).1
      split at h
      · cases h
      · rcases rest_cases h with hreal | ⟨-, rfl, htaken⟩
        · exact .inl hreal
        · exact .inr ⟨[Byte.zero], 0, ⟨.zero, by decide⟩, rfl,
            hfirst.append (hpeeked.append htaken)⟩
    split at h
    · rename_i hzero hlow
      have hdigit : IsDigit b := by
        rw [Bool.and_eq_true, decide_eq_true_eq, decide_eq_true_eq] at hlow
        have hle : 49 ≤ b.toNat := UInt8.le_iff_toNat_le.1 hlow.1
        refine ⟨UInt8.le_iff_toNat_le.2 ?_, hlow.2⟩
        change 48 ≤ b.toNat
        omega
      obtain ⟨ds, c₂, hdigits, h⟩ := exists_of_bind_eq_ok h
      obtain ⟨w, hw, rfl, hmore⟩ := taken_digitsFor hdigits
      rcases rest_cases h with hreal | ⟨hdropped, rfl, htaken⟩
      · exact .inl hreal
      · -- no digit was dropped, so the number fits
        have hsmall : digitValue b < countLimit :=
          Nat.lt_trans (digitValue_lt hdigit) (by decide)
        have hle := gather_le (digitValue b) (w.map digitValue)
        rw [List.length_map] at hle
        have hall : (gather (digitValue b) (w.map digitValue)).2 = w.length := by
          rw [List.length_map] at hdropped
          exact Nat.le_antisymm hle (Nat.sub_eq_zero_iff_le.1 hdropped)
        obtain ⟨hvalue, hfits⟩ := of_gather_all hsmall hall
        refine .inr ⟨b :: w, extended (digitValue b) w, ⟨.digits hdigit hzero hw, hfits⟩, ?_, ?_⟩
        · rw [← hvalue]
          rfl
        · have hall := hfirst.append (hmore.append htaken)
          rwa [List.append_nil] at hall
    · cases h

theorem judge_eq_ok (h : countValue.judge m c = .ok n c') : m = .integer n ∧ c' = c := by
  unfold countValue.judge at h
  split at h
  · cases h
    exact ⟨rfl, rfl⟩
  · cases h
  · cases h

theorem judge_of_isReal (hm : m.IsReal) : countValue.judge m c ≠ .ok n c' := by
  intro h
  obtain ⟨x, rfl⟩ := hm
  cases (judge_eq_ok h).1

/-- What has a minus sign is no count, not even zero. -/
theorem judge_of_negative (k : Nat) : countValue.judge (ofSigned false k) c ≠ .ok n c' := by
  intro h
  have hm := (judge_eq_ok h).1
  unfold ofSigned at hm
  rw [if_neg (by decide)] at hm
  split at hm
  · cases hm
  · rename_i hpositive
    simp only [Bool.or_eq_true, decide_eq_true_eq, not_or] at hpositive
    have hint : -(k : Int) = n := Number.integer.inj hm
    omega

theorem derived_countValue : Derived countValue BoundedCount := by
  intro c c' n h
  obtain ⟨u, b, rest, c₁, hu, hblanks, _, h⟩ := exists_of_peekPastBlanks (placed_eq_ok h) nofun
  dsimp only at h
  split at h
  · -- after a minus sign
    obtain ⟨_, c₂, _, h⟩ := exists_of_bind_eq_ok h
    obtain ⟨m, c₃, hnumber, h⟩ := exists_of_bind_eq_ok h
    rcases number_cases hnumber with hreal | ⟨_, k, -, rfl, -⟩
    · exact absurd h (judge_of_isReal hreal)
    · exact absurd h (judge_of_negative k)
  split at h
  · obtain ⟨m, c₃, hnumber, h⟩ := exists_of_bind_eq_ok h
    rcases number_cases hnumber with hreal | ⟨w, k, hcount, rfl, htaken⟩
    · exact absurd h (judge_of_isReal hreal)
    · obtain ⟨hvalue, rfl⟩ := judge_eq_ok h
      have hk : k = n := Int.ofNat.inj (Number.integer.inj hvalue)
      subst hk
      exact ⟨u, w, hu, hcount, hblanks.append htaken⟩
  · exact absurd h (hopeless_mismatch _)

end SpecCatalog.Json
