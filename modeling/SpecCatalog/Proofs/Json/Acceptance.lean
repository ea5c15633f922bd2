import SpecCatalog.Proofs.Json.Steps

/-!
# Whatever is written can be read

The reader takes every written form, gives the value it stands for and stops where the
form stops. For a value that is `Takes`: the blanks before it are passed over, and what
comes after it is left alone, whatever it is. So the lemma about a container asks only
that its items are taken.

The reader's loops run on fuel. A text and a list get one round more than there are
bytes left, and each round takes a byte at least, so the fuel is enough.
-/

namespace SpecCatalog.Json

open Scan

/-- The step takes each form of `W`, with any blanks before it, and nothing after it. -/
def Takes {α : Type} (x : Scan α) (W : Writing α) : Prop :=
  ∀ {u w : Bytes} {a : α}, Blanks u → W w a → ∀ t, Gives x (u ++ (w ++ t)) a t

/-! ## Texts -/

theorem gives_fourHex {w : Bytes} {n : Nat} (h : FourDigits w n) (t : Bytes) :
    Gives fourHex (w ++ t) n t := by
  rw [fourHex_eq]
  cases h with
  | digits ha hb hc hd =>
    refine (gives_textByte _ _).bind ((gives_textByte _ _).bind
      ((gives_textByte _ _).bind ((gives_textByte _ t).bind ?_)))
    simp only [hexNumber, ha, hb, hc, hd]
    exact .pure _ t

theorem gives_numberedEscape {w : Bytes} {n : Nat} (h : FourDigits w n)
    (hn : n < 0xd800 ∨ 0xdfff < n) (t : Bytes) : Gives numberedEscape (w ++ t) (utf8 n) t := by
  refine (gives_fourHex h t).bind ?_
  rw [if_neg (by simp; omega), if_pos (by simpa using hn)]
  exact .pure _ t

/-- The second half of a pair follows the first at once. -/
theorem gives_numberedEscape_pair {w v : Bytes} {n m : Nat} (hw : FourDigits w n)
    (hn : 0xd800 ≤ n) (hn' : n < 0xdc00) (hv : FourDigits v m) (hm : 0xdc00 ≤ m)
    (hm' : m ≤ 0xdfff) (t : Bytes) :
    Gives numberedEscape (w ++ (Byte.backslash :: Byte.ofChar 'u' :: (v ++ t)))
      (utf8 (0x10000 + (n - 0xd800) * 0x400 + (m - 0xdc00))) t := by
  refine (gives_fourHex hw _).bind ?_
  rw [if_neg (by simp; omega), if_neg (by simp; omega)]
  refine (gives_joiner '\\' _).bind ((gives_joiner 'u' _).bind ((gives_fourHex hv t).bind ?_))
  rw [if_pos (by simp; omega)]
  exact .pure _ t

theorem find?_escapeLetters {p : Char × UInt8} (h : p ∈ escapeLetters) :
    escapeLetters.find? (fun q => Byte.ofChar q.1 = Byte.ofChar p.1) = some p := by
  revert p
  decide

theorem gives_escaped_letter {p : Char × UInt8} (h : p ∈ escapeLetters) (t : Bytes) :
    Gives escaped (Byte.ofChar p.1 :: t) [p.2] t := by
  refine (gives_textByte _ t).bind ?_
  rw [find?_escapeLetters h]
  exact .pure _ t

theorem gives_escaped_numbered {w v t : Bytes} (h : Gives numberedEscape w v t) :
    Gives escaped (Byte.ofChar 'u' :: w) v t := by
  refine (gives_textByte _ w).bind ?_
  have hnone : (escapeLetters.find? fun p => Byte.ofChar p.1 = Byte.ofChar 'u') = none := by decide
  rw [hnone]
  exact h

/-- One round of gathering takes an escape as a whole. -/
theorem gives_textByBytes_escape {w v t u a gathered : Bytes} {fuel : Nat}
    (he : Gives escaped w v t) (h : Gives (textByBytes fuel (v.reverse ++ gathered)) t a u) :
    Gives (textByBytes (fuel + 1) gathered) (Byte.backslash :: w) a u := by
  refine (gives_textByte _ w).bind ?_
  rw [if_neg (by decide), if_pos rfl]
  exact he.bind h

theorem gives_textByBytes_part {w v t u a gathered : Bytes} {fuel : Nat} (hp : TextPart w v)
    (h : Gives (textByBytes fuel (v.reverse ++ gathered)) t a u) :
    Gives (textByBytes (fuel + 1) gathered) (w ++ t) a u := by
  cases hp with
  | plain hquote hslash hcontrol =>
    refine (gives_textByte _ t).bind ?_
    rw [if_neg hquote, if_neg hslash, if_neg hcontrol]
    exact h
  | letter hp => exact gives_textByBytes_escape (gives_escaped_letter hp t) h
  | numbered hw hn =>
    exact gives_textByBytes_escape (gives_escaped_numbered (gives_numberedEscape hw hn t)) h
  | pair hw hn hn' hv hm hm' =>
    have hpair := gives_numberedEscape_pair hw hn hn' hv hm hm' t
    simpa only [List.append_assoc, List.cons_append] using
      gives_textByBytes_escape (gives_escaped_numbered hpair) h

theorem gives_textByBytes {w v : Bytes} (h : TextParts w v) (t : Bytes) :
    ∀ {fuel : Nat} {gathered : Bytes}, w.length < fuel →
      Gives (textByBytes fuel gathered) (w ++ Byte.quote :: t) (gathered.reverse ++ v) t := by
  induction h with
  | nil =>
    intro fuel gathered hlt
    cases fuel with
    | zero => exact absurd hlt (Nat.not_lt_zero _)
    | succ fuel =>
      refine (gives_textByte _ t).bind ?_
      rw [if_pos rfl, List.append_nil]
      exact .pure _ t
  | @cons w v ws vs hp _ ih =>
    intro fuel gathered hlt
    cases fuel with
    | zero => exact absurd hlt (Nat.not_lt_zero _)
    | succ fuel =>
      -- a part has a byte at least, so the other parts fit the fuel that is left
      have hpos := hp.length_pos
      rw [List.length_append] at hlt
      have hmore := @ih fuel (v.reverse ++ gathered) (by omega)
      rw [List.reverse_append, List.reverse_reverse, List.append_assoc] at hmore
      rw [List.append_assoc]
      exact gives_textByBytes_part hp hmore

theorem gives_text {w : Bytes} {s : String} (h : TextParts w (Text.toBytes s)) (t : Bytes) :
    Gives text (w ++ Byte.quote :: t) s t := by
  have hfuel : w.length < (w ++ Byte.quote :: t).length + 1 := by
    rw [List.length_append]
    omega
  have hbytes : Gives textBytes (w ++ Byte.quote :: t) (Text.toBytes s) t := by
    rw [textBytes_eq]
    exact .measured (g := fun n => textByBytes (n + 1) []) (gives_textByBytes h t hfuel)
  refine hbytes.bind ?_
  rw [Text.ofBytes?_toBytes]
  exact .pure s t

theorem takes_textValue : Takes textValue TextForm := by
  intro u w s hu hw t
  cases hw with
  | quoted hparts =>
    simp only [List.cons_append, List.append_assoc, List.nil_append]
    refine .placed ((gives_peekPastBlanks hu (by decide) _).bind ?_)
    dsimp only
    rw [if_pos rfl]
    exact (gives_skip _ _).bind (gives_text hparts t)

/-! ## Values that may be absent -/

theorem Takes.orNull {α : Type} {x : Scan α} {W : Writing α} {heads : Bytes} (hx : Takes x W)
    (hW : W.BeginsIn heads) (hh : ∀ b ∈ heads, isBlank b = false ∧ b ≠ Byte.ofChar 'n') :
    Takes (orNull x) (OrNull W) := by
  intro u w a hu hw t
  cases hw with
  | null =>
    refine (gives_peekPastBlanks hu (by decide) _).bind ?_
    dsimp only
    rw [if_pos rfl]
    exact (gives_skip _ _).bind ((gives_word ['u', 'l', 'l'] t).bind (.pure none t))
  | @value _ a hw =>
    -- the first byte tells the value from a null
    obtain ⟨b, hb, rest, rfl⟩ := hW _ _ hw
    refine (gives_peekPastBlanks hu (hh b hb).1 _).bind ?_
    dsimp only
    rw [if_neg (hh b hb).2]
    exact (hx blanks_nil hw t).bind (.pure (some a) t)

/-! ## Lists -/

theorem gives_nextItem {first : Bool} {lead : Bytes} {b : UInt8} (hl : Lead first lead)
    (hb : isBlank b = false) (hne : b ≠ Byte.closeList) (w : Bytes) :
    Gives (nextItem first) (lead ++ b :: w) true (b :: w) := by
  cases hl with
  | first hu =>
    refine (gives_peekPastBlanks hu hb w).bind ?_
    dsimp only
    rw [if_neg hne, if_pos rfl]
    exact .pure true _
  | later hu hv =>
    rw [List.append_assoc, List.cons_append]
    refine (gives_peekPastBlanks hu (by decide) _).bind ?_
    dsimp only
    rw [if_neg (by decide), if_neg (by decide), if_pos rfl]
    refine (gives_skip _ _).bind ((gives_peekPastBlanks hv hb w).bind ?_)
    dsimp only
    rw [if_neg hne]
    exact .pure true _

theorem gives_nextItem_end (first : Bool) {u : Bytes} (hu : Blanks u) (w : Bytes) :
    Gives (nextItem first) (u ++ Byte.closeList :: w) false (Byte.closeList :: w) := by
  refine (gives_peekPastBlanks hu (by decide) w).bind ?_
  dsimp only
  rw [if_pos rfl]
  exact .pure false _

theorem gives_endList {u : Bytes} (hu : Blanks u) (w : Bytes) :
    Gives endList (u ++ Byte.closeList :: w) () w := by
  refine (gives_peekPastBlanks hu (by decide) w).bind ?_
  dsimp only
  rw [if_pos rfl]
  exact gives_skip _ w

theorem gives_itemsFor {α : Type} {item : Scan α} {W : Writing α} {heads : Bytes}
    (hi : Takes item W) (hW : W.BeginsIn heads)
    (hh : ∀ b ∈ heads, isBlank b = false ∧ b ≠ Byte.closeList) {first : Bool} {w : Bytes}
    {as : List α} (h : Items W first w as) (t : Bytes) :
    ∀ {fuel : Nat}, w.length < fuel →
      Gives (itemsFor item fuel first) (w ++ Byte.closeList :: t) as (Byte.closeList :: t) := by
  induction h with
  | @nil first _ hu =>
    intro fuel hlt
    cases fuel with
    | zero => exact absurd hlt (Nat.not_lt_zero _)
    | succ fuel => exact (gives_nextItem_end first hu t).bind (.pure [] _)
  | @cons first lead w more a as hl hw _ ih =>
    intro fuel hlt
    cases fuel with
    | zero => exact absurd hlt (Nat.not_lt_zero _)
    | succ fuel =>
      -- the item's first byte both shows that it comes and pays for the round
      obtain ⟨b, hb, rest, rfl⟩ := hW _ _ hw
      have hmore : more.length < fuel := by
        simp only [List.length_append, List.length_cons] at hlt
        omega
      rw [List.append_assoc, List.append_assoc, List.cons_append]
      refine (gives_nextItem hl (hh b hb).1 (hh b hb).2 _).bind ?_
      exact (hi blanks_nil hw _).bind ((ih hmore).bind (.pure (a :: as) _))

theorem Takes.listValue {α : Type} {item : Scan α} {W : Writing α} {heads : Bytes}
    (hi : Takes item W) (hW : W.BeginsIn heads)
    (hh : ∀ b ∈ heads, isBlank b = false ∧ b ≠ Byte.closeList) :
    Takes (listValue item) (ListForm W) := by
  intro u w as hu hw t
  cases hw with
  | @bracketed w _ hitems =>
    have hfuel : w.length < (w ++ Byte.closeList :: t).length + 1 := by
      rw [List.length_append]
      omega
    rw [List.append_assoc]
    refine .placed ((gives_peekPastBlanks hu (by decide) _).bind ?_)
    dsimp only
    rw [if_pos rfl]
    refine (gives_skip _ _).bind (.closing ?_ (gives_endList blanks_nil t))
    exact .measured (g := fun n => itemsFor item (n + 1) true)
      (gives_itemsFor hi hW hh hitems t hfuel)

/-! ## Objects -/

theorem gives_nextMember {first : Bool} {lead : Bytes} (hl : Lead first lead) (w : Bytes) :
    Gives (nextMember first) (lead ++ Byte.quote :: w) true (Byte.quote :: w) := by
  cases hl with
  | first hu =>
    refine (gives_peekPastBlanks hu (by decide) w).bind ?_
    dsimp only
    rw [if_neg (by decide), if_pos rfl, nextMember.key, if_pos rfl]
    exact .pure true _
  | later hu hv =>
    rw [List.append_assoc, List.cons_append]
    refine (gives_peekPastBlanks hu (by decide) _).bind ?_
    dsimp only
    rw [if_neg (by decide), if_neg (by decide), if_pos rfl]
    refine (gives_skip _ _).bind ((gives_peekPastBlanks hv (by decide) w).bind ?_)
    dsimp only
    rw [if_neg (by decide), nextMember.key, if_pos rfl]
    exact .pure true _

theorem gives_nextMember_end (first : Bool) {u : Bytes} (hu : Blanks u) (w : Bytes) :
    Gives (nextMember first) (u ++ Byte.closeMap :: w) false (Byte.closeMap :: w) := by
  refine (gives_peekPastBlanks hu (by decide) w).bind ?_
  dsimp only
  rw [if_pos rfl]
  exact .pure false _

theorem gives_colon {u : Bytes} (hu : Blanks u) (w : Bytes) :
    Gives colon (u ++ Byte.colon :: w) () w := by
  refine (gives_peekPastBlanks hu (by decide) w).bind ?_
  dsimp only
  rw [if_pos rfl]
  exact gives_skip _ w

theorem gives_endMap (w : Bytes) : Gives endMap (Byte.closeMap :: w) () w := by
  refine (gives_peekPastBlanks blanks_nil (by decide) w).bind ?_
  dsimp only
  rw [if_pos rfl]
  exact gives_skip _ w

namespace Shape

variable {ρ : Type} {s : Shape ρ}

/-- One round over the members: a key that has not come before and the value of its
field. -/
theorem gives_members_cons {f : Field ρ} {fuel : Nat} {first : Bool} {seen : List String}
    {key : String} {r r' r'' : ρ} {lead k u v t t' : Bytes} (hl : Lead first lead)
    (hk : TextForm k key) (hf : s.fields.find? (·.name = key) = some f) (hs : key ∉ seen)
    (hu : Blanks u) (hv : Gives (f.read r) v r' t)
    (hm : Gives (s.members fuel false (key :: seen) r') t r'' t') :
    Gives (s.members (fuel + 1) first seen r) (lead ++ (k ++ (u ++ Byte.colon :: v))) r'' t' := by
  cases hk with
  | quoted hparts =>
    simp only [List.cons_append, List.append_assoc, List.nil_append]
    refine (gives_nextMember hl _).bind ?_
    rw [if_pos rfl]
    refine (gives_skip _ _).bind ((gives_text hparts _).bind ?_)
    simp only [hf, List.contains_iff_mem, if_neg hs]
    exact (gives_colon hu v).bind (hv.bind hm)

/-- The last round: every required field has come. -/
theorem gives_members_nil {first : Bool} {seen : List String} {u : Bytes} (fuel : Nat) (r : ρ)
    (hs : s.fields.find? (fun f => f.required && !seen.contains f.name) = none) (hu : Blanks u)
    (t : Bytes) :
    Gives (s.members (fuel + 1) first seen r) (u ++ Byte.closeMap :: t) r (Byte.closeMap :: t) := by
  refine (gives_nextMember_end first hu t).bind ?_
  rw [if_neg (by decide), hs]
  exact .pure r _

theorem gives_value_object {u w t : Bytes} {r : ρ} (hu : Blanks u)
    (hm : Gives (s.members (s.fields.length + 1) true [] s.blank) w r (Byte.closeMap :: t)) :
    Gives s.value (u ++ Byte.openMap :: w) r t := by
  refine (gives_peekPastBlanks hu (by decide) w).bind ?_
  dsimp only
  rw [if_neg (by decide), if_pos rfl]
  exact .placed ((gives_skip _ w).bind (hm.closing (gives_endMap t)))

/-- A record with nothing but blanks after it is a document. -/
theorem read_of_gives {c : Cursor} {u : Bytes} {r : ρ} (h : Gives s.value c.rest r u)
    (hu : Blanks u) (hc : c.ending = .finished) : s.read c = .ok r := by
  obtain ⟨c₁, hrun, hrest, hend⟩ := h c rfl
  obtain ⟨c₂, hfinish⟩ := endDocument_finished (c := c₁) (hrest ▸ hu) (hend.trans hc)
  have hdoc : s.document c = .ok r c₂ := by
    rw [document, bind_of_eq_ok hrun, bind_of_eq_ok hfinish]
    rfl
  rw [read, hdoc]

end Shape

end SpecCatalog.Json
