import SpecCatalog.Proofs.Json.Steps

/-!
# Whatever is read was written

Where the reader succeeds there is a written form behind it: the bytes it took are in the
grammar and stand for the value it gave. `Taken c w c'` says which bytes lie between two
cursors, and each step has a lemma that takes a success apart and says what they are. A value
that is `Derived` may have blanks before it, like one that is taken.

Fuel does not matter here, with one exception: the reader of an object's members stops when it
runs out, so it is told that there are rounds for all fields (`Shape.Fueled`).
-/

namespace SpecCatalog.Json

open Scan

/-- These bytes lie between the two cursors. -/
def Taken (c : Cursor) (w : Bytes) (c' : Cursor) : Prop :=
  c.rest = w ++ c'.rest ∧ c'.ending = c.ending

variable {c c' c'' : Cursor}

theorem Taken.nil (c : Cursor) : Taken c [] c := ⟨rfl, rfl⟩

theorem Taken.append {w v : Bytes} (h : Taken c w c') (h' : Taken c' v c'') :
    Taken c (w ++ v) c'' :=
  ⟨by rw [h.1, h'.1, List.append_assoc], h'.2.trans h.2⟩

/-- Each success of the step has a form of `W` behind it, with any blanks before it. -/
def Derived {α : Type} (x : Scan α) (W : Writing α) : Prop :=
  ∀ {c c' : Cursor} {a : α}, x c = .ok a c' → ∃ u w, Blanks u ∧ W w a ∧ Taken c (u ++ w) c'

/-! ## Single bytes -/

theorem taken_peek {r : Option UInt8} (h : peek c = .ok r c') :
    Taken c [] c' ∧ r = c'.rest.head? := by
  rw [peek_eq] at h
  have hlooked : Taken c [] c.looked := ⟨c.rest_looked.symm, c.ending_looked⟩
  split at h
  · rename_i hhead
    cases h
    exact ⟨hlooked, by rw [c.rest_looked, hhead]⟩
  · rename_i hhead _
    cases h
    exact ⟨hlooked, by rw [c.rest_looked, hhead]⟩
  · cases h

/-- The end is seen only where the document is over. -/
theorem peek_eq_none (h : peek c = .ok none c') : c.rest = [] ∧ c.ending = .finished := by
  rw [peek_eq] at h
  split at h
  · cases h
  · rename_i hhead hend
    exact ⟨List.head?_eq_none_iff.1 hhead, hend⟩
  · cases h

theorem taken_skip {b : UInt8} {rest : Bytes} (hrest : c.rest = b :: rest)
    (h : skip c = .ok () c') : Taken c [b] c' := by
  cases h
  exact ⟨by rw [c.rest_advance, hrest]; rfl, c.ending_advance⟩

/-- What comes after a byte that is there. -/
theorem exists_of_skip {α : Type} {f : Unit → Scan α} {a : α} {b : UInt8} {rest : Bytes}
    (h : (skip >>= f) c = .ok a c') (hrest : c.rest = b :: rest) :
    ∃ c₁, Taken c [b] c₁ ∧ f () c₁ = .ok a c' := by
  obtain ⟨_, c₁, hskip, h⟩ := exists_of_bind_eq_ok h
  exact ⟨c₁, taken_skip hrest hskip, h⟩

theorem taken_next {b : UInt8} (h : next c = .ok (some b) c') : Taken c [b] c' := by
  obtain ⟨r, c₁, hpeek, h⟩ := exists_of_bind_eq_ok h
  obtain ⟨_, c₂, hskip, h⟩ := exists_of_bind_eq_ok h
  cases h
  obtain ⟨hpeeked, hb⟩ := taken_peek hpeek
  obtain ⟨rest, hrest⟩ := List.head?_eq_some_iff.1 hb.symm
  exact hpeeked.append (taken_skip hrest hskip)

theorem taken_textByte {b : UInt8} (h : textByte c = .ok b c') : Taken c [b] c' := by
  obtain ⟨r, c₁, hnext, h⟩ := exists_of_bind_eq_ok h
  cases r with
  | none => cases h
  | some b' =>
    cases h
    exact taken_next hnext

theorem taken_joiner {ch : Char} (h : joiner ch c = .ok () c') : Taken c [Byte.ofChar ch] c' := by
  obtain ⟨r, c₁, hpeek, h⟩ := exists_of_bind_eq_ok h
  obtain ⟨hpeeked, hb⟩ := taken_peek hpeek
  cases r with
  | none => cases h
  | some b =>
    obtain ⟨rest, hrest⟩ := List.head?_eq_some_iff.1 hb.symm
    obtain ⟨c₂, hskipped, h⟩ := exists_of_skip h hrest
    split at h
    · rename_i hjoin
      cases h
      exact hjoin ▸ hpeeked.append hskipped
    · cases h

theorem taken_word {cs : List Char} (h : word cs c = .ok () c') :
    Taken c (cs.map Byte.ofChar) c' := by
  induction cs generalizing c with
  | nil =>
    cases h
    exact .nil c'
  | cons ch cs ih =>
    obtain ⟨r, c₁, hnext, h⟩ := exists_of_bind_eq_ok h
    cases r with
    | none => cases h
    | some b =>
      dsimp only at h
      split at h
      · rename_i hb
        subst hb
        exact (taken_next hnext).append (ih h)
      · cases h

/-! ## Blanks -/

/-- Blanks were passed over before the last look. -/
theorem blanks_of_peekPastBlanks {r : Option UInt8} (h : peekPastBlanks c = .ok r c') :
    ∃ u c₁, Blanks u ∧ Taken c u c₁ ∧ peek c₁ = .ok r c' := by
  suffices hfor : ∀ (w : Bytes) (c : Cursor), peekPastBlanksFor w c = .ok r c' →
      ∃ u c₁, Blanks u ∧ Taken c u c₁ ∧ peek c₁ = .ok r c' from hfor c.rest c h
  intro w
  induction w with
  | nil => exact fun c h => ⟨[], c, blanks_nil, .nil c, h⟩
  | cons _ w ih =>
    intro c h
    obtain ⟨b?, c₁, hpeek, h⟩ := exists_of_bind_eq_ok h
    cases b? with
    | none =>
      cases h
      exact ⟨[], c, blanks_nil, .nil c, hpeek⟩
    | some b =>
      dsimp only at h
      split at h
      · rename_i hblank
        obtain ⟨hlooked, hb⟩ := taken_peek hpeek
        obtain ⟨rest, hrest⟩ := List.head?_eq_some_iff.1 hb.symm
        obtain ⟨_, c₂, hskip, h⟩ := exists_of_bind_eq_ok h
        obtain ⟨u, c₃, hu, htaken, hpeek'⟩ := ih c₂ h
        exact ⟨b :: u, c₃, List.forall_mem_cons.2 ⟨hblank, hu⟩,
          hlooked.append ((taken_skip hrest hskip).append htaken), hpeek'⟩
      · cases h
        exact ⟨[], c, blanks_nil, .nil c, hpeek⟩

/-- Blanks were passed over, and the byte that was looked at comes next. -/
theorem taken_peekPastBlanks {r : Option UInt8} (h : peekPastBlanks c = .ok r c') :
    ∃ u, Blanks u ∧ Taken c u c' ∧ r = c'.rest.head? := by
  obtain ⟨u, c₁, hu, htaken, hpeek⟩ := blanks_of_peekPastBlanks h
  obtain ⟨hlooked, hr⟩ := taken_peek hpeek
  exact ⟨u, hu, List.append_nil u ▸ htaken.append hlooked, hr⟩

/-- A step that fails at the end goes on from the byte after the blanks. -/
theorem exists_of_peekPastBlanks {α : Type} {f : Option UInt8 → Scan α} {a : α}
    (h : (peekPastBlanks >>= f) c = .ok a c') (hend : ∀ {c₁ : Cursor}, f none c₁ ≠ .ok a c') :
    ∃ u b rest c₁, Blanks u ∧ Taken c u c₁ ∧ c₁.rest = b :: rest ∧ f (some b) c₁ = .ok a c' := by
  obtain ⟨r, c₁, hpeek, h⟩ := exists_of_bind_eq_ok h
  obtain ⟨u, hu, hblanks, hb⟩ := taken_peekPastBlanks hpeek
  cases r with
  | none => exact absurd h hend
  | some b =>
    obtain ⟨rest, hrest⟩ := List.head?_eq_some_iff.1 hb.symm
    exact ⟨u, b, rest, c₁, hu, hblanks, hrest, h⟩

/-- A document with a byte left is not over. -/
theorem peekPastBlanks_eq_none (h : peekPastBlanks c = .ok none c') :
    Blanks c.rest ∧ c.ending = .finished := by
  obtain ⟨u, c₁, hu, ⟨hrest, hend⟩, hpeek⟩ := blanks_of_peekPastBlanks h
  obtain ⟨hnil, hfinished⟩ := peek_eq_none hpeek
  rw [hnil, List.append_nil] at hrest
  exact ⟨hrest ▸ hu, hend ▸ hfinished⟩

/-! ## Texts -/

theorem fourDigits_of_hexNumber {b₁ b₂ b₃ b₄ : UInt8} {n : Nat}
    (h : hexNumber b₁ b₂ b₃ b₄ = some n) : FourDigits [b₁, b₂, b₃, b₄] n := by
  unfold hexNumber at h
  split at h
  · rename_i hv₁ hv₂ hv₃ hv₄
    cases h
    exact .digits hv₁ hv₂ hv₃ hv₄
  · cases h

theorem taken_fourHex {n : Nat} (h : fourHex c = .ok n c') :
    ∃ w, FourDigits w n ∧ Taken c w c' := by
  rw [fourHex_eq] at h
  obtain ⟨b₁, c₁, h₁, h⟩ := exists_of_bind_eq_ok h
  obtain ⟨b₂, c₂, h₂, h⟩ := exists_of_bind_eq_ok h
  obtain ⟨b₃, c₃, h₃, h⟩ := exists_of_bind_eq_ok h
  obtain ⟨b₄, c₄, h₄, h⟩ := exists_of_bind_eq_ok h
  have htaken := (taken_textByte h₁).append ((taken_textByte h₂).append
    ((taken_textByte h₃).append (taken_textByte h₄)))
  cases hn : hexNumber b₁ b₂ b₃ b₄ with
  | none => rw [hn] at h; cases h
  | some m =>
    rw [hn] at h
    cases h
    exact ⟨_, fourDigits_of_hexNumber hn, htaken⟩

/-- A numbered escape, without its backslash and its letter. -/
theorem taken_numberedEscape {v : Bytes} (h : numberedEscape c = .ok v c') :
    ∃ w, TextPart (Byte.backslash :: Byte.ofChar 'u' :: w) v ∧ Taken c w c' := by
  obtain ⟨n, c₁, hn, h⟩ := exists_of_bind_eq_ok h
  obtain ⟨w, hw, htaken⟩ := taken_fourHex hn
  split at h
  · cases h
  · rename_i hlow
    split at h
    · rename_i hplane
      cases h
      simp only [Bool.or_eq_true, decide_eq_true_eq] at hplane
      exact ⟨w, .numbered hw hplane, htaken⟩
    · rename_i hplane
      obtain ⟨_, c₂, hslash, h⟩ := exists_of_bind_eq_ok h
      obtain ⟨_, c₃, hletter, h⟩ := exists_of_bind_eq_ok h
      obtain ⟨m, c₄, hm, h⟩ := exists_of_bind_eq_ok h
      obtain ⟨w', hw', htaken'⟩ := taken_fourHex hm
      split at h
      · rename_i hhigh
        injection h with hv hc
        subst hv hc
        simp only [Bool.and_eq_true, Bool.or_eq_true, decide_eq_true_eq] at hlow hplane hhigh
        have hpair := TextPart.pair hw (by omega) (by omega) hw' hhigh.1 hhigh.2
        have hall := htaken.append
          ((taken_joiner hslash).append ((taken_joiner hletter).append htaken'))
        exact ⟨_, hpair, hall⟩
      · cases h

/-- An escape, without its backslash. -/
theorem taken_escaped {v : Bytes} (h : escaped c = .ok v c') :
    ∃ w, TextPart (Byte.backslash :: w) v ∧ Taken c w c' := by
  obtain ⟨b, c₁, hb, h⟩ := exists_of_bind_eq_ok h
  cases hfind : escapeLetters.find? fun p => Byte.ofChar p.1 = b with
  | some p =>
    rw [hfind] at h
    cases h
    have hp : Byte.ofChar p.1 = b := by simpa using List.find?_some hfind
    exact ⟨[b], hp ▸ .letter (List.mem_of_find?_eq_some hfind), taken_textByte hb⟩
  | none =>
    rw [hfind] at h
    dsimp only at h
    split at h
    · rename_i hletter
      obtain ⟨w, hpart, htaken⟩ := taken_numberedEscape h
      exact ⟨_, hletter ▸ hpart, (taken_textByte hb).append htaken⟩
    · cases h

theorem taken_textByBytes {fuel : Nat} {gathered v : Bytes}
    (h : textByBytes fuel gathered c = .ok v c') :
    ∃ w v', TextParts w v' ∧ v = gathered.reverse ++ v' ∧ Taken c (w ++ [Byte.quote]) c' := by
  induction fuel generalizing gathered c with
  | zero => cases h
  | succ fuel ih =>
    obtain ⟨b, c₁, hb, h⟩ := exists_of_bind_eq_ok h
    have hbyte := taken_textByte hb
    split at h
    · rename_i hquote
      cases h
      exact ⟨[], [], .nil, (List.append_nil _).symm, hquote ▸ hbyte⟩
    · rename_i hquote
      split at h
      · rename_i hslash
        obtain ⟨e, c₂, he, h⟩ := exists_of_bind_eq_ok h
        obtain ⟨w, hpart, htaken⟩ := taken_escaped he
        obtain ⟨ws, vs, hparts, hv, hmore⟩ := ih h
        refine ⟨(b :: w) ++ ws, e ++ vs, .cons (hslash ▸ hpart) hparts, ?_, ?_⟩
        · rw [hv, List.reverse_append, List.reverse_reverse, List.append_assoc]
        · rw [List.append_assoc]
          exact (hbyte.append htaken).append hmore
      · rename_i hslash
        split at h
        · cases h
        · rename_i hcontrol
          obtain ⟨ws, vs, hparts, hv, hmore⟩ := ih h
          refine ⟨[b] ++ ws, [b] ++ vs, .cons (.plain hquote hslash hcontrol) hparts, ?_, ?_⟩
          · rw [hv, List.reverse_cons, List.append_assoc]
          · rw [List.append_assoc]
            exact hbyte.append hmore

theorem taken_text {s : String} (h : text c = .ok s c') :
    ∃ w, TextParts w (Text.toBytes s) ∧ Taken c (w ++ [Byte.quote]) c' := by
  obtain ⟨v, c₁, hv, h⟩ := exists_of_bind_eq_ok h
  rw [textBytes_eq] at hv
  obtain ⟨w, v', hparts, hvv, htaken⟩ := taken_textByBytes hv
  rw [List.reverse_nil, List.nil_append] at hvv
  subst hvv
  cases hs : Text.ofBytes? v with
  | none => rw [hs] at h; cases h
  | some s' =>
    rw [hs] at h
    cases h
    exact ⟨w, Text.eq_toBytes_of_ofBytes? hs ▸ hparts, htaken⟩

/-! ## Values of a wrong kind -/

theorem placed_eq_ok {α : Type} {x : Scan α} {a : α} (h : placed x c = .ok a c') :
    x c = .ok a c' := by
  unfold placed at h
  split at h
  · rename_i hx
    cases h
    exact hx
  · cases h
  · cases h

/-- The step never gives a value. -/
def Hopeless {α : Type} (x : Scan α) : Prop := ∀ {c c' : Cursor} {a : α}, x c ≠ .ok a c'

/-- What fails in the end fails. -/
theorem hopeless_bind {α β : Type} {x : Scan α} {f : α → Scan β} (hf : ∀ a, Hopeless (f a)) :
    Hopeless (x >>= f) := by
  intro c c' b h
  obtain ⟨a, c₁, _, h⟩ := exists_of_bind_eq_ok h
  exact hf a h

theorem hopeless_failLater {α : Type} (f : Fault) : Hopeless (failLater f : Scan α) := nofun

/-- A value of a wrong kind is never read, even if it could be shown. -/
theorem hopeless_mismatch {α : Type} (wanted : String) : Hopeless (mismatch wanted : Scan α) := by
  intro c c' a h
  obtain ⟨r, c₁, _, h⟩ := exists_of_bind_eq_ok (placed_eq_ok h)
  cases r with
  | none => cases h
  | some b =>
    dsimp only at h
    -- words, numbers and texts are read first, and then the step fails
    have hshown : ∀ {β : Type} (x : Scan β) (found : β → Found),
        Hopeless (x >>= fun v => failLater (.wrongType (found v) wanted) : Scan α) :=
      fun _ _ => hopeless_bind fun _ => hopeless_failLater _
    split at h
    · exact hopeless_bind (fun _ => hshown _ fun _ => .null) h
    split at h
    · exact hopeless_bind (fun _ => hshown _ fun _ => .boolean true) h
    split at h
    · exact hopeless_bind (fun _ => hshown _ fun _ => .boolean false) h
    split at h
    · exact hopeless_bind (fun _ => hshown _ Number.found) h
    split at h
    · exact hshown _ Number.found h
    split at h
    · exact hopeless_bind (fun _ => hshown _ Found.text) h
    split at h
    · cases h
    split at h
    · cases h
    · cases h

/-! ## Scalars -/

theorem derived_textValue : Derived textValue TextForm := by
  intro c c' s h
  obtain ⟨u, b, rest, c₁, hu, hblanks, hrest, h⟩ := exists_of_peekPastBlanks (placed_eq_ok h) nofun
  dsimp only at h
  split at h
  · rename_i hquote
    subst hquote
    obtain ⟨c₂, hskipped, h⟩ := exists_of_skip h hrest
    obtain ⟨w, hparts, htaken⟩ := taken_text h
    exact ⟨u, _, hu, .quoted hparts, hblanks.append (hskipped.append htaken)⟩
  · exact absurd h (hopeless_mismatch _)

theorem Derived.orNull {α : Type} {x : Scan α} {W : Writing α} (hx : Derived x W) :
    Derived (orNull x) (OrNull W) := by
  intro c c' a h
  obtain ⟨r, c₁, hpeek, h⟩ := exists_of_bind_eq_ok h
  obtain ⟨u, hu, hblanks, hb⟩ := taken_peekPastBlanks hpeek
  -- a value, with the blanks that were passed over and any that it passes over itself
  have hvalue : (x >>= fun v => pure (some v)) c₁ = .ok a c' →
      ∃ u w, Blanks u ∧ OrNull W w a ∧ Taken c (u ++ w) c' := by
    intro h
    obtain ⟨v, c₂, hv, h⟩ := exists_of_bind_eq_ok h
    cases h
    obtain ⟨u', w, hu', hw, htaken⟩ := hx hv
    refine ⟨u ++ u', w, List.forall_mem_append.2 ⟨hu, hu'⟩, .value hw, ?_⟩
    rw [List.append_assoc]
    exact hblanks.append htaken
  cases r with
  | none => exact hvalue h
  | some b =>
    dsimp only at h
    split at h
    · rename_i hn
      subst hn
      obtain ⟨rest, hrest⟩ := List.head?_eq_some_iff.1 hb.symm
      obtain ⟨c₂, hskipped, h⟩ := exists_of_skip h hrest
      obtain ⟨_, c₃, hword, h⟩ := exists_of_bind_eq_ok h
      cases h
      exact ⟨u, nullWord, hu, .null, hblanks.append (hskipped.append (taken_word hword))⟩
    · exact hvalue h

/-! ## Lists -/

theorem Lead.append_blanks {first : Bool} {lead u : Bytes} (h : Lead first lead) (hu : Blanks u) :
    Lead first (lead ++ u) := by
  cases h with
  | first hw => exact .first (List.forall_mem_append.2 ⟨hw, hu⟩)
  | later hw hv =>
    rw [List.append_assoc, List.cons_append]
    exact .later hw (List.forall_mem_append.2 ⟨hv, hu⟩)

theorem Items.append_blanks {α : Type} {W : Writing α} {first : Bool} {w u : Bytes} {as : List α}
    (h : Items W first w as) (hu : Blanks u) : Items W first (w ++ u) as := by
  induction h with
  | nil hw => exact .nil (List.forall_mem_append.2 ⟨hw, hu⟩)
  | cons hl hw _ ih =>
    rw [List.append_assoc]
    exact .cons hl hw ih

theorem taken_nextItem {first more : Bool} (h : nextItem first c = .ok more c') :
    if more = true then ∃ lead, Lead first lead ∧ Taken c lead c'
    else ∃ u, Blanks u ∧ Taken c u c' := by
  obtain ⟨u, b, rest, c₁, hu, hblanks, hrest, hrun⟩ := exists_of_peekPastBlanks h nofun
  dsimp only at hrun
  split at hrun
  · cases hrun
    exact ⟨u, hu, hblanks⟩
  split at hrun
  · rename_i hfirst
    cases hrun
    subst hfirst
    exact ⟨u, .first hu, hblanks⟩
  · rename_i hlater
    rw [Bool.not_eq_true] at hlater
    subst hlater
    split at hrun
    · rename_i hcomma
      subst hcomma
      obtain ⟨c₂, hskipped, hrun⟩ := exists_of_skip hrun hrest
      obtain ⟨v, b', _, c₃, hv, hblanks', _, hrun⟩ := exists_of_peekPastBlanks hrun nofun
      dsimp only at hrun
      -- a comma right before the bracket is refused
      split at hrun
      · cases hrun
      · cases hrun
        exact ⟨_, .later hu hv, hblanks.append (hskipped.append hblanks')⟩
    · cases hrun

/-- A list is left at its bracket only. -/
theorem taken_endList (h : endList c = .ok () c') :
    ∃ u, Blanks u ∧ Taken c (u ++ [Byte.closeList]) c' := by
  obtain ⟨u, b, rest, c₁, hu, hblanks, hrest, hrun⟩ := exists_of_peekPastBlanks h nofun
  dsimp only at hrun
  split at hrun
  · rename_i hclose
    subst hclose
    exact ⟨u, hu, hblanks.append (taken_skip hrest hrun)⟩
  split at hrun
  · -- after a comma the list was not over, whatever comes next
    obtain ⟨_, c₂, _, hrun⟩ := exists_of_bind_eq_ok hrun
    unfold endList.afterComma at hrun
    split at hrun
    · split at hrun
      · cases hrun
      · cases hrun
    · cases hrun
    · cases hrun
  · cases hrun

theorem taken_itemsFor {α : Type} {item : Scan α} {W : Writing α} (hi : Derived item W)
    {fuel : Nat} {first : Bool} {as : List α} (h : itemsFor item fuel first c = .ok as c') :
    ∃ w, Items W first w as ∧ Taken c w c' := by
  induction fuel generalizing first as c with
  | zero => cases h
  | succ fuel ih =>
    obtain ⟨more, c₁, hnext, h⟩ := exists_of_bind_eq_ok h
    have hitem := taken_nextItem hnext
    cases more with
    | false =>
      cases h
      obtain ⟨u, hu, htaken⟩ := hitem
      exact ⟨u, .nil hu, htaken⟩
    | true =>
      obtain ⟨lead, hlead, hled⟩ := hitem
      obtain ⟨a, c₂, ha, h⟩ := exists_of_bind_eq_ok h
      obtain ⟨as', c₃, has, h⟩ := exists_of_bind_eq_ok h
      cases h
      obtain ⟨u, w, hu, hw, htaken⟩ := hi ha
      obtain ⟨ws, hitems, hmore⟩ := ih has
      have hall := hled.append (htaken.append hmore)
      refine ⟨_, .cons (hlead.append_blanks hu) hw hitems, ?_⟩
      simpa only [List.append_assoc] using hall

theorem closing_eq_ok {α : Type} {body : Scan α} {close : Scan Unit} {a : α}
    (h : closing body close c = .ok a c') :
    ∃ c₁, body c = .ok a c₁ ∧ close c₁ = .ok () c' := by
  unfold closing at h
  split at h
  · rename_i c₁ hbody
    split at h
    · rename_i hclose
      cases h
      exact ⟨c₁, hbody, hclose⟩
    · cases h
  · split at h
    · cases h
    · cases h

/-- What is read between two brackets, with the blanks before the second one. -/
theorem taken_closing {α : Type} {body : Scan α} {close : Scan Unit} {a : α} {P : Bytes → Prop}
    {b e : UInt8} {rest : Bytes} (h : (skip >>= fun _ => closing body close) c = .ok a c')
    (hrest : c.rest = b :: rest)
    (hbody : ∀ {c c' : Cursor}, body c = .ok a c' → ∃ w, P w ∧ Taken c w c')
    (hclose : ∀ {c c' : Cursor}, close c = .ok () c' → ∃ u, Blanks u ∧ Taken c (u ++ [e]) c') :
    ∃ w u, P w ∧ Blanks u ∧ Taken c (b :: (w ++ u) ++ [e]) c' := by
  obtain ⟨c₁, hskipped, h⟩ := exists_of_skip h hrest
  obtain ⟨c₂, hrun, hend⟩ := closing_eq_ok h
  obtain ⟨w, hw, htaken⟩ := hbody hrun
  obtain ⟨u, hu, hclosed⟩ := hclose hend
  refine ⟨w, u, hw, hu, ?_⟩
  have hall := hskipped.append (htaken.append hclosed)
  simpa only [List.append_assoc, List.cons_append, List.nil_append] using hall

theorem Derived.listValue {α : Type} {item : Scan α} {W : Writing α} (hi : Derived item W) :
    Derived (listValue item) (ListForm W) := by
  intro c c' as h
  obtain ⟨u, b, rest, c₁, hu, hblanks, hrest, h⟩ := exists_of_peekPastBlanks (placed_eq_ok h) nofun
  dsimp only at h
  split at h
  · rename_i hopen
    subst hopen
    obtain ⟨w, v, hitems, hv, htaken⟩ :=
      taken_closing h hrest (fun hbody => taken_itemsFor hi hbody) taken_endList
    exact ⟨u, _, hu, .bracketed (hitems.append_blanks hv), hblanks.append htaken⟩
  · exact absurd h (hopeless_mismatch _)

end SpecCatalog.Json
