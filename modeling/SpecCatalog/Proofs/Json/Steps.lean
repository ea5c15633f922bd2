import SpecCatalog.Proofs.Json.Cursors
import SpecCatalog.Proofs.Json.Grammar

/-!
# Steps of reading that succeed

`Gives x before a after` says that the step `x`, where `before` is left of the document,
gives `a` and leaves `after`, whether the document is held whole or arrives, wherever it stands
and however it ends. Positions and whether a byte has been looked at only matter for messages,
so they do not appear.

The lemmas follow the steps of the cursor. Larger steps are then put together with
`Gives.bind` in the order in which they are written.
-/

namespace SpecCatalog.Json

/-- The step gives the value and takes the document from the one rest to the other. -/
def Gives {α : Type} (x : Scan α) (before : Bytes) (a : α) (after : Bytes) : Prop :=
  ∀ c : Cursor, c.rest = before → ∃ c', x c = .ok a c' ∧ c'.rest = after ∧ c'.ending = c.ending

namespace Gives

variable {α β : Type} {x : Scan α} {f : α → Scan β} {a : α} {b : β} {w v u : Bytes}

theorem pure (a : α) (w : Bytes) : Gives (Pure.pure a : Scan α) w a w :=
  fun c hc => ⟨c, rfl, hc, rfl⟩

theorem bind (hx : Gives x w a v) (hf : Gives (f a) v b u) : Gives (x >>= f) w b u := by
  intro c hc
  obtain ⟨c₁, hrun, hrest, hend⟩ := hx c hc
  obtain ⟨c₂, hrun', hrest', hend'⟩ := hf c₁ hrest
  refine ⟨c₂, ?_, hrest', hend'.trans hend⟩
  change EStateM.bind x f c = _
  rw [EStateM.bind, hrun]
  exact hrun'

/-- A step that first measures what is left. -/
theorem measured {g : Nat → Scan α} (h : Gives (g w.length) w a v) :
    Gives (fun c => g c.rest.length c) w a v := by
  intro c hc
  subst hc
  exact h c rfl

theorem placed (h : Gives x w a v) : Gives (Scan.placed x) w a v := by
  intro c hc
  obtain ⟨c', hrun, hrest, hend⟩ := h c hc
  exact ⟨c', by rw [Scan.placed, hrun], hrest, hend⟩

theorem closing {close : Scan Unit} (hx : Gives x w a v) (hc : Gives close v () u) :
    Gives (Scan.closing x close) w a u := by
  intro c hw
  obtain ⟨c₁, hrun, hrest, hend⟩ := hx c hw
  obtain ⟨c₂, hrun', hrest', hend'⟩ := hc c₁ hrest
  exact ⟨c₂, by simp only [Scan.closing, hrun, hrun'], hrest', hend'.trans hend⟩

end Gives

/-! ## Single bytes -/

theorem gives_peek (b : UInt8) (w : Bytes) : Gives Scan.peek (b :: w) (some b) (b :: w) :=
  fun c hc => ⟨c.looked, Scan.peek_of_rest hc, c.rest_looked.trans hc, c.ending_looked⟩

theorem gives_skip (b : UInt8) (w : Bytes) : Gives Scan.skip (b :: w) () w :=
  fun c hc => ⟨c.advance, rfl, by rw [c.rest_advance, hc, List.tail_cons], c.ending_advance⟩

theorem gives_next (b : UInt8) (w : Bytes) : Gives Scan.next (b :: w) (some b) w :=
  (gives_peek b w).bind ((gives_skip b w).bind (.pure _ w))

theorem gives_textByte (b : UInt8) (w : Bytes) : Gives Scan.textByte (b :: w) b w :=
  (gives_next b w).bind (.pure b w)

theorem gives_joiner (ch : Char) (w : Bytes) :
    Gives (Scan.joiner ch) (Byte.ofChar ch :: w) () w := by
  refine (gives_peek _ w).bind ((gives_skip _ w).bind ?_)
  rw [if_pos rfl]
  exact .pure () w

/-- Exactly the bytes of the word are taken. -/
theorem gives_word (cs : List Char) (w : Bytes) :
    Gives (Scan.word cs) (cs.map Byte.ofChar ++ w) () w := by
  induction cs with
  | nil => exact .pure () w
  | cons ch cs ih =>
    refine (gives_next _ _).bind ?_
    simp only [if_pos]
    exact ih

/-! ## Blanks -/

theorem gives_peekPastBlanks {u : Bytes} {b : UInt8} (hu : Blanks u) (hb : Scan.isBlank b = false)
    (w : Bytes) : Gives Scan.peekPastBlanks (u ++ b :: w) (some b) (b :: w) := by
  suffices h : Gives (Scan.peekPastBlanksFor (u ++ b :: w)) (u ++ b :: w) (some b) (b :: w) by
    intro c hc
    rw [Scan.peekPastBlanks, hc]
    exact h c hc
  induction u with
  | nil =>
    refine (gives_peek b w).bind ?_
    simp only [hb, Bool.false_eq_true, if_false]
    exact .pure _ _
  | cons b' u ih =>
    refine (gives_peek b' _).bind ?_
    simp only [hu b' List.mem_cons_self, if_true]
    exact (gives_skip b' _).bind (ih fun b hb => hu b (List.mem_cons_of_mem _ hb))

/-- Where nothing but blanks is left, looking past them is looking at the end, or at the break. -/
theorem peekPastBlanks_of_blanks {c : Cursor} (hu : Blanks c.rest) :
    ∃ c', Scan.peekPastBlanks c = Scan.peek c' ∧ c'.rest = [] ∧ c'.ending = c.ending := by
  suffices h : ∀ (w : Bytes) (c : Cursor), c.rest = w → Blanks w →
      ∃ c', Scan.peekPastBlanksFor w c = Scan.peek c' ∧ c'.rest = [] ∧ c'.ending = c.ending from
    h c.rest c rfl hu
  intro w
  induction w with
  | nil => exact fun c hc _ => ⟨c, rfl, hc, rfl⟩
  | cons b w ih =>
    intro c hc hu
    obtain ⟨c₁, hskip, hrest, hend⟩ := gives_skip b w c.looked (c.rest_looked.trans hc)
    obtain ⟨c', hrun, hnil, hend'⟩ := ih c₁ hrest fun b hb => hu b (List.mem_cons_of_mem _ hb)
    refine ⟨c', ?_, hnil, hend'.trans (hend.trans c.ending_looked)⟩
    rw [Scan.peekPastBlanksFor, bind_of_eq_ok (Scan.peek_of_rest hc)]
    dsimp only
    rw [if_pos (hu b List.mem_cons_self), bind_of_eq_ok hskip, hrun]

/-- Where a document is over but for blanks, nothing more comes. -/
theorem peekPastBlanks_finished {c : Cursor} (hu : Blanks c.rest) (he : c.ending = .finished) :
    ∃ c', Scan.peekPastBlanks c = .ok none c' := by
  obtain ⟨c', hrun, hnil, hend⟩ := peekPastBlanks_of_blanks hu
  rw [hrun, Scan.peek_eq, hnil, hend, he]
  exact ⟨_, rfl⟩

/-- Where a document breaks off behind blanks, the break is met. -/
theorem peekPastBlanks_broken {c : Cursor} {reason : String} (hu : Blanks c.rest)
    (he : c.ending = .broken reason) :
    ∃ c', Scan.peekPastBlanks c = .error ⟨.readFailed reason, none⟩ c' := by
  obtain ⟨c', hrun, hnil, hend⟩ := peekPastBlanks_of_blanks hu
  rw [hrun, Scan.peek_eq, hnil, hend, he]
  exact ⟨_, rfl⟩

theorem endDocument_finished {c : Cursor} (hu : Blanks c.rest) (he : c.ending = .finished) :
    ∃ c', Scan.endDocument c = .ok () c' := by
  obtain ⟨c', h⟩ := peekPastBlanks_finished hu he
  refine ⟨c', ?_⟩
  change EStateM.bind Scan.peekPastBlanks _ c = _
  rw [EStateM.bind, h]
  rfl

end SpecCatalog.Json
