import SpecCatalog.Proofs.Json.Cursors

/-!
# Two ways to read one document

Two cursors are alike if the same is left of their documents and they end alike; the one may be
held whole and the other arrive. A step agrees with itself if from alike cursors it comes to the
same value and to alike cursors again, or to the same fault, with a place in both or in neither.
Where the place is depends on how the document is held.

Looking at a byte and taking it agree because what is left decides both (`peek_eq`), and so do
the steps that are made in two ways, because both ways are one byte after the other. All other
steps are put together from these, and each of them agrees by the lemma for how it is put
together (`bind`, `ite`, `placed`, `closing`). So do whole documents (`read_agrees`).
-/

namespace SpecCatalog.Json

open Scan

/-- The same is left, and the same comes after it. -/
def Cursor.Alike (c d : Cursor) : Prop := c.rest = d.rest ∧ c.ending = d.ending

/-- The same fault, with a place in both or in neither. -/
def Failure.Alike (e e' : Failure) : Prop :=
  e.fault = e'.fault ∧ e.place.isSome = e'.place.isSome

/-- Two outcomes of a step. A failure is never taken back, so the cursors after it do not matter. -/
inductive SameOutcome {α : Type} :
    EStateM.Result Failure Cursor α → EStateM.Result Failure Cursor α → Prop where
  | ok {a : α} {c d : Cursor} : c.Alike d → SameOutcome (.ok a c) (.ok a d)
  | error {e e' : Failure} {c d : Cursor} : e.Alike e' → SameOutcome (.error e c) (.error e' d)

/-- From alike cursors the step has the same outcome. -/
def Agrees {α : Type} (x : Scan α) : Prop := ∀ c d : Cursor, c.Alike d → SameOutcome (x c) (x d)

namespace Agrees

variable {α β : Type} {x y : Scan α} {f : α → Scan β}

/-! ## Ways to put steps together -/

theorem pure (a : α) : Agrees (Pure.pure a : Scan α) := fun _ _ h => .ok h

theorem bind (hx : Agrees x) (hf : ∀ a, Agrees (f a)) : Agrees (x >>= f) := by
  intro c d h
  have hout := hx c d h
  cases hc : x c with
  | ok a c' =>
    cases hd : x d with
    | ok b d' =>
      rw [hc, hd] at hout
      cases hout with
      | ok halike =>
        rw [bind_of_eq_ok hc, bind_of_eq_ok hd]
        exact hf a c' d' halike
    | error e d' => rw [hc, hd] at hout; cases hout
  | error e c' =>
    cases hd : x d with
    | ok b d' => rw [hc, hd] at hout; cases hout
    | error e' d' =>
      rw [hc, hd] at hout
      cases hout with
      | error halike =>
        rw [bind_of_eq_error hc, bind_of_eq_error hd]
        exact .error halike

theorem ite {p : Prop} [Decidable p] (hx : Agrees x) (hy : Agrees y) :
    Agrees (if p then x else y) := by
  split
  · exact hx
  · exact hy

/-- A step that first measures what is left. -/
theorem measured {g : Nat → Scan α} (h : ∀ n, Agrees (g n)) :
    Agrees fun c => g c.rest.length c := by
  intro c d hcd
  dsimp only
  rw [hcd.1]
  exact h _ c d hcd

theorem failHere (fault : Fault) : Agrees (Scan.failHere fault : Scan α) :=
  fun _ _ _ => .error ⟨rfl, rfl⟩

theorem failBack (n : Nat) (fault : Fault) : Agrees (Scan.failBack n fault : Scan α) :=
  fun _ _ _ => .error ⟨rfl, rfl⟩

theorem failAhead (fault : Fault) : Agrees (Scan.failAhead fault : Scan α) :=
  fun _ _ _ => .error ⟨rfl, rfl⟩

theorem failLater (fault : Fault) : Agrees (Scan.failLater fault : Scan α) :=
  fun _ _ _ => .error ⟨rfl, rfl⟩

theorem placed (hx : Agrees x) : Agrees (Scan.placed x) := by
  intro c d h
  have hout := hx c d h
  unfold Scan.placed
  revert hout
  rcases x c with ⟨a, c'⟩ | ⟨⟨fault, _ | place⟩, c'⟩ <;>
    rcases x d with ⟨b, d'⟩ | ⟨⟨fault', _ | place'⟩, d'⟩ <;>
    rintro (⟨halike⟩ | ⟨⟨hfault, hplace⟩⟩)
  · exact .ok halike
  · exact .error ⟨hfault, rfl⟩
  · cases hplace
  · cases hplace
  · exact .error ⟨hfault, rfl⟩

theorem closing {close : Scan Unit} (hx : Agrees x) (hclose : Agrees close) :
    Agrees (Scan.closing x close) := by
  intro c d h
  have hout := hx c d h
  unfold Scan.closing
  cases hc : x c with
  | ok a c' =>
    cases hd : x d with
    | ok b d' =>
      rw [hc, hd] at hout
      cases hout with
      | ok halike =>
        have hout' := hclose c' d' halike
        dsimp only
        revert hout'
        rcases close c' with ⟨⟨⟩, c''⟩ | ⟨e, c''⟩ <;> rcases close d' with ⟨⟨⟩, d''⟩ | ⟨e', d''⟩ <;>
          rintro (⟨halike'⟩ | ⟨halike'⟩)
        · exact .ok halike'
        · exact .error halike'
    | error e d' => rw [hc, hd] at hout; cases hout
  | error e c' =>
    cases hd : x d with
    | ok b d' => rw [hc, hd] at hout; cases hout
    | error e' d' =>
      rw [hc, hd] at hout
      cases hout with
      | error halike =>
        -- whatever comes of the closing, the first failure is kept
        dsimp only
        rcases close c' with ⟨⟨⟩, c''⟩ | ⟨_, c''⟩ <;> rcases close d' with ⟨⟨⟩, d''⟩ | ⟨_, d''⟩ <;>
          exact .error halike

/-! ## Single bytes -/

theorem peek : Agrees Scan.peek := by
  rintro c d ⟨hrest, hend⟩
  have hlooked : c.looked.Alike d.looked :=
    ⟨by rw [c.rest_looked, d.rest_looked, hrest], by rw [c.ending_looked, d.ending_looked, hend]⟩
  rw [peek_eq, peek_eq, hrest, hend]
  split
  · exact .ok hlooked
  · exact .ok hlooked
  · exact .error ⟨rfl, rfl⟩

theorem skip : Agrees Scan.skip := fun c d ⟨hrest, hend⟩ =>
  .ok ⟨by rw [c.rest_advance, d.rest_advance, hrest],
    by rw [c.ending_advance, d.ending_advance, hend]⟩

theorem next : Agrees Scan.next := .bind peek fun _ => .bind skip fun _ => .pure _

theorem peekPastBlanksFor (fuel : Bytes) : Agrees (Scan.peekPastBlanksFor fuel) := by
  induction fuel with
  | nil => exact peek
  | cons _ fuel ih =>
    refine .bind peek fun b => ?_
    cases b with
    | none => exact .pure _
    | some b => exact .ite (.bind skip fun _ => ih) (.pure _)

theorem peekPastBlanks : Agrees Scan.peekPastBlanks := by
  intro c d h
  unfold Scan.peekPastBlanks
  rw [h.1]
  exact peekPastBlanksFor _ c d h

/-- A step that goes on from the byte to come, or fails or goes on at the end. -/
theorem look {look : Scan (Option UInt8)} {g : Option UInt8 → Scan α} (hlook : Agrees look)
    (hnone : Agrees (g none)) (hsome : ∀ b, Agrees (g (some b))) : Agrees (look >>= g) := by
  refine .bind hlook fun b => ?_
  cases b with
  | none => exact hnone
  | some b => exact hsome b

/-! ## Words and texts -/

theorem word (cs : List Char) : Agrees (Scan.word cs) := by
  induction cs with
  | nil => exact .pure ()
  | cons ch cs ih => exact .look next (.failHere _) fun b => .ite ih (.failHere _)

theorem textByte : Agrees Scan.textByte := .look next (.failHere _) fun b => .pure b

theorem fourHex : Agrees Scan.fourHex := by
  rw [fourHex_eq]
  refine .bind textByte fun a => .bind textByte fun b => .bind textByte fun c =>
    .bind textByte fun d => ?_
  cases hexNumber a b c d with
  | none => exact .failHere _
  | some n => exact .pure n

theorem joiner (ch : Char) : Agrees (Scan.joiner ch) :=
  .look peek (.failHere _) fun _ => .bind skip fun _ => .ite (.pure ()) (.failHere _)

theorem numberedEscape : Agrees Scan.numberedEscape :=
  .bind fourHex fun _ => .ite (.failHere _) (.ite (.pure _)
    (.bind (joiner _) fun _ => .bind (joiner _) fun _ => .bind fourHex fun _ =>
      .ite (.pure _) (.failHere _)))

theorem escaped : Agrees Scan.escaped := by
  refine .bind textByte fun b => ?_
  cases escapeLetters.find? fun p => Byte.ofChar p.1 = b with
  | some p => exact .pure _
  | none => exact .ite numberedEscape (.failHere _)

theorem textByBytes (fuel : Nat) (gathered : Bytes) : Agrees (Scan.textByBytes fuel gathered) := by
  induction fuel generalizing gathered with
  | zero => exact .failHere _
  | succ fuel ih =>
    exact .bind textByte fun b => .ite (.pure _) (.ite (.bind escaped fun _ => ih _)
      (.ite (.failHere _) (ih _)))

theorem text : Agrees Scan.text := by
  rw [Scan.text, textBytes_eq]
  refine .bind (measured fun _ => textByBytes _ _) fun bs => ?_
  cases Text.ofBytes? bs with
  | none => exact .failBack _ _
  | some s => exact .pure s

/-! ## Numbers -/

theorem peekDigit : Agrees Scan.peekDigit := .look peek (.pure _) fun _ => .pure _

theorem digitsFor (fuel : Nat) : Agrees (Scan.digitsFor fuel) := by
  induction fuel with
  | zero => exact .pure _
  | succ fuel ih =>
    refine .bind peekDigit fun d => ?_
    cases d with
    | none => exact .pure _
    | some d => exact .bind skip fun _ => .bind ih fun _ => .pure _

theorem digits : Agrees Scan.digits := measured digitsFor

theorem realNumber (positive : Bool) (n : Nat) (e : Int) :
    Agrees (Scan.realNumber positive n e) := by
  unfold Scan.realNumber
  split
  · exact .pure _
  · exact .failHere _

theorem peekExponent : Agrees Scan.peekExponent := .look peek (.pure _) fun _ => .pure _

theorem exponentDigits (tooLarge : Bool) (fuel e : Nat) :
    Agrees (Scan.exponentDigits tooLarge fuel e) := by
  induction fuel generalizing e with
  | zero => exact .pure _
  | succ fuel ih =>
    refine .bind peekDigit fun d => ?_
    cases d with
    | none => exact .pure _
    | some d =>
      exact .bind skip fun _ => .ite (ih _) (.ite (.failHere _) (.bind digits fun _ => .pure _))

theorem exponentSign : Agrees Scan.exponentSign :=
  .look peek (.pure _) fun _ => .ite (.bind skip fun _ => .pure _)
    (.ite (.bind skip fun _ => .pure _) (.pure _))

theorem withExponent (positive : Bool) (n : Nat) (e : Int) :
    Agrees (Scan.withExponent positive n e) := by
  refine .bind skip fun _ => .bind exponentSign fun rising =>
    .look next (.failHere _) fun b => .ite (.bind ?_ fun x => ?_) (.failHere _)
  · exact measured fun rounds => exponentDigits _ rounds _
  · cases x with
    | none => exact .pure _
    | some x => exact realNumber _ _ _

theorem withFraction (positive : Bool) (n : Nat) (e : Int) :
    Agrees (Scan.withFraction positive n e) :=
  .bind skip fun _ => .bind digits fun _ => .ite (.look peek (.failAhead _) fun _ => .failAhead _)
    (.bind peekExponent fun _ => .ite (withExponent _ _ _) (realNumber _ _ _))

theorem number_rest (positive : Bool) (n dropped : Nat) :
    Agrees (Scan.number.rest positive n dropped) := by
  have hwhole : Agrees (Scan.number.whole positive n dropped) :=
    .ite (.pure _) (realNumber _ _ _)
  exact .look peek hwhole fun _ =>
    .ite (withFraction _ _ _) (.ite (withExponent _ _ _) hwhole)

theorem number (positive : Bool) : Agrees (Scan.number positive) :=
  .look next (.failHere _) fun _ =>
    .ite (.bind peekDigit fun _ => .ite (.failAhead _) (number_rest _ _ _))
      (.ite (.bind digits fun _ => number_rest _ _ _) (.failHere _))

/-! ## Values -/

theorem mismatch (wanted : String) : Agrees (Scan.mismatch wanted : Scan α) := by
  refine .placed (.look peek (.failAhead _) fun b => ?_)
  refine .ite (.bind skip fun _ => .bind (word _) fun _ => .failLater _) ?_
  refine .ite (.bind skip fun _ => .bind (word _) fun _ => .failLater _) ?_
  refine .ite (.bind skip fun _ => .bind (word _) fun _ => .failLater _) ?_
  refine .ite (.bind skip fun _ => .bind (number _) fun _ => .failLater _) ?_
  refine .ite (.bind (number _) fun _ => .failLater _) ?_
  refine .ite (.bind skip fun _ => .bind text fun _ => .failLater _) ?_
  exact .ite (.failLater _) (.ite (.failLater _) (.failAhead _))

theorem textValue : Agrees Scan.textValue :=
  .placed (.look peekPastBlanks (.failAhead _) fun _ => .ite (.bind skip fun _ => text) (mismatch _))

theorem orNull (hx : Agrees x) : Agrees (Scan.orNull x) :=
  .look peekPastBlanks (.bind hx fun _ => .pure _) fun _ =>
    .ite (.bind skip fun _ => .bind (word _) fun _ => .pure _) (.bind hx fun _ => .pure _)

/-! ## Lists -/

theorem nextItem (first : Bool) : Agrees (Scan.nextItem first) :=
  .look peekPastBlanks (.failAhead _) fun _ => .ite (.pure _) (.ite (.pure _) (.ite
    (.bind skip fun _ => .look peekPastBlanks (.failAhead _) fun _ => .ite (.failAhead _) (.pure _))
    (.failAhead _)))

/-- After a comma the list is refused, whether a byte comes, the end or the break. -/
theorem afterComma : Agrees Scan.endList.afterComma := by
  intro c d h
  have hout := peekPastBlanks c d h
  unfold Scan.endList.afterComma
  revert hout
  rcases Scan.peekPastBlanks c with ⟨b, c'⟩ | ⟨e, c'⟩ <;>
    rcases Scan.peekPastBlanks d with ⟨b', d'⟩ | ⟨e', d'⟩ <;>
    rintro (⟨halike⟩ | ⟨halike⟩)
  · cases b with
    | none => exact .error ⟨rfl, rfl⟩
    | some b =>
      dsimp only
      split <;> exact .error ⟨rfl, rfl⟩
  · exact .error ⟨rfl, rfl⟩

theorem endList : Agrees Scan.endList :=
  .look peekPastBlanks (.failAhead _) fun _ =>
    .ite skip (.ite (.bind skip fun _ => afterComma) (.failAhead _))

theorem itemsFor (hx : Agrees x) (fuel : Nat) (first : Bool) :
    Agrees (Scan.itemsFor x fuel first) := by
  induction fuel generalizing first with
  | zero => exact .failAhead _
  | succ fuel ih =>
    exact .bind (nextItem _) fun _ => .ite (.bind hx fun _ => .bind (ih _) fun _ => .pure _) (.pure _)

theorem listValue (hx : Agrees x) : Agrees (Scan.listValue x) :=
  .placed (.look peekPastBlanks (.failAhead _) fun _ => .ite
    (.bind skip fun _ => .closing (measured fun _ => itemsFor hx _ _) endList) (mismatch _))

/-! ## Objects -/

theorem nextMember (first : Bool) : Agrees (Scan.nextMember first) := by
  have hkey (b : UInt8) : Agrees (Scan.nextMember.key b) := .ite (.pure _) (.failAhead _)
  exact .look peekPastBlanks (.failAhead _) fun b => .ite (.pure _) (.ite (hkey b) (.ite
    (.bind skip fun _ => .look peekPastBlanks (.failAhead _) fun b => .ite (.failAhead _) (hkey b))
    (.failAhead _)))

theorem colon : Agrees Scan.colon :=
  .look peekPastBlanks (.failAhead _) fun _ => .ite skip (.failAhead _)

theorem endMap : Agrees Scan.endMap :=
  .look peekPastBlanks (.failAhead _) fun _ => .ite skip (.ite (.failAhead _) (.failAhead _))

theorem endDocument : Agrees Scan.endDocument :=
  .look peekPastBlanks (.pure _) fun _ => .failAhead _

end Agrees

/-! ## Records -/

namespace Shape

variable {ρ : Type} {s : Shape ρ}

/-- Each field is read in a way that agrees. -/
def Agreeing (s : Shape ρ) : Prop := ∀ f ∈ s.fields, ∀ r, Agrees (f.read r)

theorem elements_agrees (i : Nat) (first : Bool) (r : ρ) {fs : List (Field ρ)}
    (hfs : ∀ f ∈ fs, ∀ r, Agrees (f.read r)) : Agrees (s.elements i first r fs) := by
  induction fs generalizing i first r with
  | nil => exact .pure _
  | cons f fs ih =>
    refine .bind (.nextItem _) fun _ => .ite (.bind (hfs f List.mem_cons_self r) fun r =>
      ih (i + 1) false r fun f hf => hfs f (List.mem_cons_of_mem _ hf)) ?_
    cases (f :: fs).findIdx? (·.required) with
    | none => exact .pure _
    | some k => exact .failLater _

theorem members_agrees (hs : s.Agreeing) (fuel : Nat) (first : Bool) (seen : List String) (r : ρ) :
    Agrees (s.members fuel first seen r) := by
  induction fuel generalizing first seen r with
  | zero => exact .pure _
  | succ fuel ih =>
    refine .bind (.nextMember _) fun _ => .ite (.bind .skip fun _ => .bind .text fun key => ?_) ?_
    · cases hfind : s.fields.find? (·.name = key) with
      | none => exact .failLater _
      | some f =>
        exact .ite (.failLater _) (.bind .colon fun _ =>
          .bind (hs f (List.mem_of_find?_eq_some hfind) r) fun _ => ih _ _ _)
    · cases s.fields.find? fun f => f.required && !seen.contains f.name with
      | none => exact .pure _
      | some f => exact .failLater _

theorem document_agrees (hs : s.Agreeing) : Agrees s.document := by
  have hvalue : Agrees s.value :=
    .look .peekPastBlanks (.failAhead _) fun _ => .ite
      (.placed (.bind .skip fun _ => .closing (elements_agrees _ _ _ hs) .endList))
      (.ite (.placed (.bind .skip fun _ => .closing (members_agrees hs _ _ _ _) .endMap))
        (.mismatch _))
  exact .bind hvalue fun _ => .bind .endDocument fun _ => .pure _

/-- **Alike documents are read alike**: with the same answer, or with the same fault. -/
theorem read_agrees (hs : s.Agreeing) {c d : Cursor} (h : c.Alike d) :
    (∃ r, s.read c = .ok r ∧ s.read d = .ok r)
      ∨ ∃ e e', s.read c = .error e ∧ s.read d = .error e' ∧ e.Alike e' := by
  have hout := document_agrees hs c d h
  unfold read
  revert hout
  rcases s.document c with ⟨r, c'⟩ | ⟨e, c'⟩ <;> rcases s.document d with ⟨r', d'⟩ | ⟨e', d'⟩ <;>
    rintro (⟨halike⟩ | ⟨halike⟩)
  · exact .inl ⟨r, rfl, rfl⟩
  · exact .inr ⟨e, e', rfl, rfl, halike⟩

end Shape

end SpecCatalog.Json
