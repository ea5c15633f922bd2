import SpecCatalog.Json.Record
import SpecCatalog.Proofs.Stateful

/-!
# Cursors

What is left of a document decides what is seen and taken next, whether the document is held
whole or arrives (`peek_eq`, `rest_advance`). Where the two are read in different ways, the
ways come to the same: the four digits of an escape are what one byte after the other gives
(`fourHex_eq`), and so is a text that was read by runs of plain bytes (`textBytes_eq`).
-/

namespace SpecCatalog.Json

/-! ## Looking and taking -/

namespace Feed

variable {f : Feed}

theorem pull_rest (f : Feed) : f.pull.rest = f.rest := by
  unfold pull rest
  split
  · rename_i hheld hnext
    simp only [hheld, Option.toList_some, Option.toList_none, List.nil_append, List.singleton_append,
      Delivery.content_of_next hnext]
  · rfl

theorem pull_held (f : Feed) : f.pull.held = f.rest.head? := by
  unfold pull rest
  split
  · rename_i hheld hnext
    simp only [hheld, Option.toList_none, List.nil_append, Delivery.content_of_next hnext,
      List.head?_cons]
  · rename_i hother
    cases hheld : f.held with
    | some b => rfl
    | none =>
      cases hnext : Delivery.next f.deliveries with
      | some p => exact absurd hnext (hother _ _ hheld)
      | none => rw [Delivery.content_of_next_eq_none hnext]; rfl

theorem pull_ending (f : Feed) : f.pull.ending = f.ending := by
  unfold pull
  split <;> rfl

theorem drop_rest (f : Feed) : f.drop.rest = f.rest.tail := by
  rw [← f.pull_rest]
  unfold drop rest
  cases hheld : f.pull.held with
  | some b => rfl
  | none =>
    have hrest : f.pull.rest = [] := by
      rw [pull_rest]
      exact List.head?_eq_none_iff.1 (f.pull_held.symm.trans hheld)
    unfold rest at hrest
    rw [(List.append_eq_nil_iff.1 hrest).2]
    rfl

end Feed

namespace Cursor

/-- The cursor after the next byte was looked at. -/
def looked : Cursor → Cursor
  | .whole s => .whole s
  | .arriving f => .arriving f.pull

@[simp] theorem rest_looked (c : Cursor) : c.looked.rest = c.rest := by
  cases c with
  | whole s => rfl
  | arriving f => exact f.pull_rest

@[simp] theorem ending_looked (c : Cursor) : c.looked.ending = c.ending := by
  cases c with
  | whole s => rfl
  | arriving f => exact f.pull_ending

@[simp] theorem rest_advance (c : Cursor) : c.advance.rest = c.rest.tail := by
  cases c with
  | whole s => exact List.drop_one
  | arriving f => exact f.drop_rest

@[simp] theorem ending_advance (c : Cursor) : c.advance.ending = c.ending := by
  cases c with
  | whole s => rfl
  | arriving f => exact f.pull_ending

@[simp] theorem rest_ofBytes (bs : Bytes) : (ofBytes bs).rest = bs := rfl

@[simp] theorem ending_ofBytes (bs : Bytes) : (ofBytes bs).ending = .finished := rfl

@[simp] theorem rest_ofStream (s : Stream) : (ofStream s).rest = s.bytes := rfl

@[simp] theorem ending_ofStream (s : Stream) : (ofStream s).ending = s.ending := rfl

end Cursor

namespace Scan

/-- What is seen next is what is left first, and after it the end or the break. -/
theorem peek_eq (c : Cursor) :
    peek c = match c.rest.head?, c.ending with
      | some b, _ => .ok (some b) c.looked
      | none, .finished => .ok none c.looked
      | none, .broken reason => .error ⟨.readFailed reason, none⟩ c.looked := by
  cases c with
  | whole s =>
    unfold peek
    simp only [Cursor.rest, Cursor.ending, Cursor.looked]
    cases s.rest.head? <;> rfl
  | arriving f =>
    unfold peek
    cases hhead : f.rest.head? <;> cases hending : f.ending <;>
      simp only [Cursor.rest, Cursor.ending, Cursor.looked, f.pull_held, f.pull_ending, hhead,
        hending]

theorem peek_of_rest {c : Cursor} {b : UInt8} {w : Bytes} (h : c.rest = b :: w) :
    peek c = .ok (some b) c.looked := by
  rw [peek_eq, h]
  rfl

end Scan

/-! ## Slices -/

namespace Slice

theorem takeBytes_takeBytes (s : Slice) (m n : Nat) :
    (s.takeBytes m).takeBytes n = s.takeBytes (m + n) := by
  unfold takeBytes
  simp only [List.drop_drop, List.take_add, List.reverse_append, List.append_assoc]

/-- There are no more bytes than there are. -/
theorem takeBytes_of_length_le {s : Slice} {n : Nat} (h : s.rest.length ≤ n) :
    s.takeBytes n = s.takeBytes s.rest.length := by
  unfold takeBytes
  rw [List.take_of_length_le h, List.drop_of_length_le h, List.take_length, List.drop_length]

end Slice

namespace Scan

theorem next_whole (s : Slice) : next (.whole s) = .ok s.rest.head? (.whole (s.takeBytes 1)) := rfl

theorem textByte_whole_of_lt {s : Slice} {n : Nat} {b : UInt8} (h : s.rest[n]? = some b) :
    textByte (.whole (s.takeBytes n)) = .ok b (.whole (s.takeBytes (n + 1))) := by
  have hnext : next (.whole (s.takeBytes n)) = .ok (some b) (.whole (s.takeBytes (n + 1))) := by
    rw [next_whole, Slice.takeBytes_takeBytes, ← h]
    exact congrArg (EStateM.Result.ok · _) List.head?_drop
  rw [textByte, bind_of_eq_ok hnext]
  rfl

theorem textByte_whole_of_le {s : Slice} {n : Nat} (h : s.rest.length ≤ n) :
    textByte (.whole (s.takeBytes n))
      = failHere .endInText (.whole (s.takeBytes s.rest.length)) := by
  have hnext : next (.whole (s.takeBytes n)) = .ok none (.whole (s.takeBytes s.rest.length)) := by
    rw [next_whole, Slice.takeBytes_takeBytes, Slice.takeBytes_of_length_le (Nat.le_succ_of_le h)]
    exact congrArg (EStateM.Result.ok · _)
      (by rw [Slice.takeBytes, List.drop_of_length_le h]; rfl)
  rw [textByte, bind_of_eq_ok hnext]

/-! ## Four digits -/

/-- Four digits at once are the digits that come one after the other. If there are fewer than
four bytes, both ways take them all and fail there. -/
theorem fourHexAtOnce_eq (s : Slice) : fourHexAtOnce s = fourHexByBytes (.whole s) := by
  have hstep {n : Nat} {b : UInt8} (h : s.rest[n]? = some b) {f : UInt8 → Scan Nat} :
      (textByte >>= f) (.whole (s.takeBytes n)) = f b (.whole (s.takeBytes (n + 1))) :=
    bind_of_eq_ok (textByte_whole_of_lt h)
  have hend {n : Nat} (h : s.rest.length = n) {f : UInt8 → Scan Nat} :
      (textByte >>= f) (.whole (s.takeBytes n))
        = failHere .endInText (.whole (s.takeBytes s.rest.length)) :=
    bind_of_eq_error (textByte_whole_of_le (Nat.le_of_eq h))
  change _ = fourHexByBytes (.whole (s.takeBytes 0))
  unfold fourHexAtOnce fourHexByBytes
  rcases hrest : s.rest with _ | ⟨a, _ | ⟨b, _ | ⟨c, _ | ⟨d, w⟩⟩⟩⟩ <;>
    simp only [hrest, List.length_cons, List.length_nil, Nat.zero_add, Nat.reduceAdd] at hstep hend
  · exact (hend rfl).symm
  · exact ((hstep rfl).trans (hend rfl)).symm
  · exact ((hstep rfl).trans ((hstep rfl).trans (hend rfl))).symm
  · exact ((hstep rfl).trans ((hstep rfl).trans ((hstep rfl).trans (hend rfl)))).symm
  · rw [hstep rfl, hstep rfl, hstep rfl, hstep rfl]
    dsimp only
    cases hexNumber a b c d <;> rfl

/-- The four digits of an escape are what one byte after the other gives. -/
theorem fourHex_eq : fourHex = fourHexByBytes := by
  funext c
  cases c with
  | whole s => exact fourHexAtOnce_eq s
  | arriving f => rfl

/-! ## Texts -/

/-- The step leaves a slice a slice, and nothing is added to it. -/
def KeepsWhole {α : Type} (x : Scan α) : Prop :=
  ∀ (s : Slice) (a : α) (c : Cursor), x (.whole s) = .ok a c →
    ∃ s', c = .whole s' ∧ s'.rest.length ≤ s.rest.length

namespace KeepsWhole

variable {α β : Type} {x : Scan α} {f : α → Scan β}

theorem pure (a : α) : KeepsWhole (Pure.pure a : Scan α) := by
  rintro s _ _ ⟨⟩
  exact ⟨s, rfl, Nat.le_refl _⟩

theorem failHere (fault : Fault) : KeepsWhole (Scan.failHere fault : Scan α) := nofun

theorem bind (hx : KeepsWhole x) (hf : ∀ a, KeepsWhole (f a)) : KeepsWhole (x >>= f) := by
  intro s b c h
  obtain ⟨a, c₁, ha, h⟩ := exists_of_bind_eq_ok h
  obtain ⟨s₁, rfl, hle⟩ := hx s a c₁ ha
  obtain ⟨s₂, rfl, hle'⟩ := hf a s₁ b c h
  exact ⟨s₂, rfl, Nat.le_trans hle' hle⟩

theorem ite {p : Prop} [Decidable p] {y : Scan α} (hx : KeepsWhole x) (hy : KeepsWhole y) :
    KeepsWhole (if p then x else y) := by
  split
  · exact hx
  · exact hy

theorem peek : KeepsWhole Scan.peek := by
  rintro s _ _ ⟨⟩
  exact ⟨s, rfl, Nat.le_refl _⟩

theorem skip : KeepsWhole Scan.skip := by
  rintro s _ _ ⟨⟩
  exact ⟨s.takeBytes 1, rfl, by rw [Slice.takeBytes, List.length_drop]; omega⟩

theorem textByte : KeepsWhole Scan.textByte := by
  refine .bind (.bind peek fun _ => .bind skip fun _ => .pure _) fun b => ?_
  cases b with
  | none => exact .failHere _
  | some b => exact .pure b

theorem fourHex : KeepsWhole Scan.fourHex := by
  rw [fourHex_eq]
  refine .bind textByte fun a => .bind textByte fun b => .bind textByte fun c =>
    .bind textByte fun d => ?_
  cases hexNumber a b c d with
  | none => exact .failHere _
  | some n => exact .pure n

theorem joiner (ch : Char) : KeepsWhole (Scan.joiner ch) := by
  refine .bind peek fun b => ?_
  cases b with
  | none => exact .failHere _
  | some b => exact .bind skip fun _ => .ite (.pure ()) (.failHere _)

theorem escaped : KeepsWhole Scan.escaped := by
  refine .bind textByte fun b => ?_
  cases escapeLetters.find? fun p => Byte.ofChar p.1 = b with
  | some p => exact .pure _
  | none =>
    refine .ite (.bind fourHex fun n => .ite (.failHere _) (.ite (.pure _) ?_)) (.failHere _)
    exact .bind (joiner _) fun _ => .bind (joiner _) fun _ => .bind fourHex fun m =>
      .ite (.pure _) (.failHere _)

end KeepsWhole

/-- Plain bytes taken one after the other are gathered like a run of them. -/
theorem textByBytes_run {s : Slice} {run w : Bytes} (hrest : s.rest = run ++ w)
    (hrun : ∀ b ∈ run, isPlain b = true) (fuel : Nat) (gathered : Bytes) :
    textByBytes (run.length + fuel) gathered (.whole s)
      = textByBytes fuel (run.reverse ++ gathered) (.whole (s.takeBytes run.length)) := by
  induction run generalizing s gathered with
  | nil => rw [List.length_nil, Nat.zero_add]; rfl
  | cons b run ih =>
    have hfirst : s.rest[0]? = some b := by rw [hrest]; rfl
    obtain ⟨⟨hquote, hslash⟩, hcontrol⟩ : (b ≠ Byte.quote ∧ b ≠ Byte.backslash) ∧ ¬ b < 0x20 := by
      simpa [isPlain] using hrun b List.mem_cons_self
    have hround : textByBytes ((b :: run).length + fuel) gathered (.whole s)
        = textByBytes (run.length + fuel) (b :: gathered) (.whole (s.takeBytes 1)) := by
      rw [List.length_cons, Nat.succ_add_eq_add_succ, Nat.add_succ, textByBytes]
      refine (bind_of_eq_ok (textByte_whole_of_lt (n := 0) hfirst)).trans ?_
      rw [if_neg hquote, if_neg hslash, if_neg hcontrol]
    have hrest' : (s.takeBytes 1).rest = run ++ w := by
      rw [Slice.takeBytes, hrest]
      rfl
    rw [hround, ih hrest' (fun b hb => hrun b (List.mem_cons_of_mem _ hb)),
      Slice.takeBytes_takeBytes, List.reverse_cons, List.append_assoc, List.length_cons,
      Nat.add_comm 1]
    rfl

/-- A text by runs of plain bytes is the text byte by byte. A round over a run is as many rounds
over bytes, and in both ways each byte has a round at least. -/
theorem textByRuns_eq {fuel fuel' : Nat} {s : Slice} (hfuel : s.rest.length < fuel)
    (hfuel' : s.rest.length < fuel') (gathered : Bytes) :
    textByRuns fuel gathered (.whole s) = textByBytes fuel' gathered (.whole s) := by
  induction fuel generalizing fuel' s gathered with
  | zero => exact absurd hfuel (Nat.not_lt_zero _)
  | succ fuel ih =>
    let run := s.rest.takeWhile isPlain
    have hsplit : s.rest = run ++ s.rest.dropWhile isPlain := List.takeWhile_append_dropWhile.symm
    have hlength := congrArg List.length hsplit
    rw [List.length_append] at hlength
    obtain ⟨rounds, rfl⟩ : ∃ rounds, fuel' = run.length + (rounds + 1) :=
      ⟨fuel' - run.length - 1, by omega⟩
    have hplain : plainRun (.whole s) = .ok run (.whole (s.takeBytes run.length)) := rfl
    rw [textByBytes_run hsplit (fun b hb => List.all_eq_true.1 List.all_takeWhile b hb), textByRuns,
      bind_of_eq_ok hplain, textByBytes]
    -- behind the run stands no plain byte
    cases hnext : s.rest.dropWhile isPlain with
    | nil =>
      have hend := textByte_whole_of_le (s := s) (n := run.length) (by rw [hlength, hnext]; simp)
      exact (bind_of_eq_error hend).trans (bind_of_eq_error hend).symm
    | cons b w =>
      have hbyte := textByte_whole_of_lt (s := s) (n := run.length) (b := b)
        (by rw [hsplit, hnext, List.getElem?_append_right (Nat.le_refl _), Nat.sub_self]; rfl)
      refine (bind_of_eq_ok hbyte).trans (Eq.trans ?_ (bind_of_eq_ok hbyte).symm)
      have hspecial : isPlain b = false := by
        have := List.head?_dropWhile_not isPlain s.rest
        rw [hnext] at this
        simpa using this
      by_cases hquote : b = Byte.quote
      · rw [if_pos hquote, if_pos hquote]
      rw [if_neg hquote, if_neg hquote]
      by_cases hslash : b = Byte.backslash
      · rw [if_pos hslash, if_pos hslash]
        cases hescape : escaped (.whole (s.takeBytes (run.length + 1))) with
        | error e c => rw [bind_of_eq_error hescape, bind_of_eq_error hescape]
        | ok v c =>
          obtain ⟨s', rfl, hle⟩ := KeepsWhole.escaped _ _ _ hescape
          rw [Slice.takeBytes, List.length_drop] at hle
          rw [hnext, List.length_cons] at hlength
          rw [bind_of_eq_ok hescape, bind_of_eq_ok hescape]
          exact ih (by omega) (by omega) _
      · have hcontrol : b < 0x20 := by simpa [isPlain, hquote, hslash] using hspecial
        rw [if_neg hslash, if_neg hslash, if_pos hcontrol]

/-- A text is what one byte after the other gives, with as many rounds as there are bytes. -/
theorem textBytes_eq : textBytes = fun c => textByBytes (c.rest.length + 1) [] c := by
  funext c
  cases c with
  | whole s => exact textByRuns_eq (Nat.lt_succ_self _) (Nat.lt_succ_self _) []
  | arriving f => rfl

end Scan

end SpecCatalog.Json
