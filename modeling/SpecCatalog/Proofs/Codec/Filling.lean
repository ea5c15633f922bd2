import SpecCatalog.Proofs.Codec.RoundTrip
import SpecCatalog.Proofs.Stateful

/-!
# Writers that fill up

A descriptor is written in many small pieces, and the writer may become full at any byte of any
of them. A step `Puts` some bytes if it stores all of them while there is room, and else fails
having stored what fitted. One such step after the other is such a step for all bytes of both
(`Puts.andThen`), so writing the pieces puts the whole descriptor: what is stored is always its
beginning, wherever the pieces are cut (`encodeTo_stores_prefix`).
-/

namespace SpecCatalog

variable {σ : Type} {view : Bytes → Nat → σ → Prop} {x y : EStateM IoError σ Unit}
  {bs bs' : Bytes}

/-- The step stores the bytes if they fit, and else what fits of them before it fails. What is
stored and how much still fits is told by `view`. -/
structure Puts (view : Bytes → Nat → σ → Prop) (x : EStateM IoError σ Unit) (bs : Bytes) :
    Prop where
  fits : ∀ {out : Bytes} {room : Nat} {before : σ}, view out room before → bs.length ≤ room →
    ∃ after, x before = .ok () after ∧ view (out ++ bs) (room - bs.length) after
  crosses : ∀ {out : Bytes} {room : Nat} {before : σ}, view out room before → room < bs.length →
    ∃ e after, x before = .error e after ∧ view (out ++ bs.take room) 0 after

theorem puts_nil : Puts view (return ()) [] where
  fits := by
    intro out room before hview _
    refine ⟨before, rfl, ?_⟩
    rw [List.append_nil]
    exact hview
  crosses := fun _ hroom => absurd hroom (Nat.not_lt_zero _)

/-- Of two steps the second has the room that the first one leaves. -/
theorem Puts.andThen (hx : Puts view x bs) (hy : Puts view y bs') :
    Puts view (x >>= fun _ => y) (bs ++ bs') where
  fits := by
    intro out room before hview hroom
    rw [List.length_append] at hroom
    obtain ⟨between, hfirst, hview⟩ := hx.fits hview (by omega)
    obtain ⟨after, hsecond, hview⟩ := hy.fits hview (by omega)
    refine ⟨after, (bind_of_eq_ok hfirst).trans hsecond, ?_⟩
    rw [List.length_append, ← List.append_assoc, ← Nat.sub_sub]
    exact hview
  crosses := by
    intro out room before hview hroom
    rw [List.length_append] at hroom
    by_cases hfirst : room < bs.length
    · -- the limit lies within the first step, and there is no second
      obtain ⟨e, after, hx, hview⟩ := hx.crosses hview hfirst
      refine ⟨e, after, bind_of_eq_error hx, ?_⟩
      rw [List.take_append_of_le_length (Nat.le_of_lt hfirst)]
      exact hview
    · obtain ⟨between, hx, hview⟩ := hx.fits hview (Nat.not_lt.1 hfirst)
      obtain ⟨e, after, hy, hview⟩ := hy.crosses hview (by omega)
      refine ⟨e, after, (bind_of_eq_ok hx).trans hy, ?_⟩
      rw [List.take_append, List.take_of_length_le (Nat.not_lt.1 hfirst), ← List.append_assoc]
      exact hview

/-- A store with a limit has these bytes and room for so many more. -/
def LimitedStore.Has (out : Bytes) (room : Nat) (store : LimitedStore) : Prop :=
  store = { written := out, room := some room }

theorem LimitedStore.puts_write (bs : Bytes) : Puts Has (LimitedStore.write bs) bs where
  fits := by
    rintro out room _ rfl hroom
    refine ⟨_, if_pos hroom, ?_⟩
    rw [List.take_of_length_le hroom]
    rfl
  crosses := by
    rintro out room _ rfl hroom
    refine ⟨_, _, if_neg (Nat.not_le.2 hroom), ?_⟩
    rw [Nat.sub_eq_zero_of_le (Nat.le_of_lt hroom)]
    rfl

namespace Codec

variable {write : Bytes → EStateM IoError σ Unit}

theorem puts_writePieces (hwrite : ∀ bs, Puts view (write bs) bs) (pieces : List Bytes) :
    Puts view (writePieces write pieces) pieces.flatten := by
  induction pieces with
  | nil => exact puts_nil
  | cons p ps ih =>
    rw [List.flatten_cons]
    exact (hwrite p).andThen ih

/-- **A full writer has the beginning of the descriptor.**

A descriptor is written to a writer that is empty and has room for so many bytes. That succeeds
exactly if the descriptor is not longer, and else it fails with an error that carries the
specification. The writer then has as many bytes of the descriptor as it has room for. -/
theorem encodeTo_stores_prefix (hwrite : ∀ bs, Puts view (write bs) bs) (c : Codec)
    (s : Specification) {limit : Nat} {before : σ} (hempty : view [] limit before) :
    ((∃ after, c.encodeTo s write before = .ok () after) ↔ (c.encode s).length ≤ limit)
    ∧ (limit < (c.encode s).length →
        ∃ cause after, c.encodeTo s write before = .error (.encode s cause) after)
    ∧ ∃ room, view ((c.encode s).take (min limit (c.encode s).length)) room
        (stateAfter (c.encodeTo s write before)) := by
  have hputs : Puts view (writePieces write (c.pieces s)) (c.encode s) :=
    puts_writePieces hwrite (c.pieces s)
  by_cases hfits : (c.encode s).length ≤ limit
  · obtain ⟨after, hpieces, hview⟩ := hputs.fits hempty hfits
    have hrun : c.encodeTo s write before = .ok () after := by rw [encodeTo, hpieces]
    refine ⟨iff_of_true ⟨after, hrun⟩ hfits, fun hlong => absurd hfits (Nat.not_le.2 hlong), ?_⟩
    rw [hrun, Nat.min_eq_right hfits, List.take_length]
    exact ⟨_, hview⟩
  · have hlong := Nat.not_le.1 hfits
    obtain ⟨e, after, hpieces, hview⟩ := hputs.crosses hempty hlong
    have hrun : c.encodeTo s write before = .error (.encode s (.writing e)) after := by
      rw [encodeTo, hpieces]
    refine ⟨iff_of_false ?_ hfits, fun _ => ⟨_, after, hrun⟩, ?_⟩
    · rintro ⟨after', hok⟩
      rw [hrun] at hok
      cases hok
    · rw [hrun, Nat.min_eq_left (Nat.le_of_lt hlong)]
      exact ⟨0, hview⟩

/-- The store is full in the middle of an escape. -/
theorem encodeTo_stores_prefix_escape :
    (∃ cause after, Codec.standard.encodeTo ⟨"\x01", .ofList []⟩ LimitedStore.write
        { room := some 38 } = .error (.encode ⟨"\x01", .ofList []⟩ cause) after)
      ∧ (stateAfter (Codec.standard.encodeTo ⟨"\x01", .ofList []⟩ LimitedStore.write
          { room := some 38 })).written
        = Text.toBytes "\x7b\n  \"dependencies\": [],\n  \"name\": \"\\u0" := by
  have hlength : (Codec.standard.encode ⟨"\x01", .ofList []⟩).length = 44 := by decide +kernel
  have hbytes : (Codec.standard.encode ⟨"\x01", .ofList []⟩).take 38
      = Text.toBytes "\x7b\n  \"dependencies\": [],\n  \"name\": \"\\u0" := by decide +kernel
  have hempty : LimitedStore.Has [] 38 { room := some 38 } := rfl
  obtain ⟨-, hfails, room, hstored⟩ := encodeTo_stores_prefix LimitedStore.puts_write
    Codec.standard ⟨"\x01", .ofList []⟩ hempty
  rw [hlength] at hfails hstored
  refine ⟨hfails (by decide), ?_⟩
  rw [hstored]
  exact hbytes

end Codec

end SpecCatalog
