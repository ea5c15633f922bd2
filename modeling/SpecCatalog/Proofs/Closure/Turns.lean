import SpecCatalog.Proofs.Closure.Loads

/-!
# The turns of a run

A run passes over names taken before in one go. Here it is made turn by turn: each turn takes
one name off those that wait, passes over it if it was taken before and loads it otherwise
(`loopFrom`). Both ways come to the same end, but for the names that still wait there
(`Run.exists_loop`).

A name is taken off once for each time that it was put on. Put on were the requested names and,
with every load, the dependencies of what was loaded; so their number bounds the turns
(`Run.exists_turns`), however often names repeat and wherever they lead back to.
-/

namespace SpecCatalog.Closure

variable {ε : Type} {load : String → Except ε Specification} {requested : List String}
  {p : Progress} {r r' : Except (Stop ε) Progress}

/-- Goes on with at most so many turns; nothing if they are not enough. -/
def loopFrom (load : String → Except ε Specification) :
    Nat → Progress → Option (Except (Stop ε) Progress)
  | turns, p =>
    match p.waiting with
    | [] => some (.ok p)
    | name :: rest =>
      match turns with
      | 0 => none
      | turns + 1 =>
        if (p.loaded.get? name).isSome then loopFrom load turns { p with waiting := rest }
        else
          match load name with
          | .error cause => some (.error ⟨{ p with waiting := rest }, name, cause⟩)
          | .ok s => loopFrom load turns (p.take name s rest)

/-! ## One turn -/

section Turn

variable {name : String} {rest : List String} (turns : Nat)

theorem loopFrom_nil (hw : p.waiting = []) : loopFrom load turns p = some (.ok p) := by
  unfold loopFrom
  rw [hw]

theorem loopFrom_seen (hw : p.waiting = name :: rest) (hseen : (p.loaded.get? name).isSome) :
    loopFrom load (turns + 1) p = loopFrom load turns { p with waiting := rest } := by
  rw [loopFrom, hw]
  dsimp only
  rw [if_pos hseen]

theorem loopFrom_failed {cause : ε} (hw : p.waiting = name :: rest)
    (hnew : p.loaded.get? name = none) (hl : load name = .error cause) :
    loopFrom load (turns + 1) p
      = some (.error ⟨{ p with waiting := rest }, name, cause⟩) := by
  rw [loopFrom, hw]
  dsimp only
  rw [hnew, if_neg (by simp), hl]

theorem loopFrom_loaded {s : Specification} (hw : p.waiting = name :: rest)
    (hnew : p.loaded.get? name = none) (hl : load name = .ok s) :
    loopFrom load (turns + 1) p = loopFrom load turns (p.take name s rest) := by
  rw [loopFrom, hw]
  dsimp only
  rw [hnew, if_neg (by simp), hl]

end Turn

/-- Names taken before are passed over with a turn for each. -/
theorem loopFrom_passed {passed rest : List String} (turns : Nat)
    (hw : p.waiting = passed ++ rest) (hseen : ∀ m ∈ passed, (p.loaded.get? m).isSome) :
    loopFrom load (turns + passed.length) p
      = loopFrom load turns { p with waiting := rest } := by
  induction passed generalizing p with
  | nil =>
      obtain ⟨loaded, waiting, resolved⟩ := p
      cases hw
      rfl
  | cons m passed ih =>
      rw [List.forall_mem_cons] at hseen
      rw [List.length_cons, ← Nat.add_assoc, loopFrom_seen _ hw hseen.1]
      exact ih rfl hseen.2

/-- Whoever may take more turns comes to the same end. -/
theorem loopFrom_mono {turns more : Nat} (hle : turns ≤ more)
    (h : loopFrom load turns p = some r) : loopFrom load more p = some r := by
  induction turns generalizing p more with
  | zero =>
      cases hw : p.waiting with
      | nil =>
          rw [loopFrom_nil _ hw] at h ⊢
          exact h
      | cons name rest =>
          rw [loopFrom, hw] at h
          cases h
  | succ turns ih =>
      -- both take the same turn, and the run with more turns has one left too
      obtain ⟨more, rfl⟩ : ∃ n, more = n + 1 := ⟨more - 1, by omega⟩
      have hle' : turns ≤ more := by omega
      cases hw : p.waiting with
      | nil =>
          rw [loopFrom_nil _ hw] at h ⊢
          exact h
      | cons name rest =>
          cases hseen : p.loaded.get? name with
          | some deps =>
              have hsome : (p.loaded.get? name).isSome := by rw [hseen]; rfl
              rw [loopFrom_seen _ hw hsome] at h ⊢
              exact ih hle' h
          | none =>
              cases hl : load name with
              | error cause =>
                  rw [loopFrom_failed _ hw hseen hl] at h ⊢
                  exact h
              | ok s =>
                  rw [loopFrom_loaded _ hw hseen hl] at h ⊢
                  exact ih hle' h

/-! ## The end of a run -/

/-- The end without the names that still wait there. -/
def concluded : Except (Stop ε) Progress → Except (Stop ε) Progress
  | .ok p => .ok { p with waiting := [] }
  | .error stop => .error { stop with progress := { stop.progress with waiting := [] } }

theorem asked_concluded (r : Except (Stop ε) Progress) : asked (concluded r) = asked r := by
  cases r <;> rfl

theorem told_concluded (r : Except (Stop CatalogError) Progress) :
    told requested (concluded r) = told requested r := by
  cases r <;> rfl

/-- How many names the loads put on those that wait. -/
def putOn : List (String × Specification) → Nat
  | [] => 0
  | e :: loads => e.2.dependencies.size + putOn loads

theorem putOn_cons (e : String × Specification) (loads : List (String × Specification)) :
    putOn (e :: loads) = e.2.dependencies.size + putOn loads := rfl

/-- Earlier loads have put on no more. -/
theorem putOn_le_of_suffix {earlier loads : List (String × Specification)}
    (h : earlier <:+ loads) : putOn earlier ≤ putOn loads := by
  obtain ⟨later, rfl⟩ := h
  induction later with
  | nil => exact Nat.le_refl _
  | cons e later ih =>
      rw [List.cons_append, putOn_cons]
      exact Nat.le_trans ih (Nat.le_add_left _ _)

/-- **Turn by turn a run comes to its end**, with a turn for each name that waits and for each
that its loads put on. -/
theorem Run.exists_turns {n turns : Nat} (h : Run load n p r)
    (hturns : p.waiting.length + putOn (known r).resolved ≤ turns + putOn p.resolved) :
    ∃ r', loopFrom load turns p = some r' ∧ concluded r' = concluded r := by
  induction h generalizing turns with
  | @done p ha =>
      have hseen := ahead_eq_nil_iff.1 ha
      dsimp only [known] at hturns
      obtain ⟨more, rfl⟩ : ∃ m, turns = m + p.waiting.length := ⟨turns - p.waiting.length, by omega⟩
      rw [loopFrom_passed more (List.append_nil _).symm hseen]
      exact ⟨_, loopFrom_nil _ rfl, rfl⟩
  | @failed p name rest cause ha hl =>
      obtain ⟨hnew, passed, hw, hseen⟩ := ahead_eq_cons ha
      dsimp only [known] at hturns
      rw [hw, List.length_append, List.length_cons] at hturns
      obtain ⟨more, rfl⟩ : ∃ m, turns = m + 1 + passed.length :=
        ⟨turns - 1 - passed.length, by omega⟩
      rw [loopFrom_passed _ hw hseen]
      exact ⟨_, loopFrom_failed more rfl hnew hl, rfl⟩
  | @loaded n p name rest s r ha hl hrun ih =>
      obtain ⟨hnew, passed, hw, hseen⟩ := ahead_eq_cons ha
      rw [hw, List.length_append, List.length_cons] at hturns
      -- what the load puts on waits now, and is counted among what the loads so far put on
      have hwaiting : (p.take name s rest).waiting.length = s.dependencies.size + rest.length := by
        simp [Progress.take, NameSet.size]
      have hput : putOn (p.take name s rest).resolved = s.dependencies.size + putOn p.resolved :=
        putOn_cons _ _
      have hle := putOn_le_of_suffix hrun.suffix
      obtain ⟨more, rfl⟩ : ∃ m, turns = m + 1 + passed.length :=
        ⟨turns - 1 - passed.length, by omega⟩
      have hmore : (p.take name s rest).waiting.length + putOn (known r).resolved
          ≤ more + putOn (p.take name s rest).resolved := by omega
      have hturn : loopFrom load (more + 1) { p with waiting := name :: rest }
          = loopFrom load more (p.take name s rest) := loopFrom_loaded more rfl hnew hl
      rw [loopFrom_passed _ hw hseen, hturn]
      exact ih hmore

/-- With enough turns the loop comes to the end of the run. -/
theorem Run.exists_loop {n : Nat} (h : Run load n p r) :
    ∃ turns r', loopFrom load turns p = some r' ∧ concluded r' = concluded r := by
  obtain ⟨r', hr', hsame⟩ := h.exists_turns (Nat.le_add_right _ _)
  exact ⟨_, r', hr', hsame⟩

end SpecCatalog.Closure
