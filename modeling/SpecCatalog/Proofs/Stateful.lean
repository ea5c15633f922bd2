/-!
# Steps with a state

A step that goes on with another comes to a value or a failure, and in both cases to a state.
The lemmas take the two apart once, so that a run of many steps is followed with `obtain`.
-/

namespace SpecCatalog

variable {ε σ α β : Type} {x : EStateM ε σ α} {f : α → EStateM ε σ β} {before after : σ}

/-- After a step that succeeded the next one goes on. -/
theorem bind_of_eq_ok {a : α} {between : σ} (h : x before = .ok a between) :
    (x >>= f) before = f a between := by
  change EStateM.bind x f before = _
  unfold EStateM.bind
  rw [h]

/-- After a step that failed no other goes on. -/
theorem bind_of_eq_error {e : ε} (h : x before = .error e after) :
    (x >>= f) before = .error e after := by
  change EStateM.bind x f before = _
  unfold EStateM.bind
  rw [h]

/-- A step followed by another that both succeeded. -/
theorem exists_of_bind_eq_ok {b : β} (h : (x >>= f) before = .ok b after) :
    ∃ a between, x before = .ok a between ∧ f a between = .ok b after := by
  change EStateM.bind x f before = _ at h
  unfold EStateM.bind at h
  split at h
  · rename_i a between hx
    exact ⟨a, between, hx, h⟩
  · cases h

/-- A step followed by another, of which the one or the other failed. -/
theorem exists_of_bind_eq_error {e : ε} (h : (x >>= f) before = .error e after) :
    x before = .error e after
      ∨ ∃ a between, x before = .ok a between ∧ f a between = .error e after := by
  change EStateM.bind x f before = _ at h
  unfold EStateM.bind at h
  split at h
  · rename_i a between hx
    exact .inr ⟨a, between, hx, h⟩
  · rename_i hx
    cases h
    exact .inl hx

/-- The state that a step leaves, also if it failed. -/
def stateAfter : EStateM.Result ε σ α → σ
  | .ok _ s => s
  | .error _ s => s

/-- What two steps keep, they keep one after the other. -/
theorem bind_keeps {P : σ → Prop} (hx : ∀ s, P s → P (stateAfter (x s)))
    (hf : ∀ a s, P s → P (stateAfter (f a s))) (h : P before) :
    P (stateAfter ((x >>= f) before)) := by
  have hfirst := hx before h
  cases hrun : x before with
  | ok a between =>
    rw [hrun] at hfirst
    rw [bind_of_eq_ok hrun]
    exact hf a between hfirst
  | error e after =>
    rw [hrun] at hfirst
    rw [bind_of_eq_error hrun]
    exact hfirst

/-- What a step answers, its state left aside. -/
def answerOf : EStateM.Result ε σ α → Except ε α
  | .ok a _ => .ok a
  | .error e _ => .error e

def succeeded : EStateM.Result ε σ α → Bool
  | .ok _ _ => true
  | .error _ _ => false

theorem exists_of_succeeded {x : EStateM.Result ε σ α} (h : succeeded x = true) :
    ∃ a, x = .ok a (stateAfter x) := by
  cases x with
  | ok a s => exact ⟨a, rfl⟩
  | error e s => cases h

theorem eq_ok_of_succeeded {x : EStateM.Result ε σ Unit} (h : succeeded x = true) :
    x = .ok () (stateAfter x) := by
  obtain ⟨_, hx⟩ := exists_of_succeeded h
  exact hx

end SpecCatalog
