import Mathlib.Data.List.TakeWhile
import SpecCatalog.Closure

/-!
# The walk that resolves a closure

What a run knows is tied here to the names it has to load. `Reaches` says which names
these are: the requested ones and, from any that loads, all it depends on. `Tracks` is the
invariant of a run. It is about names taken and names that wait:

* no name is taken twice, and each was loaded with what the loader gives for it;
* both kinds are reached, already through the names that were taken;
* nothing is forgotten: what was requested and what a taken name depends on is taken or
  waits.

A run that has nothing ahead has therefore taken exactly the names that are reached
(`Tracks.mem_taken_iff`). The inductions over runs are made once, for any property that a
load preserves.
-/

namespace SpecCatalog.Closure

variable {ε : Type} {load : String → Except ε Specification} {requested : List String}

/-- What a name depends on, if it loads. -/
def dependsOn (load : String → Except ε Specification) (name : String) : Option NameSet :=
  match load name with
  | .ok s => some s.dependencies
  | .error _ => none

/-- The least set of names that has the requested ones and, with a name, all it depends
on. -/
inductive Reaches (depends : String → Option NameSet) (requested : List String) :
    String → Prop where
  | root {name : String} : name ∈ requested → Reaches depends requested name
  | edge {name d : String} {deps : NameSet} :
      Reaches depends requested name → depends name = some deps → d ∈ deps →
      Reaches depends requested d

theorem dependsOn_of_ok {name : String} {s : Specification} (h : load name = .ok s) :
    dependsOn load name = some s.dependencies := by
  unfold dependsOn; rw [h]

/-- More dependencies reach more names. -/
theorem Reaches.mono {depends depends' : String → Option NameSet} {name : String}
    (hsub : ∀ n deps, depends n = some deps → depends' n = some deps)
    (h : Reaches depends requested name) : Reaches depends' requested name := by
  induction h with
  | root hr => exact .root hr
  | edge _ hd hm ih => exact .edge ih (hsub _ _ hd) hm

/-- A loader that agrees on the reached names reaches no others. -/
theorem Reaches.of_same {load' : String → Except ε Specification} {name : String}
    (hsame : ∀ n, Reaches (dependsOn load) requested n → load' n = load n)
    (h : Reaches (dependsOn load') requested name) :
    Reaches (dependsOn load) requested name := by
  induction h with
  | root hr => exact .root hr
  | @edge n d deps _ hd hm ih =>
      have he : dependsOn load n = some deps := by
        unfold dependsOn at hd ⊢; rw [hsame n ih] at hd; exact hd
      exact .edge ih he hm

/-! ## What is ahead -/

/-- The names taken so far, the last one first. -/
def Progress.taken (p : Progress) : List String := p.resolved.map (·.1)

theorem taken_take (p : Progress) (name : String) (s : Specification) (rest : List String) :
    (p.take name s rest).taken = name :: p.taken := rfl

/-- A load tells the dependencies of its name; of other names nothing changes. -/
theorem get?_take (p : Progress) (name : String) (s : Specification) (rest : List String)
    (m : String) : (p.take name s rest).loaded.get? m
      = if m = name then some s.dependencies else p.loaded.get? m := NameMap.get?_insert

/-- What was known of names taken before is still known. -/
theorem get?_take_of_get? {p : Progress} {name m : String} {s : Specification}
    {rest : List String} {deps : NameSet} (hnone : p.loaded.get? name = none)
    (hd : p.loaded.get? m = some deps) : (p.take name s rest).loaded.get? m = some deps := by
  rw [get?_take, if_neg, hd]
  rintro rfl
  rw [hnone] at hd
  cases hd

/-- Nothing is ahead exactly when all that waits was taken before. -/
theorem ahead_eq_nil_iff {p : Progress} :
    p.ahead = [] ↔ ∀ name ∈ p.waiting, (p.loaded.get? name).isSome := by
  unfold Progress.ahead; rw [List.dropWhile_eq_nil_iff]

/-- The next name ahead was not taken; those before it that are passed over were. -/
theorem ahead_eq_cons {p : Progress} {name : String} {rest : List String}
    (h : p.ahead = name :: rest) :
    p.loaded.get? name = none ∧
      ∃ passed, p.waiting = passed ++ name :: rest
        ∧ ∀ m ∈ passed, (p.loaded.get? m).isSome := by
  unfold Progress.ahead at h
  refine ⟨?_, p.waiting.takeWhile fun m => (p.loaded.get? m).isSome, ?_, ?_⟩
  · have hhead := List.head?_dropWhile_not (fun m => (p.loaded.get? m).isSome) p.waiting
    rw [h] at hhead
    simpa using hhead
  · rw [← h, List.takeWhile_append_dropWhile]
  · intro m hm
    have := List.mem_takeWhile_imp (p := fun m => (p.loaded.get? m).isSome) hm
    exact this

theorem mem_waiting_of_ahead {p : Progress} {name : String} {rest : List String}
    (ha : p.ahead = name :: rest) : name ∈ p.waiting := by
  obtain ⟨_, passed, hw, _⟩ := ahead_eq_cons ha
  rw [hw]
  exact List.mem_append_right _ List.mem_cons_self

/-! ## The invariant -/

/-- A run is on its way from the requested names. -/
structure Tracks (load : String → Except ε Specification) (requested : List String)
    (p : Progress) : Prop where
  /-- No name is taken twice. -/
  distinct : p.taken.Nodup
  /-- Each name was loaded with what the loader gives for it. -/
  loads : ∀ e ∈ p.resolved, load e.1 = .ok e.2
  /-- What the run knows of a name is what it was loaded with. -/
  loaded : ∀ name deps, p.loaded.get? name = some deps ↔
    ∃ s, (name, s) ∈ p.resolved ∧ s.dependencies = deps
  /-- Names that were taken or wait are reached through names that were taken. -/
  reached : ∀ name, name ∈ p.taken ∨ name ∈ p.waiting →
    Reaches p.loaded.get? requested name
  /-- No requested name is forgotten. -/
  roots : ∀ name ∈ requested, name ∈ p.taken ∨ name ∈ p.waiting
  /-- No dependency is forgotten. -/
  edges : ∀ e ∈ p.resolved, ∀ d ∈ e.2.dependencies, d ∈ p.taken ∨ d ∈ p.waiting

theorem Tracks.isSome_iff {p : Progress} (h : Tracks load requested p) {name : String} :
    (p.loaded.get? name).isSome ↔ name ∈ p.taken := by
  rw [Option.isSome_iff_exists]
  unfold Progress.taken
  constructor
  · rintro ⟨deps, hd⟩
    obtain ⟨s, hs, _⟩ := (h.loaded name deps).1 hd
    exact List.mem_map.2 ⟨_, hs, rfl⟩
  · intro hm
    obtain ⟨⟨n, s⟩, hs, rfl⟩ := List.mem_map.1 hm
    exact ⟨s.dependencies, (h.loaded n _).2 ⟨s, hs, rfl⟩⟩

/-- What the run knows of dependencies is true of the loader. -/
theorem Tracks.dependsOn {p : Progress} (h : Tracks load requested p) {name : String}
    {deps : NameSet} (hd : p.loaded.get? name = some deps) :
    Closure.dependsOn load name = some deps := by
  obtain ⟨s, hs, rfl⟩ := (h.loaded name deps).1 hd
  exact dependsOn_of_ok (h.loads _ hs)

/-- Names that were taken or wait are among those the loader reaches. -/
theorem Tracks.reaches {p : Progress} (h : Tracks load requested p) {name : String}
    (hn : name ∈ p.taken ∨ name ∈ p.waiting) : Reaches (Closure.dependsOn load) requested name :=
  (h.reached name hn).mono fun _ _ hd => h.dependsOn hd

theorem tracks_start (load : String → Except ε Specification) (requested : List String) :
    Tracks load requested (start requested) where
  distinct := .nil
  loads := by intro e he; simp [start] at he
  loaded := by intro name deps; simp [start]
  reached := by
    intro name hn
    rcases hn with hn | hn
    · simp [start, Progress.taken] at hn
    · exact .root (List.mem_reverse.1 hn)
  roots := by intro name hn; exact .inr (List.mem_reverse.2 hn)
  edges := by intro e he; simp [start] at he

/-- The next name ahead was not taken before. -/
theorem Tracks.fresh {p : Progress} (h : Tracks load requested p) {name : String}
    {rest : List String} (ha : p.ahead = name :: rest) : name ∉ p.taken := by
  intro hm
  have hs := h.isSome_iff.2 hm
  rw [(ahead_eq_cons ha).1] at hs
  exact Bool.noConfusion hs

/-- A load loses no name: what it passes over was taken before. -/
theorem Tracks.kept {p : Progress} (h : Tracks load requested p) {name m : String}
    {rest : List String} (ha : p.ahead = name :: rest) (s : Specification)
    (hm : m ∈ p.taken ∨ m ∈ p.waiting) :
    m ∈ (p.take name s rest).taken ∨ m ∈ (p.take name s rest).waiting := by
  obtain ⟨_, passed, hw, hpassed⟩ := ahead_eq_cons ha
  rw [taken_take]
  rcases hm with hm | hm
  · exact .inl (List.mem_cons_of_mem _ hm)
  · rw [hw] at hm
    rcases List.mem_append.1 hm with hm | hm
    · exact .inl (List.mem_cons_of_mem _ (h.isSome_iff.1 (hpassed m hm)))
    · rcases List.mem_cons.1 hm with rfl | hm
      · exact .inl List.mem_cons_self
      · exact .inr (List.mem_append_right _ hm)

/-- After a load the run knows of one more name, which is fresh. -/
theorem Tracks.loaded_take {p : Progress} (h : Tracks load requested p) {name m : String}
    {rest : List String} {deps : NameSet} (ha : p.ahead = name :: rest) (s : Specification) :
    (p.take name s rest).loaded.get? m = some deps ↔
      ∃ s', (m, s') ∈ (p.take name s rest).resolved ∧ s'.dependencies = deps := by
  rw [get?_take]
  split
  · rename_i hm
    subst hm
    constructor
    · intro hd
      exact ⟨s, List.mem_cons_self, Option.some.inj hd⟩
    · rintro ⟨s', hs', rfl⟩
      rcases List.mem_cons.1 hs' with he | he
      · rw [(Prod.mk.inj he).2]
      · exact absurd (List.mem_map.2 ⟨_, he, rfl⟩) (h.fresh ha)
  · rename_i hm
    rw [h.loaded m deps]
    have hne : ∀ s', (m, s') ≠ (name, s) := fun s' he => hm (Prod.mk.inj he).1
    simp only [Progress.take, List.mem_cons, hne, false_or]

/-- What waits after a load waited before it or is reached through the name that was loaded. -/
theorem Tracks.reached_take {p : Progress} (h : Tracks load requested p) {name m : String}
    {rest : List String} (ha : p.ahead = name :: rest) (s : Specification)
    (hm : m ∈ (p.take name s rest).taken ∨ m ∈ (p.take name s rest).waiting) :
    Reaches (p.take name s rest).loaded.get? requested m := by
  obtain ⟨hnone, passed, hw, _⟩ := ahead_eq_cons ha
  have hkept : ∀ {m}, m ∈ p.taken ∨ m ∈ p.waiting →
      Reaches (p.take name s rest).loaded.get? requested m := fun hm =>
    (h.reached _ hm).mono fun _ _ hd => get?_take_of_get? hnone hd
  have hname := hkept (.inr (mem_waiting_of_ahead ha))
  rcases hm with hm | hm
  · rcases List.mem_cons.1 hm with rfl | hm
    · exact hname
    · exact hkept (.inl hm)
  · rcases List.mem_append.1 hm with hm | hm
    · refine .edge hname ?_ (List.mem_reverse.1 hm)
      rw [get?_take, if_pos rfl]
    · refine hkept (.inr ?_)
      rw [hw]
      exact List.mem_append_right _ (List.mem_cons_of_mem _ hm)

/-- **A load preserves the invariant.** -/
theorem Tracks.take {p : Progress} (h : Tracks load requested p) {name : String}
    {rest : List String} {s : Specification} (ha : p.ahead = name :: rest)
    (hl : load name = .ok s) : Tracks load requested (p.take name s rest) where
  distinct := by
    rw [taken_take]
    exact List.nodup_cons.2 ⟨h.fresh ha, h.distinct⟩
  loads := List.forall_mem_cons.2 ⟨hl, h.loads⟩
  loaded := fun _ _ => h.loaded_take ha s
  reached := fun _ hm => h.reached_take ha s hm
  roots := fun m hm => h.kept ha s (h.roots m hm)
  edges := by
    refine List.forall_mem_cons.2 ⟨fun d hd => ?_, fun e he d hd => h.kept ha s (h.edges e he d hd)⟩
    exact .inr (List.mem_append_left _ (List.mem_reverse.2 hd))

/-- **With nothing ahead, the names taken are exactly those that are reached.** -/
theorem Tracks.mem_taken_iff {p : Progress} (h : Tracks load requested p) (ha : p.ahead = [])
    {name : String} : name ∈ p.taken ↔ Reaches (Closure.dependsOn load) requested name := by
  have hall : ∀ m, m ∈ p.taken ∨ m ∈ p.waiting → m ∈ p.taken := by
    intro m hm
    rcases hm with hm | hm
    · exact hm
    · exact h.isSome_iff.1 (ahead_eq_nil_iff.1 ha m hm)
  refine ⟨fun hm => h.reaches (.inl hm), fun hr => ?_⟩
  induction hr with
  | root hr => exact hall _ (h.roots _ hr)
  | @edge n d deps _ hd hm ih =>
      obtain ⟨⟨n', s⟩, hs, rfl⟩ := List.mem_map.1 ih
      rw [dependsOn_of_ok (h.loads _ hs)] at hd
      cases hd
      exact hall d (h.edges _ hs d hm)

/-! ## Runs -/

/-- A run to its end, with the number of loads it makes. -/
inductive Run (load : String → Except ε Specification) :
    Nat → Progress → Except (Stop ε) Progress → Prop where
  | done {p : Progress} : p.ahead = [] → Run load 0 p (.ok p)
  | failed {p : Progress} {name : String} {rest : List String} {cause : ε} :
      p.ahead = name :: rest → load name = .error cause →
      Run load 1 p (.error ⟨p, name, cause⟩)
  | loaded {n : Nat} {p : Progress} {name : String} {rest : List String} {s : Specification}
      {r : Except (Stop ε) Progress} :
      p.ahead = name :: rest → load name = .ok s → Run load n (p.take name s rest) r →
      Run load (n + 1) p r

/-- A run answers exactly if it may make the loads it takes. -/
theorem runFrom_eq_some_iff {loads : Nat} {p : Progress} {r : Except (Stop ε) Progress} :
    runFrom load loads p = some r ↔ ∃ n, n ≤ loads ∧ Run load n p r := by
  constructor
  · intro h
    induction loads generalizing p with
    | zero =>
        unfold runFrom at h
        split at h
        · rename_i ha
          cases h
          exact ⟨0, Nat.le_refl _, .done ha⟩
        · cases h
    | succ loads ih =>
        unfold runFrom at h
        split at h
        · rename_i ha
          cases h
          exact ⟨0, Nat.zero_le _, .done ha⟩
        · -- the next name is loaded, and the run fails there or goes on
          rename_i name rest ha
          cases hl : load name with
          | error cause =>
              simp only [hl, Option.some.injEq] at h
              subst h
              exact ⟨1, by omega, .failed ha hl⟩
          | ok s =>
              simp only [hl] at h
              obtain ⟨n, hn, hrun⟩ := ih h
              exact ⟨n + 1, by omega, .loaded ha hl hrun⟩
  · rintro ⟨n, hn, hrun⟩
    induction hrun generalizing loads with
    | done ha => unfold runFrom; rw [ha]
    | failed ha hl =>
        obtain ⟨loads, rfl⟩ : ∃ m, loads = m + 1 := ⟨loads - 1, by omega⟩
        unfold runFrom; rw [ha]; simp only [hl]
    | loaded ha hl _ ih =>
        obtain ⟨loads, rfl⟩ : ∃ m, loads = m + 1 := ⟨loads - 1, by omega⟩
        unfold runFrom; rw [ha]; simp only [hl]
        exact ih (by omega)

/-- A run makes one load for each name it takes, and one more for a name that fails. -/
theorem Run.count {n : Nat} {p : Progress} {r : Except (Stop ε) Progress}
    (h : Run load n p r) :
    match r with
    | .ok q => q.taken.length = p.taken.length + n
    | .error stop => stop.progress.taken.length + 1 = p.taken.length + n := by
  induction h with
  | done _ => rfl
  | failed _ _ => rfl
  | @loaded n p name rest s r _ _ _ ih =>
      rw [taken_take, List.length_cons] at ih
      cases r with
      | ok q => dsimp only at ih ⊢; omega
      | error stop => dsimp only at ih ⊢; omega

/-- A property of what a run knows that each load preserves. -/
def Preserved (load : String → Except ε Specification) (P : Progress → Prop) : Prop :=
  ∀ (p : Progress) (name : String) (rest : List String) (s : Specification),
    P p → p.ahead = name :: rest → load name = .ok s → P (p.take name s rest)

theorem tracks_preserved : Preserved load (Tracks load requested) :=
  fun _ _ _ _ h ha hl => h.take ha hl

/-- How a run ends that keeps `P`: nothing is ahead, or the next name does not load. -/
def Ends (load : String → Except ε Specification) (P : Progress → Prop) :
    Except (Stop ε) Progress → Prop
  | .ok p => P p ∧ p.ahead = []
  | .error stop =>
      P stop.progress ∧ (∃ rest, stop.progress.ahead = stop.name :: rest)
        ∧ load stop.name = .error stop.cause

/-- What each load preserves holds at the end of the run. -/
theorem Run.ends {P : Progress → Prop} (hstep : Preserved load P) {n : Nat} {p : Progress}
    {r : Except (Stop ε) Progress} (h : Run load n p r) (hp : P p) : Ends load P r := by
  induction h with
  | done ha => exact ⟨hp, ha⟩
  | failed ha hl => exact ⟨hp, ⟨_, ha⟩, hl⟩
  | loaded ha hl _ ih => exact ih (hstep _ _ _ _ hp ha hl)

/-- Loaders that agree on the names a run loads make the same run. -/
theorem Run.congr {P : Progress → Prop} {load' : String → Except ε Specification}
    (hstep : Preserved load P)
    (hsame : ∀ (p : Progress) (name : String) (rest : List String),
      P p → p.ahead = name :: rest → load' name = load name)
    {n : Nat} {p : Progress} {r : Except (Stop ε) Progress} (h : Run load n p r) (hp : P p) :
    Run load' n p r := by
  induction h with
  | done ha => exact .done ha
  | failed ha hl => exact .failed ha ((hsame _ _ _ hp ha).trans hl)
  | loaded ha hl _ ih =>
      exact .loaded ha ((hsame _ _ _ hp ha).trans hl) (ih (hstep _ _ _ _ hp ha hl))

/-- A run ends if the names it takes cannot be more than the loads it may make. -/
theorem runFrom_isSome {P : Progress → Prop} {most : Nat} (hstep : Preserved load P)
    (hmost : ∀ (p : Progress) (name : String) (rest : List String),
      P p → p.ahead = name :: rest → p.taken.length < most)
    {loads : Nat} {p : Progress} (hp : P p) (h : most ≤ p.taken.length + loads) :
    (runFrom load loads p).isSome := by
  induction loads generalizing p with
  | zero =>
      unfold runFrom
      split
      · rfl
      · rename_i ha
        have := hmost _ _ _ hp ha
        omega
  | succ loads ih =>
      unfold runFrom
      split
      · rfl
      · rename_i name rest ha
        cases hl : load name with
        | error cause => rfl
        | ok s =>
            refine ih (hstep _ _ _ _ hp ha hl) ?_
            rw [taken_take, List.length_cons]
            omega

/-! ## Whole runs from the requested names -/

/-- A run from the requested names ends on its way from them. -/
theorem run?_ends {loads : Nat} {r : Except (Stop ε) Progress}
    (h : run? load loads requested = some r) : Ends load (Tracks load requested) r := by
  obtain ⟨n, _, hrun⟩ := runFrom_eq_some_iff.1 h
  exact hrun.ends tracks_preserved (tracks_start load requested)

/-- Whoever may make more loads gets the same answer. -/
theorem run?_mono {loads more : Nat} {r : Except (Stop ε) Progress} (hle : loads ≤ more)
    (h : run? load loads requested = some r) : run? load more requested = some r := by
  obtain ⟨n, hn, hrun⟩ := runFrom_eq_some_iff.1 h
  exact runFrom_eq_some_iff.2 ⟨n, by omega, hrun⟩

/-- As many loads as names can be taken, and one for a name that fails, are enough. -/
theorem run?_isSome {loads : Nat}
    (hroom : ∀ (p : Progress) (name : String) (rest : List String),
      Tracks load requested p → p.ahead = name :: rest → p.taken.length < loads) :
    (run? load loads requested).isSome :=
  runFrom_isSome tracks_preserved hroom (tracks_start load requested) (by simp)

/-- Only names that are reached are ever loaded. -/
theorem run?_congr {load' : String → Except ε Specification} {loads : Nat}
    (hsame : ∀ name, Reaches (dependsOn load) requested name → load' name = load name) :
    run? load' loads requested = run? load loads requested := by
  have key : ∀ (f g : String → Except ε Specification) (r : Except (Stop ε) Progress),
      (∀ name, Reaches (dependsOn f) requested name → g name = f name) →
      run? f loads requested = some r → run? g loads requested = some r := by
    intro f g r hfg h
    obtain ⟨n, hn, hrun⟩ := runFrom_eq_some_iff.1 h
    refine runFrom_eq_some_iff.2 ⟨n, hn, hrun.congr tracks_preserved ?_ (tracks_start f requested)⟩
    intro p name rest hp ha
    exact hfg name (hp.reaches (.inr (mem_waiting_of_ahead ha)))
  refine Option.ext fun r => ⟨key load' load r fun name hn => ?_, key load load' r hsame⟩
  exact (hsame name (hn.of_same hsame)).symm

end SpecCatalog.Closure
