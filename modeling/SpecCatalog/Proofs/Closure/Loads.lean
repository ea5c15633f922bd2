import Mathlib.Data.List.Nodup
import SpecCatalog.Proofs.Closure.Walk

/-!
# The loads of a resolution

Which names a run loads, and in which order, can be told from outside. The run asks the
loader for no other names and does not answer with fewer loads; and had one of the loads
failed, it would have ended there and told the loads in front of it (`LoadedInOrder`).

A resolution that fails tells how far it got, and `resolve?_error_reports` holds what it
tells against these loads. The account is the one of the invariant (`Tracks`) where the run
stopped. The next name ahead is the one that failed. It waits, so it was requested or a name
that was taken depends on it; and it was not taken before, so the account does not have it.
-/

namespace SpecCatalog.Closure

variable {ε : Type} {load : String → Except ε Specification} {requested : List String}

/-! ## The loads of a run -/

/-- What was known when the run ended. -/
def known : Except (Stop ε) Progress → Progress
  | .ok p => p
  | .error stop => stop.progress

/-- The names that the loader was asked for, the last one first. -/
def asked : Except (Stop ε) Progress → List String
  | .ok p => p.taken
  | .error stop => stop.name :: stop.progress.taken

theorem taken_subset_asked (r : Except (Stop ε) Progress) : (known r).taken ⊆ asked r := by
  cases r with
  | ok p => exact List.Subset.refl _
  | error stop => exact List.subset_cons_self _ _

/-- No load is forgotten. -/
theorem Run.suffix {n : Nat} {p : Progress} {r : Except (Stop ε) Progress}
    (h : Run load n p r) : p.resolved <:+ (known r).resolved := by
  induction h with
  | done _ => exact List.suffix_refl _
  | failed _ _ => exact List.suffix_refl _
  | loaded _ _ _ ih => exact (List.suffix_cons _ _).trans ih

/-- The name that is loaded next is among those asked for. -/
theorem Run.mem_asked {n : Nat} {p : Progress} {name : String} {s : Specification}
    {rest : List String} {r : Except (Stop ε) Progress} (h : Run load n (p.take name s rest) r) :
    name ∈ asked r := by
  have hmem : (name, s) ∈ (known r).resolved := h.suffix.subset List.mem_cons_self
  exact taken_subset_asked r (List.mem_map.2 ⟨_, hmem, rfl⟩)

/-- A run is the same with any loader that agrees on the names asked for. -/
theorem Run.of_asked {load' : String → Except ε Specification} {n : Nat} {p : Progress}
    {r : Except (Stop ε) Progress} (h : Run load n p r)
    (hsame : ∀ name ∈ asked r, load' name = load name) : Run load' n p r := by
  induction h with
  | done ha => exact .done ha
  | failed ha hl => exact .failed ha ((hsame _ List.mem_cons_self).trans hl)
  | loaded ha hl hrun ih => exact .loaded ha ((hsame _ hrun.mem_asked).trans hl) (ih hsame)

/-- A loader as before, but for one name that now fails. -/
def failingAt (load : String → Except ε Specification) (name : String) (cause : ε) :
    String → Except ε Specification :=
  fun n => if n = name then .error cause else load n

/-- Had one of the loads failed, the run would have ended there. -/
theorem Run.cut {n : Nat} {p : Progress} {r : Except (Stop ε) Progress} (h : Run load n p r)
    {later earlier : List (String × Specification)} {name : String} {s : Specification}
    (hsplit : (known r).resolved = later ++ (name, s) :: earlier)
    (hfresh : name ∉ earlier.map (·.1)) (hp : p.resolved <:+ earlier) (cause : ε) :
    ∃ m q, m ≤ n ∧ q.resolved = earlier
      ∧ Run (failingAt load name cause) m p (.error ⟨q, name, cause⟩) := by
  -- the load is not among those made before `p`, so it is still to come
  have hshort : p.resolved.length ≤ earlier.length := hp.length_le
  induction h with
  | @done p ha =>
      have := congrArg List.length hsplit
      simp only [known, List.length_append, List.length_cons] at this
      omega
  | @failed p name' rest cause' ha hl =>
      have := congrArg List.length hsplit
      simp only [known, List.length_append, List.length_cons] at this
      omega
  | @loaded n p name' rest s' r ha hl hrun ih =>
      have hnext : (name', s') :: p.resolved <:+ later ++ (name, s) :: earlier :=
        hsplit ▸ hrun.suffix
      have hhere : (name, s) :: earlier <:+ later ++ (name, s) :: earlier :=
        List.suffix_append _ _
      rcases Nat.eq_or_lt_of_le hshort with hlen | hlt
      · -- this is the load
        have he : (name', s') :: p.resolved = (name, s) :: earlier := by
          refine (List.suffix_of_suffix_length_le hnext hhere ?_).eq_of_length ?_
          · simp only [List.length_cons]; omega
          · simp only [List.length_cons]; omega
        obtain ⟨hpair, hearlier⟩ := List.cons.inj he
        obtain ⟨rfl, rfl⟩ := Prod.mk.inj hpair
        refine ⟨1, p, by omega, hearlier, .failed ha ?_⟩
        unfold failingAt
        rw [if_pos rfl]
      · -- this load comes earlier and is made as before
        have hin : (name', s') :: p.resolved <:+ earlier := by
          refine List.suffix_of_suffix_length_le hnext
            ((List.suffix_cons _ _).trans hhere) ?_
          rw [List.length_cons]; omega
        have hne : name' ≠ name := by
          rintro rfl
          exact hfresh (List.mem_map.2 ⟨_, hin.subset List.mem_cons_self, rfl⟩)
        obtain ⟨m, q, hm, hq, hcut⟩ := ih hsplit hin hin.length_le
        refine ⟨m + 1, q, by omega, hq, .loaded ha ?_ hcut⟩
        unfold failingAt
        rw [if_neg hne]
        exact hl

/-- There is one run, and it answers exactly if all its loads may be made. -/
theorem Run.run?_eq {n : Nat} {r : Except (Stop ε) Progress}
    (h : Run load n (start requested) r) (loads : Nat) :
    run? load loads requested = if n ≤ loads then some r else none := by
  split
  · rename_i hle
    exact runFrom_eq_some_iff.2 ⟨n, hle, h⟩
  · rename_i hgt
    cases hrun : run? load loads requested with
    | none => rfl
    | some r' =>
        exfalso
        obtain ⟨n', hle', h'⟩ := runFrom_eq_some_iff.1 hrun
        have hsame : some r' = some r :=
          (run?_mono (by omega : loads ≤ n) hrun).symm.trans
            (runFrom_eq_some_iff.2 ⟨n, Nat.le_refl _, h⟩)
        obtain rfl := Option.some.inj hsame
        have hcount := h.count
        have hcount' := h'.count
        cases r' with
        | ok q => dsimp only at hcount hcount'; omega
        | error stop => dsimp only at hcount hcount'; omega

/-! ## Where a run stopped -/

/-- A name that waits was requested, or one that was taken depends on it. -/
theorem Tracks.origin {p : Progress} (h : Tracks load requested p) {name : String}
    (hn : name ∈ p.waiting) :
    name ∈ requested ∨ ∃ m deps, p.loaded.get? m = some deps ∧ name ∈ deps := by
  cases h.reached name (.inr hn) with
  | root hr => exact .inl hr
  | edge _ hd hm => exact .inr ⟨_, _, hd, hm⟩

/-- The account has exactly the names that were taken. -/
theorem Tracks.mem_keys_iff {p : Progress} (h : Tracks load requested p) {name : String} :
    name ∈ p.loaded.keys ↔ name ∈ p.taken := by
  rw [NameMap.mem_keys_iff]
  exact h.isSome_iff

/-- The account of a run: each name that it loaded, with all that the name depends on. -/
def Records (loaded : NameMap NameSet) (loads : List (String × Specification)) : Prop :=
  ∀ name deps, loaded.get? name = some deps ↔ ∃ s, (name, s) ∈ loads ∧ s.dependencies = deps

theorem Tracks.records {p : Progress} (h : Tracks load requested p) :
    Records p.loaded p.trail := by
  intro name deps
  rw [h.loaded name deps]
  unfold Progress.trail
  simp only [List.mem_reverse]

/-! ## The order of the loads -/

/-- The loads are made in this order: had one of them failed, resolving would have ended
there and told those in front of it. -/
def LoadedInOrder (load : String → Fallible Specification) (requested : List String)
    (loads : List (String × Specification)) : Prop :=
  ∀ earlier e later, loads = earlier ++ e :: later → ∀ cause,
    ∃ loaded, Records loaded earlier
      ∧ resolve? (failingAt load e.1 cause) (earlier.length + 1) requested
        = some (.error (.resolution requested loaded cause))

/-- A run makes the loads of its trail, in order. -/
theorem Run.loadedInOrder {load : String → Fallible Specification} {n : Nat}
    {r : Except (Stop CatalogError) Progress} (h : Run load n (start requested) r)
    (htracks : Tracks load requested (known r)) :
    LoadedInOrder load requested (known r).trail := by
  intro earlier e later hsplit cause
  have hresolved : (known r).resolved = later.reverse ++ e :: earlier.reverse := by
    have := congrArg List.reverse hsplit
    unfold Progress.trail at this
    simpa using this
  have hdistinct := htracks.distinct
  unfold Progress.taken at hdistinct
  rw [hresolved, List.map_append, List.map_cons] at hdistinct
  have hfresh : e.1 ∉ earlier.reverse.map (·.1) :=
    (List.nodup_cons.1 (List.nodup_append.1 hdistinct).2.1).1
  obtain ⟨m, q, _, hq, hcut⟩ := h.cut hresolved hfresh (List.nil_suffix) cause
  have hloads : m = earlier.length + 1 := by
    have hcount : q.taken.length + 1 = 0 + m := hcut.count
    unfold Progress.taken at hcount
    rw [hq, List.length_map, List.length_reverse] at hcount
    omega
  obtain ⟨hq', -, -⟩ := hcut.ends tracks_preserved (tracks_start _ requested)
  have hrecords := hq'.records
  unfold Progress.trail at hrecords
  rw [hq, List.reverse_reverse] at hrecords
  refine ⟨q.loaded, hrecords, ?_⟩
  unfold resolve?
  rw [hcut.run?_eq, if_pos (by omega)]
  rfl

/-- What resolving gives was loaded name by name, in the order that it is given. -/
theorem exists_loads_of_resolve?_ok {load : String → Fallible Specification} {loads : Nat}
    {out : List Specification} (h : resolve? load loads requested = some (.ok out)) :
    ∃ made : List (String × Specification), out = made.map (·.2)
      ∧ (made.map (·.1)).Nodup
      ∧ (∀ e ∈ made, load e.1 = .ok e.2)
      ∧ LoadedInOrder load requested made := by
  obtain ⟨r, hr, hout⟩ := Option.map_eq_some_iff.1 h
  cases r with
  | error stop => cases hout
  | ok p =>
      cases hout
      obtain ⟨n, _, hrun⟩ := runFrom_eq_some_iff.1 hr
      obtain ⟨htracks, _⟩ := run?_ends hr
      refine ⟨p.trail, rfl, ?_, ?_, hrun.loadedInOrder htracks⟩
      · unfold Progress.trail
        rw [List.map_reverse]
        exact List.nodup_reverse.2 htracks.distinct
      · intro e he
        exact htracks.loads e (List.mem_reverse.1 he)

/-- These loads, in this order, are made before one of `failed` is tried, and no others. -/
structure LoadsUpTo (load : String → Fallible Specification) (requested : List String)
    (failed : String) (before : List (String × Specification)) : Prop where
  /-- No name is loaded twice, and the one that fails was not loaded. -/
  distinct : (before.map (·.1) ++ [failed]).Nodup
  /-- The loader gives what was loaded. -/
  loads : ∀ e ∈ before, load e.1 = .ok e.2
  /-- With one load fewer there is no answer. -/
  needed : ∀ n, n ≤ before.length → resolve? load n requested = none
  /-- What the loader does with any other name does not matter. -/
  only : ∀ load' : String → Fallible Specification,
    (∀ name ∈ before.map (·.1) ++ [failed], load' name = load name) →
    ∀ n, resolve? load' n requested = resolve? load n requested
  /-- They are made in this order. -/
  ordered : LoadedInOrder load requested before

/-- A run that stopped has made the loads of its trail. -/
theorem Run.loadsUpTo {load : String → Fallible Specification} {n : Nat}
    {stop : Stop CatalogError} (h : Run load n (start requested) (.error stop)) :
    LoadsUpTo load requested stop.name stop.progress.trail := by
  obtain ⟨htracks, ⟨rest, ha⟩, -⟩ := h.ends tracks_preserved (tracks_start load requested)
  have hnames : stop.progress.trail.map (·.1) = stop.progress.taken.reverse := List.map_reverse
  have hcount : stop.progress.taken.length + 1 = 0 + n := h.count
  have hlen : stop.progress.trail.length = stop.progress.taken.length := by
    have hlengths := congrArg List.length hnames
    rwa [List.length_map, List.length_reverse] at hlengths
  refine ⟨?_, ?_, ?_, ?_, h.loadedInOrder htracks⟩
  · rw [hnames, ← List.reverse_cons]
    exact List.nodup_reverse.2 (List.nodup_cons.2 ⟨htracks.fresh ha, htracks.distinct⟩)
  · intro e he
    exact htracks.loads e (List.mem_reverse.1 he)
  · intro m hm
    unfold resolve?
    rw [h.run?_eq, if_neg (by omega)]
    rfl
  · intro load' hsame m
    have hrun' : Run load' n (start requested) (.error stop) := by
      refine h.of_asked fun name hn => hsame name ?_
      rw [hnames, ← List.reverse_cons]
      exact List.mem_reverse.2 hn
    unfold resolve?
    rw [h.run?_eq, hrun'.run?_eq]

/--
**A failed resolution reports exactly how far it got.**

The error repeats the requested names as they were given. There is a name that the loader
refuses with the cause told; it was requested, or something loaded depends on it, and it was
not loaded itself. What the error tells as loaded is what the run had loaded before it came
to that name, each with all its dependencies, and each reached from the requested names
through names that are told as well.
-/
theorem resolve?_error_reports {load : String → Fallible Specification} {loads : Nat}
    {requested : List String} {e : CatalogError}
    (h : resolve? load loads requested = some (.error e)) :
    ∃ failed loaded cause before, e = .resolution requested loaded cause
      ∧ load failed = .error cause
      ∧ failed ∉ loaded.keys
      ∧ (failed ∈ requested ∨ ∃ name deps, loaded.get? name = some deps ∧ failed ∈ deps)
      ∧ LoadsUpTo load requested failed before
      ∧ (∀ name, name ∈ loaded.keys ↔ name ∈ before.map (·.1))
      ∧ Records loaded before
      ∧ ∀ name ∈ loaded.keys, Reaches loaded.get? requested name := by
  obtain ⟨r, hr, he⟩ := Option.map_eq_some_iff.1 h
  cases r with
  | ok p => cases he
  | error stop =>
      cases he
      obtain ⟨n, _, hrun⟩ := runFrom_eq_some_iff.1 hr
      obtain ⟨htracks, ⟨rest, ha⟩, hl⟩ := run?_ends hr
      refine ⟨stop.name, stop.progress.loaded, stop.cause, stop.progress.trail, rfl, hl, ?_,
        htracks.origin (mem_waiting_of_ahead ha), hrun.loadsUpTo, ?_,
        htracks.records, ?_⟩
      · rw [htracks.mem_keys_iff]
        exact htracks.fresh ha
      · intro name
        rw [htracks.mem_keys_iff]
        unfold Progress.trail Progress.taken
        rw [List.map_reverse, List.mem_reverse]
      · intro name hn
        exact htracks.reached name (.inl (htracks.mem_keys_iff.1 hn))

/-- A loader of two names; the third that they depend on is not there. -/
def frayed (name : String) : Fallible Specification :=
  if name = "top" then .ok ⟨name, .ofList ["gone", "shared"]⟩
  else if name = "shared" then .ok ⟨name, .empty⟩
  else .error (.notFound name name)

/-- Two names are loaded and told before the third fails. -/
theorem resolve?_error_reports_frayed :
    ∃ loaded cause,
      resolve? frayed 3 ["top", "top"] = some (.error (.resolution ["top", "top"] loaded cause))
        ∧ loaded.keys = ["shared", "top"]
        ∧ ∀ name ∈ loaded.keys, Reaches loaded.get? ["top", "top"] name := by
  obtain ⟨e, he, hkeys⟩ : ∃ e, resolve? frayed 3 ["top", "top"] = some (.error e)
      ∧ ∀ requested loaded cause, e = .resolution requested loaded cause →
          loaded.keys = ["shared", "top"] := by
    refine ⟨_, rfl, ?_⟩
    intro requested loaded cause h
    cases h
    decide
  obtain ⟨_, loaded, cause, _, rfl, _, _, _, _, _, _, hreached⟩ := resolve?_error_reports he
  exact ⟨loaded, cause, he, hkeys _ _ _ rfl, hreached⟩

end SpecCatalog.Closure
