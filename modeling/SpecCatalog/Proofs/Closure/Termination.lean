import Mathlib.Data.Set.Card
import SpecCatalog.Proofs.Closure.LoadBound
import SpecCatalog.Proofs.Closure.Turns

/-!
# Resolving with a search path ends

Every name that loads from a search path has a descriptor in one of its sources, and the sources
have room for finitely many (`ncard_loadable_lt`). No name is loaded twice, and a name that does
not load ends the run. So there is at most one load for each name that loads and one more, and
the turns of the run are those that its loads account for (`resolve_ends`).
-/

namespace SpecCatalog

open Closure

variable {t : FileTree} {c : Codec} {sources : SearchPath}

/-- The names that load from the search path. -/
def SearchPath.loadable (t : FileTree) (c : Codec) (sources : SearchPath) : Set String :=
  {name | ∃ s, sources.lookup t c name = .ok s}

theorem card_lt_of_subset_loadable {names : Finset String}
    (h : (names : Set String) ⊆ sources.loadable t c) : names.card < sources.loadBound t := by
  rw [← names.length_toList]
  refine length_lt_loadBound (c := c) names.nodup_toList fun name hn => ?_
  obtain ⟨s, hs⟩ := h (Finset.mem_coe.2 (Finset.mem_toList.1 hn))
  exact has_of_lookup_ok hs

theorem finite_loadable (t : FileTree) (c : Codec) (sources : SearchPath) :
    (sources.loadable t c).Finite := by
  by_contra hinfinite
  obtain ⟨names, hsub, hcard⟩ :=
    Set.Infinite.exists_subset_card_eq hinfinite (sources.loadBound t)
  exact Nat.lt_irrefl _ (hcard ▸ card_lt_of_subset_loadable hsub)

/-- There are fewer of them than loads that a run may make. -/
theorem ncard_loadable_lt (t : FileTree) (c : Codec) (sources : SearchPath) :
    (sources.loadable t c).ncard < sources.loadBound t := by
  have hfin := finite_loadable t c sources
  rw [Set.ncard_eq_toFinset_card _ hfin]
  exact card_lt_of_subset_loadable (c := c) (Set.Finite.coe_toFinset hfin).subset

namespace Closure

variable {ε : Type} {load : String → Except ε Specification} {requested : List String}
  {n : Nat} {r : Except (Stop ε) Progress}

/-- A run asks its loader for no name twice. -/
theorem Run.nodup_asked (h : Run load n (start requested) r) : (asked r).Nodup := by
  have hends := h.ends tracks_preserved (tracks_start load requested)
  cases r with
  | ok p => exact hends.1.distinct
  | error stop =>
      obtain ⟨htracks, ⟨rest, ha⟩, -⟩ := hends
      exact List.nodup_cons.2 ⟨htracks.fresh ha, htracks.distinct⟩

/-- It asks for a name with each load. -/
theorem Run.length_asked (h : Run load n (start requested) r) : (asked r).length = n := by
  have hcount := h.count
  cases r with
  | ok p =>
      have hcount : p.taken.length = 0 + n := hcount
      exact hcount.trans (Nat.zero_add n)
  | error stop =>
      have hcount : stop.progress.taken.length + 1 = 0 + n := hcount
      exact hcount.trans (Nat.zero_add n)

/-- All names asked for load but for the one that ends the run. -/
theorem Run.length_asked_le {names : Finset String} (h : Run load n (start requested) r)
    (hnames : ∀ name s, load name = .ok s → name ∈ names) :
    (asked r).length ≤ names.card + 1 := by
  have hends := h.ends tracks_preserved (tracks_start load requested)
  have htaken : ∀ p : Progress, Tracks load requested p → p.taken.length ≤ names.card := by
    intro p hp
    rw [← List.toFinset_card_of_nodup hp.distinct]
    refine Finset.card_le_card fun name hn => ?_
    obtain ⟨e, he, rfl⟩ := List.mem_map.1 (List.mem_toFinset.1 hn)
    exact hnames _ _ (hp.loads e he)
  cases r with
  | ok p => exact Nat.le_succ_of_le (htaken p hends.1)
  | error stop => exact Nat.succ_le_succ (htaken stop.progress hends.1)

end Closure

/--
**Resolving always ends, within bounds that the names set.**

Finitely many names load from a search path. Whatever the requested names are and however names
depend on each other, the run asks for no name twice and for one more at most than there are
names that load; fewer loads would give no answer, and only what the names asked for load as
makes a difference. Turn by turn the run comes to the same end, and takes no more turns than
there are requested names and dependencies of what it loaded.
-/
theorem resolve_ends (t : FileTree) (c : Codec) (sources : SearchPath) (requested : List String) :
    (sources.loadable t c).Finite
      ∧ (sources.loadable t c).ncard < sources.loadBound t
      ∧ ∃ r, sources.resolve t c requested = told requested r
        ∧ (∀ loads, run? (sources.lookup t c) loads requested
            = if (asked r).length ≤ loads then some r else none)
        ∧ (∀ load, (∀ name ∈ asked r, load name = sources.lookup t c name) →
            ∀ loads, run? load loads requested = run? (sources.lookup t c) loads requested)
        ∧ (asked r).Nodup
        ∧ (asked r).length ≤ (sources.loadable t c).ncard + 1
        ∧ ∃ r', loopFrom (sources.lookup t c) (requested.length + putOn (known r).resolved)
              (start requested) = some r'
            ∧ concluded r' = concluded r := by
  have hfin := finite_loadable t c sources
  obtain ⟨r, hr, htold⟩ := Option.map_eq_some_iff.1 (resolve?_loadBound t c sources requested)
  obtain ⟨n, -, hrun⟩ := runFrom_eq_some_iff.1 hr
  have hruns : ∀ loads, run? (sources.lookup t c) loads requested
      = if (asked r).length ≤ loads then some r else none := by
    rw [hrun.length_asked]
    exact hrun.run?_eq
  refine ⟨hfin, ncard_loadable_lt t c sources, r, htold.symm, hruns, ?_, hrun.nodup_asked, ?_, ?_⟩
  · intro load hsame loads
    rw [(hrun.of_asked hsame).run?_eq, hrun.run?_eq]
  · rw [Set.ncard_eq_toFinset_card _ hfin]
    exact hrun.length_asked_le fun name s hs => hfin.mem_toFinset.2 ⟨s, hs⟩
  · refine hrun.exists_turns ?_
    simp [start, putOn]

end SpecCatalog
