import Mathlib.Data.Finset.Card
import Mathlib.Data.Set.Finite.Basic
import SpecCatalog.Proofs.Closure.Exactness
import SpecCatalog.Proofs.Closure.Turns
import SpecCatalog.Proofs.Text.Order

/-!
# Names are loaded depth first

`depthFirst` is the walk that one would write down by recursion: from the requested names, the
last one first, it goes to each name that it has not visited, loads it and right after that walks
from what the name depends on, before it goes on. All of the walk shares one set of visited names.

A run keeps the names that wait on a stack instead, and names may stand there that have long been
taken. It makes the same loads in the same order nevertheless (`resolve?_depthFirst`). The proof
goes by the turns of the run: with some names on top of any others that wait, the run does what
the walk does from these names and then goes on with the others (`Follows`).
-/

namespace SpecCatalog

/-- The names from the last to the first in the order of their bytes. -/
def NameSet.descending (names : NameSet) : List String :=
  names.toList.mergeSort fun x y => decide (Text.toBytes y ≤ Text.toBytes x)

/-- They are kept in this order, but from the first to the last. -/
theorem NameSet.descending_eq (names : NameSet) : names.descending = names.toList.reverse := by
  have hle : ∀ x y : String, decide (Text.toBytes y ≤ Text.toBytes x) = true ↔ y ≤ x := by
    intro x y
    rw [decide_eq_true_eq, ← List.not_lt, Text.toBytes_lt_iff, String.not_lt]
  have hsorted : names.descending.Pairwise fun x y => y ≤ x := by
    refine (List.pairwise_mergeSort ?_ ?_ _).imp fun h => (hle _ _).1 h
    · intro x y z hxy hyz
      exact (hle x z).2 (String.le_trans ((hle y z).1 hyz) ((hle x y).1 hxy))
    · intro x y
      rw [Bool.or_eq_true, hle, hle]
      exact String.le_total y x
  have hreversed : names.toList.reverse.Pairwise fun x y => y ≤ x :=
    List.pairwise_reverse.2 (names.increasing.imp fun h => String.not_lt.1 (String.lt_asymm h))
  have hperm : names.descending.Perm names.toList.reverse :=
    (List.mergeSort_perm _ _).trans (List.reverse_perm _).symm
  exact hperm.eq_of_pairwise (fun x y _ _ hyx hxy => String.le_antisymm hxy hyx) hsorted hreversed

namespace Closure

variable {ε : Type} {load : String → Except ε Specification} {requested : List String}

/-! ## The walk -/

/-- What was loaded, in order. Its names are those that were visited. -/
abbrev Trail := List (String × Specification)

def Trail.names (trail : Trail) : List String := trail.map (·.1)

theorem Trail.names_concat (trail : Trail) (e : String × Specification) :
    Trail.names (trail ++ [e]) = trail.names ++ [e.1] := List.map_append

/-- A walk broke off at a name, with what was loaded before it. -/
structure Break (ε : Type) where
  before : Trail
  name : String
  cause : ε

/-- Visits one name after the other until a visit breaks off. -/
def visitEach (visit : Trail → String → Option (Except (Break ε) Trail)) :
    Trail → List String → Option (Except (Break ε) Trail)
  | trail, [] => some (.ok trail)
  | trail, name :: rest =>
    match visit trail name with
    | some (.ok trail) => visitEach visit trail rest
    | ended => ended

/-- Loads a name that was not visited before, and then visits what it depends on. Nothing if the
walk would go deeper than it may. -/
def visit (load : String → Except ε Specification) :
    Nat → Trail → String → Option (Except (Break ε) Trail)
  | depth, trail, name =>
    if name ∈ trail.names then some (.ok trail)
    else
      match depth with
      | 0 => none
      | depth + 1 =>
        match load name with
        | .error cause => some (.error ⟨trail, name, cause⟩)
        | .ok s => visitEach (visit load depth) (trail ++ [(name, s)]) s.dependencies.descending

/-- The walk from the requested names. -/
def depthFirst (load : String → Except ε Specification) (depth : Nat) (requested : List String) :
    Option (Except (Break ε) Trail) :=
  visitEach (visit load depth) [] requested.reverse

/-! ## What a run knows after these loads -/

/-- The account of what was loaded. -/
def Trail.account (trail : Trail) : NameMap NameSet :=
  trail.foldl (fun loaded e => loaded.insert e.1 e.2.dependencies) .empty

/-- The run has made these loads, and these names wait. -/
def Trail.progress (trail : Trail) (waiting : List String) : Progress :=
  ⟨trail.account, waiting, trail.reverse⟩

theorem Trail.progress_take (trail : Trail) (waiting : List String) (name : String)
    (s : Specification) (rest : List String) :
    (trail.progress waiting).take name s rest
      = Trail.progress (trail ++ [(name, s)]) (s.dependencies.toList.reverse ++ rest) := by
  unfold Trail.progress Progress.take Trail.account
  rw [List.foldl_append, List.reverse_append]
  rfl

theorem Trail.isSome_account {trail : Trail} {name : String} :
    (trail.account.get? name).isSome ↔ name ∈ trail.names := by
  induction trail using List.reverseRecOn with
  | nil => simp [Trail.account, Trail.names]
  | append_singleton trail e ih =>
      have haccount : Trail.account (trail ++ [e])
          = (Trail.account trail).insert e.1 e.2.dependencies := by
        unfold Trail.account
        rw [List.foldl_append]
        rfl
      rw [haccount, Trail.names_concat, NameMap.get?_insert, List.mem_append, List.mem_singleton,
        ← ih]
      split
      · rename_i hname
        simp [hname]
      · rename_i hname
        simp [hname]

/-! ## A run follows the walk -/

/-- From these names on top of any others that wait, a run comes to the end told; if that is no
break, it goes on with the others. -/
def Follows (load : String → Except ε Specification) (trail : Trail) (names : List String) :
    Except (Break ε) Trail → Prop
  | .ok trail' => ∀ rest, ∃ turns, ∀ more,
      loopFrom load (more + turns) (trail.progress (names ++ rest))
        = loopFrom load more (trail'.progress rest)
  | .error b => ∀ rest, ∃ turns waiting,
      loopFrom load turns (trail.progress (names ++ rest))
        = some (.error ⟨b.before.progress waiting, b.name, b.cause⟩)

variable {trail trail' : Trail} {name : String} {names : List String}
  {e : Except (Break ε) Trail}

/-- A name that a run follows the walk from may stand on top of others. -/
theorem Follows.cons (h : Follows load trail [name] (.ok trail'))
    (hmore : Follows load trail' names e) : Follows load trail (name :: names) e := by
  cases e with
  | ok last =>
      intro rest
      obtain ⟨turns, hturns⟩ := h (names ++ rest)
      obtain ⟨turns', hturns'⟩ := hmore rest
      refine ⟨turns' + turns, fun more => ?_⟩
      rw [← Nat.add_assoc]
      exact (hturns _).trans (hturns' more)
  | error b =>
      intro rest
      obtain ⟨turns, hturns⟩ := h (names ++ rest)
      obtain ⟨turns', waiting, hbroke⟩ := hmore rest
      exact ⟨turns' + turns, waiting, (hturns _).trans hbroke⟩

theorem Follows.cons_error {b : Break ε} (h : Follows load trail [name] (.error b)) :
    Follows load trail (name :: names) (.error b) := fun rest => h (names ++ rest)

theorem follows_nil (load : String → Except ε Specification) (trail : Trail) :
    Follows load trail [] (.ok trail) := fun _ => ⟨0, fun _ => rfl⟩

theorem follows_seen (hseen : name ∈ trail.names) : Follows load trail [name] (.ok trail) :=
  fun _ => ⟨1, fun more => loopFrom_seen more rfl (Trail.isSome_account.2 hseen)⟩

theorem get?_account_eq_none (hnew : name ∉ trail.names) : trail.account.get? name = none := by
  rw [← Option.not_isSome_iff_eq_none]
  exact mt Trail.isSome_account.1 hnew

theorem follows_failed {cause : ε} (hnew : name ∉ trail.names) (hl : load name = .error cause) :
    Follows load trail [name] (.error ⟨trail, name, cause⟩) :=
  fun rest => ⟨1, rest, loopFrom_failed 0 rfl (get?_account_eq_none hnew) hl⟩

/-- A load puts the dependencies on top, and the run follows the walk from them. -/
theorem follows_loaded {s : Specification} (hnew : name ∉ trail.names) (hl : load name = .ok s)
    (h : Follows load (trail ++ [(name, s)]) s.dependencies.descending e) :
    Follows load trail [name] e := by
  have hturn : ∀ turns rest, loopFrom load (turns + 1) (trail.progress ([name] ++ rest))
      = loopFrom load turns
          (Trail.progress (trail ++ [(name, s)]) (s.dependencies.descending ++ rest)) := by
    intro turns rest
    rw [NameSet.descending_eq, ← trail.progress_take ([name] ++ rest)]
    exact loopFrom_loaded turns rfl (get?_account_eq_none hnew) hl
  cases e with
  | ok trail' =>
      intro rest
      obtain ⟨turns, hturns⟩ := h rest
      refine ⟨turns + 1, fun more => ?_⟩
      rw [← Nat.add_assoc, hturn]
      exact hturns more
  | error b =>
      intro rest
      obtain ⟨turns, waiting, hbroke⟩ := h rest
      exact ⟨turns + 1, waiting, (hturn turns rest).trans hbroke⟩

theorem follows_visitEach {visit : Trail → String → Option (Except (Break ε) Trail)}
    (hvisit : ∀ trail name e, visit trail name = some e → Follows load trail [name] e)
    (h : visitEach visit trail names = some e) : Follows load trail names e := by
  induction names generalizing trail with
  | nil =>
      cases h
      exact follows_nil load trail
  | cons name names ih =>
      unfold visitEach at h
      split at h
      · rename_i trail' hfirst
        exact (hvisit _ _ _ hfirst).cons (ih h)
      · -- the first visit did not come to its end, or broke off
        rename_i hnot
        have hfollows := hvisit _ _ _ h
        cases e with
        | ok trail' => exact absurd h (hnot trail')
        | error b => exact hfollows.cons_error

/-- **A run follows the walk from each name.** -/
theorem follows_visit {depth : Nat} (h : visit load depth trail name = some e) :
    Follows load trail [name] e := by
  induction depth generalizing trail name e with
  | zero =>
      unfold visit at h
      split at h
      · rename_i hseen
        cases h
        exact follows_seen hseen
      · cases h
  | succ depth ih =>
      unfold visit at h
      split at h
      · rename_i hseen
        cases h
        exact follows_seen hseen
      · rename_i hnew
        dsimp only at h
        split at h
        · rename_i cause hl
          cases h
          exact follows_failed hnew hl
        · rename_i s hl
          exact follows_loaded hnew hl (follows_visitEach (fun _ _ _ => ih) h)

/-- What the run has concluded where the walk came to this end. -/
def ofWalk : Except (Break ε) Trail → Except (Stop ε) Progress
  | .ok trail => .ok (trail.progress [])
  | .error b => .error ⟨b.before.progress [], b.name, b.cause⟩

/-- A run concludes what the walk from the requested names comes to. -/
theorem concluded_of_depthFirst {depth n : Nat} {r : Except (Stop ε) Progress}
    (hwalk : depthFirst load depth requested = some e) (hrun : Run load n (start requested) r) :
    concluded r = ofWalk e := by
  have hfollows := follows_visitEach (fun _ _ _ => follows_visit) hwalk
  obtain ⟨turns, r₁, hloop, hwalked⟩ : ∃ turns r₁,
      loopFrom load turns (start requested) = some r₁ ∧ concluded r₁ = ofWalk e := by
    have hstart : Trail.progress [] (requested.reverse ++ []) = start requested := by
      rw [List.append_nil]
      rfl
    cases e with
    | ok trail =>
        obtain ⟨turns, hturns⟩ := hfollows []
        rw [hstart] at hturns
        exact ⟨_, _, hturns 0, rfl⟩
    | error b =>
        obtain ⟨turns, waiting, hbroke⟩ := hfollows []
        rw [hstart] at hbroke
        exact ⟨_, _, hbroke, rfl⟩
  obtain ⟨turns', r₂, hloop', hran⟩ := hrun.exists_loop
  -- with the turns of both there is one end
  have hsame := (loopFrom_mono (Nat.le_max_left turns turns') hloop).symm.trans
    (loopFrom_mono (Nat.le_max_right turns turns') hloop')
  rw [← hran, ← hwalked, Option.some.inj hsame]

/-! ## The walk comes to its end -/

/-- The visits came to an end, and no name that was visited is forgotten. -/
def Answers (trail : Trail) (o : Option (Except (Break ε) Trail)) : Prop :=
  ∃ e, o = some e ∧ ∀ trail', e = .ok trail' → trail.names ⊆ trail'.names

/-- The names that are still to be visited. -/
def toVisit (reached : Finset String) (trail : Trail) : Finset String :=
  reached \ trail.names.toFinset

variable {reached : Finset String}

theorem mem_toVisit : name ∈ toVisit reached trail ↔ name ∈ reached ∧ name ∉ trail.names := by
  unfold toVisit
  rw [Finset.mem_sdiff, List.mem_toFinset]

theorem toVisit_subset (h : trail.names ⊆ trail'.names) :
    toVisit reached trail' ⊆ toVisit reached trail := by
  intro name hn
  rw [mem_toVisit] at hn ⊢
  exact ⟨hn.1, fun hm => hn.2 (h hm)⟩

/-- A load leaves fewer names to visit. -/
theorem card_toVisit_lt {s : Specification} (hin : name ∈ reached) (hnew : name ∉ trail.names) :
    (toVisit reached (trail ++ [(name, s)])).card < (toVisit reached trail).card := by
  have hsub : trail.names ⊆ Trail.names (trail ++ [(name, s)]) := by
    rw [Trail.names_concat]
    exact List.subset_append_left _ _
  have hvisited : name ∈ Trail.names (trail ++ [(name, s)]) := by
    rw [Trail.names_concat]
    exact List.mem_append_right _ List.mem_cons_self
  refine Finset.card_lt_card ((Finset.ssubset_iff_of_subset (toVisit_subset hsub)).2 ⟨name, ?_, ?_⟩)
  · exact mem_toVisit.2 ⟨hin, hnew⟩
  · exact fun hm => (mem_toVisit.1 hm).2 hvisited

theorem answers_seen (trail : Trail) :
    Answers trail (some (.ok trail : Except (Break ε) Trail)) :=
  ⟨_, rfl, fun trail' h => by cases h; exact List.Subset.refl _⟩

theorem visitEach_answers {visit : Trail → String → Option (Except (Break ε) Trail)} {depth : Nat}
    (hvisit : ∀ trail name, name ∈ reached → (toVisit reached trail).card ≤ depth →
      Answers trail (visit trail name))
    (hnames : ∀ name ∈ names, name ∈ reached) (hdepth : (toVisit reached trail).card ≤ depth) :
    Answers trail (visitEach visit trail names) := by
  induction names generalizing trail with
  | nil => exact answers_seen trail
  | cons name names ih =>
      rw [List.forall_mem_cons] at hnames
      obtain ⟨e, he, hkept⟩ := hvisit trail name hnames.1 hdepth
      unfold visitEach
      rw [he]
      cases e with
      | error b => exact ⟨_, rfl, nofun⟩
      | ok between =>
          have hbetween := hkept between rfl
          have hcard : (toVisit reached between).card ≤ (toVisit reached trail).card :=
            Finset.card_le_card (toVisit_subset hbetween)
          obtain ⟨e, he, hkept⟩ := ih hnames.2 (Nat.le_trans hcard hdepth)
          exact ⟨e, he, fun trail' h => List.Subset.trans hbetween (hkept trail' h)⟩

/-- A walk among names with all they depend on need not go deeper than there are names left. -/
theorem visit_answers {depth : Nat}
    (hclosed : ∀ name ∈ reached, ∀ s, load name = .ok s → ∀ d ∈ s.dependencies, d ∈ reached)
    (hin : name ∈ reached) (hdepth : (toVisit reached trail).card ≤ depth) :
    Answers trail (visit load depth trail name) := by
  induction depth generalizing trail name with
  | zero =>
      unfold visit
      split
      · exact answers_seen trail
      · rename_i hnew
        have hpos := Finset.card_pos.2 ⟨name, mem_toVisit.2 ⟨hin, hnew⟩⟩
        omega
  | succ depth ih =>
      unfold visit
      split
      · exact answers_seen trail
      · rename_i hnew
        dsimp only
        split
        · exact ⟨_, rfl, nofun⟩
        · -- with the name on the trail there is one name fewer left
          rename_i s hl
          have hfewer : (toVisit reached (trail ++ [(name, s)])).card ≤ depth :=
            Nat.le_of_lt_succ (Nat.lt_of_lt_of_le (card_toVisit_lt hin hnew) hdepth)
          have hdeps : ∀ d ∈ s.dependencies.descending, d ∈ reached := by
            intro d hd
            rw [NameSet.descending_eq, List.mem_reverse] at hd
            exact hclosed name hin s hl d hd
          obtain ⟨e, he, hkept⟩ := visitEach_answers (fun _ _ => ih) hdeps hfewer
          refine ⟨e, he, fun trail' h => List.Subset.trans ?_ (hkept trail' h)⟩
          rw [Trail.names_concat]
          exact List.subset_append_left _ _

theorem exists_depthFirst (hfin : {name | Reaches (dependsOn load) requested name}.Finite)
    {depth : Nat} (hdepth : hfin.toFinset.card ≤ depth) :
    ∃ e, depthFirst load depth requested = some e := by
  have hclosed : ∀ name ∈ hfin.toFinset, ∀ s, load name = .ok s →
      ∀ d ∈ s.dependencies, d ∈ hfin.toFinset := by
    intro name hn s hl d hd
    exact hfin.mem_toFinset.2 (.edge (hfin.mem_toFinset.1 hn) (dependsOn_of_ok hl) hd)
  have hroots : ∀ name ∈ requested.reverse, name ∈ hfin.toFinset :=
    fun name hn => hfin.mem_toFinset.2 (.root (List.mem_reverse.1 hn))
  have hcard : (toVisit hfin.toFinset []).card ≤ depth :=
    Nat.le_trans (Finset.card_le_card Finset.sdiff_subset) hdepth
  obtain ⟨e, he, -⟩ := visitEach_answers (fun _ _ hin => visit_answers hclosed hin) hroots hcard
  exact ⟨e, he⟩

/-! ## The loads of both -/

/-- The names that the walk loaded or tried to load, in order. -/
def visited : Except (Break ε) Trail → List String
  | .ok trail => trail.names
  | .error b => b.before.names ++ [b.name]

/-- What the walk loaded, in order. -/
def made : Except (Break ε) Trail → Trail
  | .ok trail => trail
  | .error b => b.before

/-- What the end of a walk is told as. -/
def walkTold (requested : List String) :
    Except (Break CatalogError) Trail → Fallible (List Specification)
  | .ok trail => .ok (trail.map (·.2))
  | .error b => .error (.resolution requested b.before.account b.cause)

theorem progress_injective {trail trail' : Trail} {waiting waiting' : List String}
    (h : trail.progress waiting = trail'.progress waiting') : trail = trail' :=
  List.reverse_injective (congrArg Progress.resolved h)

theorem ofWalk_injective {e e' : Except (Break ε) Trail} (h : ofWalk e = ofWalk e') : e = e' := by
  cases e with
  | ok trail =>
      cases e' with
      | ok trail' => rw [progress_injective (Except.ok.inj h)]
      | error b' => cases h
  | error b =>
      cases e' with
      | ok trail' => cases h
      | error b' =>
          obtain ⟨before, name, cause⟩ := b
          obtain ⟨before', name', cause'⟩ := b'
          obtain ⟨hprogress, rfl, rfl⟩ := Stop.mk.inj (Except.error.inj h)
          obtain rfl : before = before' := progress_injective hprogress
          rfl

theorem asked_ofWalk (e : Except (Break ε) Trail) : (asked (ofWalk e)).reverse = visited e := by
  cases e with
  | ok trail => simp [ofWalk, asked, visited, Progress.taken, Trail.progress, Trail.names]
  | error b => simp [ofWalk, asked, visited, Progress.taken, Trail.progress, Trail.names]

theorem told_ofWalk (e : Except (Break CatalogError) Trail) :
    told requested (ofWalk e) = walkTold requested e := by
  cases e with
  | ok trail => simp [ofWalk, told, walkTold, Progress.trail, Trail.progress]
  | error b => rfl

theorem trail_known_ofWalk (e : Except (Break ε) Trail) : (known (ofWalk e)).trail = made e := by
  cases e with
  | ok trail => simp [ofWalk, known, made, Progress.trail, Trail.progress]
  | error b => simp [ofWalk, known, made, Progress.trail, Trail.progress]

theorem trail_known_concluded (r : Except (Stop ε) Progress) :
    (known (concluded r)).trail = (known r).trail := by
  cases r <;> rfl

/--
**Names are loaded depth first.**

If finitely many names are reached, the walk by recursion comes to an end, and it goes no deeper
than there are such names. The names that resolving asks its loader for are those that the walk
loads or tries to load, in the same order. What resolving tells is what the walk comes to: the
specifications in that order or the first failure, with what was loaded before it.
-/
theorem resolve?_depthFirst {load : String → Fallible Specification} {requested : List String}
    (hfin : {name | Reaches (dependsOn load) requested name}.Finite) :
    ∃ e, (∀ depth, hfin.toFinset.card ≤ depth → depthFirst load depth requested = some e)
      ∧ (∃ r, (∀ loads, hfin.toFinset.card ≤ loads → run? load loads requested = some r)
        ∧ (asked r).reverse = visited e)
      ∧ LoadedInOrder load requested (made e)
      ∧ ∀ loads, hfin.toFinset.card ≤ loads →
          resolve? load loads requested = some (walkTold requested e) := by
  obtain ⟨r, hr⟩ : ∃ r, run? load hfin.toFinset.card requested = some r := by
    obtain ⟨_, hresolve⟩ := resolve?_isSome fun name hn => hfin.mem_toFinset.2 hn
    obtain ⟨r, hr, -⟩ := Option.map_eq_some_iff.1 hresolve
    exact ⟨r, hr⟩
  obtain ⟨n, -, hrun⟩ := runFrom_eq_some_iff.1 hr
  obtain ⟨e, he⟩ := exists_depthFirst hfin (Nat.le_refl _)
  have hsame : concluded r = ofWalk e := concluded_of_depthFirst he hrun
  refine ⟨e, ?_, ⟨r, fun loads hle => run?_mono hle hr, ?_⟩, ?_, ?_⟩
  · intro depth hle
    obtain ⟨e', he'⟩ := exists_depthFirst hfin hle
    rw [he', ofWalk_injective ((concluded_of_depthFirst he' hrun).symm.trans hsame)]
  · rw [← asked_concluded, hsame, asked_ofWalk]
  · have htracks : Tracks load requested (known r) := by
      have hends := run?_ends hr
      cases r with
      | ok p => exact hends.1
      | error stop => exact hends.1
    rw [← trail_known_ofWalk, ← hsame, trail_known_concluded]
    exact hrun.loadedInOrder htracks
  · intro loads hle
    unfold resolve?
    rw [run?_mono hle hr, Option.map_some, ← told_concluded, hsame, told_ofWalk]

/-- A loader of four names, of which one is requested and also reached by way of another. -/
def crossing (name : String) : Fallible Specification :=
  if name = "top" then .ok ⟨name, .ofList ["left", "right"]⟩
  else if name = "right" then .ok ⟨name, .ofList ["base"]⟩
  else if name = "left" ∨ name = "base" then .ok ⟨name, .empty⟩
  else .error (.notFound name name)

theorem crossing_reaches {name : String}
    (h : Reaches (dependsOn crossing) ["base", "top"] name) :
    name ∈ ["base", "top", "left", "right"] := by
  induction h with
  | root hr =>
      rcases List.mem_cons.1 hr with rfl | hr
      · decide
      · rw [List.mem_singleton.1 hr]
        decide
  | @edge n d deps _ hd hm ih =>
      have hdeps : ∀ n ∈ ["base", "top", "left", "right"], ∀ deps,
          dependsOn crossing n = some deps → ∀ d ∈ deps.toList,
            d ∈ ["base", "top", "left", "right"] := by
        decide
      exact hdeps n ih deps hd d hm

/-- The name is loaded where the walk first comes to it: behind the one that depends on it, and
before what else was put on with that. -/
theorem resolve?_depthFirst_crossing :
    ∃ e, (∀ depth, 4 ≤ depth → depthFirst crossing depth ["base", "top"] = some e)
      ∧ visited e = ["top", "right", "base", "left"] := by
  have hsub : {name | Reaches (dependsOn crossing) ["base", "top"] name}
      ⊆ (["base", "top", "left", "right"].toFinset : Set String) := by
    intro name hn
    exact Finset.mem_coe.2 (List.mem_toFinset.2 (crossing_reaches hn))
  have hfin := (Finset.finite_toSet _).subset hsub
  have hcard : hfin.toFinset.card ≤ 4 :=
    Finset.card_le_card (t := ["base", "top", "left", "right"].toFinset) fun name hn =>
      hsub (hfin.mem_toFinset.1 hn)
  obtain ⟨e, hwalk, ⟨r, hr, hasked⟩, -⟩ := resolve?_depthFirst hfin
  have hnames : (run? crossing 4 ["base", "top"]).map (fun r => (asked r).reverse)
      = some ["top", "right", "base", "left"] := by decide
  rw [hr 4 hcard, Option.map_some, hasked] at hnames
  exact ⟨e, fun depth hle => hwalk depth (Nat.le_trans hcard hle), Option.some.inj hnames⟩

end Closure

end SpecCatalog
