import SpecCatalog.Proofs.Closure.Naming
import SpecCatalog.Proofs.Discovery.Outcome
import SpecCatalog.Proofs.Lookup.Answers

/-!
# The same sources in another order

Two search paths with the same sources, in any order and any number of times, give the same
(`eq_of_same_sources`). Look-ups find the same and miss the same, and so two walks that
resolve closures go side by side: they load the same names, and where one cannot go on the
other cannot either. Only how failures are told hangs on the order.
-/

namespace SpecCatalog

variable {t : FileTree} {c : Codec} {sources others : SearchPath} {name : String}

/-! ## Look-ups -/

theorem lookup_ok_of_same_sources (hsame : ∀ s, s ∈ sources ↔ s ∈ others) {spec : Specification}
    (h : sources.lookup t c name = .ok spec) : others.lookup t c name = .ok spec := by
  obtain ⟨hn, htell, ⟨s, hs, hl⟩, hdecl⟩ := lookup_eq_ok_iff.1 h
  exact lookup_eq_ok_iff.2 ⟨hn, fun s hs => htell s ((hsame s).2 hs),
    ⟨s, (hsame s).1 hs, hl⟩, fun s hs => hdecl s ((hsame s).2 hs)⟩

theorem lookup_notFound_of_same_sources (hsame : ∀ s, s ∈ sources ↔ s ∈ others) {n p : String}
    (h : sources.lookup t c name = .error (.notFound n p)) :
    others.lookup t c name = .error (.notFound n p) := by
  obtain ⟨hn, hnone, hnp⟩ := lookup_eq_notFound_iff.1 h
  exact lookup_eq_notFound_iff.2 ⟨hn, fun s hs => hnone s ((hsame s).2 hs), hnp⟩

/-! ## Closures -/

namespace Closure

/-- Two ends of runs that got equally far, either both to the end or both to a name that
did not load. -/
inductive SameEnd {ε ε' : Type} :
    Except (Stop ε) Progress → Except (Stop ε') Progress → Prop where
  | completed (p : Progress) : SameEnd (.ok p) (.ok p)
  | stopped (p : Progress) (name : String) (cause : ε) (cause' : ε') :
      SameEnd (.error ⟨p, name, cause⟩) (.error ⟨p, name, cause'⟩)

/-- Loaders that succeed with the same names and specifications take runs equally far. -/
theorem Run.exists_sameEnd {ε ε' : Type} {load : String → Except ε Specification}
    {load' : String → Except ε' Specification}
    (hsame : ∀ name s, load name = .ok s ↔ load' name = .ok s) {n : Nat} {p : Progress}
    {r : Except (Stop ε) Progress} (h : Run load n p r) :
    ∃ r', Run load' n p r' ∧ SameEnd r r' := by
  induction h with
  | done ha => exact ⟨_, .done ha, .completed _⟩
  | @failed p name rest cause ha hl =>
      -- the other loader cannot succeed where this one fails
      cases hl' : load' name with
      | ok s =>
          rw [(hsame name s).2 hl'] at hl
          cases hl
      | error cause' => exact ⟨_, .failed ha hl', .stopped _ _ _ _⟩
  | loaded ha hl _ ih =>
      obtain ⟨r', hrun, hend⟩ := ih
      exact ⟨r', .loaded ha ((hsame _ _).1 hl) hrun, hend⟩

/-- What two runs are told as that got equally far. -/
theorem resolve?_of_same_ok {load load' : String → Fallible Specification}
    (hsame : ∀ name s, load name = .ok s ↔ load' name = .ok s) {loads loads' : Nat}
    {requested : List String} {r r' : Fallible (List Specification)}
    (h : resolve? load loads requested = some r) (h' : resolve? load' loads' requested = some r') :
    (∃ out, r = .ok out ∧ r' = .ok out) ∨ ∃ loaded cause cause',
      r = .error (.resolution requested loaded cause)
        ∧ r' = .error (.resolution requested loaded cause') := by
  obtain ⟨e, he, rfl⟩ := Option.map_eq_some_iff.1 h
  obtain ⟨e', he', rfl⟩ := Option.map_eq_some_iff.1 h'
  obtain ⟨n, _, hrun⟩ := runFrom_eq_some_iff.1 he
  obtain ⟨n', _, hrun'⟩ := runFrom_eq_some_iff.1 he'
  obtain ⟨e'', hrun'', hend⟩ := hrun.exists_sameEnd hsame
  -- a run has one end only
  have hone : runFrom load' (max n n') (start requested) = some e' :=
    runFrom_eq_some_iff.2 ⟨n', Nat.le_max_right _ _, hrun'⟩
  rw [runFrom_eq_some_iff.2 ⟨n, Nat.le_max_left _ _, hrun''⟩] at hone
  cases hone
  cases hend with
  | completed p => exact .inl ⟨_, rfl, rfl⟩
  | stopped p name cause cause' => exact .inr ⟨_, _, _, rfl, rfl⟩

end Closure

/-! ## Discoveries -/

theorem discover_ok_of_same_sources (hsame : ∀ s, s ∈ sources ↔ s ∈ others)
    {m : NameMap Specification} (h : sources.discover t c = .ok m) :
    others.discover t c = .ok m := by
  obtain ⟨hall, hagree, hm⟩ := discover_eq_ok_iff.1 h
  -- both search paths have the same descriptors, though not in the same order
  have hfound : ∀ x, x ∈ sources.flatMap (fun s => (s.descriptors t c).found)
      ↔ x ∈ others.flatMap fun s => (s.descriptors t c).found := by
    intro x
    simp only [List.mem_flatMap, hsame]
  have hdecl : ∀ d, d ∈ c.declarations (sources.flatMap fun s => (s.descriptors t c).found)
      ↔ d ∈ c.declarations (others.flatMap fun s => (s.descriptors t c).found) := by
    intro d
    simp only [Codec.mem_declarations, hfound]
  refine discover_eq_ok_iff.2 ⟨fun s hs => hall s ((hsame s).2 hs), ?_, fun name spec => ?_⟩
  · exact hagree.of_subset fun x hx => (hfound x).2 hx
  · simp only [← hdecl]
    exact hm name spec

/--
**The order of the sources and their repetition do not count.**

With the same sources the same is discovered, each name is found to be the same
specification or is missed, and the same closures are resolved, in the same order. A closure
that is not resolved is told with the same names and after the same loads.
-/
theorem eq_of_same_sources (t : FileTree) (c : Codec) (sources others : SearchPath)
    (hsame : ∀ s, s ∈ sources ↔ s ∈ others) :
    (∀ m, sources.discover t c = .ok m ↔ others.discover t c = .ok m)
      ∧ (∀ name spec, sources.lookup t c name = .ok spec ↔ others.lookup t c name = .ok spec)
      ∧ (∀ name n p, sources.lookup t c name = .error (.notFound n p)
          ↔ others.lookup t c name = .error (.notFound n p))
      ∧ ∀ requested,
          (∃ out, sources.resolve t c requested = .ok out ∧ others.resolve t c requested = .ok out)
          ∨ ∃ loaded cause cause',
            sources.resolve t c requested = .error (.resolution requested loaded cause)
              ∧ others.resolve t c requested = .error (.resolution requested loaded cause') := by
  have hback : ∀ s, s ∈ others ↔ s ∈ sources := fun s => (hsame s).symm
  have hlookup : ∀ name spec,
      sources.lookup t c name = .ok spec ↔ others.lookup t c name = .ok spec := fun _ _ =>
    ⟨lookup_ok_of_same_sources hsame, lookup_ok_of_same_sources hback⟩
  refine ⟨fun _ => ?_, hlookup, fun _ _ _ => ?_, fun requested => ?_⟩
  · exact ⟨discover_ok_of_same_sources hsame, discover_ok_of_same_sources hback⟩
  · exact ⟨lookup_notFound_of_same_sources hsame, lookup_notFound_of_same_sources hback⟩
  · exact Closure.resolve?_of_same_ok hlookup (resolve?_loadBound t c sources requested)
      (resolve?_loadBound t c others requested)

/-- A directory and itself by another path, in both orders and one of them twice. -/
theorem eq_of_same_sources_settled :
    (∀ s, s ∈ [(⟨.directory, "."⟩ : Source), ⟨.directory, "metadata/.."⟩]
        ↔ s ∈ [(⟨.directory, "metadata/.."⟩ : Source), ⟨.directory, "."⟩, ⟨.directory, "."⟩])
      ∧ ∃ m spec loaded cause cause',
        SearchPath.discover settled .standard
            [⟨.directory, "metadata/.."⟩, ⟨.directory, "."⟩, ⟨.directory, "."⟩] = .ok m
          ∧ SearchPath.lookup settled .standard
            [⟨.directory, "metadata/.."⟩, ⟨.directory, "."⟩, ⟨.directory, "."⟩] "b" = .ok spec
          ∧ SearchPath.resolve settled .standard
            [⟨.directory, "."⟩, ⟨.directory, "metadata/.."⟩] ["c", "a"]
            = .error (.resolution ["c", "a"] loaded cause)
          ∧ SearchPath.resolve settled .standard
            [⟨.directory, "metadata/.."⟩, ⟨.directory, "."⟩, ⟨.directory, "."⟩] ["c", "a"]
            = .error (.resolution ["c", "a"] loaded cause') := by
  have hsame : ∀ s, s ∈ [(⟨.directory, "."⟩ : Source), ⟨.directory, "metadata/.."⟩]
      ↔ s ∈ [(⟨.directory, "metadata/.."⟩ : Source), ⟨.directory, "."⟩, ⟨.directory, "."⟩] := by
    intro s
    simp only [List.mem_cons, List.not_mem_nil, or_false]
    grind
  have hall : (SearchPath.discover settled .standard
      [⟨.directory, "."⟩, ⟨.directory, "metadata/.."⟩]).toOption.any (fun _ => true) = true := by
    decide +kernel
  have hfound : (SearchPath.lookup settled .standard
      [⟨.directory, "."⟩, ⟨.directory, "metadata/.."⟩] "b").toOption.any (fun _ => true)
      = true := by
    decide +kernel
  have hmissed : (SearchPath.resolve settled .standard
      [⟨.directory, "."⟩, ⟨.directory, "metadata/.."⟩] ["c", "a"]).toOption.isNone = true := by
    decide +kernel
  obtain ⟨hdiscover, hlookup, _, hresolve⟩ := eq_of_same_sources settled .standard _ _ hsame
  obtain ⟨m, hm, _⟩ := exists_of_any_toOption hall
  obtain ⟨spec, hspec, _⟩ := exists_of_any_toOption hfound
  rcases hresolve ["c", "a"] with ⟨out, hout, _⟩ | ⟨loaded, cause, cause', h, h'⟩
  · rw [hout] at hmissed
    cases hmissed
  · exact ⟨hsame, m, spec, loaded, cause, cause', (hdiscover m).1 hm, (hlookup "b" spec).1 hspec,
      h, h'⟩

end SpecCatalog
