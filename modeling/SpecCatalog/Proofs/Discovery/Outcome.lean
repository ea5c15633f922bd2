import SpecCatalog.Proofs.Discovery.Registry

/-!
# What discovering comes to

`Discovered` says, without the scan's loops and the registry, what comes of discovering: all
that is declared, or the failure that is met first. Three kinds of failures are met on the
way through the sources, and `discover_eq_iff` says that the first of any kind decides: what
was found before it is fine, and what comes after it does not count.

If discovering succeeds, order does not count at all (`discover_eq_ok_iff`), and what is
discovered is what is declared anywhere (`get?_discover`).
-/

namespace SpecCatalog

variable {t : FileTree} {c : Codec} {sources : SearchPath}

/-! ## The outcome -/

/-- What comes of discovering the descriptors of all sources. -/
inductive Discovered (t : FileTree) (c : Codec) (sources : SearchPath) :
    Fallible (NameMap Specification) → Prop where
  /-- All sources are scanned to their ends, and what was found agrees. A name has the
  specification that is declared under it. -/
  | complete {xs : List (Location × Bytes)} {m : NameMap Specification} :
      Scanned t c sources xs none → c.Agree xs →
      (∀ name s, m.get? name = some s ↔ s.name = name ∧ ∃ l, (l, s) ∈ c.declarations xs) →
      Discovered t c sources (.ok m)
  /-- A scan breaks off, and what was found before agrees. -/
  | broken {xs : List (Location × Bytes)} {e : CatalogError} :
      Scanned t c sources xs (some e) → c.Agree xs →
      Discovered t c sources (.error e)
  /-- What was found is no descriptor, and all before agrees. -/
  | malformed {before after : List (Location × Bytes)} {x : Location × Bytes}
      {broke : Option CatalogError} {cause : CatalogError} :
      Scanned t c sources (before ++ x :: after) broke → c.Agree before →
      c.decode x.2 = .error cause →
      Discovered t c sources (.error (.malformed x.1 cause))
  /-- A descriptor differs from the earliest of its name, and all before agrees. -/
  | conflict {before after : List (Location × Bytes)} {x : Location × Bytes}
      {broke : Option CatalogError} {s : Specification} {first : Location × Specification} :
      Scanned t c sources (before ++ x :: after) broke → c.Agree before →
      c.decode x.2 = .ok s → c.earliest? before s.name = some first → first.2 ≠ s →
      Discovered t c sources (.error (.conflict s.name [first, (x.1, s)]))

theorem discover_of_scanned {xs : List (Location × Bytes)} {broke : Option CatalogError}
    (h : Scanned t c sources xs broke) :
    sources.discover t c = (do
      let r ← xs.foldlM (Registry.add c) .empty
      match broke with
      | some e => throw e
      | none => return r.map (·.2)) := by
  unfold SearchPath.discover Scan.visit
  rw [h.descriptors_eq]
  cases xs.foldlM (Registry.add c) NameMap.empty with
  | error e => rfl
  | ok r =>
      cases broke with
      | none => rfl
      | some e => rfl

/-- In what agrees, a name has the specification that is declared under it. -/
theorem Registry.Indexes.get?_map {r : Registry} {xs : List (Location × Bytes)}
    (hr : Registry.Indexes c r xs) (h : c.Agree xs) (name : String) (s : Specification) :
    (r.map (·.2)).get? name = some s ↔ s.name = name ∧ ∃ l, (l, s) ∈ c.declarations xs := by
  rw [NameMap.get?_map, hr name, Option.map_eq_some_iff]
  constructor
  · rintro ⟨d, hd, rfl⟩
    obtain ⟨hin, hn⟩ := Codec.earliest?_eq_some hd
    exact ⟨hn, d.1, hin⟩
  · rintro ⟨rfl, l, hin⟩
    cases hf : c.earliest? xs s.name with
    | none => exact absurd rfl (Codec.earliest?_eq_none_iff.1 hf _ hin)
    | some d =>
        obtain ⟨hin', hn⟩ := Codec.earliest?_eq_some hf
        exact ⟨d, rfl, h.same d hin' (l, s) hin hn⟩

/-- Discovering comes to what the outcome says. -/
theorem Discovered.discover_eq {r : Fallible (NameMap Specification)}
    (h : Discovered t c sources r) : sources.discover t c = r := by
  cases h with
  | @complete xs m hscan hagree hm =>
      obtain ⟨r, hfold, hr⟩ := Registry.exists_indexes hagree
      rw [discover_of_scanned hscan, hfold]
      refine congrArg Except.ok (NameMap.ext fun name => Option.ext fun s => ?_)
      exact (hr.get?_map hagree name s).trans (hm name s).symm
  | broken hscan hagree =>
      obtain ⟨r, hfold, _⟩ := Registry.exists_indexes hagree
      rw [discover_of_scanned hscan, hfold]
      rfl
  | malformed hscan hagree hd =>
      obtain ⟨r, hfold, hr⟩ := Registry.exists_indexes hagree
      have hadd := hr.add_eq_error_iff.2 (.inl ⟨_, hd, rfl⟩)
      rw [discover_of_scanned hscan, foldlM_eq_error_iff.2 ⟨_, _, _, r, rfl, hfold, hadd⟩]
      rfl
  | conflict hscan hagree hd hfirst hne =>
      obtain ⟨r, hfold, hr⟩ := Registry.exists_indexes hagree
      have hadd := hr.add_eq_error_iff.2 (.inr ⟨_, _, hd, hfirst, hne, rfl⟩)
      rw [discover_of_scanned hscan, foldlM_eq_error_iff.2 ⟨_, _, _, r, rfl, hfold, hadd⟩]
      rfl

/-- Every discovery has an outcome. -/
theorem exists_discovered (t : FileTree) (c : Codec) (sources : SearchPath) :
    ∃ r, Discovered t c sources r := by
  have hscan := scanned_descriptors t c sources
  cases hfold : (sources.descriptors t c).found.foldlM (Registry.add c) NameMap.empty with
  | error e =>
      -- the first that is not added decides, and all before it were
      obtain ⟨before, x, after, r, hxs, hbefore, he⟩ := foldlM_eq_error_iff.1 hfold
      obtain ⟨hagree, hr⟩ := Registry.agree_of_foldlM hbefore
      rw [hxs] at hscan
      rcases hr.add_eq_error_iff.1 he with ⟨_, hd, _⟩ | ⟨_, _, hd, hfirst, hne, _⟩
      · exact ⟨_, .malformed hscan hagree hd⟩
      · exact ⟨_, .conflict hscan hagree hd hfirst hne⟩
  | ok r =>
      obtain ⟨hagree, hr⟩ := Registry.agree_of_foldlM hfold
      cases hb : (sources.descriptors t c).broke with
      | some e =>
          rw [hb] at hscan
          exact ⟨_, .broken hscan hagree⟩
      | none =>
          rw [hb] at hscan
          exact ⟨_, .complete hscan hagree (hr.get?_map hagree)⟩

theorem discovered_discover (t : FileTree) (c : Codec) (sources : SearchPath) :
    Discovered t c sources (sources.discover t c) := by
  obtain ⟨r, hr⟩ := exists_discovered t c sources
  rw [hr.discover_eq]
  exact hr

/-- A success says nothing about order: each source was scanned to its end, what they have
agrees, and a name has the specification that is declared under it. -/
theorem discover_eq_ok_iff {m : NameMap Specification} :
    sources.discover t c = .ok m ↔ (∀ s ∈ sources, (s.descriptors t c).broke = none)
      ∧ c.Agree (sources.flatMap fun s => (s.descriptors t c).found)
      ∧ ∀ name spec, m.get? name = some spec ↔ spec.name = name
        ∧ ∃ l, (l, spec) ∈ c.declarations (sources.flatMap fun s => (s.descriptors t c).found) := by
  constructor
  · intro h
    have hout := discovered_discover t c sources
    rw [h] at hout
    cases hout with
    | complete hscan hagree hm =>
        obtain ⟨hall, rfl⟩ := scanned_none_iff.1 hscan
        exact ⟨hall, hagree, hm⟩
  · rintro ⟨hall, hagree, hm⟩
    exact Discovered.discover_eq (.complete (scanned_none_iff.2 ⟨hall, rfl⟩) hagree hm)

/-- What is discovered is what is declared anywhere. -/
theorem get?_discover {m : NameMap Specification} (h : sources.discover t c = .ok m)
    (name : String) (spec : Specification) : m.get? name = some spec
      ↔ ∃ s ∈ sources, ∃ x ∈ (s.descriptors t c).found,
          c.decode x.2 = .ok spec ∧ spec.name = name := by
  rw [(discover_eq_ok_iff.1 h).2.2 name spec]
  simp only [Codec.mem_declarations, List.mem_flatMap]
  constructor
  · rintro ⟨hn, l, x, ⟨s, hs, hx⟩, _, hd⟩
    exact ⟨s, hs, x, hx, hd, hn⟩
  · rintro ⟨s, hs, x, hx, hd, hn⟩
    exact ⟨hn, x.1, x, ⟨s, hs, hx⟩, rfl, hd⟩

/--
**Discovering comes to exactly one outcome.**

If every source is scanned to its end, all that was found are descriptors and none differs
from another of its name, each declared name has the specification that is declared under
it, and no other name has any. Otherwise the first that goes wrong decides: a scan that
breaks off, what is no descriptor, or a descriptor that differs from the earliest of its
name.
-/
theorem discover_eq_iff (t : FileTree) (c : Codec) (sources : SearchPath)
    (r : Fallible (NameMap Specification)) :
    sources.discover t c = r ↔ Discovered t c sources r := by
  refine ⟨?_, Discovered.discover_eq⟩
  rintro rfl
  exact discovered_discover t c sources

end SpecCatalog
