import SpecCatalog.Proofs.Closure.Exactness
import SpecCatalog.Proofs.Closure.LoadBound

/-!
# Names asked for and names declared

A name is asked for by its path, and the descriptor there declares a name. Resolving keeps
account of the names it asked for and gives what was declared. If the two agree, what it
gives is consistent: one definition for each name, all that was requested and all that
anything depends on. Neither the look-up nor the walk compares the two, and
`consistent_iff_perm` says how far one may go without the comparison: what is given is
consistent exactly when the names declared are the names asked for, in some order. Two
descriptors in one directory are enough to fail (`strays_inconsistent`).
-/

namespace SpecCatalog

variable {t : FileTree} {c : Codec} {sources : SearchPath} {requested : List String}
  {out : List Specification}

/-- What resolving promises about the names of what it gives. -/
structure Consistent (requested : List String) (out : List Specification) : Prop where
  /-- No name has two definitions. -/
  distinct : (out.map (·.name)).Nodup
  /-- Every requested name is defined. -/
  asked : ∀ name ∈ requested, ∃ s ∈ out, s.name = name
  /-- Everything that a definition depends on is defined. -/
  closed : ∀ s ∈ out, ∀ d ∈ s.dependencies, ∃ s' ∈ out, s'.name = d

instance (requested : List String) (out : List Specification) :
    Decidable (Consistent requested out) :=
  decidable_of_iff
    ((out.map (·.name)).Nodup ∧ (∀ name ∈ requested, ∃ s ∈ out, s.name = name)
      ∧ ∀ s ∈ out, ∀ d ∈ s.dependencies.toList, ∃ s' ∈ out, s'.name = d)
    ⟨fun h => ⟨h.1, h.2.1, h.2.2⟩, fun h => ⟨h.distinct, h.asked, h.closed⟩⟩

/-- The names that resolving asks for: what it gives is looked up along them. -/
structure AskedFor (t : FileTree) (c : Codec) (sources : SearchPath) (requested : List String)
    (out : List Specification) (names : List String) : Prop where
  distinct : names.Nodup
  reached : ∀ name,
    name ∈ names ↔ Closure.Reaches (Closure.dependsOn (sources.lookup t c)) requested name
  found : names.map (sources.lookup t c) = out.map .ok

theorem exists_askedFor (h : sources.resolve t c requested = .ok out) :
    ∃ names, AskedFor t c sources requested out names := by
  obtain ⟨names, hnodup, hmem, hmap, _⟩ :=
    Closure.resolve?_ok (h ▸ resolve?_loadBound t c sources requested)
  exact ⟨names, hnodup, hmem, hmap⟩

section AskedFor

variable {names : List String}

theorem AskedFor.length_eq (h : AskedFor t c sources requested out names) :
    names.length = out.length := by
  have := congrArg List.length h.found
  rwa [List.length_map, List.length_map] at this

/-- What a name was found to be is given. -/
theorem AskedFor.exists_mem (h : AskedFor t c sources requested out names) {name : String}
    (hn : name ∈ names) : ∃ s ∈ out, sources.lookup t c name = .ok s := by
  have hin : sources.lookup t c name ∈ out.map .ok := h.found ▸ List.mem_map.2 ⟨name, hn, rfl⟩
  obtain ⟨s, hs, he⟩ := List.mem_map.1 hin
  exact ⟨s, hs, he.symm⟩

/-- What is given was found under some name. -/
theorem AskedFor.exists_name (h : AskedFor t c sources requested out names)
    {s : Specification} (hs : s ∈ out) : ∃ name ∈ names, sources.lookup t c name = .ok s := by
  have hin : (.ok s : Fallible Specification) ∈ names.map (sources.lookup t c) :=
    h.found ▸ List.mem_map.2 ⟨s, hs, rfl⟩
  obtain ⟨name, hn, he⟩ := List.mem_map.1 hin
  exact ⟨name, hn, he⟩

theorem AskedFor.dependency_mem (h : AskedFor t c sources requested out names)
    {s : Specification} (hs : s ∈ out) {d : String} (hd : d ∈ s.dependencies) : d ∈ names := by
  obtain ⟨name, hn, hl⟩ := h.exists_name hs
  exact (h.reached d).2 (.edge ((h.reached name).1 hn) (Closure.dependsOn_of_ok hl) hd)

/-- In a consistent list every name asked for is declared. -/
theorem AskedFor.declared (h : AskedFor t c sources requested out names)
    (hc : Consistent requested out) {name : String} (hn : name ∈ names) :
    name ∈ out.map (·.name) := by
  cases (h.reached name).1 hn with
  | root hr =>
      obtain ⟨s, hs, rfl⟩ := hc.asked name hr
      exact List.mem_map.2 ⟨s, hs, rfl⟩
  | @edge m _ deps hm hdeps hd =>
      obtain ⟨s, hs, hl⟩ := h.exists_mem ((h.reached m).2 hm)
      rw [Closure.dependsOn_of_ok hl] at hdeps
      cases hdeps
      obtain ⟨s', hs', rfl⟩ := hc.closed s hs name hd
      exact List.mem_map.2 ⟨s', hs', rfl⟩

theorem AskedFor.perm_of_consistent (h : AskedFor t c sources requested out names)
    (hc : Consistent requested out) : (out.map (·.name)).Perm names := by
  -- as many names are declared as were asked for, so none is left over
  have hsub : names.Subperm (out.map (·.name)) :=
    List.Nodup.subperm h.distinct fun _ hn => h.declared hc hn
  refine (hsub.perm_of_length_le ?_).symm
  rw [List.length_map, h.length_eq]

theorem AskedFor.consistent_of_perm (h : AskedFor t c sources requested out names)
    (hp : (out.map (·.name)).Perm names) : Consistent requested out where
  distinct := hp.nodup_iff.2 h.distinct
  asked := by
    intro name hn
    exact List.mem_map.1 (hp.mem_iff.2 ((h.reached name).2 (.root hn)))
  closed := by
    intro s hs d hd
    exact List.mem_map.1 (hp.mem_iff.2 (h.dependency_mem hs hd))

/-- If every descriptor declares the name that it was found under, nothing is off. -/
theorem AskedFor.map_name_eq (h : AskedFor t c sources requested out names)
    (hown : ∀ name ∈ names, ∀ s, sources.lookup t c name = .ok s → s.name = name) :
    out.map (·.name) = names := by
  refine List.ext_getElem (by rw [List.length_map, h.length_eq]) fun i h1 h2 => ?_
  rw [List.getElem_map]
  refine hown _ (List.getElem_mem h2) _ ?_
  have hget := List.getElem_of_eq h.found (by rw [List.length_map]; exact h2)
  rwa [List.getElem_map, List.getElem_map] at hget

end AskedFor

/--
**What is resolved is consistent exactly when the names declared are the names asked for.**

The names asked for are those reached from the requested ones, each once. The names that
the specifications declare must be a rearrangement of them. That is so, in particular, if
each descriptor declares the name that it was found under.
-/
theorem consistent_iff_perm (t : FileTree) (c : Codec) (sources : SearchPath)
    (requested : List String) (out : List Specification)
    (h : sources.resolve t c requested = .ok out) :
    ∃ names, AskedFor t c sources requested out names
      ∧ (Consistent requested out ↔ (out.map (·.name)).Perm names)
      ∧ ((∀ name ∈ names, ∀ s, sources.lookup t c name = .ok s → s.name = name) →
          Consistent requested out) := by
  obtain ⟨names, hnames⟩ := exists_askedFor h
  refine ⟨names, hnames, ⟨hnames.perm_of_consistent, hnames.consistent_of_perm⟩, fun hown => ?_⟩
  rw [← hnames.map_name_eq hown] at hnames
  exact hnames.consistent_of_perm (.refl _)

/-- A directory with these texts for descriptors under these names. -/
def descriptorsAt (texts : List (String × String)) : FileTree :=
  texts.foldl
    (fun t text => t.put ["metadata", "specs"] (text.1 ++ ".json") (.file (Text.toBytes text.2)))
    ((FileTree.empty.put [] "metadata" .directory).put ["metadata"] "specs" .directory)

/-- One descriptor for each name. -/
def settled : FileTree :=
  descriptorsAt [("a", "\x7b\"name\":\"a\",\"dependencies\":[\"b\"]\x7d"), ("b", "\x7b\"name\":\"b\"\x7d")]

/-- The descriptor under the first name declares the second, which has its own. -/
def strays : FileTree :=
  descriptorsAt [("a", "\x7b\"name\":\"b\",\"dependencies\":[\"b\"]\x7d"), ("b", "\x7b\"name\":\"b\"\x7d")]

/-- With one descriptor for each name the names declared are those asked for. -/
theorem settled_perm :
    ∃ out names, SearchPath.resolve settled .standard [⟨.directory, "."⟩] ["a"] = .ok out
      ∧ AskedFor settled .standard [⟨.directory, "."⟩] ["a"] out names
      ∧ (out.map (·.name)).Perm names := by
  have hout : (SearchPath.resolve settled .standard [⟨.directory, "."⟩] ["a"]).toOption.any
      (fun out => decide (Consistent ["a"] out)) = true := by decide +kernel
  obtain ⟨out, h, hc⟩ := exists_of_any_toOption hout
  obtain ⟨names, hnames, hiff, _⟩ := consistent_iff_perm _ _ _ _ _ h
  exact ⟨out, names, h, hnames, hiff.1 (of_decide_eq_true hc)⟩

/-- Two definitions of one name are given, and the name that was requested has none. -/
theorem strays_inconsistent :
    ∃ out, SearchPath.resolve strays .standard [⟨.directory, "."⟩] ["a"] = .ok out
      ∧ ¬ Consistent ["a"] out := by
  have hout : (SearchPath.resolve strays .standard [⟨.directory, "."⟩] ["a"]).toOption.any
      (fun out => decide (¬ Consistent ["a"] out)) = true := by decide +kernel
  obtain ⟨out, h, hc⟩ := exists_of_any_toOption hout
  exact ⟨out, h, of_decide_eq_true hc⟩

end SpecCatalog
