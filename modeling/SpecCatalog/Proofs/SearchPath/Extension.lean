import SpecCatalog.Proofs.Closure.Naming
import SpecCatalog.Proofs.Discovery.Outcome

/-!
# More sources

Sources may be put into a search path anywhere. That can make a look-up, a closure or a
discovery fail, but it never changes what they give (`eq_of_sublist`). A look-up reads every
place that has the name, so the places that were there before are still read and have their
say. Two walks over loaders that never give different specifications for one name take the
same names step by step, so a closure stays the same to its order.
-/

namespace SpecCatalog

variable {t : FileTree} {c : Codec} {sources more : SearchPath} {path name : String}

/-! ## Look-ups -/

/-- More sources have more places. -/
theorem Locates.sublist {ls ls' : List Location} (hsub : sources.Sublist more)
    (h : Locates t path sources ls) (h' : Locates t path more ls') : ls.Sublist ls' := by
  induction hsub generalizing ls ls' with
  | slnil =>
      cases h
      exact List.nil_sublist _
  | cons s _ ih =>
      cases h' with
      | missing _ h' => exact ih h h'
      | found _ h' => exact (ih h h').cons _
  | cons_cons s _ ih =>
      -- a source of both search paths gives both the same answer
      cases h with
      | missing hs h =>
          cases h' with
          | missing _ h' => exact ih h h'
          | found hs' _ => rw [hs] at hs'; cases hs'
      | found hs h =>
          cases h' with
          | missing hs' _ => rw [hs] at hs'; cases hs'
          | found hs' h' =>
              rw [hs] at hs'
              cases hs'
              exact (ih h h').cons_cons _

/-- With more sources a name is the same specification, if it is one at all. -/
theorem lookup_eq_of_sublist {s s' : Specification} (hsub : sources.Sublist more)
    (h : sources.lookup t c name = .ok s) (h' : more.lookup t c name = .ok s') : s = s' := by
  obtain ⟨_, ls, hl, hne, hdecl⟩ := lookup_ok h
  obtain ⟨_, ls', hl', _, hdecl'⟩ := lookup_ok h'
  obtain ⟨l, hin⟩ := List.exists_mem_of_ne_nil ls hne
  -- a place that was there before is read with the others
  have hin' : l ∈ ls' := (hl.sublist hsub hl').subset hin
  exact (hdecl l hin).unique (hdecl' l hin')

/-! ## Closures -/

namespace Closure

/-- Two runs side by side, over loaders that agree where both load, come to the same end. -/
theorem Run.eq_of_agree {ε ε' : Type} {load : String → Except ε Specification}
    {load' : String → Except ε' Specification}
    (hagree : ∀ name s s', load name = .ok s → load' name = .ok s' → s = s') {n n' : Nat}
    {p q q' : Progress} (h : Run load n p (.ok q)) (h' : Run load' n' p (.ok q')) : q = q' := by
  generalize hr : (.ok q : Except (Stop ε) Progress) = r at h
  induction h generalizing n' with
  | done ha =>
      cases hr
      cases h' with
      | done _ => rfl
      | loaded ha' _ _ => rw [ha] at ha'; cases ha'
  | failed _ _ => cases hr
  | loaded ha hl _ ih =>
      -- what is ahead does not hang on the loader, so both load the same name
      cases h' with
      | done ha' => rw [ha] at ha'; cases ha'
      | loaded ha' hl' hrest =>
          rw [ha] at ha'
          cases ha'
          cases hagree _ _ _ hl hl'
          exact ih hrest hr

theorem resolve?_eq_of_agree {load load' : String → Fallible Specification}
    (hagree : ∀ name s s', load name = .ok s → load' name = .ok s' → s = s')
    {loads loads' : Nat} {requested : List String} {out out' : List Specification}
    (h : resolve? load loads requested = some (.ok out))
    (h' : resolve? load' loads' requested = some (.ok out')) : out = out' := by
  obtain ⟨r, hr, hout⟩ := Option.map_eq_some_iff.1 h
  obtain ⟨r', hr', hout'⟩ := Option.map_eq_some_iff.1 h'
  cases r with
  | error stop => cases hout
  | ok q =>
      cases r' with
      | error stop => cases hout'
      | ok q' =>
          cases hout
          cases hout'
          obtain ⟨_, _, hrun⟩ := runFrom_eq_some_iff.1 hr
          obtain ⟨_, _, hrun'⟩ := runFrom_eq_some_iff.1 hr'
          rw [hrun.eq_of_agree hagree hrun']

end Closure

theorem resolve_eq_of_sublist {requested : List String} {out out' : List Specification}
    (hsub : sources.Sublist more) (h : sources.resolve t c requested = .ok out)
    (h' : more.resolve t c requested = .ok out') : out = out' :=
  Closure.resolve?_eq_of_agree (fun _ _ _ => lookup_eq_of_sublist hsub)
    (h ▸ resolve?_loadBound t c sources requested) (h' ▸ resolve?_loadBound t c more requested)

/-! ## Discoveries -/

theorem discover_subset_of_sublist {m m' : NameMap Specification}
    (hsub : sources.Sublist more) (h : sources.discover t c = .ok m)
    (h' : more.discover t c = .ok m') : ∀ e ∈ m.entries, e ∈ m'.entries := by
  intro e he
  obtain ⟨s, hs, x, hx, hd, hn⟩ := (get?_discover h e.1 e.2).1 (NameMap.mem_entries_iff.1 he)
  refine NameMap.mem_entries_iff.2 ((get?_discover h' e.1 e.2).2 ?_)
  exact ⟨s, hsub.subset hs, x, hx, hd, hn⟩

/--
**More sources never change what is given.**

If a closure is resolved with some sources and with more, it is the same list. If both are
discovered, everything that was there is there again.
-/
theorem eq_of_sublist (t : FileTree) (c : Codec) (sources more : SearchPath)
    (hsub : sources.Sublist more) :
    (∀ requested out out', sources.resolve t c requested = .ok out →
        more.resolve t c requested = .ok out' → out = out')
      ∧ ∀ m m', sources.discover t c = .ok m → more.discover t c = .ok m' →
          ∀ e ∈ m.entries, e ∈ m'.entries :=
  ⟨fun _ _ _ => resolve_eq_of_sublist hsub, fun _ _ => discover_subset_of_sublist hsub⟩

/-- A directory stays what it is with a missing one before it and itself, by another path,
after it. -/
theorem eq_of_sublist_settled :
    [(⟨.directory, "."⟩ : Source)].Sublist
        [⟨.directory, "elsewhere"⟩, ⟨.directory, "."⟩, ⟨.directory, "metadata/.."⟩]
      ∧ ∃ out m m',
        SearchPath.resolve settled .standard [⟨.directory, "."⟩] ["a"] = .ok out
          ∧ SearchPath.resolve settled .standard
            [⟨.directory, "elsewhere"⟩, ⟨.directory, "."⟩, ⟨.directory, "metadata/.."⟩] ["a"]
            = .ok out
          ∧ SearchPath.discover settled .standard [⟨.directory, "."⟩] = .ok m
          ∧ SearchPath.discover settled .standard
            [⟨.directory, "elsewhere"⟩, ⟨.directory, "."⟩, ⟨.directory, "metadata/.."⟩] = .ok m'
          ∧ ∀ e ∈ m.entries, e ∈ m'.entries := by
  have hsub : [(⟨.directory, "."⟩ : Source)].Sublist
      [⟨.directory, "elsewhere"⟩, ⟨.directory, "."⟩, ⟨.directory, "metadata/.."⟩] := by decide
  have hgood : (SearchPath.resolve settled .standard [⟨.directory, "."⟩] ["a"]).toOption.any
      (fun _ => true) = true := by decide +kernel
  have hgood' : (SearchPath.resolve settled .standard
      [⟨.directory, "elsewhere"⟩, ⟨.directory, "."⟩, ⟨.directory, "metadata/.."⟩]
      ["a"]).toOption.any (fun _ => true) = true := by decide +kernel
  have hall : (SearchPath.discover settled .standard [⟨.directory, "."⟩]).toOption.any
      (fun _ => true) = true := by decide +kernel
  have hall' : (SearchPath.discover settled .standard
      [⟨.directory, "elsewhere"⟩, ⟨.directory, "."⟩, ⟨.directory, "metadata/.."⟩]).toOption.any
      (fun _ => true) = true := by decide +kernel
  obtain ⟨hresolve, hdiscover⟩ := eq_of_sublist settled .standard _ _ hsub
  obtain ⟨out, h, _⟩ := exists_of_any_toOption hgood
  obtain ⟨out', h', _⟩ := exists_of_any_toOption hgood'
  obtain ⟨m, hm, _⟩ := exists_of_any_toOption hall
  obtain ⟨m', hm', _⟩ := exists_of_any_toOption hall'
  obtain rfl := hresolve _ _ _ h h'
  exact ⟨hsub, out, m, m', h, h', hm, hm', hdiscover m m' hm hm'⟩

end SpecCatalog
