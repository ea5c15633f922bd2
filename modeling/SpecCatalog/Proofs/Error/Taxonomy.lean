import SpecCatalog.Proofs.Closure.Loads
import SpecCatalog.Proofs.Closure.Naming
import SpecCatalog.Proofs.Discovery.Outcome
import SpecCatalog.Proofs.Lookup.Answers
import SpecCatalog.Proofs.SearchPath.Tables
import SpecCatalog.Proofs.Specification.Judging

/-!
# The places of errors

Errors are of eleven kinds, and two of them wrap another error. Which error can be met where
is said here once for each of the three ways to load: looking up a name (`LookupFailure`),
discovering (`DiscoverFailure`) and resolving. The wrappers do not pile up. What is wrong with
a descriptor's bytes is wrapped once, with the place they were read from, and a resolution
wraps what a look-up fails with.

That a name is not valid is told in two ways. It is wrapped if a descriptor declares it, and
bare if it was asked for. A dependency is never told bare: the rules that refuse a name when it
is looked up have judged it before, when it was read as a dependency (`isValid_of_decode`).
-/

namespace SpecCatalog

variable {t : FileTree} {c : Codec} {sources : SearchPath} {name : String} {e : CatalogError}

/-! ## Descriptors -/

/-- What can be wrong with the bytes of a descriptor. -/
inductive CatalogError.OfBody : CatalogError → Prop where
  | decode (cause : DocumentError) : OfBody (.decode cause)
  | invalidName (name : Option String) : OfBody (.invalidName name)
  | invalidDependencies (invalid : List (Option String)) : OfBody (.invalidDependencies invalid)

theorem ofBody_of_ofOptions {rules : NameRules} {name : Option String}
    {deps : Option (List (Option String))}
    (h : Specification.ofOptions rules name deps = .error e) : e.OfBody := by
  unfold Specification.ofOptions at h
  dsimp only at h
  split at h
  · cases name with
    | none => cases h; exact .invalidName _
    | some n =>
        dsimp only at h
        split at h
        · cases h
        · cases h; exact .invalidName _
  · cases h; exact .invalidDependencies _

theorem ofBody_of_decode {body : Bytes} (h : c.decode body = .error e) : e.OfBody := by
  unfold Codec.decode Codec.judge at h
  split at h
  · exact ofBody_of_ofOptions h
  · cases h; exact .decode _

/-- The dependencies of what was decoded are valid. -/
theorem isValid_of_decode {body : Bytes} {s : Specification} (h : c.decode body = .ok s) :
    ∀ d ∈ s.dependencies, c.rules.isValid d = true := by
  unfold Codec.decode Codec.judge at h
  split at h
  · exact Specification.isValid_of_ofOptions h
  · cases h

/-! ## Looking up and discovering -/

/-- Two definitions or more that are not all the same. -/
def Differing (defs : List (Location × Specification)) : Prop :=
  2 ≤ defs.length ∧ ∃ d ∈ defs, ∃ d' ∈ defs, d.2 ≠ d'.2

/-- Where two differ there are two. -/
theorem differing_of_ne {defs : List (Location × Specification)}
    (h : ∃ d ∈ defs, ∃ d' ∈ defs, d.2 ≠ d'.2) : Differing defs := by
  refine ⟨?_, h⟩
  obtain ⟨d, hd, d', hd', hne⟩ := h
  match defs with
  | [] => exact absurd hd List.not_mem_nil
  | [x] =>
      have hsame : d = d' := (List.mem_singleton.1 hd).trans (List.mem_singleton.1 hd').symm
      exact absurd (congrArg (·.2) hsame) hne
  | x :: y :: rest => exact Nat.le_add_left 2 rest.length

/-- What looking up a name can fail with. -/
inductive LookupFailure (t : FileTree) (c : Codec) (sources : SearchPath) (name : String) :
    CatalogError → Prop where
  | invalidName : c.rules.isValid name = false →
      LookupFailure t c sources name (.invalidName (some name))
  | notFound (path : String) : LookupFailure t c sources name (.notFound name path)
  | conflict {defs : List (Location × Specification)} : Differing defs →
      LookupFailure t c sources name (.conflict name defs)
  /-- The file system or an archive failed. -/
  | fault {e : CatalogError} : e.IsFault → LookupFailure t c sources name e
  /-- One of the places that were located holds no descriptor. -/
  | malformed {ls : List Location} {l : Location} {cause : CatalogError} :
      sources.locate t (c.layout.pathOf name) = .ok ls → l ∈ ls → cause.OfBody →
      LookupFailure t c sources name (.malformed l cause)

/-- What discovering can fail with. -/
inductive DiscoverFailure : CatalogError → Prop where
  | conflict {name : String} {defs : List (Location × Specification)} : Differing defs →
      DiscoverFailure (.conflict name defs)
  | fault {e : CatalogError} : e.IsFault → DiscoverFailure e
  | malformed {l : Location} {cause : CatalogError} : cause.OfBody →
      DiscoverFailure (.malformed l cause)

theorem lookupFailure_of_lookup (h : sources.lookup t c name = .error e) :
    LookupFailure t c sources name e := by
  have hout := outcome_lookup t c sources name
  rw [h] at hout
  cases hout with
  | invalid hn => exact .invalidName hn
  | unlocated _ _ _ he => exact .fault (Source.isFault_of_locate he)
  | absent _ _ => exact .notFound _
  | unread _ _ _ he => exact .fault (Location.isFault_of_read he)
  | malformed _ hl _ _ hd =>
      exact .malformed (locate_eq_ok_iff.2 hl) (by simp) (ofBody_of_decode hd)
  | conflict _ _ _ hne => exact .conflict (differing_of_ne hne)

/-- A scan of several sources is broken off by one of them. -/
theorem Scanned.exists_broken {xs : List (Location × Bytes)}
    (h : Scanned t c sources xs (some e)) : ∃ s ∈ sources, (s.descriptors t c).broke = some e := by
  generalize hb : some e = broke at h
  induction h with
  | nil => cases hb
  | through _ _ ih =>
      obtain ⟨s, hs, he⟩ := ih hb
      exact ⟨s, List.mem_cons_of_mem _ hs, he⟩
  | broken hs =>
      cases hb
      exact ⟨_, List.mem_cons_self, by rw [hs]⟩

theorem discoverFailure_of_discover (h : sources.discover t c = .error e) : DiscoverFailure e := by
  have hout := discovered_discover t c sources
  rw [h] at hout
  cases hout with
  | broken hscan _ =>
      obtain ⟨s, _, hs⟩ := hscan.exists_broken
      exact .fault (Source.isFault_of_broke hs)
  | malformed _ _ hd => exact .malformed (ofBody_of_decode hd)
  | conflict _ _ _ _ hne =>
      exact .conflict (differing_of_ne ⟨_, List.mem_cons_self, _,
        List.mem_cons_of_mem _ List.mem_cons_self, hne⟩)

/-! ## Resolving -/

/-- What a resolution wraps is what looking up some name fails with. If that is bare about a name
that is not valid, the name was requested, and nothing that loads depends on it. -/
theorem exists_lookupFailure_of_resolve {requested : List String}
    (h : sources.resolve t c requested = .error e) :
    ∃ loaded failed cause, e = .resolution requested loaded cause
      ∧ LookupFailure t c sources failed cause
      ∧ ∀ invalid, cause = .invalidName invalid →
          invalid = some failed ∧ c.rules.isValid failed = false ∧ failed ∈ requested
            ∧ ∀ m s, sources.lookup t c m = .ok s → failed ∉ s.dependencies := by
  obtain ⟨failed, loaded, cause, before, rfl, hl, _, horigin, hbefore, _, hrecords, _⟩ :=
    Closure.resolve?_error_reports (h ▸ resolve?_loadBound t c sources requested)
  have hfailure := lookupFailure_of_lookup hl
  refine ⟨loaded, failed, cause, rfl, hfailure, ?_⟩
  rintro invalid rfl
  -- whatever loads was decoded, and its dependencies were judged then
  have hjudged : ∀ m s, sources.lookup t c m = .ok s → failed ∈ s.dependencies →
      c.rules.isValid failed = true := by
    intro m s hs hd
    obtain ⟨_, ls, _, hne, hdecl⟩ := lookup_ok hs
    obtain ⟨l, hin⟩ := List.exists_mem_of_ne_nil ls hne
    obtain ⟨body, _, hdecode⟩ := hdecl l hin
    exact isValid_of_decode hdecode failed hd
  cases hfailure with
  | fault hfault => rcases hfault with hk | hk <;> cases hk
  | invalidName hinvalid =>
      have hfree : ∀ m s, sources.lookup t c m = .ok s → failed ∉ s.dependencies := by
        intro m s hs hd
        rw [hjudged m s hs hd] at hinvalid
        cases hinvalid
      refine ⟨rfl, hinvalid, ?_, hfree⟩
      rcases horigin with hr | ⟨m, deps, hdeps, hd⟩
      · exact hr
      · obtain ⟨s, hs, rfl⟩ := (hrecords m deps).1 hdeps
        exact absurd hd (hfree m s (hbefore.loads _ hs))

/-! ## Root causes -/

/-- An error that wraps no other, and is not about writing or configuring. -/
def CatalogError.IsRoot (e : CatalogError) : Prop :=
  e.kind ≠ .resolution ∧ e.kind ≠ .malformed ∧ e.kind ≠ .encode ∧ e.kind ≠ .badConfig

theorem isRoot_of_isFault (h : e.IsFault) : e.rootCause.IsRoot := by
  cases e with
  | io _ _ => simp [CatalogError.IsRoot, CatalogError.rootCause, CatalogError.kind]
  | archive _ _ => simp [CatalogError.IsRoot, CatalogError.rootCause, CatalogError.kind]
  | _ => rcases h with h | h <;> cases h

theorem isRoot_of_ofBody (h : e.OfBody) : e.rootCause.IsRoot := by
  cases h with
  | _ => simp [CatalogError.IsRoot, CatalogError.rootCause, CatalogError.kind]

theorem isRoot_of_conflict (name : String) (defs : List (Location × Specification)) :
    (CatalogError.conflict name defs).rootCause.IsRoot := by
  simp [CatalogError.IsRoot, CatalogError.rootCause, CatalogError.kind]

theorem LookupFailure.isRoot (h : LookupFailure t c sources name e) : e.rootCause.IsRoot := by
  cases h with
  | invalidName _ => exact isRoot_of_ofBody (.invalidName _)
  | notFound _ => simp [CatalogError.IsRoot, CatalogError.rootCause, CatalogError.kind]
  | conflict _ => exact isRoot_of_conflict _ _
  | fault h => exact isRoot_of_isFault h
  | malformed _ _ h =>
      rw [CatalogError.rootCause]
      exact isRoot_of_ofBody h

theorem DiscoverFailure.isRoot (h : DiscoverFailure e) : e.rootCause.IsRoot := by
  cases h with
  | conflict _ => exact isRoot_of_conflict _ _
  | fault h => exact isRoot_of_isFault h
  | malformed h =>
      rw [CatalogError.rootCause]
      exact isRoot_of_ofBody h

/--
**Errors keep their places.**

Looking up a name fails because it is not valid, is not found or has definitions that differ,
because the file system or an archive fails, or because a place that was located holds no
descriptor. Discovering fails in the last four ways only. Resolving fails with a resolution that
wraps directly what looking up some name fails with; if that says that a name is not valid,
without telling a place, the name was requested and is no dependency of anything that loads.
So at the root of all these errors there is never a wrapper.
-/
theorem errors_keep_their_places (t : FileTree) (c : Codec) (sources : SearchPath) :
    (∀ name e, sources.lookup t c name = .error e → LookupFailure t c sources name e)
    ∧ (∀ e, sources.discover t c = .error e → DiscoverFailure e)
    ∧ (∀ requested e, sources.resolve t c requested = .error e →
        ∃ loaded failed cause, e = .resolution requested loaded cause
          ∧ LookupFailure t c sources failed cause
          ∧ ∀ invalid, cause = .invalidName invalid →
              invalid = some failed ∧ c.rules.isValid failed = false ∧ failed ∈ requested
                ∧ ∀ m s, sources.lookup t c m = .ok s → failed ∉ s.dependencies)
    ∧ ∀ e, (∃ name, sources.lookup t c name = .error e) ∨ sources.discover t c = .error e
        ∨ (∃ requested, sources.resolve t c requested = .error e) → e.rootCause.IsRoot := by
  refine ⟨fun name e => lookupFailure_of_lookup, fun e => discoverFailure_of_discover,
    fun requested e => exists_lookupFailure_of_resolve, ?_⟩
  rintro e (⟨name, h⟩ | h | ⟨requested, h⟩)
  · exact (lookupFailure_of_lookup h).isRoot
  · exact (discoverFailure_of_discover h).isRoot
  · obtain ⟨loaded, failed, cause, rfl, hcause, _⟩ := exists_lookupFailure_of_resolve h
    exact hcause.isRoot

/-- A descriptor of a name with a blank, and one that depends on it. -/
def spoilt : FileTree :=
  descriptorsAt
    [("a", "\x7b\"name\":\"a\",\"dependencies\":[\"b\"]\x7d"), ("b", "\x7b\"name\":\"b c\"\x7d")]

/-- A name that a descriptor declares is told with its place, and one that was asked for is not. -/
theorem errors_keep_their_places_spoilt :
    (∃ e, SearchPath.resolve spoilt .standard [⟨.directory, "."⟩] ["a"] = .error e
      ∧ e.rootCause.IsRoot)
    ∧ LookupFailure spoilt .standard [⟨.directory, "."⟩] "b c" (.invalidName (some "b c")) := by
  obtain ⟨hlookup, -, -, hroot⟩ := errors_keep_their_places spoilt .standard [⟨.directory, "."⟩]
  constructor
  · have hfails : (SearchPath.resolve spoilt .standard [⟨.directory, "."⟩] ["a"]).toOption.isNone
        = true := by decide +kernel
    cases h : SearchPath.resolve spoilt .standard [⟨.directory, "."⟩] ["a"] with
    | ok specs => rw [h] at hfails; cases hfails
    | error e => exact ⟨e, rfl, hroot e (.inr (.inr ⟨_, h⟩))⟩
  · exact hlookup _ _ (lookup_of_invalid (by decide +kernel))

end SpecCatalog
