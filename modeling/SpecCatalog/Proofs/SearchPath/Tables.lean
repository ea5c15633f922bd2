import SpecCatalog.Proofs.Discovery.Outcome
import SpecCatalog.Proofs.Lookup.Answers

/-!
# Sources by what they have

What is read from a source alone hangs on no more than the bytes it has under each name. A
source `Offers` a table of these if its scan finds what is in the table and its look-ups lead to
it. Two sources that offer the same table then come to the same answers
(`Offers.discover_ok`, `Offers.lookup_eq`), whatever they are, as long as the file system and the
archives do not fail (`Undisturbed`).
-/

namespace SpecCatalog

variable {t u : FileTree} {c : Codec} {s s' : Source} {table : String → Option Bytes}
  {name : String} {e : CatalogError}

/-- It does not come to a failure of the file system or of an archive. -/
def Undisturbed {α : Type} (r : Fallible α) : Prop := ∀ e, r = .error e → ¬ e.IsFault

theorem undisturbed_of_isOk {α : Type} {r : Fallible α} (h : r.isOk = true) : Undisturbed r := by
  rintro e rfl
  cases h

/-! ## Scans that break off -/

namespace Source

theorem isFault_of_broke_readAll {ls : List Location} (h : (readAll t ls).broke = some e) :
    e.IsFault := by
  induction ls with
  | nil => cases h
  | cons l ls ih =>
    unfold readAll at h
    split at h
    · exact ih h
    · rename_i hread
      cases h
      exact Location.isFault_of_read hread

theorem isFault_of_broke_archiveDescriptors {file : Bytes} {es : List Archive.Entry}
    (h : (archiveDescriptors c s file es).broke = some e) : e.IsFault := by
  induction es with
  | nil => cases h
  | cons entry es ih =>
    unfold archiveDescriptors at h
    split at h
    · cases h
      exact .inr rfl
    · split at h
      · exact ih h
      · split at h
        · cases h
          exact .inl rfl
        · exact ih h

/-- Only the file system or an archive breaks a scan off. -/
theorem isFault_of_broke (h : (s.descriptors t c).broke = some e) : e.IsFault := by
  unfold descriptors at h
  split at h
  · dsimp only at h
    split at h
    · cases h
    · cases h
      exact .inl rfl
    · split at h
      · cases h
        exact .inl rfl
      · exact isFault_of_broke_readAll h
    · cases h
  · split at h
    · rename_i hopen
      cases h
      exact isFault_of_openArchive hopen
    · exact isFault_of_broke_archiveDescriptors h

/-- A source has a resource at the place that is made of the two. -/
theorem eq_of_locate {path : String} {l : Location} (h : s.locate t path = .ok (some l)) :
    l = ⟨s, path⟩ := by
  cases hs : s.kind with
  | directory => exact (locate_directory hs h).1
  | archive => exact (locate_archive hs h).1

end Source

/-! ## Tables -/

/-- What a scan of the source finds and what its look-ups lead to is what the table has under
valid names. -/
structure Offers (t : FileTree) (c : Codec) (s : Source) (table : String → Option Bytes) :
    Prop where
  /-- Nothing else is found. -/
  found : ∀ l body, (l, body) ∈ (s.descriptors t c).found → ∃ name, c.rules.isValid name = true
    ∧ l = ⟨s, c.layout.pathOf name⟩ ∧ table name = some body
  /-- A scan that is not broken off finds everything. -/
  visited : (s.descriptors t c).broke = none → ∀ name body, c.rules.isValid name = true →
    table name = some body → ∃ l, (l, body) ∈ (s.descriptors t c).found
  missing : ∀ name, c.rules.isValid name = true →
    s.locate t (c.layout.pathOf name) = .ok none → table name = none
  read : ∀ name l, c.rules.isValid name = true →
    s.locate t (c.layout.pathOf name) = .ok (some l) →
      ∃ body, table name = some body ∧ l.read t = .ok body

namespace Offers

/-- What is found in a source that offers the same is found in this one too. -/
theorem exists_found (h : Offers t c s table) (h' : Offers u c s' table)
    (hscan : (s.descriptors t c).broke = none) :
    ∀ y ∈ (s'.descriptors u c).found, ∃ x ∈ (s.descriptors t c).found, x.2 = y.2 := by
  rintro ⟨l', body⟩ hy
  obtain ⟨name, hname, _, htable⟩ := h'.found l' body hy
  obtain ⟨l, hl⟩ := h.visited hscan name body hname htable
  exact ⟨_, hl, rfl⟩

/-- **What is discovered in one source is discovered in any that offers the same.** -/
theorem discover_ok {m : NameMap Specification} (h : Offers t c s table)
    (h' : Offers u c s' table) (hundisturbed : Undisturbed (SearchPath.discover u c [s']))
    (hok : SearchPath.discover t c [s] = .ok m) : SearchPath.discover u c [s'] = .ok m := by
  obtain ⟨hscans, hagree, _⟩ := discover_eq_ok_iff.1 hok
  have hscan := hscans s List.mem_cons_self
  rw [List.flatMap_singleton] at hagree
  have hagree' := hagree.of_bodies (h.exists_found h' hscan)
  have hscan' : (s'.descriptors u c).broke = none := by
    cases hbroke : (s'.descriptors u c).broke with
    | none => rfl
    | some e =>
      -- what was found before agrees, so the failure of the scan is what it comes to
      have hscanned : Scanned u c [s'] (s'.descriptors u c).found (some e) := by
        refine .broken ?_
        rw [← hbroke]
      have herror := Discovered.discover_eq (.broken hscanned hagree')
      exact absurd (Source.isFault_of_broke hbroke) (hundisturbed e herror)
  refine discover_eq_ok_iff.2 ⟨by simpa using hscan', ?_, fun name spec => ?_⟩
  · rw [List.flatMap_singleton]
    exact hagree'
  · -- what is declared in one is declared in the other, if at another place
    rw [get?_discover hok, List.flatMap_singleton]
    simp only [Codec.mem_declarations, List.mem_singleton, exists_eq_left]
    constructor
    · rintro ⟨x, hx, hdecoded, hname⟩
      obtain ⟨y, hy, hsame⟩ := h'.exists_found h hscan' x hx
      exact ⟨hname, y.1, y, hy, rfl, by rw [hsame, hdecoded]⟩
    · rintro ⟨hname, l, y, hy, _, hdecoded⟩
      obtain ⟨x, hx, hsame⟩ := h.exists_found h' hscan y hy
      exact ⟨x, hx, by rw [hsame, hdecoded], hname⟩

/-- **What a look-up comes to in a source.** -/
theorem lookup_eq (h : Offers t c s table) (hname : c.rules.isValid name = true)
    (hundisturbed : Undisturbed (SearchPath.lookup t c [s] name)) :
    SearchPath.lookup t c [s] name = match table name with
      | none => .error (.notFound name (c.layout.pathOf name))
      | some body => (c.decode body).mapError (.malformed ⟨s, c.layout.pathOf name⟩) := by
  cases hlocate : s.locate t (c.layout.pathOf name) with
  | error e =>
    -- the name cannot be located only where the source itself fails
    have hfirst : [s] = [] ++ s :: [] := rfl
    have herror : SearchPath.lookup t c [s] name = .error e :=
      Outcome.lookup_eq (.unlocated hname hfirst nofun hlocate)
    exact absurd (Source.isFault_of_locate hlocate) (hundisturbed e herror)
  | ok found =>
    cases found with
    | none =>
      rw [h.missing name hname hlocate]
      refine Outcome.lookup_eq (.absent hname ?_)
      simpa using hlocate
    | some l =>
      obtain ⟨body, htable, hread⟩ := h.read name l hname hlocate
      obtain rfl := Source.eq_of_locate hlocate
      have hlocates : Locates t (c.layout.pathOf name) [s] ([] ++ [⟨s, c.layout.pathOf name⟩]) :=
        .found hlocate .nil
      rw [htable]
      dsimp only
      cases hdecode : c.decode body with
      | ok spec =>
        refine Outcome.lookup_eq (.agreed hname hlocates nofun ?_)
        simpa using ⟨body, hread, hdecode⟩
      | error cause =>
        exact Outcome.lookup_eq (.malformed hname hlocates nofun hread hdecode)

end Offers

end SpecCatalog
