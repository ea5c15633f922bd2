import SpecCatalog.Proofs.FileTree.Descent
import SpecCatalog.Proofs.SearchPath.Tables
import SpecCatalog.Proofs.SearchPath.Telling

/-!
# Directories packed into archives

An archive mirrors a directory if its entries are the files below it, under their paths and
with their bytes. A directory is scanned one level deep and by name, an archive flat and in its
own order, but both offer the files that stand at the paths of valid names and nothing else
(`offers_directory`, `offers_archive`). So it makes no difference which of the two is read
(`archive_reads_as_directory`).
-/

namespace SpecCatalog

open FileTree

variable {t u : FileTree} {c : Codec} {s : Source} {root file name : String} {top : Route}
  {archive : Archive} {body : Bytes}

/-- Directories apart, the archive holds the files below the route: their paths and bytes are
what is read in it, in some order. -/
def Archive.Mirrors (archive : Archive) (t : FileTree) (top : Route) : Prop :=
  (archive.listing.filter fun x => x.1.toList.getLast? ≠ some '/').Perm
    ((t.filesBelow top).map fun x => (x.1, .ok (.ok x.2)))

instance (archive : Archive) (t : FileTree) (top : Route) : Decidable (archive.Mirrors t top) :=
  inferInstanceAs (Decidable (List.Perm _ _))

/-- What stands at the path of a name below the route. -/
def descriptorAt (t : FileTree) (c : Codec) (top : Route) (name : String) : Option Bytes :=
  t.fileAt (top ++ PathText.parts (c.layout.pathOf name))

namespace Source

/-! ## Standard paths -/

section Standard

variable (hlayout : c.layout = .standard)
include hlayout

theorem parts_pathOf_standard (hname : c.rules.isValid name = true) :
    PathText.parts (c.layout.pathOf name)
      = PathText.parts c.layout.directory ++ [name ++ c.layout.extension] := by
  rw [pathOf_eq, parts_below (slash_not_mem_fileName (Codec.proper_of_standard hlayout) hname)]

theorem plain_directory : ∀ part ∈ PathText.parts c.layout.directory, Plain part := by
  have hparts : PathText.parts Layout.standard.directory = ["metadata", "specs"] := by
    decide +kernel
  rw [hlayout, hparts]
  simp [Plain]

theorem plain_pathOf (hname : c.rules.isValid name = true) :
    ∀ part ∈ PathText.parts (c.layout.pathOf name), Plain part := by
  rw [parts_pathOf_standard hlayout hname, List.forall_mem_append, List.forall_mem_singleton]
  have hletter : 'j' ∈ (name ++ c.layout.extension).toList := by
    rw [hlayout, String.toList_append]
    exact List.mem_append_right _ (by decide +kernel)
  exact ⟨plain_directory hlayout, plain_of_mem hletter (by decide)⟩

theorem descriptorAt_eq_some_iff (hname : c.rules.isValid name = true) :
    descriptorAt t c top name = some body
      ↔ t.item? (top ++ PathText.parts c.layout.directory ++ [name ++ c.layout.extension])
        = some (.file body) := by
  unfold descriptorAt
  rw [fileAt_eq_some_iff, parts_pathOf_standard hlayout hname, ← List.append_assoc]

/-! ## The directory -/

section Directory

variable (hroot : t.RootedAt s.path top) (hlinks : t.LinkFree top)
include hroot hlinks

/-- A look-up in the directory comes to the files at the paths of names. -/
theorem status_pathOf_iff (hname : c.rules.isValid name = true) :
    t.status (PathText.join s.path (c.layout.pathOf name)) = .ok (.file body)
      ↔ Walkable (PathText.join s.path (c.layout.pathOf name))
        ∧ descriptorAt t c top name = some body := by
  have hrelative := isAbsolute_pathOf (Codec.proper_of_standard hlayout) name
  have hplain := plain_pathOf hlayout hname
  unfold descriptorAt
  rw [fileAt_eq_some_iff]
  constructor
  · intro h
    obtain ⟨r, hr⟩ := exists_of_status h
    obtain ⟨hwalkable, rfl, hitem⟩ := (resolve_join_iff hroot hlinks hrelative hplain).1 hr
    exact ⟨hwalkable, hitem⟩
  · rintro ⟨hwalkable, hitem⟩
    exact status_of_resolve
      ((resolve_join_iff hroot hlinks hrelative hplain).2 ⟨hwalkable, rfl, hitem⟩)

variable (hs : s.kind = .directory)
include hs

theorem descriptorAt_of_found {l : Location}
    (h : (l, body) ∈ (s.descriptors t c).found) :
    ∃ name, c.rules.isValid name = true ∧ l = ⟨s, c.layout.pathOf name⟩
      ∧ descriptorAt t c top name = some body := by
  have hretrieved := retrieved_of_directory hs h
  obtain ⟨name, hname, hpath⟩ := hretrieved.canonical
  rw [specPath_of_valid hname] at hpath
  have hl : l = ⟨s, c.layout.pathOf name⟩ := by
    rw [Except.ok.inj hpath]
    exact eq_of_locate hretrieved.located
  have hstatus := (Location.read_directory_iff (hl ▸ hs)).1 hretrieved.read
  rw [hl] at hstatus
  exact ⟨name, hname, hl, ((status_pathOf_iff hlayout hroot hlinks hname).1 hstatus).2⟩

/-- Where descriptors stand below the root, their directory is scanned. -/
theorem resolve_directory (hscan : (s.descriptors t c).broke = none)
    (hname : c.rules.isValid name = true) (hfile : descriptorAt t c top name = some body) :
    t.resolve .look (PathText.join s.path c.layout.directory)
      = .ok (.item (top ++ PathText.parts c.layout.directory) .directory) := by
  have hl := Codec.proper_of_standard hlayout
  have hitem := (descriptorAt_eq_some_iff hlayout hname).1 hfile
  have habove := (below_of_item? hitem).1
  have hwalkable : Walkable (PathText.join s.path c.layout.directory) :=
    walkable_of_told (join_directory_ne hl s.path) (told_of_unbroken hs hscan)
  exact (resolve_join_iff hroot hlinks hl.relative (plain_directory hlayout)).2
    ⟨hwalkable, rfl, habove⟩

/-- The directory offers the files at the paths of names. -/
theorem offers_directory : Offers t c s (descriptorAt t c top) where
  found _ _ h := descriptorAt_of_found hlayout hroot hlinks hs h
  visited := by
    intro hscan name body hname hfile
    have hd := resolve_directory hlayout hroot hlinks hs hscan hname hfile
    obtain ⟨body', hfound⟩ := (mem_found_directory hs hd hscan).2 (mem_descriptorNames.2
      ⟨⟨name, hname, rfl⟩, body, (descriptorAt_eq_some_iff hlayout hname).1 hfile⟩)
    -- it was found with some bytes, and those are the file's
    obtain ⟨name', _, hplace, hfile'⟩ := descriptorAt_of_found hlayout hroot hlinks hs hfound
    have hsame : name = name' := by
      refine pathOf_injective c.layout ?_
      rw [pathOf_eq]
      exact congrArg Location.resource hplace
    rw [← hsame, hfile] at hfile'
    cases hfile'
    exact ⟨_, hfound⟩
  missing := by
    intro name hname hlocate
    have htold := (exists_locate_iff hs).1 ⟨_, hlocate⟩
    cases hfile : descriptorAt t c top name with
    | none => rfl
    | some body =>
      have hne : PathText.join s.path (c.layout.pathOf name) ≠ "" := by
        rw [join_pathOf_eq (Codec.proper_of_standard hlayout)]
        simp [String.append_eq_empty_iff]
      have hwalkable := walkable_of_told hne htold
      have hstatus := (status_pathOf_iff hlayout hroot hlinks hname).2 ⟨hwalkable, hfile⟩
      rw [locate_of_status hs hstatus] at hlocate
      cases hlocate
  read := by
    intro name l hname hlocate
    obtain ⟨rfl, body, hstatus⟩ := locate_directory hs hlocate
    exact ⟨body, ((status_pathOf_iff hlayout hroot hlinks hname).1 hstatus).2,
      (Location.read_directory_iff hs).2 hstatus⟩

end Directory

/-! ## The archive -/

section Archive

variable (hs : s.kind = .archive) (hopen : openArchive u s.path = .ok archive)
  (hmirrors : archive.Mirrors t top)

include hmirrors in
/-- What is at the path of a name in the archive. -/
theorem mem_listing_pathOf {r : Except Archive.Fault (Except IoError Bytes)} :
    (c.layout.pathOf name, r) ∈ archive.listing
      ↔ ∃ body, descriptorAt t c top name = some body ∧ r = .ok (.ok body) := by
  have hlast : (c.layout.pathOf name).toList.getLast? ≠ some '/' := by
    have hext : c.layout.extension.toList = ['.', 'j', 's', 'o', 'n'] := by
      rw [hlayout]
      decide +kernel
    rw [Layout.pathOf, String.toList_append, hext, List.getLast?_append_of_ne_nil _ (by simp)]
    decide
  -- the path is no directory's, so it is among the entries that are compared
  have hmem := hmirrors.mem_iff (a := (c.layout.pathOf name, r))
  rw [List.mem_filter, List.mem_map] at hmem
  constructor
  · intro hin
    obtain ⟨⟨p, body⟩, hfile, he⟩ := hmem.1 ⟨hin, by simpa using hlast⟩
    cases he
    exact ⟨body, mem_filesBelow.1 hfile, rfl⟩
  · rintro ⟨body, hfile, rfl⟩
    exact (hmem.2 ⟨(c.layout.pathOf name, body), mem_filesBelow.2 hfile, rfl⟩).1

include hs hopen hmirrors in
/-- The archive offers the same files. -/
theorem offers_archive : Offers u c s (descriptorAt t c top) where
  found := by
    intro l body h
    rw [descriptors_archive hs hopen] at h
    obtain ⟨e, he, hdescribes, hcontents, rfl⟩ := of_mem_found_archiveDescriptors h
    obtain ⟨name, hname, hpath⟩ :=
      (isSpecPath_iff (Codec.proper_of_standard hlayout)).1 hdescribes.2
    have hlisted := Archive.mem_listing.2 ⟨e, he, hpath, hcontents⟩
    obtain ⟨body', hfile, hbody⟩ := (mem_listing_pathOf hlayout hmirrors).1 hlisted
    cases hbody
    exact ⟨name, hname, by rw [hpath], hfile⟩
  visited := by
    intro hscan name body hname hfile
    have hl := Codec.proper_of_standard hlayout
    obtain ⟨e, he, hpath, hcontents⟩ :=
      Archive.mem_listing.1 ((mem_listing_pathOf hlayout hmirrors).2 ⟨body, hfile, rfl⟩)
    have hdescribes : Describes c e := by
      refine ⟨(isDirectory_pathOf hl hpath).2 ?_, ?_⟩
      · rw [hlayout]
        decide +kernel
      · rw [hpath]
        exact isSpecPath_pathOf hl hname
    rw [descriptors_archive hs hopen] at hscan ⊢
    exact ⟨⟨s, e.name⟩,
      (mem_found_archiveDescriptors hscan).2 ⟨e, he, hdescribes, hcontents, rfl⟩⟩
  missing := by
    intro name _ hlocate
    rw [locate_of_archive hs hopen, Except.ok.injEq, Option.map_eq_none_iff] at hlocate
    cases hfile : descriptorAt t c top name with
    | none => rfl
    | some body =>
      -- a file of the tree is an entry of the archive, and then it is located
      obtain ⟨e, he, hpath, _⟩ :=
        Archive.mem_listing.1 ((mem_listing_pathOf hlayout hmirrors).2 ⟨body, hfile, rfl⟩)
      have hfind := Archive.find?_of_mem (nodup_of_openArchive hopen) he
      rw [hpath, hlocate] at hfind
      cases hfind
  read := by
    intro name l _ hlocate
    obtain ⟨rfl, archive', e, hopen', hfind⟩ := locate_archive hs hlocate
    cases hopen.symm.trans hopen'
    obtain ⟨he, hpath⟩ := Archive.of_find? hfind
    obtain ⟨body, hfile, hcontents⟩ :=
      (mem_listing_pathOf hlayout hmirrors).1 (Archive.mem_listing.2 ⟨e, he, hpath, rfl⟩)
    exact ⟨body, hfile, (Location.read_archive_iff hs).2 ⟨archive, e, hopen, hfind, hcontents⟩⟩

end Archive

end Standard

/-! ## Both -/

/-- The two look-ups come to the same: a specification, that there is none, or that what is at
the path of the name is none. -/
inductive Alike (dir zip : Source) (path name : String) :
    Fallible Specification → Fallible Specification → Prop where
  | found (spec : Specification) : Alike dir zip path name (.ok spec) (.ok spec)
  | notFound : Alike dir zip path name (.error (.notFound name path)) (.error (.notFound name path))
  | malformed (cause : CatalogError) : Alike dir zip path name
      (.error (.malformed ⟨dir, path⟩ cause)) (.error (.malformed ⟨zip, path⟩ cause))

/--
**A directory and an archive that mirrors it are read alike.**

Whichever of the two is searched, the same is discovered, and a look-up of a name comes to the
same specification, to nothing, or to what is no descriptor, in both. This takes for granted that
the file system and the archive do not fail on the way.
-/
theorem archive_reads_as_directory (hlayout : c.layout = .standard)
    (hroot : t.RootedAt root top) (hlinks : t.LinkFree top)
    (hopen : openArchive u file = .ok archive) (hmirrors : archive.Mirrors t top) :
    (Undisturbed (SearchPath.discover t c [⟨.directory, root⟩]) →
      Undisturbed (SearchPath.discover u c [⟨.archive, file⟩]) →
      ∀ m, SearchPath.discover t c [⟨.directory, root⟩] = .ok m
        ↔ SearchPath.discover u c [⟨.archive, file⟩] = .ok m)
    ∧ ∀ name, c.rules.isValid name = true →
      Undisturbed (SearchPath.lookup t c [⟨.directory, root⟩] name) →
      Undisturbed (SearchPath.lookup u c [⟨.archive, file⟩] name) →
      Alike ⟨.directory, root⟩ ⟨.archive, file⟩ (c.layout.pathOf name) name
        (SearchPath.lookup t c [⟨.directory, root⟩] name)
        (SearchPath.lookup u c [⟨.archive, file⟩] name) := by
  have hdir : Offers t c ⟨.directory, root⟩ (descriptorAt t c top) :=
    offers_directory hlayout hroot hlinks rfl
  have hzip : Offers u c ⟨.archive, file⟩ (descriptorAt t c top) :=
    offers_archive hlayout rfl hopen hmirrors
  refine ⟨fun hund hund' m => ⟨hdir.discover_ok hzip hund', hzip.discover_ok hdir hund⟩, ?_⟩
  intro name hname hund hund'
  rw [hdir.lookup_eq hname hund, hzip.lookup_eq hname hund']
  cases descriptorAt t c top name with
  | none => exact .notFound
  | some body =>
    dsimp only
    cases c.decode body with
    | ok spec => exact .found spec
    | error cause => exact .malformed cause

/-! ## A directory and its archive -/

/-- Two descriptors, the same file name one level down and a note, and an archive of them in
another order, with a record for a directory. -/
def packed : FileTree :=
  let a := Text.toBytes "\x7b\"name\":\"a\",\"dependencies\":[\"b\"]\x7d"
  let b := Text.toBytes "\x7b\"name\":\"b\"\x7d"
  [([], "src", .directory), (["src"], "metadata", .directory),
    (["src", "metadata"], "specs", .directory),
    (["src", "metadata", "specs"], "b.json", .file b),
    (["src", "metadata", "specs"], "a.json", .file a),
    (["src", "metadata", "specs"], "nested", .directory),
    (["src", "metadata", "specs", "nested"], "a.json", .file []),
    (["src"], "notes.txt", .file []),
    ([], "a.zip", Item.file (archiveOf [("notes.txt", []), ("metadata/specs/", []),
      ("metadata/specs/a.json", a), ("metadata/specs/nested/a.json", []),
      ("metadata/specs/b.json", b)]))].foldl
    (fun t (folder, name, i) => t.put folder name i) FileTree.empty

theorem linkFree_packed : packed.LinkFree ["src"] := by
  have hall : (packed.below ["src"]).all
      (fun x => match x.2 with | .link _ => false | _ => true) = true := by decide +kernel
  refine linkFree_of_below (by decide +kernel) fun x hx target hlink => ?_
  have hno := List.all_eq_true.1 hall x hx
  rw [hlink] at hno
  cases hno

/-- The specifications of both are the two at the paths of their names, and they are read alike. -/
theorem archive_reads_as_directory_packed :
    packed.RootedAt "src" ["src"] ∧ packed.LinkFree ["src"]
      ∧ ∃ archive, openArchive packed "a.zip" = .ok archive ∧ archive.Mirrors packed ["src"]
        ∧ (∃ m, SearchPath.discover packed .standard [⟨.directory, "src"⟩] = .ok m
          ∧ m.values = [⟨"a", .ofList ["b"]⟩, ⟨"b", {}⟩])
        ∧ (∀ m, SearchPath.discover packed .standard [⟨.directory, "src"⟩] = .ok m
          ↔ SearchPath.discover packed .standard [⟨.archive, "a.zip"⟩] = .ok m)
        ∧ (SearchPath.lookup packed .standard [⟨.directory, "src"⟩] "a").isOk = true
        ∧ Alike ⟨.directory, "src"⟩ ⟨.archive, "a.zip"⟩ (Codec.standard.layout.pathOf "a") "a"
          (SearchPath.lookup packed .standard [⟨.directory, "src"⟩] "a")
          (SearchPath.lookup packed .standard [⟨.archive, "a.zip"⟩] "a") := by
  have hroot : packed.resolve .look (PathText.join "src" ".")
      = .ok (.item ["src"] .directory) := by decide +kernel
  obtain ⟨archive, hopen, hmirrors⟩ : ∃ archive, openArchive packed "a.zip" = .ok archive
      ∧ decide (archive.Mirrors packed ["src"]) = true :=
    exists_of_any_toOption (by decide +kernel)
  have hname : Codec.standard.rules.isValid "a" = true := by decide +kernel
  obtain ⟨m, hm, hvalues⟩ : ∃ m, SearchPath.discover packed .standard [⟨.directory, "src"⟩] = .ok m
      ∧ decide (m.values = [⟨"a", .ofList ["b"]⟩, ⟨"b", {}⟩]) = true :=
    exists_of_any_toOption (by decide +kernel)
  have hdiscovers :
      (SearchPath.discover packed .standard [⟨.archive, "a.zip"⟩]).isOk = true := by decide +kernel
  have hfinds : ∀ s ∈ [(⟨.directory, "src"⟩ : Source), ⟨.archive, "a.zip"⟩],
      (SearchPath.lookup packed .standard [s] "a").isOk = true := by decide +kernel
  rw [List.forall_mem_cons, List.forall_mem_singleton] at hfinds
  obtain ⟨hdiscover, hlookup⟩ := archive_reads_as_directory (c := .standard) rfl hroot
    linkFree_packed hopen (of_decide_eq_true hmirrors)
  exact ⟨hroot, linkFree_packed, archive, hopen, of_decide_eq_true hmirrors,
    ⟨m, hm, of_decide_eq_true hvalues⟩,
    hdiscover (undisturbed_of_isOk (by rw [hm]; rfl)) (undisturbed_of_isOk hdiscovers), hfinds.1,
    hlookup "a" hname (undisturbed_of_isOk hfinds.1) (undisturbed_of_isOk hfinds.2)⟩

end Source

end SpecCatalog
