import SpecCatalog.Archive.Builder
import SpecCatalog.Archive.Storing
import SpecCatalog.Proofs.Archive.Entries
import SpecCatalog.Proofs.FileTree.Listing
import SpecCatalog.Proofs.SearchPath.Scans

/-!
# What a scan finds, a look-up finds

A scan goes through a source and keeps what stands at the path of a name; a look-up asks for
that path. `found_located` says that the look-up of what was found leads to the same place with
the same bytes, in a directory as in an archive, also if the scan breaks off later. Nothing is
found twice, and in a directory things are found by name, in whatever order the tree lists them.
-/

namespace SpecCatalog

variable {t u : FileTree} {c : Codec} {config : Config} {s : Source} {l : Location}
  {path name : String} {body : Bytes}

/-! ## Reading -/

theorem contents_eq_ok_iff : t.contents path = .ok body ↔ t.status path = .ok (.file body) := by
  unfold FileTree.contents
  rw [bind_eq_ok_iff]
  constructor
  · rintro ⟨i, hi, h⟩
    cases i with
    | file b =>
      cases h
      exact hi
    | directory => cases h
    | link target => cases h
  · intro h
    exact ⟨_, h, rfl⟩

theorem Location.read_directory_iff (hs : l.source.kind = .directory) :
    l.read t = .ok body
      ↔ t.status (PathText.join l.source.path l.resource) = .ok (.file body) := by
  unfold Location.read
  rw [hs, ← contents_eq_ok_iff]
  dsimp only
  constructor
  · intro h
    split at h
    · rename_i b hb
      cases h
      exact hb
    · cases h
  · intro h
    rw [h]
    rfl

theorem Location.read_archive_iff (hs : l.source.kind = .archive) :
    l.read t = .ok body ↔ ∃ archive e, openArchive t l.source.path = .ok archive
      ∧ archive.find? l.resource = some e ∧ e.open? archive.file = .ok (.ok body) := by
  unfold Location.read
  rw [hs]
  dsimp only
  rw [bind_eq_ok_iff]
  constructor
  · rintro ⟨archive, ha, h⟩
    split at h
    · cases h
    · rename_i e he
      split at h
      · cases h
      · cases h
      · rename_i b hopen
        cases h
        exact ⟨archive, e, ha, he, hopen⟩
  · rintro ⟨archive, e, ha, he, hopen⟩
    refine ⟨archive, ha, ?_⟩
    rw [he]
    dsimp only
    rw [hopen]
    rfl

theorem nodup_of_openArchive {archive : Archive} (h : openArchive t path = .ok archive) :
    (archive.entries.map (·.name)).Nodup := by
  unfold openArchive at h
  split at h
  · cases h
  · exact Archive.nodup_of_open? (mapError_eq_ok_iff.1 h)
  · cases h
  · cases h

namespace Source

/-- What a scan may say of a find: it stands at the path of a name, and a look-up of that path
leads to it and to its bytes. -/
structure Retrieved (t : FileTree) (c : Codec) (s : Source) (l : Location) (body : Bytes) :
    Prop where
  canonical : ∃ name, c.rules.isValid name = true ∧ c.specPath name = .ok l.resource
  located : s.locate t l.resource = .ok (some l)
  read : l.read t = .ok body

/-! ## Directories -/

theorem locate_of_status (hs : s.kind = .directory)
    (h : t.status (PathText.join s.path path) = .ok (.file body)) :
    s.locate t path = .ok (some ⟨s, path⟩) := by
  unfold locate
  rw [hs]
  dsimp only
  rw [h]

/-- Without a directory of descriptors nothing is found. -/
theorem found_directory_cases (t : FileTree) (c : Codec) (hs : s.kind = .directory) :
    (∃ folder, t.resolve .look (PathText.join s.path c.layout.directory)
        = .ok (.item folder .directory))
      ∨ (s.descriptors t c).found = [] := by
  unfold descriptors
  rw [hs]
  dsimp only
  split
  · exact .inr rfl
  · exact .inr rfl
  · rename_i hstatus
    exact .inl (FileTree.exists_of_status hstatus)
  · exact .inr rfl

theorem retrieved_of_directory (hs : s.kind = .directory)
    (h : (l, body) ∈ (s.descriptors t c).found) : s.Retrieved t c l body := by
  rcases found_directory_cases t c hs with ⟨folder, hd⟩ | hnone
  · rw [descriptors_directory hs hd] at h
    obtain ⟨hlisted, hread⟩ := of_mem_found_readAll h
    obtain ⟨fileName, hname, rfl⟩ := List.mem_map.1 hlisted
    obtain ⟨⟨name, hvalid, rfl⟩, _⟩ := mem_descriptorNames.1 (NameSet.mem_toList.1 hname)
    refine ⟨⟨name, hvalid, ?_⟩, ?_, hread⟩
    · rw [specPath_of_valid hvalid, pathOf_eq]
      rfl
    · -- what could be read is a file, and a look-up asks for no more
      exact locate_of_status hs ((Location.read_directory_iff hs).1 hread)
  · rw [hnone] at h
    exact absurd h List.not_mem_nil

theorem found_readAll_initial (t : FileTree) (ls : List Location) :
    (readAll t ls).found.map (·.1) <+: ls := by
  induction ls with
  | nil => exact List.prefix_rfl
  | cons l ls ih =>
    unfold readAll
    split
    · exact (List.prefix_cons_inj l).2 ih
    · exact List.nil_prefix

/-- Descriptors of a directory are found by name. -/
theorem increasing_of_directory (t : FileTree) (c : Codec) (hs : s.kind = .directory) :
    ((s.descriptors t c).found.map (·.1)).Pairwise (·.resource < ·.resource) := by
  rcases found_directory_cases t c hs with ⟨folder, hd⟩ | hnone
  · rw [descriptors_directory hs hd]
    refine List.Pairwise.sublist (found_readAll_initial t _).sublist ?_
    rw [List.pairwise_map]
    refine (descriptorNames c (t.children folder)).increasing.imp fun hlt => ?_
    refine String.lt_iff.2 ?_
    simp only [locationOf, String.toList_append]
    exact List.append_left_lt (String.lt_iff.1 hlt)
  · rw [hnone]
    exact .nil

/-! ## Archives -/

/-- Entries are found in the archive's order, each at most once. -/
theorem found_archiveDescriptors_sublist (c : Codec) (s : Source) (file : Bytes)
    (es : List Archive.Entry) :
    ((archiveDescriptors c s file es).found.map (·.1.resource)).Sublist (es.map (·.name)) := by
  induction es with
  | nil => exact .slnil
  | cons e es ih =>
    unfold archiveDescriptors
    split
    · exact List.nil_sublist _
    · split
      · exact ih.cons _
      · split
        · exact List.nil_sublist _
        · exact ih.cons_cons _

theorem descriptors_archive {archive : Archive} (hs : s.kind = .archive)
    (ha : openArchive t s.path = .ok archive) :
    s.descriptors t c = archiveDescriptors c s archive.file archive.entries := by
  unfold descriptors
  rw [hs]
  dsimp only
  rw [ha]

theorem locate_of_archive {archive : Archive} (hs : s.kind = .archive)
    (ha : openArchive t s.path = .ok archive) (path : String) :
    s.locate t path = .ok ((archive.find? path).map fun _ => ⟨s, path⟩) := by
  unfold locate
  rw [hs]
  dsimp only
  rw [ha]
  rfl

theorem found_archive_cases (t : FileTree) (c : Codec) (hs : s.kind = .archive) :
    (∃ archive, openArchive t s.path = .ok archive) ∨ (s.descriptors t c).found = [] := by
  cases ha : openArchive t s.path with
  | ok archive => exact .inl ⟨archive, rfl⟩
  | error e =>
    right
    unfold descriptors
    rw [hs]
    dsimp only
    rw [ha]
    rfl

theorem retrieved_of_archive (hl : c.layout.Proper) (hs : s.kind = .archive)
    (h : (l, body) ∈ (s.descriptors t c).found) : s.Retrieved t c l body := by
  rcases found_archive_cases t c hs with ⟨archive, ha⟩ | hnone
  · rw [descriptors_archive hs ha] at h
    obtain ⟨e, he, hdescribes, hopen, rfl⟩ := of_mem_found_archiveDescriptors h
    obtain ⟨name, hvalid, hpath⟩ := (isSpecPath_iff hl).1 hdescribes.2
    -- no other entry has its name, so the look-up by name finds the same entry
    have hfind := Archive.find?_of_mem (nodup_of_openArchive ha) he
    refine ⟨⟨name, hvalid, ?_⟩, ?_, (Location.read_archive_iff hs).2 ⟨archive, e, ha, hfind, hopen⟩⟩
    · rw [specPath_of_valid hvalid, hpath]
    · rw [locate_of_archive hs ha, hfind]
      rfl
  · rw [hnone] at h
    exact absurd h List.not_mem_nil

theorem nodup_of_archive (c : Codec) (hs : s.kind = .archive) :
    ((s.descriptors t c).found.map (·.1.resource)).Nodup := by
  rcases found_archive_cases t c hs with ⟨archive, ha⟩ | hnone
  · rw [descriptors_archive hs ha]
    exact (nodup_of_openArchive ha).sublist (found_archiveDescriptors_sublist _ _ _ _)
  · rw [hnone]
    exact .nil

/-! ## Trees that list their items in other orders -/

theorem openArchive_reordered (h : FileTree.Reordered t u) (path : String) :
    openArchive u path = openArchive t path := by
  unfold openArchive
  rw [h.status]

theorem read_reordered (h : FileTree.Reordered t u) (l : Location) : l.read u = l.read t := by
  unfold Location.read
  simp only [h.contents, openArchive_reordered h]

theorem readAll_reordered (h : FileTree.Reordered t u) (ls : List Location) :
    readAll u ls = readAll t ls := by
  induction ls with
  | nil => rfl
  | cons l ls ih => rw [readAll, readAll, read_reordered h, ih]

theorem descriptorNames_perm {listing listing' : List (String × Item)}
    (h : listing'.Perm listing) : descriptorNames c listing' = descriptorNames c listing := by
  refine NameSet.ext fun fileName => ?_
  unfold descriptorNames
  rw [NameSet.mem_ofList, NameSet.mem_ofList]
  exact (h.filterMap _).mem_iff

theorem descriptors_reordered (h : FileTree.Reordered t u) (c : Codec) (s : Source) :
    s.descriptors u c = s.descriptors t c := by
  cases hs : s.kind with
  | directory =>
    by_cases hd : ∃ folder, t.resolve .look (PathText.join s.path c.layout.directory)
        = .ok (.item folder .directory)
    · obtain ⟨folder, hd⟩ := hd
      have hd' := (h.resolve .look (PathText.join s.path c.layout.directory)).trans hd
      rw [descriptors_directory hs hd, descriptors_directory hs hd',
        descriptorNames_perm (h.children folder), readAll_reordered h]
    · unfold descriptors
      rw [hs]
      dsimp only
      rw [h.status]
      split
      · rfl
      · rfl
      · rename_i hstatus
        exact absurd (FileTree.exists_of_status hstatus) hd
      · rfl
  | archive =>
    unfold descriptors
    rw [hs]
    dsimp only
    rw [openArchive_reordered h]

/--
**What a scan finds is found by a look-up, with the same bytes.**

It stands at the path of a valid name, and nothing is found twice. A directory is gone through
by name, and in what order a tree lists its items makes no difference.
-/
theorem found_located (hc : Codec.ofConfig config = .ok c) (t : FileTree) (s : Source) :
    (∀ l body, (l, body) ∈ (s.descriptors t c).found → s.Retrieved t c l body)
      ∧ ((s.descriptors t c).found.map (·.1)).Nodup
      ∧ (s.kind = .directory →
        ((s.descriptors t c).found.map (·.1)).Pairwise (·.resource < ·.resource))
      ∧ ∀ u, FileTree.Reordered t u → s.descriptors u c = s.descriptors t c := by
  have hl := Codec.proper_of_ofConfig hc
  refine ⟨fun l body hfound => ?_, ?_, increasing_of_directory t c, fun u h => ?_⟩
  · cases hs : s.kind with
    | directory => exact retrieved_of_directory hs hfound
    | archive => exact retrieved_of_archive hl hs hfound
  · cases hs : s.kind with
    | directory =>
      refine (increasing_of_directory t c hs).imp fun hlt he => ?_
      rw [he] at hlt
      exact absurd hlt (String.lt_irrefl _)
    | archive =>
      refine List.Nodup.of_map Location.resource ?_
      rw [List.map_map]
      exact nodup_of_archive c hs
  · exact descriptors_reordered h c s

/-! ## An archive that repeats a name -/

section Repeated

open Archive

/-- An archive of these entries, with a record for each, whatever their names are. -/
def archiveOf (xs : List (String × Bytes)) : Bytes :=
  let records := xs.foldl (fun (out, fs) (name, body) =>
    let packed := storing.packed [.more body]
    let sum := (checksum body).toNat
    (out ++ Builder.localRecord name sum packed.length body.length ++ packed,
      fs ++ [⟨name, sum, packed.length, body.length, out.length⟩]))
    (([], []) : Bytes × List Finished)
  let directory := records.2.flatMap Builder.directoryRecord
  records.1 ++ directory ++ Builder.endRecords xs.length directory.length records.1.length

/-- A name that comes twice, and the same path from the top and from here. -/
def repeating : FileTree :=
  FileTree.empty.put [] "a.zip" (.file (archiveOf
    [("metadata/specs/a.json", Text.toBytes "\x7b\"name\":\"a\"\x7d"),
      ("/metadata/specs/a.json", []), ("./metadata/specs/a.json", []),
      ("metadata/specs/a.json", Text.toBytes "[\"a\"]")]))

/-- Of the two, the later is found, and a look-up finds it too. -/
theorem found_located_repeating :
    Codec.ofConfig {} = .ok .standard
      ∧ (descriptors repeating .standard ⟨.archive, "a.zip"⟩).found
        = [(⟨⟨.archive, "a.zip"⟩, "metadata/specs/a.json"⟩, Text.toBytes "[\"a\"]")]
      ∧ locate repeating ⟨.archive, "a.zip"⟩ "metadata/specs/a.json"
        = .ok (some ⟨⟨.archive, "a.zip"⟩, "metadata/specs/a.json"⟩)
      ∧ Location.read repeating ⟨⟨.archive, "a.zip"⟩, "metadata/specs/a.json"⟩
        = .ok (Text.toBytes "[\"a\"]") := by
  have hfound : (descriptors repeating .standard ⟨.archive, "a.zip"⟩).found
      = [(⟨⟨.archive, "a.zip"⟩, "metadata/specs/a.json"⟩, Text.toBytes "[\"a\"]")] := by
    decide +kernel
  obtain ⟨hall, _⟩ := found_located Codec.ofConfig_default repeating ⟨.archive, "a.zip"⟩
  have hretrieved := hall _ _ (hfound ▸ List.mem_cons_self)
  exact ⟨Codec.ofConfig_default, hfound, hretrieved.located, hretrieved.read⟩

end Repeated

end Source

end SpecCatalog
