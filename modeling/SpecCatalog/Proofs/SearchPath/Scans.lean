import SpecCatalog.Proofs.FileTree.Below
import SpecCatalog.Proofs.Layout.Paths
import SpecCatalog.SearchPath

/-!
# What a scan finds

The scan of a directory reads the files of one directory of the tree, those whose names are
made from valid names (`descriptors_directory`, `mem_descriptorNames`). The scan of an archive
that is not broken off finds the entries that are descriptors and can be read
(`mem_found_archiveDescriptors`).
-/

namespace SpecCatalog

variable {t : FileTree} {c : Codec} {s : Source} {l : Location} {body : Bytes}

/-- One scan and then the other is not broken off only if neither is. -/
theorem Scan.of_append_unbroken {x y : Scan} (h : (x.append y).broke = none) :
    x.broke = none ∧ y.broke = none ∧ (x.append y).found = x.found ++ y.found := by
  unfold Scan.append at h ⊢
  cases hx : x.broke with
  | some e =>
    rw [hx] at h
    dsimp only at h
    rw [hx] at h
    cases h
  | none =>
    rw [hx] at h
    exact ⟨rfl, h, rfl⟩

namespace Source

/-! ## Reading in turn -/

theorem of_mem_found_readAll {ls : List Location} (h : (l, body) ∈ (readAll t ls).found) :
    l ∈ ls ∧ l.read t = .ok body := by
  induction ls with
  | nil => exact absurd h List.not_mem_nil
  | cons l' ls ih =>
    unfold readAll at h
    split at h
    · rename_i body' hread
      rcases List.mem_cons.1 h with he | h
      · cases he
        exact ⟨List.mem_cons_self, hread⟩
      · exact ⟨List.mem_cons_of_mem _ (ih h).1, (ih h).2⟩
    · exact absurd h List.not_mem_nil

/-- A scan that is not broken off has read everything. -/
theorem exists_mem_found_readAll {ls : List Location} (h : (readAll t ls).broke = none)
    (hl : l ∈ ls) : ∃ body, (l, body) ∈ (readAll t ls).found := by
  induction ls with
  | nil => exact absurd hl List.not_mem_nil
  | cons l' ls ih =>
    unfold readAll at h ⊢
    split at h
    · rename_i body' hread
      rcases List.mem_cons.1 hl with rfl | hl
      · exact ⟨body', List.mem_cons_self⟩
      · obtain ⟨body, hbody⟩ := ih h hl
        exact ⟨body, List.mem_cons_of_mem _ hbody⟩
    · cases h

theorem broke_readAll {ls : List Location} (h : ∀ l ∈ ls, ∃ body, l.read t = .ok body) :
    (readAll t ls).broke = none := by
  induction ls with
  | nil => rfl
  | cons l ls ih =>
    rw [List.forall_mem_cons] at h
    obtain ⟨body, hbody⟩ := h.1
    unfold readAll
    rw [hbody]
    exact ih h.2

/-! ## Directories -/

theorem mem_descriptorNames {folder : Route} {fileName : String} :
    fileName ∈ descriptorNames c (t.children folder)
      ↔ (∃ name, c.rules.isValid name = true ∧ fileName = name ++ c.layout.extension)
        ∧ ∃ body, t.item? (folder ++ [fileName]) = some (.file body) := by
  unfold descriptorNames
  rw [NameSet.mem_ofList, List.mem_filterMap]
  constructor
  · rintro ⟨⟨name, item⟩, hchild, hfound⟩
    cases item with
    | file body =>
      dsimp only at hfound
      split at hfound
      · rename_i hspec
        cases hfound
        exact ⟨isSpecFileName_iff.1 hspec, body, FileTree.mem_children.1 hchild⟩
      · cases hfound
    | directory => cases hfound
    | link target => cases hfound
  · rintro ⟨hspec, body, hfile⟩
    refine ⟨(fileName, .file body), FileTree.mem_children.2 hfile, ?_⟩
    dsimp only
    rw [if_pos (isSpecFileName_iff.2 hspec)]

/-- The location of the file of this name in the directory of a source. -/
def locationOf (c : Codec) (s : Source) (fileName : String) : Location :=
  ⟨s, c.layout.directory ++ "/" ++ fileName⟩

/-- Where the path of the descriptors' directory leads to a directory, its files are read. -/
theorem descriptors_directory {folder : Route} (hs : s.kind = .directory)
    (hd : t.resolve .look (PathText.join s.path c.layout.directory)
      = .ok (.item folder .directory)) :
    s.descriptors t c
      = readAll t ((descriptorNames c (t.children folder)).toList.map (s.locationOf c)) := by
  have hstatus := FileTree.status_of_resolve hd
  have hlist : t.list (PathText.join s.path c.layout.directory) = .ok (t.children folder) := by
    unfold FileTree.list
    rw [hd]
    rfl
  unfold descriptors
  rw [hs]
  dsimp only
  rw [hstatus]
  dsimp only
  rw [hlist]
  rfl

/-- Locations in one directory differ by the names of their files. -/
theorem locationOf_injective {fileName fileName' : String}
    (h : s.locationOf c fileName = s.locationOf c fileName') :
    fileName = fileName' := by
  have hlist := congrArg String.toList (congrArg Location.resource h)
  simp only [locationOf, String.toList_append, List.append_assoc,
    List.append_cancel_left_eq] at hlist
  exact String.toList_injective hlist

theorem mem_found_directory {folder : Route} {fileName : String} (hs : s.kind = .directory)
    (hd : t.resolve .look (PathText.join s.path c.layout.directory)
      = .ok (.item folder .directory))
    (hscan : (s.descriptors t c).broke = none) :
    (∃ body, (s.locationOf c fileName, body) ∈ (s.descriptors t c).found)
      ↔ fileName ∈ descriptorNames c (t.children folder) := by
  rw [descriptors_directory hs hd] at hscan ⊢
  constructor
  · rintro ⟨body, hfound⟩
    obtain ⟨f, hf, he⟩ := List.mem_map.1 (of_mem_found_readAll hfound).1
    rw [← locationOf_injective he]
    exact NameSet.mem_toList.1 hf
  · intro hname
    exact exists_mem_found_readAll hscan
      (List.mem_map_of_mem (NameSet.mem_toList.2 hname))

/-! ## Archives -/

/-- The entry is no directory and stands at the place of a descriptor. -/
def Describes (c : Codec) (e : Archive.Entry) : Prop :=
  e.isDirectory = false ∧ c.layout.isSpecPath c.rules e.name = true

/-- The path of a name looks like a directory's only if the extension does. -/
theorem isDirectory_pathOf {e : Archive.Entry} (hl : c.layout.Proper)
    (he : e.name = c.layout.pathOf name) :
    e.isDirectory = false ↔ c.layout.extension.toList.getLast? ≠ some '\\' := by
  have hne : c.layout.extension.toList ≠ [] := fun h =>
    hl.extension_ne (String.toList_injective h)
  have hlast : e.name.toList.getLast? = c.layout.extension.toList.getLast? := by
    rw [he, pathOf_eq, ← String.append_assoc, String.toList_append]
    exact List.getLast?_append_of_ne_nil _ hne
  unfold Archive.Entry.isDirectory
  rw [hlast]
  cases hext : c.layout.extension.toList.getLast? with
  | none => exact absurd (List.getLast?_eq_none_iff.1 hext) hne
  | some ch =>
    have hslash : ch ≠ '/' := by
      rintro rfl
      exact hl.no_slash (List.mem_of_getLast? hext)
    simp [hslash]

theorem of_mem_found_archiveDescriptors {file : Bytes} {es : List Archive.Entry}
    (h : (l, body) ∈ (archiveDescriptors c s file es).found) :
    ∃ e ∈ es, Describes c e ∧ e.open? file = .ok (.ok body) ∧ l = ⟨s, e.name⟩ := by
  induction es with
  | nil => exact absurd h List.not_mem_nil
  | cons e es ih =>
    have hlater : (l, body) ∈ (archiveDescriptors c s file es).found →
        ∃ e' ∈ e :: es, Describes c e' ∧ e'.open? file = .ok (.ok body) ∧ l = ⟨s, e'.name⟩ := by
      intro h
      obtain ⟨e', he', hfound⟩ := ih h
      exact ⟨e', List.mem_cons_of_mem _ he', hfound⟩
    unfold archiveDescriptors at h
    split at h
    · exact absurd h List.not_mem_nil
    · rename_i contents hopen
      split at h
      · exact hlater h
      · rename_i hkeep
        split at h
        · exact absurd h List.not_mem_nil
        · rcases List.mem_cons.1 h with he | h
          · cases he
            exact ⟨e, List.mem_cons_self, by simpa [Describes] using hkeep, hopen, rfl⟩
          · exact hlater h

/-- The entries are gone through one after the other. -/
theorem archiveDescriptors_append {file : Bytes} (before after : List Archive.Entry) :
    archiveDescriptors c s file (before ++ after)
      = (archiveDescriptors c s file before).append (archiveDescriptors c s file after) := by
  generalize hlater : archiveDescriptors c s file after = later
  induction before with
  | nil => exact hlater
  | cons e before ih =>
    rw [List.cons_append]
    unfold archiveDescriptors
    cases e.open? file with
    | error f => rfl
    | ok contents =>
      dsimp only
      split
      · exact ih
      · cases contents with
        | error cause => rfl
        | ok body =>
          dsimp only
          rw [ih]
          unfold Scan.append Scan.after
          dsimp only
          split
          · rfl
          · rfl

/-- What describes something is found with what can be read there, or else the scan was broken
off. -/
theorem exists_found_of_describes {file : Bytes} {es : List Archive.Entry} {e : Archive.Entry}
    (h : (archiveDescriptors c s file es).broke = none) (he : e ∈ es) (hd : Describes c e) :
    ∃ body, e.open? file = .ok (.ok body)
      ∧ (⟨s, e.name⟩, body) ∈ (archiveDescriptors c s file es).found := by
  obtain ⟨before, after, rfl⟩ := List.append_of_mem he
  rw [archiveDescriptors_append] at h ⊢
  obtain ⟨_, hscan, hfound⟩ := Scan.of_append_unbroken h
  rw [hfound]
  unfold archiveDescriptors at hscan ⊢
  cases hopen : e.open? file with
  | error f =>
    rw [hopen] at hscan
    cases hscan
  | ok contents =>
    rw [hopen] at hscan
    dsimp only at hscan ⊢
    have hkeep : ¬ (e.isDirectory || !c.layout.isSpecPath c.rules e.name) = true := by
      rw [hd.1, hd.2]
      decide
    rw [if_neg hkeep] at hscan ⊢
    cases contents with
    | error cause => cases hscan
    | ok body => exact ⟨body, rfl, List.mem_append_right _ List.mem_cons_self⟩

/-- A scan that is not broken off finds the entries that describe something, and reads them. -/
theorem mem_found_archiveDescriptors {file : Bytes} {es : List Archive.Entry}
    (h : (archiveDescriptors c s file es).broke = none) :
    (l, body) ∈ (archiveDescriptors c s file es).found
      ↔ ∃ e ∈ es, Describes c e ∧ e.open? file = .ok (.ok body) ∧ l = ⟨s, e.name⟩ := by
  refine ⟨of_mem_found_archiveDescriptors, ?_⟩
  rintro ⟨e, he, hdescribes, hopen, rfl⟩
  obtain ⟨body', hopen', hfound⟩ := exists_found_of_describes h he hdescribes
  rw [hopen] at hopen'
  cases hopen'
  exact hfound

end Source

end SpecCatalog
