import SpecCatalog.Proofs.Name.Standard
import SpecCatalog.Proofs.SearchPath.Findings

/-!
# Look-ups in a source that was scanned

A scan takes a source for empty if its path of descriptors leads to no directory. A look-up goes
one name further and takes it for an answer only if it is told that nothing is there. So a
source that is scanned without an error may still fail a look-up: `told_iff` says that it does
if something else stands where the directory of descriptors should be, and otherwise only if
the path is too long or the descriptor is a link that cannot be followed.
-/

namespace SpecCatalog

namespace FileTree

variable {t : FileTree} {path name : String} {i : Item} {e : IoError}

/-- The path leads somewhere, or to nothing at all. -/
def Told (t : FileTree) (path : String) : Prop :=
  ∀ e, t.status path = .error e → e = .os .notFound

theorem status_of_nul (hnul : '\x00' ∈ path.toList) : t.status path = .error .nulInPath := by
  unfold status resolve
  rw [if_pos (List.contains_iff_mem.2 hnul)]
  rfl

theorem status_of_long (hnul : '\x00' ∉ path.toList) (hne : path ≠ "")
    (hlong : pathLimit ≤ path.utf8ByteSize) : t.status path = .error (.os .nameTooLong) := by
  unfold status resolve
  rw [if_neg (by simpa using hnul), if_neg (by simpa using hne), if_pos hlong]
  rfl

/-- What is told of a path could be walked. -/
theorem walkable_of_told (hne : path ≠ "") (h : t.Told path) : Walkable path := by
  have hnul : '\x00' ∉ path.toList := by
    intro hnul
    cases h _ (status_of_nul hnul)
  refine ⟨hnul, hne, Nat.not_le.1 fun hlong => ?_⟩
  cases h _ (status_of_long hnul hne hlong)

/-- Nothing keeps a name below the path from being told. -/
structure Clear (t : FileTree) (path name : String) : Prop where
  /-- The path with the name can be walked. -/
  short : (path ++ "/" ++ name).utf8ByteSize < pathLimit
  /-- There is nothing else in the place of the directory. -/
  unblocked : ∀ i, t.status path = .ok i → i = .directory
  /-- A link of that name in the directory leads somewhere, or to nothing at all. -/
  followed : ∀ folder target, t.resolve .look path = .ok (.item folder .directory) →
    t.item? (folder ++ [name]) = some (.link target) → t.Told (path ++ "/" ++ name)

/-- In a directory only a link can lead astray. -/
theorem told_below_of_directory {folder : Route} (hpath : path ≠ "") (hslash : '/' ∉ name.toList)
    (hname : name ≠ "") (hshort : name.utf8ByteSize ≤ nameLimit)
    (hwalkable : Walkable (path ++ "/" ++ name))
    (hd : t.resolve .look path = .ok (.item folder .directory))
    (hlink : ∀ target, t.item? (folder ++ [name]) ≠ some (.link target)) :
    t.Told (path ++ "/" ++ name) := by
  intro e he
  rcases resolve_below t .look hpath hslash hname hwalkable with
    ⟨links, here, hd', hwalk⟩ | ⟨hno, _⟩
  · rw [hd] at hd'
    cases hd'
    obtain ⟨spot, hspot⟩ : ∃ spot, walk t .look links folder [name] = .ok spot :=
      exists_walk_name hname hshort hlink
    unfold status at he
    rw [hwalk, hspot] at he
    cases spot with
    | item r i => cases he
    | vacant folder free =>
      cases he
      rfl
  · exact absurd hd (hno folder)

/-- **What a name below a path hangs on if the path itself is told.** -/
theorem told_below_iff (hpath : path ≠ "") (hslash : '/' ∉ name.toList) (hname : name ≠ "")
    (hshort : name.utf8ByteSize ≤ nameLimit) (hnul : '\x00' ∉ name.toList) (htold : t.Told path) :
    t.Told (path ++ "/" ++ name) ↔ t.Clear path name := by
  have hpathnul := (walkable_of_told hpath htold).no_nul
  constructor
  · intro hbelow
    have hbelowne : path ++ "/" ++ name ≠ "" := by simp [String.append_eq_empty_iff]
    have hwalkable := walkable_of_told hbelowne hbelow
    refine ⟨hwalkable.short, fun i hi => Decidable.not_not.1 fun hno => ?_, fun _ _ _ _ => hbelow⟩
    cases hbelow _ (status_below_of_item hpath hslash hname hwalkable hi hno)
  · intro hclear
    have hwalkable := walkable_below hpathnul hnul hclear.short
    cases hstatus : t.status path with
    | ok i =>
      -- what is there is a directory, and then only a link under the name can be in the way
      obtain rfl := hclear.unblocked i hstatus
      obtain ⟨folder, hd⟩ := exists_of_status hstatus
      by_cases hlink : ∃ target, t.item? (folder ++ [name]) = some (.link target)
      · obtain ⟨target, hlink⟩ := hlink
        exact hclear.followed folder target hd hlink
      · exact told_below_of_directory hpath hslash hname hshort hwalkable hd (not_exists.1 hlink)
    | error e =>
      obtain rfl := htold e hstatus
      intro e' he'
      rw [status_below_of_error hpath hslash hname hwalkable hstatus] at he'
      cases he'
      rfl

end FileTree

namespace Source

open FileTree

variable {t : FileTree} {c : Codec} {s : Source} {path name : String}

/-- A look-up in a directory is answered if its path is told. -/
theorem exists_locate_iff (hs : s.kind = .directory) :
    (∃ found, s.locate t path = .ok found) ↔ t.Told (PathText.join s.path path) := by
  unfold locate Told
  rw [hs]
  dsimp only
  cases t.status (PathText.join s.path path) with
  | ok i =>
    -- whatever item is there, the look-up is answered
    refine iff_of_true ?_ nofun
    cases i with
    | file body => exact ⟨_, rfl⟩
    | directory => exact ⟨_, rfl⟩
    | link target => exact ⟨_, rfl⟩
  | error e =>
    simp only [Except.error.injEq, forall_eq']
    constructor
    · rintro ⟨found, h⟩
      split at h
      · rename_i hfile
        cases hfile
      · rename_i hitem
        cases hitem
      · rename_i hmissing
        cases hmissing
        rfl
      · cases h
    · rintro rfl
      exact ⟨_, rfl⟩

/-- A scan of a directory goes on only if the path of descriptors is told. -/
theorem told_of_unbroken (hs : s.kind = .directory) (hscan : (s.descriptors t c).broke = none) :
    t.Told (PathText.join s.path c.layout.directory) := by
  intro e he
  unfold descriptors at hscan
  rw [hs] at hscan
  dsimp only at hscan
  rw [he] at hscan
  split at hscan
  · rename_i hmissing
    cases hmissing
    rfl
  · cases hscan
  · rename_i hdirectory
    cases hdirectory
  · rename_i hitem
    cases hitem

theorem opened_of_unbroken (hs : s.kind = .archive) (hscan : (s.descriptors t c).broke = none) :
    ∃ archive, openArchive t s.path = .ok archive := by
  unfold descriptors at hscan
  rw [hs] at hscan
  dsimp only at hscan
  split at hscan
  · cases hscan
  · rename_i archive ha
    exact ⟨archive, ha⟩

/--
**In a source that is scanned without an error, a look-up is answered exactly if its path is
clear.**

For an archive it always is. In a directory the path is clear unless it is too long, something
stands in the place of the directory of descriptors, or the descriptor is a link that cannot be
followed.
-/
theorem told_iff (hscan : (s.descriptors t .standard).broke = none)
    (hname : NameRules.standard.isValid name = true)
    (hshort : (name ++ Layout.standardExtension).utf8ByteSize ≤ 255) :
    (∃ found, s.locate t (Codec.standard.layout.pathOf name) = .ok found)
      ↔ (s.kind = .directory → t.Clear (PathText.join s.path Layout.standardDirectory)
          (name ++ Layout.standardExtension)) := by
  have hl : Codec.standard.layout.Proper := Codec.proper_of_standard rfl
  cases hs : s.kind with
  | directory =>
    have hnul : '\x00' ∉ (name ++ Layout.standardExtension).toList := by
      rw [String.toList_append, List.mem_append, not_or]
      exact ⟨NameRules.nul_not_mem_of_isValid hname, by decide⟩
    have hdirectory : Codec.standard.layout.directory = Layout.standardDirectory := by decide +kernel
    have hbelow := told_below_iff (join_directory_ne hl s.path) (slash_not_mem_fileName hl hname)
      (fileName_ne hl name) hshort hnul (told_of_unbroken hs hscan)
    rw [exists_locate_iff hs, join_pathOf_eq hl, hbelow, hdirectory]
    exact ⟨fun h _ => h, fun h => h rfl⟩
  | archive =>
    obtain ⟨archive, ha⟩ := opened_of_unbroken hs hscan
    exact iff_of_true ⟨_, locate_of_archive hs ha _⟩ nofun

/-- There is no directory of descriptors. -/
theorem told_iff_bare :
    (descriptors FileTree.empty .standard ⟨.directory, "."⟩).broke = none
      ∧ NameRules.standard.isValid "a" = true
      ∧ ("a" ++ Layout.standardExtension).utf8ByteSize ≤ 255
      ∧ ∃ found, locate FileTree.empty ⟨.directory, "."⟩ (Codec.standard.layout.pathOf "a")
        = .ok found := by
  have hscan : (descriptors FileTree.empty .standard ⟨.directory, "."⟩).broke = none := by
    decide +kernel
  have hname : NameRules.standard.isValid "a" = true := by decide +kernel
  have hshort : ("a" ++ Layout.standardExtension).utf8ByteSize ≤ 255 := by decide +kernel
  have hmissing : FileTree.empty.status (PathText.join "." Layout.standardDirectory)
      = .error (.os .notFound) := by decide +kernel
  refine ⟨hscan, hname, hshort, (told_iff hscan hname hshort).2 fun _ => ?_⟩
  refine ⟨by decide +kernel, fun i hi => ?_, fun folder target hd _ => ?_⟩
  · rw [hmissing] at hi
    cases hi
  · rw [status_of_resolve hd] at hmissing
    cases hmissing

/-- A file stands in the place of the directory of descriptors. -/
def occupied : FileTree :=
  (FileTree.empty.put [] "metadata" .directory).put ["metadata"] "specs" (.file [])

/-- The scan takes the source for empty, and the look-up fails. -/
theorem occupied_not_told :
    (descriptors occupied .standard ⟨.directory, "."⟩).found = []
      ∧ (descriptors occupied .standard ⟨.directory, "."⟩).broke = none
      ∧ NameRules.standard.isValid "a" = true
      ∧ ("a" ++ Layout.standardExtension).utf8ByteSize ≤ 255
      ∧ ¬ ∃ found, locate occupied ⟨.directory, "."⟩ (Codec.standard.layout.pathOf "a")
        = .ok found := by
  have hfails : (locate occupied ⟨.directory, "."⟩ (Codec.standard.layout.pathOf "a")).toOption
      = none := by decide +kernel
  refine ⟨by decide +kernel, by decide +kernel, by decide +kernel, by decide +kernel, ?_⟩
  rintro ⟨found, h⟩
  rw [h] at hfails
  cases hfails

end Source

end SpecCatalog
