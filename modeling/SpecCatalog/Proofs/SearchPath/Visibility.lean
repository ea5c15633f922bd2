import SpecCatalog.Proofs.SearchPath.Findings

/-!
# What a look-up sees and a scan does not

A look-up asks for the path of one name and follows links; a scan goes through what there is
and looks at each item itself. `visited_iff` says when the two agree: in a directory, unless
the descriptor is a link, and in an archive, unless the extension makes every descriptor look
like a directory.
-/

namespace SpecCatalog

namespace Source

variable {t : FileTree} {c : Codec} {config : Config} {s : Source} {l : Location} {name : String}

/-- A scan of the source does not pass over a descriptor of the name: it is no link in its
directory, or no entry that is taken for a directory. -/
def Shows (t : FileTree) (c : Codec) (s : Source) (name : String) : Prop :=
  match s.kind with
  | .directory => ∀ folder target,
      t.resolve .look (PathText.join s.path c.layout.directory) = .ok (.item folder .directory) →
      t.item? (folder ++ [name ++ c.layout.extension]) ≠ some (.link target)
  | .archive => c.layout.extension.toList.getLast? ≠ some '\\'

/-- A descriptor that a look-up finds in a directory source stands, itself or as a link, in the
directory that is scanned. -/
theorem exists_item_of_locate (hs : s.kind = .directory) (hl : c.layout.Proper)
    (hname : c.rules.isValid name = true)
    (hloc : s.locate t (c.layout.pathOf name) = .ok (some l)) :
    ∃ folder, t.resolve .look (PathText.join s.path c.layout.directory)
        = .ok (.item folder .directory) ∧
      ((∃ body, t.item? (folder ++ [name ++ c.layout.extension]) = some (.file body))
        ∨ ∃ target, t.item? (folder ++ [name ++ c.layout.extension]) = some (.link target)) := by
  obtain ⟨_, body, hstatus⟩ := locate_directory hs hloc
  rw [join_pathOf_eq hl] at hstatus
  unfold FileTree.status at hstatus
  obtain ⟨spot, hspot, hstatus⟩ := bind_eq_ok_iff.1 hstatus
  obtain ⟨links, folder, hfolder, hwalk⟩ := FileTree.exists_of_resolve_below
    (join_directory_ne hl s.path) (slash_not_mem_fileName hl hname) (fileName_ne hl name) hspot
  refine ⟨folder, hfolder, ?_⟩
  rcases FileTree.walk_name_cases hwalk with
    ⟨route, rfl⟩ | ⟨_, _, ⟨_, rfl⟩ | ⟨body', hfile, _⟩ | ⟨target, hlink⟩⟩
  · cases hstatus
  · cases hstatus
  · exact .inl ⟨body', hfile⟩
  · exact .inr ⟨target, hlink⟩

theorem visited_iff_of_directory (hs : s.kind = .directory) (hl : c.layout.Proper)
    (hname : c.rules.isValid name = true) (hscan : (s.descriptors t c).broke = none)
    (hloc : s.locate t (c.layout.pathOf name) = .ok (some l)) :
    (∃ body, (l, body) ∈ (s.descriptors t c).found) ↔ s.Shows t c name := by
  obtain ⟨folder, hfolder, hitem⟩ := exists_item_of_locate hs hl hname hloc
  obtain ⟨rfl, _⟩ := locate_directory hs hloc
  have hplace : (⟨s, c.layout.pathOf name⟩ : Location)
      = s.locationOf c (name ++ c.layout.extension) := by
    rw [pathOf_eq]
    rfl
  rw [hplace, mem_found_directory hs hfolder hscan, mem_descriptorNames]
  unfold Shows
  rw [hs]
  constructor
  · rintro ⟨_, body, hfile⟩ folder' target hfolder' hlink
    rw [hfolder] at hfolder'
    cases hfolder'
    rw [hfile] at hlink
    cases hlink
  · intro hshows
    refine ⟨⟨name, hname, rfl⟩, hitem.resolve_right ?_⟩
    rintro ⟨target, hlink⟩
    exact hshows folder target hfolder hlink

theorem visited_iff_of_archive (hs : s.kind = .archive) (hl : c.layout.Proper)
    (hname : c.rules.isValid name = true) (hscan : (s.descriptors t c).broke = none)
    (hloc : s.locate t (c.layout.pathOf name) = .ok (some l)) :
    (∃ body, (l, body) ∈ (s.descriptors t c).found) ↔ s.Shows t c name := by
  obtain ⟨rfl, archive, entry, hopen, hfind⟩ := locate_archive hs hloc
  rw [descriptors_archive hs hopen] at hscan ⊢
  unfold Shows
  rw [hs]
  obtain ⟨hentry, hnamed⟩ := Archive.of_find? hfind
  simp only [mem_found_archiveDescriptors hscan]
  constructor
  · rintro ⟨body, e, _, ⟨hdir, _⟩, _, hl'⟩
    have he : e.name = c.layout.pathOf name := (congrArg Location.resource hl').symm
    exact (isDirectory_pathOf hl he).1 hdir
  · intro hshows
    have hdescribes : Describes c entry := by
      refine ⟨(isDirectory_pathOf hl hnamed).2 hshows, ?_⟩
      rw [hnamed]
      exact isSpecPath_pathOf hl hname
    obtain ⟨body, hbody, _⟩ := exists_found_of_describes hscan hentry hdescribes
    refine ⟨body, entry, hentry, hdescribes, hbody, ?_⟩
    rw [hnamed]

/-- **A scan visits what a look-up finds, unless links or the extension hide it.** -/
theorem visited_iff (hc : Codec.ofConfig config = .ok c) (hname : c.rules.isValid name = true)
    (hscan : (s.descriptors t c).broke = none)
    (hloc : s.locate t (c.layout.pathOf name) = .ok (some l)) :
    (∃ body, (l, body) ∈ (s.descriptors t c).found) ↔ s.Shows t c name := by
  have hl := Codec.proper_of_ofConfig hc
  cases hs : s.kind with
  | directory => exact visited_iff_of_directory hs hl hname hscan hloc
  | archive => exact visited_iff_of_archive hs hl hname hscan hloc

/-- One descriptor is a file, and one is a link to a file elsewhere. -/
def linked : FileTree :=
  [([], "shared", .directory), (["shared"], "a.json", .file (Text.toBytes "\x7b\"name\":\"a\"\x7d")),
    ([], "metadata", .directory), (["metadata"], "specs", .directory),
    (["metadata", "specs"], "a.json", .link "../../shared/a.json"),
    (["metadata", "specs"], "b.json", Item.file (Text.toBytes "\x7b\"name\":\"b\"\x7d"))].foldl
      (fun t (folder, name, i) => t.put folder name i) FileTree.empty

theorem scan_linked : (descriptors linked .standard ⟨.directory, "."⟩).broke = none := by
  have h : (descriptors linked .standard ⟨.directory, "."⟩).broke.isNone = true := by
    decide +kernel
  exact Option.isNone_iff_eq_none.1 h

theorem locate_linked {name : String} (hname : name = "a" ∨ name = "b") :
    locate linked ⟨.directory, "."⟩ (Codec.standard.layout.pathOf name)
      = .ok (some ⟨⟨.directory, "."⟩, Codec.standard.layout.pathOf name⟩) := by
  have h : ∀ name ∈ ["a", "b"],
      (locate linked ⟨.directory, "."⟩ (Codec.standard.layout.pathOf name)).toOption.any
        (fun found => found = some ⟨⟨.directory, "."⟩, Codec.standard.layout.pathOf name⟩)
          = true := by decide +kernel
  exact eq_ok_of_any_toOption (h name (by simpa using hname))

/-- The file is visited. -/
theorem visited_linked_file : ∃ body,
    ((⟨⟨.directory, "."⟩, "metadata/specs/b.json"⟩ : Location), body)
      ∈ (descriptors linked .standard ⟨.directory, "."⟩).found := by
  have hname : Codec.standard.rules.isValid "b" = true := by decide +kernel
  have hfolder : linked.resolve .look (PathText.join "." Codec.standard.layout.directory)
      = .ok (.item ["metadata", "specs"] .directory) := by decide +kernel
  have hfile : linked.item? (["metadata", "specs"] ++ ["b" ++ Codec.standard.layout.extension])
      = some (.file (Text.toBytes "\x7b\"name\":\"b\"\x7d")) := by decide +kernel
  refine (visited_iff Codec.ofConfig_default hname scan_linked (locate_linked (.inr rfl))).2 ?_
  intro folder target hd
  rw [hfolder] at hd
  cases hd
  rw [hfile]
  nofun

/-- The link is found when it is looked for, and a scan of everything does not visit it. -/
theorem linked_not_visited :
    Codec.ofConfig {} = .ok .standard
      ∧ Codec.standard.rules.isValid "a" = true
      ∧ (descriptors linked .standard ⟨.directory, "."⟩).broke = none
      ∧ locate linked ⟨.directory, "."⟩ (Codec.standard.layout.pathOf "a")
          = .ok (some ⟨⟨.directory, "."⟩, Codec.standard.layout.pathOf "a"⟩)
      ∧ ¬ ∃ body, ((⟨⟨.directory, "."⟩, Codec.standard.layout.pathOf "a"⟩ : Location), body)
          ∈ (descriptors linked .standard ⟨.directory, "."⟩).found := by
  refine ⟨Codec.ofConfig_default, by decide +kernel, scan_linked, locate_linked (.inl rfl), ?_⟩
  have h : (descriptors linked .standard ⟨.directory, "."⟩).found.all
      (fun x => x.1 ≠ ⟨⟨.directory, "."⟩, Codec.standard.layout.pathOf "a"⟩) = true := by
    decide +kernel
  rintro ⟨body, hfound⟩
  exact of_decide_eq_true (List.all_eq_true.1 h _ hfound) rfl

end Source

end SpecCatalog
