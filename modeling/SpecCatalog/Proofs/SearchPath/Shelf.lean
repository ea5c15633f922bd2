import SpecCatalog.Proofs.FileTree.Making
import SpecCatalog.Proofs.SearchPath.Holdings

/-!
# Directories whose files are known

A `Shelf` is a directory of descriptors with the files of some specifications and no others, but
for files of doubtful names, which may hold anything. If no name is in doubt, the source it
belongs to holds these specifications (`Shelf.holds`), and it can tell that it does not have any
other name that a path can spell (`Shelf.tells`).

A directory that was not there before is an empty shelf (`shelf_of_new`). A descriptor that is
written into a shelf puts its name out of doubt (`Shelf.withFile`), one that is not wholly written
puts it in doubt (`Shelf.withBroken`).
-/

namespace SpecCatalog

open FileTree

variable {t : FileTree} {c : Codec} {root name : String} {specs : List Specification}
  {doubtful : List String} {folder : Route}

/-- The descriptors below the root stand in this directory: those of these specifications. Else
there are directories at most, and files of the names in doubt. -/
structure Shelf (t : FileTree) (c : Codec) (root : String) (specs : List Specification)
    (doubtful : List String) (folder : Route) : Prop where
  leads : t.resolve .look (PathText.join root c.layout.directory) = .ok (.item folder .directory)
  files : ∀ s ∈ specs,
    t.item? (folder ++ [s.name ++ c.layout.extension]) = some (.file (c.encode s))
  only : ∀ fileName i, t.item? (folder ++ [fileName]) = some i →
    i = .directory ∨ (∃ s ∈ specs, fileName = s.name ++ c.layout.extension)
      ∨ ∃ n ∈ doubtful, fileName = n ++ c.layout.extension ∧ ∃ body, i = .file body
  valid : ∀ s ∈ specs, c.rules.isValid s.name = true
  walkable : ∀ s ∈ specs,
    Walkable (PathText.join root c.layout.directory ++ "/" ++ (s.name ++ c.layout.extension))

namespace Shelf

/-- There are no links on a shelf. -/
theorem ne_link (h : Shelf t c root specs doubtful folder) (fileName target : String) :
    t.item? (folder ++ [fileName]) ≠ some (.link target) := by
  intro hlink
  rcases h.only _ _ hlink with hd | ⟨s, hs, he⟩ | ⟨_, _, _, body, hbody⟩
  · cases hd
  · have hfile := h.files s hs
    rw [← he, hlink] at hfile
    cases hfile
  · cases hbody

theorem resolve_file (h : Shelf t c root specs doubtful folder) (hl : c.layout.Proper)
    {s : Specification} (hs : s ∈ specs) :
    t.resolve .look (PathText.join root (c.layout.pathOf s.name))
      = .ok (.item (folder ++ [s.name ++ c.layout.extension]) (.file (c.encode s))) := by
  rw [join_pathOf_eq hl]
  exact resolve_below_file (join_directory_ne hl root) (slash_not_mem_fileName hl (h.valid s hs))
    (fileName_ne hl s.name) (h.walkable s hs) h.leads (h.files s hs)

theorem status_file (h : Shelf t c root specs doubtful folder) (hl : c.layout.Proper)
    {s : Specification} (hs : s ∈ specs) :
    t.status (PathText.join root (c.layout.pathOf s.name)) = .ok (.file (c.encode s)) :=
  status_of_resolve (h.resolve_file hl hs)

theorem read_file (h : Shelf t c root specs doubtful folder) (hl : c.layout.Proper)
    {s : Specification} (hs : s ∈ specs) :
    (Source.place c ⟨.directory, root⟩ s.name).read t = .ok (c.encode s) := by
  have hcontents : t.contents (PathText.join root (c.layout.pathOf s.name))
      = .ok (c.encode s) := by
    unfold contents
    rw [h.status_file hl hs]
    rfl
  unfold Location.read Source.place
  dsimp only
  rw [hcontents]
  rfl

theorem locationOf_fileName (src : Source) (name : String) :
    src.locationOf c (name ++ c.layout.extension) = src.place c name := by
  unfold Source.locationOf Source.place Layout.pathOf
  simp only [String.append_assoc]

theorem mem_names (h : Shelf t c root specs [] folder) {fileName : String} :
    fileName ∈ Source.descriptorNames c (t.children folder)
      ↔ ∃ s ∈ specs, fileName = s.name ++ c.layout.extension := by
  rw [Source.mem_descriptorNames]
  constructor
  · rintro ⟨_, body, hfile⟩
    rcases h.only fileName _ hfile with hd | hs | ⟨_, hdoubt, _⟩
    · cases hd
    · exact hs
    · cases hdoubt
  · rintro ⟨s, hs, rfl⟩
    exact ⟨⟨s.name, h.valid s hs, rfl⟩, _, h.files s hs⟩

/-- Each location that is listed has the descriptor of a specification. -/
theorem exists_of_listed (h : Shelf t c root specs [] folder) (hl : c.layout.Proper) {l : Location}
    (hm : l ∈ (Source.descriptorNames c (t.children folder)).toList.map
      (Source.locationOf c ⟨.directory, root⟩)) :
    ∃ s ∈ specs, l = Source.place c ⟨.directory, root⟩ s.name
      ∧ l.read t = .ok (c.encode s) := by
  obtain ⟨f, hf, rfl⟩ := List.mem_map.1 hm
  obtain ⟨s, hs, rfl⟩ := h.mem_names.1 (NameSet.mem_toList.1 hf)
  rw [locationOf_fileName]
  exact ⟨s, hs, rfl, h.read_file hl hs⟩

theorem unbroken (h : Shelf t c root specs [] folder) (hl : c.layout.Proper) :
    (Source.descriptors t c ⟨.directory, root⟩).broke = none := by
  rw [Source.descriptors_directory (c := c) (s := ⟨.directory, root⟩) rfl h.leads]
  refine Source.broke_readAll fun l hm => ?_
  obtain ⟨s, _, _, hbody⟩ := h.exists_of_listed hl hm
  exact ⟨_, hbody⟩

theorem mem_found (h : Shelf t c root specs [] folder) (hl : c.layout.Proper)
    (x : Location × Bytes) : x ∈ (Source.descriptors t c ⟨.directory, root⟩).found
      ↔ ∃ s ∈ specs, x = (Source.place c ⟨.directory, root⟩ s.name, c.encode s) := by
  have hscan := Source.descriptors_directory (c := c) (s := ⟨.directory, root⟩) rfl h.leads
  constructor
  · intro hx
    rw [hscan] at hx
    obtain ⟨hm, hbody⟩ := Source.of_mem_found_readAll hx
    obtain ⟨s, hs, hplace, hbody'⟩ := h.exists_of_listed hl hm
    rw [hbody] at hbody'
    exact ⟨s, hs, Prod.ext hplace (Except.ok.inj hbody')⟩
  · rintro ⟨s, hs, rfl⟩
    have hname := h.mem_names.2 ⟨s, hs, rfl⟩
    obtain ⟨body, hfound⟩ := (Source.mem_found_directory (s := ⟨.directory, root⟩) rfl h.leads
      (h.unbroken hl)).2 hname
    rw [locationOf_fileName] at hfound
    -- what was found there is what is read there
    have hread := hfound
    rw [hscan] at hread
    have hbody := (Source.of_mem_found_readAll hread).2
    rw [h.read_file hl hs] at hbody
    cases hbody
    exact hfound

theorem located (h : Shelf t c root specs doubtful folder) (hl : c.layout.Proper) {s : Specification}
    (hs : s ∈ specs) : Source.locate t ⟨.directory, root⟩ (c.layout.pathOf s.name)
      = .ok (some (Source.place c ⟨.directory, root⟩ s.name)) := by
  unfold Source.locate
  dsimp only
  rw [h.status_file hl hs]
  rfl

/-- **A scan and look-ups find exactly what stands on the shelf.** -/
theorem holds (h : Shelf t c root specs [] folder) (hl : c.layout.Proper) :
    Source.Holds t c ⟨.directory, root⟩ specs where
  unbroken := h.unbroken hl
  found := h.mem_found hl
  located _ hs := h.located hl hs
  read _ hs := h.read_file hl hs

/-- A name of nothing on the shelf is not found, as long as its path can be walked. -/
theorem tells (h : Shelf t c root specs [] folder) (hl : c.layout.Proper)
    (hname : c.rules.isValid name = true)
    (hwalkable : Walkable (PathText.join root c.layout.directory ++ "/"
      ++ (name ++ c.layout.extension)))
    (hshort : (name ++ c.layout.extension).utf8ByteSize ≤ nameLimit) :
    Source.Tells t c ⟨.directory, root⟩ specs name := by
  intro hnone
  have hslash := slash_not_mem_fileName hl hname
  have hne := fileName_ne hl name
  rcases resolve_below t .look (join_directory_ne hl root) hslash hne hwalkable with
    ⟨links, here, hd, hwalk⟩ | ⟨hno, _⟩
  · rw [h.leads] at hd
    cases hd
    unfold Source.locate status
    dsimp only
    rw [join_pathOf_eq hl, hwalk]
    -- what stands under the name is a directory, or a specification's file
    have honly : ∀ i, t.item? (folder ++ [name ++ c.layout.extension]) = some i →
        i = .directory := by
      intro i hi
      rcases h.only _ i hi with rfl | ⟨s, hs, hf⟩ | ⟨_, hdoubt, _⟩
      · rfl
      · have hsame : name = s.name := by
          have hlist := congrArg String.toList hf
          rw [String.toList_append, String.toList_append] at hlist
          exact String.toList_injective (List.append_cancel_right hlist)
        exact absurd hsame.symm (hnone s hs)
      · cases hdoubt
    obtain ⟨spot, hspot⟩ :
        ∃ spot, walk t .look links folder [name ++ c.layout.extension] = .ok spot :=
      exists_walk_name hne hshort fun target hlink => nomatch honly _ hlink
    rw [hspot]
    rcases walk_name_cases hspot with
      ⟨route, rfl⟩ | ⟨_, _, ⟨_, rfl⟩ | ⟨body, hfile, _⟩ | ⟨target, hlink⟩⟩
    · rfl
    · rfl
    · cases honly _ hfile
    · cases honly _ hlink
  · exact absurd h.leads (hno folder)

/-! ## Filling a shelf -/

/-- What is new elsewhere makes no difference. -/
theorem kept {t' : FileTree} {place : Route → Prop} (h : Shelf t c root specs doubtful folder)
    (he : Extends t t' place) (hfree : ∀ fileName, ¬ place (folder ++ [fileName])) :
    Shelf t' c root specs doubtful folder where
  leads := resolve_grows_directory he.grows h.leads
  files s hs := he.kept _ _ (h.files s hs)
  only fileName i hi := by
    rcases he.new _ i hi with hold | hd | ⟨_, hplace⟩
    · exact h.only fileName i hold
    · exact .inl hd
    · exact absurd hplace (hfree fileName)
  valid := h.valid
  walkable := h.walkable

/-- More directories make no difference. -/
theorem adds {t' : FileTree} (h : Shelf t c root specs doubtful folder) (ha : Adds t t') :
    Shelf t' c root specs doubtful folder :=
  h.kept (ha.extends fun _ => False) fun _ => id

/-- The order of the specifications makes no difference either. -/
theorem of_mem_iff {specs' : List Specification} (h : Shelf t c root specs doubtful folder)
    (hsame : ∀ s, s ∈ specs' ↔ s ∈ specs) : Shelf t c root specs' doubtful folder where
  leads := h.leads
  files s hs := h.files s ((hsame s).1 hs)
  only fileName i hi := by
    rcases h.only fileName i hi with hd | ⟨s, hs, he⟩ | hdoubt
    · exact .inl hd
    · exact .inr (.inl ⟨s, (hsame s).2 hs, he⟩)
    · exact .inr (.inr hdoubt)
  valid s hs := h.valid s ((hsame s).1 hs)
  walkable s hs := h.walkable s ((hsame s).1 hs)

/-- The file of another name is another file. -/
theorem other_file {t' : FileTree} {n n' : String} {body : Bytes}
    (hf : WithFile t (folder ++ [n ++ c.layout.extension]) body t') (hne : n' ≠ n) :
    t'.item? (folder ++ [n' ++ c.layout.extension])
      = t.item? (folder ++ [n' ++ c.layout.extension]) := by
  refine hf.other fun he => hne ?_
  exact (String.append_left_inj _).1 (List.singleton_inj.1 (List.append_cancel_left he))

/-- A descriptor that is written takes the place of the one of its name, whose file is not in
doubt then. -/
theorem withFile {t' : FileTree} {specs' : List Specification} {doubtful' : List String}
    {s : Specification} (h : Shelf t c root specs doubtful folder)
    (hf : WithFile t (folder ++ [s.name ++ c.layout.extension]) (c.encode s) t')
    (hvalid : c.rules.isValid s.name = true)
    (hwalkable : Walkable (PathText.join root c.layout.directory ++ "/"
      ++ (s.name ++ c.layout.extension)))
    (hspecs : ∀ s', s' ∈ specs' ↔ s' = s ∨ s' ∈ specs ∧ s'.name ≠ s.name)
    (hdoubtful : ∀ n ∈ doubtful, n ≠ s.name → n ∈ doubtful') :
    Shelf t' c root specs' doubtful' folder where
  leads := resolve_grows_directory hf.grows h.leads
  files s' hs' := by
    rcases (hspecs s').1 hs' with rfl | ⟨hin, hne⟩
    · exact hf.item?
    · exact (other_file hf hne).trans (h.files s' hin)
  only fileName i hi := by
    by_cases hname : fileName = s.name ++ c.layout.extension
    · exact .inr (.inl ⟨s, (hspecs s).2 (.inl rfl), hname⟩)
    · rw [hf.other fun he => hname (List.singleton_inj.1 (List.append_cancel_left he))] at hi
      rcases h.only fileName i hi with hd | ⟨s', hin, he⟩ | ⟨n, hn, he, hbody⟩
      · exact .inl hd
      · exact .inr (.inl ⟨s', (hspecs s').2 (.inr ⟨hin, fun hsame => hname (hsame ▸ he)⟩), he⟩)
      · exact .inr (.inr ⟨n, hdoubtful n hn fun hsame => hname (hsame ▸ he), he, hbody⟩)
  valid s' hs' := by
    rcases (hspecs s').1 hs' with rfl | ⟨hin, _⟩
    · exact hvalid
    · exact h.valid s' hin
  walkable s' hs' := by
    rcases (hspecs s').1 hs' with rfl | ⟨hin, _⟩
    · exact hwalkable
    · exact h.walkable s' hin

/-- A name can be put in doubt whatever its file holds. -/
theorem doubt {specs' : List Specification} {n : String}
    (h : Shelf t c root specs doubtful folder)
    (hspecs : ∀ s, s ∈ specs' ↔ s ∈ specs ∧ s.name ≠ n) :
    Shelf t c root specs' (n :: doubtful) folder where
  leads := h.leads
  files s hs := h.files s ((hspecs s).1 hs).1
  only fileName i hi := by
    rcases h.only fileName i hi with hd | ⟨s, hin, rfl⟩ | ⟨n', hn', he⟩
    · exact .inl hd
    · by_cases hname : s.name = n
      · have hfile := Option.some.inj (hi.symm.trans (h.files s hin))
        exact .inr (.inr ⟨n, List.mem_cons_self, hname ▸ rfl, _, hfile⟩)
      · exact .inr (.inl ⟨s, (hspecs s).2 ⟨hin, hname⟩, rfl⟩)
    · exact .inr (.inr ⟨n', List.mem_cons_of_mem _ hn', he⟩)
  valid s hs := h.valid s ((hspecs s).1 hs).1
  walkable s hs := h.walkable s ((hspecs s).1 hs).1

/-- Whatever is written to the file of a name, the others stand as they did. -/
theorem withBroken {t' : FileTree} {specs' : List Specification} {n : String} {body : Bytes}
    (h : Shelf t c root specs doubtful folder)
    (hf : WithFile t (folder ++ [n ++ c.layout.extension]) body t')
    (hspecs : ∀ s, s ∈ specs' ↔ s ∈ specs ∧ s.name ≠ n) :
    Shelf t' c root specs' (n :: doubtful) folder where
  leads := resolve_grows_directory hf.grows h.leads
  files s hs := by
    obtain ⟨hin, hne⟩ := (hspecs s).1 hs
    exact (other_file hf hne).trans (h.files s hin)
  only fileName i hi := by
    by_cases hname : fileName = n ++ c.layout.extension
    · subst hname
      exact .inr (.inr ⟨n, List.mem_cons_self, rfl, body, Option.some.inj (hi.symm.trans hf.item?)⟩)
    · rw [hf.other fun he => hname (List.singleton_inj.1 (List.append_cancel_left he))] at hi
      exact (h.doubt hspecs).only fileName i hi
  valid s hs := h.valid s ((hspecs s).1 hs).1
  walkable s hs := h.walkable s ((hspecs s).1 hs).1

end Shelf

/-- A directory that was not there before is empty, whatever names are in doubt. -/
theorem shelf_of_new {t' : FileTree} (ha : Adds t t') (hnew : t.item? folder = none)
    (hleads : t'.resolve .look (PathText.join root c.layout.directory)
      = .ok (.item folder .directory)) :
    Shelf t' c root [] doubtful folder where
  leads := hleads
  files _ hs := absurd hs List.not_mem_nil
  only fileName i hi := by
    rcases ha.items (folder ++ [fileName]) with he | ⟨_, hd⟩
    · rw [he, item?_below_eq_none hnew] at hi
      cases hi
    · rw [hi] at hd
      exact .inl (Option.some.inj hd)
  valid _ hs := absurd hs List.not_mem_nil
  walkable _ hs := absurd hs List.not_mem_nil

end SpecCatalog
