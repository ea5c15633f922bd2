import Mathlib.Data.List.Nodup
import Mathlib.Data.List.Perm.Subperm
import SpecCatalog.Proofs.Closure.Walk
import SpecCatalog.Proofs.FileTree.Passage
import SpecCatalog.Proofs.Layout.Paths
import SpecCatalog.Proofs.Lookup.Outcome

/-!
# A search path has room for finitely many names

Descriptors of different names stand at different places. In an archive each has an entry of
its own. In a directory all paths begin alike, so they lead to one directory of the tree,
wherever links take them, and each name has an item of its own there; only for two names the
path may go on by a dot part instead. So `nameBound` bounds the names a source can have,
`loadBound` the loads of a run, and resolving with it never comes to its bound
(`resolve?_loadBound`).
-/

namespace SpecCatalog

variable {t : FileTree} {c : Codec} {sources : SearchPath} {name : String}

/-! ## Names of one source -/

/-- The source has a descriptor of the name. -/
def Source.Has (t : FileTree) (c : Codec) (s : Source) (name : String) : Prop :=
  c.rules.isValid name = true ∧ ∃ l, s.locate t (c.layout.pathOf name) = .ok (some l)

theorem length_le_of_archive {s : Source} {names : List String} {a : Archive}
    (hs : s.kind = .archive) (ha : openArchive t s.path = .ok a) (hnodup : names.Nodup)
    (h : ∀ n ∈ names, s.Has t c n) : names.length ≤ a.entries.length := by
  have hsub : names.map c.layout.pathOf ⊆ a.entries.map (·.name) := by
    intro path hm
    obtain ⟨n, hn, rfl⟩ := List.mem_map.1 hm
    obtain ⟨_, l, hl⟩ := h n hn
    obtain ⟨_, a', e, ha', he⟩ := Source.locate_archive hs hl
    rw [ha] at ha'
    cases ha'
    unfold Archive.find? at he
    exact List.mem_map.2 ⟨e, List.mem_of_find?_eq_some he, by simpa using List.find?_some he⟩
  have hinj : Function.Injective c.layout.pathOf := fun _ _ => pathOf_injective c.layout
  have hle := ((List.Nodup.map hinj hnodup).subperm hsub).length_le
  rwa [List.length_map, List.length_map] at hle

/-- The walk to the descriptor of a name ends at an item. -/
theorem walk_of_has {s : Source} {front : String} {first : List Char} {rest : List (List Char)}
    (hs : s.kind = .directory)
    (hfront : PathText.join s.path (c.layout.pathOf name)
      = front ++ "/" ++ name ++ c.layout.extension)
    (hext : PathText.segments c.layout.extension.toList = first :: rest) (h : s.Has t c name) :
    ∃ route i, t.walk .look FileTree.linkLimit
      (if PathText.isAbsolute (front ++ "/") then [] else t.home)
      (PathText.parts front
        ++ String.ofList (name.toList ++ first) :: rest.map String.ofList)
      = .ok (.item route i) := by
  obtain ⟨hvalid, l, hl⟩ := h
  obtain ⟨_, body, hf⟩ := Source.locate_directory hs hl
  rw [hfront] at hf
  unfold FileTree.status at hf
  obtain ⟨spot, hspot, hf⟩ := bind_eq_ok_iff.1 hf
  have habs : PathText.isAbsolute (front ++ "/" ++ name ++ c.layout.extension)
      = PathText.isAbsolute (front ++ "/") := by
    rw [String.append_assoc, PathText.isAbsolute_append_slash]
  unfold FileTree.resolve at hspot
  rw [habs, parts_pathOf hext (slash_not_mem_of_isValid hvalid)] at hspot
  -- three texts are refused before the walk: with a null character, empty and too long ones
  split at hspot
  · cases hspot
  · split at hspot
    · cases hspot
    · split at hspot
      · cases hspot
      · have hwalk := mapError_eq_ok_iff.1 hspot
        cases spot with
        | item route i => exact ⟨route, i, hwalk⟩
        | vacant folder n => cases hf

/-- All descriptors of a directory source are in one directory of the tree, each under a
name of its own; dot parts lead elsewhere. -/
theorem exists_folder {s : Source} {first : List Char} {rest : List (List Char)}
    (hs : s.kind = .directory)
    (hext : PathText.segments c.layout.extension.toList = first :: rest) :
    ∃ here : Route, ∀ n, s.Has t c n →
      here ++ [String.ofList (n.toList ++ first)]
        ∈ (here ++ ["."]) :: (here ++ [".."]) :: t.entries.map (·.1) := by
  obtain ⟨front, hfront⟩ := join_pathOf c.layout s.path
  have hpart : ∀ n, s.Has t c n → String.ofList (n.toList ++ first) ≠ "" := by
    intro n hn he
    have := congrArg String.toList he
    rw [String.toList_ofList] at this
    exact toList_ne_nil_of_isValid hn.1 (List.append_eq_nil_iff.1 this).1
  have hpass := FileTree.walk_passes t .look FileTree.linkLimit
    (if PathText.isAbsolute (front ++ "/") then [] else t.home) (PathText.parts front)
  unfold FileTree.Passes at hpass
  dsimp only at hpass
  rcases hpass with ⟨_, he⟩ | ⟨links, here, _, hon⟩
  · -- the directory is not there, and so no name is
    refine ⟨[], fun n hn => ?_⟩
    obtain ⟨route, i, hw⟩ := walk_of_has hs (hfront n) hext hn
    rw [he _ _ (hpart n hn)] at hw
    cases hw
  · refine ⟨here, fun n hn => ?_⟩
    obtain ⟨route, i, hw⟩ := walk_of_has hs (hfront n) hext hn
    rw [hon _ _ (hpart n hn)] at hw
    by_cases hdot : String.ofList (n.toList ++ first) = "."
    · rw [hdot]
      exact List.mem_cons_self
    · by_cases hup : String.ofList (n.toList ++ first) = ".."
      · rw [hup]
        exact List.mem_cons_of_mem _ List.mem_cons_self
      · refine List.mem_cons_of_mem _ (List.mem_cons_of_mem _ ?_)
        have hne : ¬ (String.ofList (n.toList ++ first) = ""
            ∨ String.ofList (n.toList ++ first) = ".") := not_or.2 ⟨hpart n hn, hdot⟩
        exact FileTree.mem_entries_of_item? (by simp) (FileTree.item?_of_walk hw hne hup)

theorem length_le_of_directory {s : Source} {names : List String}
    (hs : s.kind = .directory) (hnodup : names.Nodup) (h : ∀ n ∈ names, s.Has t c n) :
    names.length ≤ t.entries.length + 2 := by
  cases hext : PathText.segments c.layout.extension.toList with
  | nil => exact absurd hext (PathText.segments_ne_nil _)
  | cons first rest =>
      obtain ⟨here, hhere⟩ := exists_folder (t := t) hs hext
      have hsub : names.map (fun n => here ++ [String.ofList (n.toList ++ first)])
          ⊆ (here ++ ["."]) :: (here ++ [".."]) :: t.entries.map (·.1) := by
        intro r hm
        obtain ⟨n, hn, rfl⟩ := List.mem_map.1 hm
        exact hhere n (h n hn)
      -- what the extension adds to the part is the same for all names
      have hinj : Function.Injective fun n : String =>
          here ++ [String.ofList (n.toList ++ first)] := by
        intro n m he
        have hl := String.ofList_injective (List.singleton_inj.1 (List.append_cancel_left he))
        exact String.toList_injective (List.append_cancel_right hl)
      have hle := ((List.Nodup.map hinj hnodup).subperm hsub).length_le
      simpa using hle

/-- **No source has more names than its bound.** -/
theorem length_le_nameBound {s : Source} {names : List String} (hnodup : names.Nodup)
    (h : ∀ n ∈ names, s.Has t c n) : names.length ≤ s.nameBound t := by
  unfold Source.nameBound
  split
  · rename_i hs
    exact length_le_of_directory hs hnodup h
  · rename_i hs
    split
    · rename_i a ha
      exact length_le_of_archive hs ha hnodup h
    · -- an archive that does not open has no names
      rename_i e ha
      cases names with
      | nil => exact Nat.le_refl _
      | cons n names =>
          obtain ⟨_, l, hl⟩ := h n List.mem_cons_self
          obtain ⟨_, a, _, ha', _⟩ := Source.locate_archive hs hl
          rw [ha] at ha'
          cases ha'

/-! ## Names of a search path -/

open Classical in
/-- The names that a search path has leave room for one more load. -/
theorem length_lt_loadBound {names : List String} (hnodup : names.Nodup)
    (h : ∀ n ∈ names, ∃ s ∈ sources, s.Has t c n) : names.length < sources.loadBound t := by
  induction sources generalizing names with
  | nil =>
      cases names with
      | nil => exact Nat.one_pos
      | cons n names =>
          obtain ⟨s, hs, _⟩ := h n List.mem_cons_self
          exact absurd hs List.not_mem_nil
  | cons s rest ih =>
      -- names of the first source are counted there, all others in the rest
      have hhere : (names.filter fun n => s.Has t c n).length ≤ s.nameBound t :=
        length_le_nameBound (c := c) (hnodup.filter _) fun n hn => by
          simpa using (List.mem_filter.1 hn).2
      have hothers : (names.filter fun n => !decide (s.Has t c n)).length
          < SearchPath.loadBound t rest := by
        refine ih (hnodup.filter _) fun n hn => ?_
        obtain ⟨hn, hnot⟩ := List.mem_filter.1 hn
        obtain ⟨s', hs', hhas⟩ := h n hn
        rcases List.mem_cons.1 hs' with rfl | hs'
        · simp [hhas] at hnot
        · exact ⟨s', hs', hhas⟩
      have hlen := List.length_eq_length_filter_add (l := names) fun n => decide (s.Has t c n)
      show names.length < s.nameBound t + SearchPath.loadBound t rest
      omega

/-- A place is in one of the sources. -/
theorem Locates.exists_source {path : String} {ls : List Location} {l : Location}
    (h : Locates t path sources ls) (hl : l ∈ ls) :
    ∃ s ∈ sources, s.locate t path = .ok (some l) := by
  induction h with
  | nil => exact absurd hl List.not_mem_nil
  | missing _ _ ih =>
      obtain ⟨s, hs, hloc⟩ := ih hl
      exact ⟨s, List.mem_cons_of_mem _ hs, hloc⟩
  | @found s sources l' ls hs _ ih =>
      rcases List.mem_cons.1 hl with rfl | hl
      · exact ⟨s, List.mem_cons_self, hs⟩
      · obtain ⟨s, hs, hloc⟩ := ih hl
        exact ⟨s, List.mem_cons_of_mem _ hs, hloc⟩

/-- A name that loads has a source. -/
theorem has_of_lookup_ok {s : Specification} (h : sources.lookup t c name = .ok s) :
    ∃ source ∈ sources, source.Has t c name := by
  obtain ⟨hvalid, ls, hl, hne, _⟩ := lookup_ok h
  obtain ⟨l, hin⟩ := List.exists_mem_of_ne_nil ls hne
  obtain ⟨source, hs, hloc⟩ := hl.exists_source hin
  exact ⟨source, hs, hvalid, l, hloc⟩

/--
**The bound of a search path is enough.**

Whatever the names and however they depend on each other, resolving them gives what a run
gives that may make that many loads, and such a run answers.
-/
theorem resolve?_loadBound (t : FileTree) (c : Codec) (sources : SearchPath)
    (requested : List String) :
    Closure.resolve? (sources.lookup t c) (sources.loadBound t) requested
      = some (sources.resolve t c requested) := by
  have hrun : (Closure.run? (sources.lookup t c) (sources.loadBound t) requested).isSome := by
    refine Closure.run?_isSome fun p name rest hp _ => ?_
    -- each name taken was looked up with success, so some source has it
    refine length_lt_loadBound (c := c) hp.distinct fun n hn => ?_
    obtain ⟨e, he, rfl⟩ := List.mem_map.1 hn
    exact has_of_lookup_ok (hp.loads e he)
  unfold SearchPath.resolve
  obtain ⟨r, hr⟩ := Option.isSome_iff_exists.1 hrun
  unfold Closure.resolve?
  rw [hr]
  rfl

end SpecCatalog
