import SpecCatalog.Proofs.FileTree.Below

/-!
# The root of a path

A path that is joined to a root and leads somewhere is walked through the root, so the root
leads to a directory (`resolve_root`). The root may end in a slash that divides it from the rest:
the walk of the root alone comes to an empty part then, and an empty part leaves a walk that
looks in the directory where it is (`Walks.slash`).
-/

namespace SpecCatalog.FileTree

variable {t : FileTree} {links : Nat} {here r : Route} {parts : List String} {root rel : String}

/-- With more to come a walk that goes down or follows a link does so still. -/
theorem moveAt_look_append {part : String} {rest : List String} (more : List String)
    (h : ∀ outcome, moveAt t .look here part rest ≠ .ends outcome) :
    moveAt t .look here part (rest ++ more) = moveAt t .look here part rest := by
  cases hmove : moveAt t .look here part rest with
  | ends outcome => exact absurd hmove (h outcome)
  | down =>
    obtain ⟨hseeks, hd⟩ := moveAt_eq_down_iff.1 hmove
    exact moveAt_eq_down_iff.2 ⟨⟨nofun, hseeks.short⟩, hd⟩
  | follow target =>
    obtain ⟨hseeks, hl, _⟩ := moveAt_eq_follow_iff.1 hmove
    exact moveAt_eq_follow_iff.2 ⟨⟨nofun, hseeks.short⟩, hl, fun haim => nomatch haim.2⟩

/-- A walk that comes to a directory comes to it with a slash at its end too. -/
theorem Walks.slash (h : Walks t .look links here parts (.ok (.item r .directory))) :
    Walks t .look links here (parts ++ [""]) (.ok (.item r .directory)) := by
  generalize houtcome : Except.ok (Spot.item r .directory) = outcome at h
  induction h with
  | done => exact .dot (.inl rfl) .done
  | dot hdot _ ih => exact .dot hdot (ih houtcome)
  | up _ ih => exact .up (ih houtcome)
  | ends _ hmove =>
    subst houtcome
    exact absurd (moveAt_eq_item_iff.1 hmove).2.2.2.2 not_false
  | down hname hmove _ ih =>
    exact .down hname ((moveAt_look_append _ (by rw [hmove]; nofun)).trans hmove) (ih houtcome)
  | follow hname hmove _ ih =>
    refine .follow hname ((moveAt_look_append _ (by rw [hmove]; nofun)).trans hmove) ?_
    rw [List.append_assoc] at ih
    exact ih houtcome
  | spent => cases houtcome

/-- A relative path does not begin with an empty part. -/
theorem exists_parts_of_relative (hne : rel ≠ "") (hrel : PathText.isAbsolute rel = false) :
    ∃ part rest, PathText.parts rel = part :: rest ∧ part ≠ "" := by
  unfold PathText.isAbsolute at hrel
  unfold PathText.parts
  cases hchars : rel.toList with
  | nil => exact absurd (String.toList_injective hchars) hne
  | cons ch cs =>
    have hch : ch ≠ '/' := by
      rintro rfl
      rw [hchars] at hrel
      cases hrel
    cases hcs : PathText.segments cs with
    | nil => exact absurd hcs (PathText.segments_ne_nil cs)
    | cons first more =>
      refine ⟨String.ofList (ch :: first), more.map String.ofList, ?_, ?_⟩
      · rw [PathText.segments_cons hch hcs, List.map_cons]
      · intro hempty
        have hlist := congrArg String.toList hempty
        rw [String.toList_ofList] at hlist
        cases hlist

/-- A walk that goes on by a part went through a directory. -/
theorem exists_directory_of_walk {part : String} {before rest : List String} {spot : Spot}
    (hpart : part ≠ "") (h : walk t .look links here (before ++ part :: rest) = .ok spot) :
    ∃ r, walk t .look links here before = .ok (.item r .directory) := by
  rcases walk_passes t .look links here before with ⟨_, he⟩ | ⟨_, r, hd, _⟩
  · have hblocked := he part rest hpart
    dsimp only at hblocked
    rw [hblocked] at h
    cases h
  · exact ⟨r, hd⟩

/-- **The root of a path that leads somewhere leads to a directory.** -/
theorem resolve_root {spot : Spot} (hroot : root ≠ "") (hne : rel ≠ "")
    (hrel : PathText.isAbsolute rel = false)
    (h : t.resolve .look (PathText.join root rel) = .ok spot) :
    ∃ r, t.resolve .look root = .ok (.item r .directory) := by
  obtain ⟨part, rest, hparts, hpart⟩ := exists_parts_of_relative hne hrel
  obtain ⟨hwalkable, hwalk⟩ := resolve_eq_ok_iff.1 h
  unfold PathText.join at hwalkable hwalk
  rw [hrel, if_neg (by simpa using hroot)] at hwalkable hwalk
  by_cases hlast : root.toList.getLast? = some '/'
  · -- the root's own slash divides the two
    obtain ⟨front, hfront⟩ := List.getLast?_eq_some_iff.1 hlast
    obtain ⟨p, rfl⟩ : ∃ p, root = p ++ "/" := by
      refine ⟨String.ofList front, String.toList_injective ?_⟩
      rw [hfront, String.toList_append, String.toList_ofList]
      rfl
    rw [if_pos hlast] at hwalkable hwalk
    rw [parts_append_slash, hparts] at hwalk
    obtain ⟨r, hr⟩ := exists_directory_of_walk hpart hwalk
    have hends : PathText.parts (p ++ "/") = PathText.parts p ++ [""] := by
      have hparts := parts_append_slash p ""
      rw [String.append_empty] at hparts
      exact hparts
    have hstart : t.start (p ++ "/") = t.start (p ++ "/" ++ rel) := by
      unfold start
      rw [PathText.isAbsolute_append_slash]
    refine ⟨r, resolve_eq_ok_iff.2 ⟨⟨?_, hroot, ?_⟩, ?_⟩⟩
    · intro hnul
      refine hwalkable.no_nul ?_
      rw [String.toList_append]
      exact List.mem_append_left _ hnul
    · have hshort := hwalkable.short
      rw [String.utf8ByteSize_append] at hshort
      omega
    · rw [hends, hstart]
      exact (walk_eq_iff.1 hr).slash.walk_eq
  · rw [if_neg hlast] at hwalkable hwalk
    rw [parts_append_slash, hparts, start_below hroot] at hwalk
    obtain ⟨r, hr⟩ := exists_directory_of_walk hpart hwalk
    exact ⟨r, resolve_eq_ok_iff.2 ⟨hwalkable.above hroot, hr⟩⟩

end SpecCatalog.FileTree
