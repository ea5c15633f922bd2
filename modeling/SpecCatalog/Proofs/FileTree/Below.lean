import SpecCatalog.Error
import SpecCatalog.Proofs.FileTree.Items
import SpecCatalog.Proofs.FileTree.Passage

/-!
# Paths with one name more

A path that goes one name further than another is walked to the other's directory first, and
then its last name decides (`resolve_below`). What stands under that name in the directory is
where the walk ends, unless it is a link (`walk_name_file`, `walk_name_cases`).
-/

namespace SpecCatalog.FileTree

variable {t : FileTree} {aim : Aim} {links : Nat} {here : Route} {name path : String}

/-! ## Parts of a path -/

theorem parts_append_slash (before after : String) :
    PathText.parts (before ++ "/" ++ after) = PathText.parts before ++ PathText.parts after := by
  have hlist : (before ++ "/" ++ after).toList = before.toList ++ '/' :: after.toList := by
    simp [String.toList_append]
  unfold PathText.parts
  rw [hlist, PathText.segments_append_slash, List.map_append]

theorem parts_of_no_slash (h : '/' ∉ name.toList) : PathText.parts name = [name] := by
  unfold PathText.parts
  rw [PathText.segments_of_no_slash h, List.map_singleton, String.ofList_toList]

theorem parts_below (hslash : '/' ∉ name.toList) (p : String) :
    PathText.parts (p ++ "/" ++ name) = PathText.parts p ++ [name] := by
  rw [parts_append_slash, parts_of_no_slash hslash]

/-! ## The end of a walk -/

/-- The walk ends at dots in a directory, and else at what stands under the name. -/
theorem walk_name_cases {spot : Spot} (h : walk t aim links here [name] = .ok spot) :
    (∃ route, spot = .item route .directory)
      ∨ Plain name ∧ name.utf8ByteSize ≤ nameLimit ∧
        ((t.item? (here ++ [name]) = none ∧ spot = .vacant here name)
          ∨ (∃ body, t.item? (here ++ [name]) = some (.file body)
              ∧ spot = .item (here ++ [name]) (.file body))
          ∨ ∃ target, t.item? (here ++ [name]) = some (.link target)) := by
  cases walk_eq_iff.1 h with
  | dot _ hrest => exact .inl ⟨_, Except.ok.inj (walks_nil_iff.1 hrest)⟩
  | up hrest => exact .inl ⟨_, Except.ok.inj (walks_nil_iff.1 hrest)⟩
  | down _ _ hrest => exact .inl ⟨_, Except.ok.inj (walks_nil_iff.1 hrest)⟩
  | ends hname hmove =>
    cases spot with
    | vacant folder free =>
      obtain ⟨hseeks, hnone, _, rfl, rfl⟩ := moveAt_eq_vacant_iff.1 hmove
      exact .inr ⟨hname, hseeks.short, .inl ⟨hnone, rfl⟩⟩
    | item route i =>
      obtain ⟨hseeks, hitem, _, rfl, hends⟩ := moveAt_eq_item_iff.1 hmove
      cases i with
      | directory => cases hends
      | file body => exact .inr ⟨hname, hseeks.short, .inr (.inl ⟨body, hitem, rfl⟩)⟩
      | link target => exact .inr ⟨hname, hseeks.short, .inr (.inr ⟨target, hitem⟩)⟩
  | follow hname hmove =>
    obtain ⟨hseeks, hlink, _⟩ := moveAt_eq_follow_iff.1 hmove
    exact .inr ⟨hname, hseeks.short, .inr (.inr ⟨_, hlink⟩)⟩

theorem walk_name_file {body : Bytes} (h : t.item? (here ++ [name]) = some (.file body)) :
    walk t aim links here [name] = .ok (.item (here ++ [name]) (.file body)) := by
  have hname := (below_of_item? h).2
  exact (Walks.ends (plain_of_isItemName hname) (moveAt_eq_item_iff.2
    ⟨seeks_nil.2 hname.2.2.2.2.2, h, last_nil, rfl, .inr rfl⟩)).walk_eq

/-- At its last name only a link can lead a walk astray. -/
theorem exists_walk_name (hname : name ≠ "") (hshort : name.utf8ByteSize ≤ nameLimit)
    (hlink : ∀ target, t.item? (here ++ [name]) ≠ some (.link target)) :
    ∃ spot, walk t aim links here [name] = .ok spot := by
  by_cases hplain : Plain name
  · rw [walk_name hplain, moveAt_of_seeks (seeks_nil.2 hshort)]
    cases hi : t.item? (here ++ [name]) with
    | none => exact ⟨_, rfl⟩
    | some i =>
      cases i with
      | directory => exact ⟨_, walk_nil⟩
      | file body => exact ⟨_, if_pos ⟨last_nil, .inr rfl⟩⟩
      | link target => exact absurd hi (hlink target)
  · -- dots lead to a directory
    by_cases hdot : name = "."
    · exact ⟨_, (walk_dot (.inr hdot)).trans walk_nil⟩
    · obtain rfl : name = ".." := Decidable.not_not.1 fun hup => hplain ⟨hname, hdot, hup⟩
      exact ⟨_, walk_up.trans walk_nil⟩

/-! ## Where paths lead -/

/-- What a text must be for a path to be walked at all. -/
structure Walkable (path : String) : Prop where
  no_nul : '\x00' ∉ path.toList
  ne_empty : path ≠ ""
  short : path.utf8ByteSize < pathLimit

/-- Where the walk of a path starts. -/
def start (t : FileTree) (path : String) : Route :=
  if PathText.isAbsolute path then [] else t.home

theorem resolve_of_walkable (h : Walkable path) :
    t.resolve aim path
      = (walk t aim linkLimit (t.start path) (PathText.parts path)).mapError .os := by
  unfold resolve
  rw [if_neg (by simpa using h.no_nul), if_neg (by simpa using h.ne_empty),
    if_neg (Nat.not_le.2 h.short)]
  rfl

theorem resolve_eq_ok_iff {spot : Spot} : t.resolve aim path = .ok spot ↔
    Walkable path ∧ walk t aim linkLimit (t.start path) (PathText.parts path) = .ok spot := by
  constructor
  · intro h
    have hwalkable : Walkable path := by
      unfold resolve at h
      split at h
      · cases h
      split at h
      · cases h
      split at h
      · cases h
      · rename_i hnul hempty hlong
        exact ⟨by simpa using hnul, by simpa using hempty, Nat.not_le.1 hlong⟩
    rw [resolve_of_walkable hwalkable] at h
    exact ⟨hwalkable, mapError_eq_ok_iff.1 h⟩
  · rintro ⟨hwalkable, hwalk⟩
    rw [resolve_of_walkable hwalkable, hwalk]
    rfl

theorem status_of_resolve {r : Route} {i : Item} (h : t.resolve .look path = .ok (.item r i)) :
    t.status path = .ok i := by
  unfold status
  rw [h]
  rfl

theorem exists_of_status {i : Item} (h : t.status path = .ok i) :
    ∃ r, t.resolve .look path = .ok (.item r i) := by
  unfold status at h
  obtain ⟨spot, hspot, h⟩ := bind_eq_ok_iff.1 h
  cases spot with
  | item r j =>
    cases h
    exact ⟨r, hspot⟩
  | vacant folder name => cases h

theorem start_below {p : String} (hp : p ≠ "") (name : String) :
    t.start (p ++ "/" ++ name) = t.start p := by
  have habs : PathText.isAbsolute (p ++ "/" ++ name) = PathText.isAbsolute p := by
    rw [PathText.isAbsolute_append_slash]
    unfold PathText.isAbsolute
    rw [String.toList_append]
    cases hlist : p.toList with
    | nil => exact absurd (String.toList_injective hlist) hp
    | cons c cs => rfl
  unfold start
  rw [habs]

theorem Walkable.above {p name : String} (hp : p ≠ "") (h : Walkable (p ++ "/" ++ name)) :
    Walkable p where
  no_nul hin := h.no_nul (by simp [String.toList_append, hin])
  ne_empty := hp
  short := by
    have := h.short
    rw [String.utf8ByteSize_append, String.utf8ByteSize_append] at this
    omega

theorem walkable_below {p : String} (hp : '\x00' ∉ p.toList) (hname : '\x00' ∉ name.toList)
    (hshort : (p ++ "/" ++ name).utf8ByteSize < pathLimit) : Walkable (p ++ "/" ++ name) where
  no_nul := by simp [String.toList_append, hp, hname]
  ne_empty hempty := by
    have hlist := congrArg String.toList hempty
    simp [String.toList_append] at hlist
  short := hshort

/-- If a walk ends at no directory, the reason ends a walk that goes on by a name. -/
theorem walk_blocked {before : List String} (hname : name ≠ "")
    (hno : ∀ r, walk t .look links here before ≠ .ok (.item r .directory)) :
    walk t aim links here (before ++ [name])
      = .error (blocked (walk t .look links here before)) := by
  rcases walk_passes t aim links here before with ⟨_, he⟩ | ⟨_, r, hd, _⟩
  · exact he name [] hname
  · exact absurd hd (hno r)

/-- **A path that goes on from another by a name is walked to the other's directory.** Without
such a directory it leads nowhere. -/
theorem resolve_below (t : FileTree) (aim : Aim) {p : String} (hp : p ≠ "")
    (hslash : '/' ∉ name.toList) (hname : name ≠ "") (h : Walkable (p ++ "/" ++ name)) :
    (∃ links here, t.resolve .look p = .ok (.item here .directory)
        ∧ t.resolve aim (p ++ "/" ++ name) = (walk t aim links here [name]).mapError .os)
      ∨ (∀ here, t.resolve .look p ≠ .ok (.item here .directory))
        ∧ ∃ e, t.resolve aim (p ++ "/" ++ name) = .error (.os e) := by
  rw [resolve_of_walkable h, resolve_of_walkable (h.above hp), parts_below hslash, start_below hp]
  rcases walk_passes t aim linkLimit (t.start p) (PathText.parts p) with
    ⟨hne, _⟩ | ⟨links, here, hd, hgo⟩
  · refine .inr ⟨fun here hwalk => hne here (mapError_eq_ok_iff.1 hwalk),
      blocked (walk t .look linkLimit (t.start p) (PathText.parts p)), ?_⟩
    rw [walk_blocked hname hne]
    rfl
  · have hgoes : walk t aim linkLimit (t.start p) (PathText.parts p ++ [name])
        = walk t aim links here [name] := hgo name [] hname
    refine .inl ⟨links, here, ?_, ?_⟩
    · rw [hd]
      rfl
    · rw [hgoes]

/-- Where a path with one name more leads, its directory is there. -/
theorem exists_of_resolve_below {p : String} {spot : Spot} (hp : p ≠ "")
    (hslash : '/' ∉ name.toList) (hname : name ≠ "")
    (h : t.resolve aim (p ++ "/" ++ name) = .ok spot) :
    ∃ links here, t.resolve .look p = .ok (.item here .directory)
      ∧ walk t aim links here [name] = .ok spot := by
  rcases resolve_below t aim hp hslash hname (resolve_eq_ok_iff.1 h).1 with
    ⟨links, here, hd, hwalk⟩ | ⟨_, e, he⟩
  · exact ⟨links, here, hd, mapError_eq_ok_iff.1 (hwalk.symm.trans h)⟩
  · rw [he] at h
    cases h

/-- Below a path that leads nowhere nothing is found, for the same reason. -/
theorem status_below_of_error {p : String} {e : OsError} (hp : p ≠ "")
    (hslash : '/' ∉ name.toList) (hname : name ≠ "") (h : Walkable (p ++ "/" ++ name))
    (he : t.status p = .error (.os e)) : t.status (p ++ "/" ++ name) = .error (.os e) := by
  unfold status at he ⊢
  rw [resolve_of_walkable (h.above hp)] at he
  rw [resolve_of_walkable h, parts_below hslash, start_below hp]
  cases hwalk : walk t .look linkLimit (t.start p) (PathText.parts p) with
  | error e' =>
    rw [hwalk] at he
    cases he
    rw [walk_blocked hname (by rw [hwalk]; nofun), hwalk]
    rfl
  | ok spot =>
    rw [hwalk] at he
    cases spot with
    | item r i => cases he
    | vacant folder free =>
      -- a free place and a place that cannot be reached are told alike
      cases he
      rw [walk_blocked hname (by rw [hwalk]; nofun), hwalk]
      rfl

/-- Nothing stands below what is no directory. -/
theorem status_below_of_item {p : String} {i : Item} (hp : p ≠ "")
    (hslash : '/' ∉ name.toList) (hname : name ≠ "") (h : Walkable (p ++ "/" ++ name))
    (hi : t.status p = .ok i) (hno : i ≠ .directory) :
    t.status (p ++ "/" ++ name) = .error (.os .notDirectory) := by
  unfold status at hi ⊢
  rw [resolve_of_walkable (h.above hp)] at hi
  rw [resolve_of_walkable h, parts_below hslash, start_below hp]
  cases hwalk : walk t .look linkLimit (t.start p) (PathText.parts p) with
  | error e' =>
    rw [hwalk] at hi
    cases hi
  | ok spot =>
    rw [hwalk] at hi
    cases spot with
    | item r j =>
      cases hi
      have hother : ∀ r', walk t .look linkLimit (t.start p) (PathText.parts p)
          ≠ .ok (.item r' .directory) := by
        rw [hwalk]
        rintro r' hd
        cases hd
        exact hno rfl
      rw [walk_blocked hname hother, hwalk]
      rfl
    | vacant folder free => cases hi

/-- A file in the directory is where the path leads. -/
theorem resolve_below_file {p : String} {body : Bytes} (hp : p ≠ "")
    (hslash : '/' ∉ name.toList) (hname : name ≠ "") (h : Walkable (p ++ "/" ++ name))
    (hd : t.resolve .look p = .ok (.item here .directory))
    (hfile : t.item? (here ++ [name]) = some (.file body)) :
    t.resolve aim (p ++ "/" ++ name) = .ok (.item (here ++ [name]) (.file body)) := by
  rcases resolve_below t aim hp hslash hname h with
    ⟨links, here', hd', hwalk⟩ | ⟨hne, _⟩
  · rw [hd] at hd'
    cases hd'
    rw [hwalk, walk_name_file hfile]
    rfl
  · exact absurd hd (hne here)

end SpecCatalog.FileTree
