import Mathlib.Data.List.Induction
import SpecCatalog.Proofs.FileTree.Dots

/-!
# Paths down into a directory

A path that is joined to a root begins where the root leads (`parts_join`). Below a directory
without links a walk can only go down, so it leads to what the tree has at the route of its
parts and to nothing else (`walk_down_iff`, `resolve_join_iff`). The names on a route do not
hold a slash, so a route can be written as a path and read off the path again (`parts_path`),
and the files below a directory are told apart by their paths (`mem_filesBelow`).
-/

namespace SpecCatalog

/-- The names with slashes between them. -/
def Route.path (r : Route) : String := "/".intercalate r

namespace FileTree

variable {t : FileTree} {top q r : Route} {root rel : String} {i : Item}

/-! ## What stands above and below -/

/-- Only a directory has something below it. -/
theorem item?_above (h : t.item? (top ++ q) = some i) (hq : q ≠ []) :
    t.item? top = some .directory := by
  induction q using List.reverseRecOn generalizing i with
  | nil => exact absurd rfl hq
  | append_singleton q name ih =>
    rw [← List.append_assoc] at h
    have habove := (below_of_item? h).1
    by_cases hq : q = []
    · rw [hq, List.append_nil] at habove
      exact habove
    · exact ih habove hq

theorem isItemName_of_item? (h : t.item? (top ++ q) = some i) : ∀ name ∈ q, IsItemName name := by
  induction q using List.reverseRecOn generalizing i with
  | nil => simp
  | append_singleton q name ih =>
    rw [← List.append_assoc] at h
    obtain ⟨habove, hname⟩ := below_of_item? h
    intro n hn
    rcases List.mem_append.1 hn with hn | hn
    · exact ih habove n hn
    · rw [List.mem_singleton.1 hn]
      exact hname

theorem mem_below : (q, i) ∈ t.below top ↔ q ≠ [] ∧ t.item? (top ++ q) = some i := by
  unfold below
  rw [List.mem_filterMap]
  constructor
  · rintro ⟨e, he, hfound⟩
    split at hfound
    · rename_i hbelow
      cases hfound
      rw [Bool.and_eq_true, decide_eq_true_eq] at hbelow
      obtain ⟨rest, hrest⟩ := List.isPrefixOf_iff_prefix.1 hbelow.1
      have hitem := item?_of_mem he
      rw [← hrest] at hitem hbelow ⊢
      rw [List.drop_left]
      refine ⟨?_, hitem⟩
      rintro rfl
      simp at hbelow
    · cases hfound
  · rintro ⟨hq, hitem⟩
    refine ⟨(top ++ q, i), mem_entries_of_item?_eq_some (by simp [hq]) hitem, ?_⟩
    have hbelow :
        (top.isPrefixOf (top ++ q) && decide (top.length < (top ++ q).length)) = true := by
      rw [isPrefixOf_eq_true (List.prefix_append top q)]
      simpa using List.length_pos_iff.2 hq
    dsimp only
    rw [if_pos hbelow, List.drop_left]

/-! ## Going down -/

/-- There are no links below the route. -/
def LinkFree (t : FileTree) (top : Route) : Prop :=
  ∀ q target, t.item? (top ++ q) ≠ some (.link target)

theorem LinkFree.below (h : t.LinkFree top) (name : String) : t.LinkFree (top ++ [name]) := by
  intro q target
  rw [List.append_assoc]
  exact h ([name] ++ q) target

theorem linkFree_of_below (hd : t.item? top = some .directory)
    (h : ∀ x ∈ t.below top, ∀ target, x.2 ≠ .link target) : t.LinkFree top := by
  intro q target hlink
  by_cases hq : q = []
  · rw [hq, List.append_nil, hd] at hlink
    cases hlink
  · exact h _ (mem_below.2 ⟨hq, hlink⟩) target rfl

/-- Without links a walk goes down to what it finds. -/
theorem Walks.route_eq {links : Nat} (h : Walks t .look links top q (.ok (.item r i)))
    (hlinks : t.LinkFree top) (hq : ∀ part ∈ q, Plain part) : r = top ++ q := by
  induction q generalizing top with
  | nil =>
    cases h
    rw [List.append_nil]
  | cons part rest ih =>
    obtain ⟨hpart, hrest⟩ := List.forall_mem_cons.1 hq
    cases h with
    | dot hdot => exact absurd hdot (not_or.2 ⟨hpart.1, hpart.2.1⟩)
    | up => exact absurd rfl hpart.2.2
    | ends _ hmove =>
      obtain ⟨_, _, _, rfl, hends⟩ := moveAt_eq_item_iff.1 hmove
      rw [((endsAt_iff (by decide)).1 hends).1]
    | down _ _ hdown =>
      rw [ih hdown (hlinks.below part) hrest, List.append_assoc, List.singleton_append]
    | follow _ hmove => exact absurd (moveAt_eq_follow_iff.1 hmove).2.1 (hlinks [part] _)

/-- A walk goes down to what stands below, unless it is a link. -/
theorem walks_of_item? (links : Nat) (hd : t.item? top = some .directory)
    (hi : t.item? (top ++ q) = some i) (hlink : ∀ target, i ≠ .link target) :
    Walks t .look links top q (.ok (.item (top ++ q) i)) := by
  induction q generalizing top with
  | nil =>
    rw [List.append_nil] at hi ⊢
    cases hd.symm.trans hi
    exact .done
  | cons part rest ih =>
    have hname := isItemName_of_item? hi part List.mem_cons_self
    have hseeks : Seeks .look part rest := ⟨nofun, hname.2.2.2.2.2⟩
    have hsplit : top ++ part :: rest = top ++ [part] ++ rest := by simp
    by_cases hlast : t.item? (top ++ [part]) = some .directory
    · rw [hsplit] at hi ⊢
      exact .down (plain_of_isItemName hname) (moveAt_eq_down_iff.2 ⟨hseeks, hlast⟩) (ih hlast hi)
    · -- only a directory has something below it, so this is where the route ends
      obtain rfl : rest = [] := by
        by_contra hne
        exact hlast (item?_above (hsplit ▸ hi) hne)
      refine .ends (plain_of_isItemName hname)
        (moveAt_eq_item_iff.2 ⟨hseeks, hi, last_nil, rfl, ?_⟩)
      cases i with
      | directory => exact hlast hi
      | file body => exact .inr rfl
      | link target => exact absurd rfl (hlink target)

/-- Without links a walk leads to what the tree has at the route of its parts. -/
theorem walk_down_iff {links : Nat} (hlinks : t.LinkFree top) (hd : t.item? top = some .directory)
    (hq : ∀ part ∈ q, Plain part) :
    walk t .look links top q = .ok (.item r i) ↔ r = top ++ q ∧ t.item? r = some i := by
  rw [walk_eq_iff]
  constructor
  · intro h
    exact ⟨h.route_eq hlinks hq, h.item? hd⟩
  · rintro ⟨rfl, hi⟩
    refine walks_of_item? links hd hi ?_
    rintro target rfl
    exact hlinks q target hi

/-! ## Below a root -/

/-- Paths that are joined to a root begin alike. -/
theorem parts_join (t : FileTree) (root : String) :
    ∃ before here, ∀ rel, PathText.isAbsolute rel = false →
      PathText.parts (PathText.join root rel) = before ++ PathText.parts rel
        ∧ t.start (PathText.join root rel) = here := by
  have hslash : ∀ front : String, ∃ before here, ∀ rel,
      PathText.parts (front ++ "/" ++ rel) = before ++ PathText.parts rel
        ∧ t.start (front ++ "/" ++ rel) = here := by
    intro front
    refine ⟨PathText.parts front, t.start (front ++ "/"), fun rel => ⟨?_, ?_⟩⟩
    · exact parts_append_slash front rel
    · unfold start
      rw [PathText.isAbsolute_append_slash]
  by_cases hempty : root = ""
  · -- nothing is put before the path
    subst hempty
    refine ⟨[], t.home, fun rel hrel => ?_⟩
    unfold PathText.join start
    rw [hrel]
    exact ⟨rfl, if_neg (by simp [hrel])⟩
  · by_cases hlast : root.toList.getLast? = some '/'
    · -- the slash that divides the two is the root's own
      obtain ⟨front, hfront⟩ := List.getLast?_eq_some_iff.1 hlast
      obtain ⟨before, here, hall⟩ := hslash (String.ofList front)
      refine ⟨before, here, fun rel hrel => ?_⟩
      have hroot : root = String.ofList front ++ "/" := by
        apply String.toList_injective
        rw [hfront, String.toList_append, String.toList_ofList]
        rfl
      unfold PathText.join
      rw [hrel, if_neg (by simpa using hempty), if_pos hlast, hroot]
      exact hall rel
    · obtain ⟨before, here, hall⟩ := hslash root
      refine ⟨before, here, fun rel hrel => ?_⟩
      unfold PathText.join
      rw [hrel, if_neg (by simpa using hempty), if_neg hlast]
      exact hall rel

/-- The root leads to the directory; the empty root leads home. -/
def RootedAt (t : FileTree) (root : String) (top : Route) : Prop :=
  t.resolve .look (PathText.join root ".") = .ok (.item top .directory)

/-- **Below a root without links a path leads to the route of its parts.** -/
theorem resolve_join_iff (hroot : t.RootedAt root top) (hlinks : t.LinkFree top)
    (hrel : PathText.isAbsolute rel = false) (hplain : ∀ part ∈ PathText.parts rel, Plain part) :
    t.resolve .look (PathText.join root rel) = .ok (.item r i)
      ↔ Walkable (PathText.join root rel)
        ∧ r = top ++ PathText.parts rel ∧ t.item? r = some i := by
  obtain ⟨before, origin, hjoin⟩ := parts_join t root
  obtain ⟨hparts, hstart⟩ := hjoin rel hrel
  have htop := item?_of_resolve hroot
  have hdot : walk t .look linkLimit origin (before ++ ["."]) = .ok (.item top .directory) := by
    obtain ⟨hdotparts, hdotstart⟩ := hjoin "." (by decide)
    have halone : PathText.parts "." = ["."] := by decide
    rw [← halone, ← hdotparts, ← hdotstart]
    exact (resolve_eq_ok_iff.1 hroot).2
  rw [resolve_eq_ok_iff, hparts, hstart]
  refine and_congr_right fun _ => ?_
  cases hq : PathText.parts rel with
  | nil => exact absurd hq (by simp [PathText.parts, PathText.segments_ne_nil])
  | cons part rest =>
    rw [hq] at hplain
    rcases walk_passes t .look linkLimit origin before with ⟨_, hfails⟩ | ⟨links, here, _, hgo⟩
    · cases hdot.symm.trans (hfails "." [] (by decide))
    · -- the dot ends in the directory that the beginning leads to
      have hends : walk t .look links here ["."] = .ok (.item here .directory) :=
        (walk_dot (.inr rfl)).trans walk_nil
      cases hdot.symm.trans ((hgo "." [] (by decide)).trans hends)
      have hgoes : walk t .look linkLimit origin (before ++ part :: rest)
          = walk t .look links top (part :: rest) :=
        hgo part rest (hplain part List.mem_cons_self).1
      rw [hgoes]
      exact walk_down_iff hlinks htop hplain

end FileTree

/-! ## Routes as paths -/

namespace Route

theorem segments_intercalate {segments : List (List Char)} (hne : segments ≠ [])
    (hslash : ∀ s ∈ segments, '/' ∉ s) :
    PathText.segments (List.intercalate ['/'] segments) = segments := by
  induction segments with
  | nil => exact absurd rfl hne
  | cons s rest ih =>
    obtain ⟨hs, hrest⟩ := List.forall_mem_cons.1 hslash
    have halone := PathText.segments_of_no_slash hs
    cases rest with
    | nil => rw [List.intercalate_singleton, halone]
    | cons next rest =>
      rw [List.intercalate_cons_cons, List.append_assoc]
      change PathText.segments (s ++ '/' :: List.intercalate ['/'] (next :: rest)) = _
      rw [PathText.segments_append_slash, halone, ih nofun hrest]
      rfl

theorem parts_path {r : Route} (hne : r ≠ []) (hslash : ∀ name ∈ r, '/' ∉ name.toList) :
    PathText.parts r.path = r := by
  unfold PathText.parts Route.path
  have hlist : ∀ s ∈ r.map String.toList, '/' ∉ s := by
    intro s hs
    obtain ⟨name, hname, rfl⟩ := List.mem_map.1 hs
    exact hslash name hname
  rw [String.toList_intercalate]
  change List.map String.ofList (PathText.segments (List.intercalate ['/'] _)) = r
  rw [segments_intercalate (by simpa using hne) hlist, List.map_map]
  simp [Function.comp_def]

theorem path_parts (p : String) : Route.path (PathText.parts p) = p := by
  apply String.toList_injective
  unfold Route.path PathText.parts
  rw [String.toList_intercalate, List.map_map]
  change List.intercalate ['/'] _ = _
  simp [Function.comp_def, PathText.intercalate_segments]

end Route

namespace FileTree

variable {t : FileTree} {top r : Route} {p : String} {body : Bytes}

/-- The bytes of the file at the route. -/
def fileAt (t : FileTree) (r : Route) : Option Bytes :=
  match t.item? r with
  | some (.file body) => some body
  | _ => none

theorem fileAt_eq_some_iff : t.fileAt r = some body ↔ t.item? r = some (.file body) := by
  unfold fileAt
  split
  · rename_i b hb
    rw [hb, Option.some_inj, Option.some_inj, Item.file.injEq]
  · rename_i hother
    exact iff_of_false nofun (hother body)

/-- The files below the route by their paths from there. -/
def filesBelow (t : FileTree) (top : Route) : List (String × Bytes) :=
  (t.below top).filterMap fun (r, i) =>
    match i with
    | .file body => some (Route.path r, body)
    | _ => none

theorem mem_filesBelow :
    (p, body) ∈ t.filesBelow top ↔ t.fileAt (top ++ PathText.parts p) = some body := by
  unfold filesBelow
  rw [List.mem_filterMap, fileAt_eq_some_iff]
  constructor
  · rintro ⟨⟨q, i⟩, hbelow, hfound⟩
    obtain ⟨hq, hitem⟩ := mem_below.1 hbelow
    cases i with
    | file b =>
      cases hfound
      have hnames := isItemName_of_item? hitem
      rw [Route.parts_path hq fun name hname => (hnames name hname).2.2.2.1]
      exact hitem
    | directory => cases hfound
    | link target => cases hfound
  · intro hitem
    have hne : PathText.parts p ≠ [] := by simp [PathText.parts, PathText.segments_ne_nil]
    refine ⟨(PathText.parts p, .file body), mem_below.2 ⟨hne, hitem⟩, ?_⟩
    dsimp only
    rw [Route.path_parts]

end FileTree

end SpecCatalog
