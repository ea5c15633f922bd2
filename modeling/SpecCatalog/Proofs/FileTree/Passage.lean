import SpecCatalog.Proofs.FileTree.Walks

/-!
# Walks that begin alike

Paths into one directory begin alike, and the beginning is walked in the same way whatever
comes after it: it fails each time, or each time the walk goes on from the same directory
with the same number of links left (`walk_passes`). Links on the way make no difference,
since the rest of a path is only put behind their targets. The directory is the one that the
beginning leads to if nothing comes after it, and if it leads to none, the walk fails for the
reason that is found there (`blocked`).

What is found by such a walk stands below that directory under the next part of the path,
unless this part is one or two dots (`item?_of_walk`).
-/

namespace SpecCatalog.FileTree

variable {t : FileTree} {aim : Aim}

/-- Why nothing stands below the end of a walk that is no directory. -/
def blocked : Except OsError Spot → OsError
  | .error e => e
  | .ok (.vacant _ _) => .notFound
  | .ok (.item _ _) => .notDirectory

/-- A way of walking on that fails before the rest is looked at, or goes on from a
directory that does not hang on the rest. The rest begins with a part that is not empty.
Without a rest the walk ends at `alone`, which is that directory if there is one, and else
says why the rest is not looked at. -/
def Passes (t : FileTree) (aim : Aim) (alone : Except OsError Spot)
    (go : List String → Except OsError Spot) : Prop :=
  ((∀ here, alone ≠ .ok (.item here .directory))
      ∧ ∀ part rest, part ≠ "" → go (part :: rest) = .error (blocked alone))
    ∨ ∃ links here, alone = .ok (.item here .directory) ∧ ∀ part rest, part ≠ "" →
        go (part :: rest) = walk t aim links here (part :: rest)

theorem Passes.congr {alone alone' : Except OsError Spot}
    {go go' : List String → Except OsError Spot} (halone : alone = alone')
    (hgo : ∀ part rest, part ≠ "" → go (part :: rest) = go' (part :: rest))
    (h : Passes t aim alone' go') : Passes t aim alone go := by
  subst halone
  rcases h with ⟨hne, he⟩ | ⟨links, here, hd, hw⟩
  · exact .inl ⟨hne, fun part rest hp => (hgo part rest hp).trans (he part rest hp)⟩
  · exact .inr ⟨links, here, hd, fun part rest hp => (hgo part rest hp).trans (hw part rest hp)⟩

/-- What a walk with more to come does at a name, by what it does if nothing comes after it. -/
def Move.onward : Move → Move
  | .ends alone => .ends (.error (blocked alone))
  | .down => .down
  | .follow target => .follow target

section Append

variable {here : Route} {first part : String}

theorem moveTo_append (before rest : List String) (hpart : part ≠ "") (item : Option Item) :
    moveTo aim here first (before ++ part :: rest) item
      = (moveTo .look here first before item).onward := by
  have hlast : ¬ Last (before ++ part :: rest) := not_last before rest hpart
  cases item with
  | none => grind [moveTo, Move.onward, blocked]
  | some i => cases i <;> grind [moveTo, Move.onward, blocked]

/-- With more to come the aim does not matter yet. -/
theorem moveAt_append (before rest : List String) (hpart : part ≠ "") :
    moveAt t aim here first (before ++ part :: rest)
      = (moveAt t .look here first before).onward := by
  have hlook : ¬ (Aim.look = .newFile ∧ Last before ∧ before ≠ []) := fun h => nomatch h.1
  unfold moveAt
  rw [if_neg fun h => not_last before rest hpart h.2.1, if_neg hlook]
  split
  · rfl
  · exact moveTo_append before rest hpart _

theorem walk_name_append {links : Nat} {before : List String} {move : Move} (hname : Plain first)
    (hmove : moveAt t .look here first before = move) (rest : List String) (hpart : part ≠ "") :
    walk t aim links here (first :: before ++ part :: rest)
      = move.onward.comesTo t aim links here first (before ++ part :: rest) := by
  rw [List.cons_append, walk_name hname, moveAt_append before rest hpart, hmove]

end Append

/-- **The beginning of a path is walked in the same way whatever comes after it.** -/
theorem walk_passes (t : FileTree) (aim : Aim) (links : Nat) (here : Route)
    (before : List String) : Passes t aim (walk t .look links here before)
      fun rest => walk t aim links here (before ++ rest) := by
  have hwalks := walks t .look links here before
  generalize walk t .look links here before = alone at hwalks
  -- with more to come each rule applies as before, but at a name where the walk ends it fails
  induction hwalks with
  | done => exact .inr ⟨_, _, rfl, fun _ _ _ => rfl⟩
  | dot hdot _ ih => exact ih.congr rfl fun _ _ _ => walk_dot hdot
  | up _ ih => exact ih.congr rfl fun _ _ _ => walk_up
  | ends hname hmove =>
    refine .inl ⟨?_, fun part rest hpart => walk_name_append hname hmove rest hpart⟩
    rintro r rfl
    exact (moveAt_eq_item_iff.1 hmove).2.2.2.2
  | down hname hmove _ ih =>
    exact ih.congr rfl fun part rest hpart => walk_name_append hname hmove rest hpart
  | follow hname hmove _ ih =>
    refine ih.congr rfl fun part rest hpart => (walk_name_append hname hmove rest hpart).trans ?_
    rw [Move.onward, Move.comesTo, following, List.append_assoc]
  | spent hname hmove =>
    refine .inl ⟨?_, fun part rest hpart => walk_name_append hname hmove rest hpart⟩
    intro r hd
    cases hd

/-- Walking on to something that is there begins at an item of the directory, unless it
begins with a dot part. -/
theorem item?_of_walk {links : Nat} {here route : Route} {part : String} {rest : List String}
    {i : Item} (h : walk t .look links here (part :: rest) = .ok (.item route i))
    (hdot : ¬ (part = "" ∨ part = ".")) (hup : part ≠ "..") :
    t.item? (here ++ [part]) ≠ none := by
  cases walk_eq_iff.1 h with
  | dot hdot' => exact absurd hdot' hdot
  | up => exact absurd rfl hup
  | ends _ hmove =>
    rw [(moveAt_eq_item_iff.1 hmove).2.1]
    nofun
  | down _ hmove =>
    rw [(moveAt_eq_down_iff.1 hmove).2]
    nofun
  | follow _ hmove =>
    rw [(moveAt_eq_follow_iff.1 hmove).2.1]
    nofun

theorem mem_entries_of_item? {r : Route} (hr : r ≠ []) (h : t.item? r ≠ none) :
    r ∈ t.entries.map (·.1) :=
  Decidable.not_not.1 fun hn => h (lookIn_eq_none_iff.2 ⟨hr, hn⟩)

end SpecCatalog.FileTree
