import SpecCatalog.Proofs.FileTree.Items

/-!
# Walks as rules

At a name a walk looks for the item that stands under it. There it ends, goes down into a
directory or follows a link (`moveAt`), and what it does tells what stands there
(`moveAt_eq_down_iff` and the lemmas beside it). So a walk has one rule for each thing that it
does (`Walks`). The walk from a link's target is one of them, which is why an induction over the
rules goes through all parts and all links at once. The rules lead to what the walk comes to, an
error or not, and to nothing else (`walks`, `Walks.walk_eq`).
-/

namespace SpecCatalog.FileTree

variable {t : FileTree} {aim : Aim} {links : Nat} {here folder r : Route} {part name : String}
  {parts rest : List String} {outcome : Except OsError Spot}

/-! ## At a name -/

/-- A name, and no dots that only move the directory. -/
def Plain (name : String) : Prop := name ≠ "" ∧ name ≠ "." ∧ name ≠ ".."

theorem plain_of_mem {ch : Char} (h : ch ∈ name.toList) (hdot : ch ≠ '.') : Plain name := by
  refine ⟨?_, ?_, ?_⟩
  · rintro rfl
    simp at h
  · rintro rfl
    exact hdot (by simpa using h)
  · rintro rfl
    exact hdot (by simpa using h)

theorem plain_of_isItemName (h : IsItemName name) : Plain name := ⟨h.1, h.2.1, h.2.2.1⟩

/-- Nothing comes after the name but slashes. -/
def Last (rest : List String) : Prop := rest.all (· = "") = true

instance (rest : List String) : Decidable (Last rest) := by
  unfold Last; infer_instance

theorem last_nil : Last [] := rfl

theorem last_cons : Last (part :: rest) ↔ part = "" ∧ Last rest := by
  unfold Last
  rw [List.all_cons, Bool.and_eq_true, decide_eq_true_eq]

/-- A name with a part after it that is not empty is not the last one. -/
theorem not_last (before rest : List String) (hpart : part ≠ "") :
    ¬ Last (before ++ part :: rest) := by
  unfold Last
  rw [Bool.not_eq_true, List.all_eq_false]
  exact ⟨part, List.mem_append_right _ List.mem_cons_self, by simpa using hpart⟩

/-- What a walk does at a name. -/
inductive Move where
  | ends (outcome : Except OsError Spot)
  | down
  | follow (target : String)

/-- What a walk does at an item, or where there is none. -/
def moveTo (aim : Aim) (here : Route) (part : String) (rest : List String) : Option Item → Move
  | none => .ends (if Last rest then .ok (.vacant here part) else .error .notFound)
  | some .directory => .down
  | some (.file body) =>
    .ends (if Last rest ∧ (aim = .newDirectory ∨ rest = [])
      then .ok (.item (here ++ [part]) (.file body)) else .error .notDirectory)
  | some (.link target) =>
    if Last rest ∧ aim = .newDirectory then .ends (.ok (.item (here ++ [part]) (.link target)))
    else .follow target

/-- What a walk does at a name. A name that is too long is not looked for, and neither is one
of a new file with a slash after it. -/
def moveAt (t : FileTree) (aim : Aim) (here : Route) (part : String) (rest : List String) : Move :=
  if aim = .newFile ∧ Last rest ∧ rest ≠ [] then .ends (.error .isDirectory)
  else if nameLimit < part.utf8ByteSize then .ends (.error .nameTooLong)
  else moveTo aim here part rest (t.item? (here ++ [part]))

/-- The walk looks for the item under the name. -/
structure Seeks (aim : Aim) (part : String) (rest : List String) : Prop where
  bare : aim = .newFile → Last rest → rest = []
  short : part.utf8ByteSize ≤ nameLimit

/-- A walk that looks seeks every name that a walk seeks. -/
theorem Seeks.look (h : Seeks aim part rest) : Seeks .look part rest := ⟨nofun, h.short⟩

theorem seeks_nil : Seeks aim part [] ↔ part.utf8ByteSize ≤ nameLimit :=
  ⟨Seeks.short, fun h => ⟨fun _ _ => rfl, h⟩⟩

theorem moveAt_of_seeks (h : Seeks aim part rest) :
    moveAt t aim here part rest = moveTo aim here part rest (t.item? (here ++ [part])) := by
  unfold moveAt
  rw [if_neg fun hslash => hslash.2.2 (h.bare hslash.1 hslash.2.1), if_neg (Nat.not_lt.2 h.short)]

/-- The walk fails at a name that it does not look for. -/
theorem moveAt_of_not_seeks (t : FileTree) (here : Route) (h : ¬ Seeks aim part rest) :
    ∃ e, moveAt t aim here part rest = .ends (.error e) := by
  unfold moveAt
  split
  · exact ⟨_, rfl⟩
  · rename_i hslash
    rw [if_pos (Nat.not_le.1 fun hshort => h ⟨fun haim hlast => ?_, hshort⟩)]
    · exact ⟨_, rfl⟩
    · by_contra hne
      exact hslash ⟨haim, hlast, hne⟩

/-- What is no failure is done at an item that was looked for. -/
theorem moveAt_eq_iff {move : Move} (hmove : ∀ e, move ≠ .ends (.error e)) :
    moveAt t aim here part rest = move
      ↔ Seeks aim part rest ∧ moveTo aim here part rest (t.item? (here ++ [part])) = move := by
  by_cases hseeks : Seeks aim part rest
  · rw [moveAt_of_seeks hseeks, and_iff_right hseeks]
  · obtain ⟨e, he⟩ := moveAt_of_not_seeks t here hseeks
    rw [he]
    exact iff_of_false (hmove e).symm fun h => hseeks h.1

theorem moveAt_eq_down_iff : moveAt t aim here part rest = .down
    ↔ Seeks aim part rest ∧ t.item? (here ++ [part]) = some .directory := by
  refine (moveAt_eq_iff (by nofun)).trans (and_congr_right fun _ => ?_)
  cases t.item? (here ++ [part]) with
  | none => simp [moveTo]
  | some i => cases i <;> grind [moveTo]

theorem moveAt_eq_follow_iff {target : String} : moveAt t aim here part rest = .follow target
    ↔ Seeks aim part rest ∧ t.item? (here ++ [part]) = some (.link target)
      ∧ ¬ (Last rest ∧ aim = .newDirectory) := by
  refine (moveAt_eq_iff (by nofun)).trans (and_congr_right fun _ => ?_)
  cases t.item? (here ++ [part]) with
  | none => simp [moveTo]
  | some i => cases i <;> grind [moveTo]

/-- A walk ends at a free place under its last name only. -/
theorem moveAt_eq_vacant_iff : moveAt t aim here part rest = .ends (.ok (.vacant folder name))
    ↔ Seeks aim part rest ∧ t.item? (here ++ [part]) = none ∧ Last rest
      ∧ folder = here ∧ name = part := by
  refine (moveAt_eq_iff (by nofun)).trans (and_congr_right fun _ => ?_)
  cases t.item? (here ++ [part]) with
  | none => grind [moveTo]
  | some i => cases i <;> grind [moveTo]

/-- What the last name of a path can be the name of: a link only where none is followed. -/
def EndsAt (aim : Aim) (rest : List String) : Item → Prop
  | .directory => False
  | .file _ => aim = .newDirectory ∨ rest = []
  | .link _ => aim = .newDirectory

theorem moveAt_eq_item_iff {i : Item} : moveAt t aim here part rest = .ends (.ok (.item r i))
    ↔ Seeks aim part rest ∧ t.item? (here ++ [part]) = some i ∧ Last rest
      ∧ r = here ++ [part] ∧ EndsAt aim rest i := by
  refine (moveAt_eq_iff (by nofun)).trans (and_congr_right fun _ => ?_)
  cases t.item? (here ++ [part]) with
  | none => grind [moveTo]
  | some i => cases i <;> grind [moveTo, EndsAt]

theorem endsAt_iff {i : Item} (haim : aim ≠ .newDirectory) :
    EndsAt aim rest i ↔ rest = [] ∧ ∃ body, i = .file body := by
  cases i <;> simp [EndsAt, haim]

/-! ## From part to part -/

/-- How a walk with so many links left follows one. -/
def following (t : FileTree) (aim : Aim) :
    Nat → Route → String → List String → Except OsError Spot
  | 0, _, _, _ => .error .tooManyLinks
  | links + 1, here, target, rest =>
    walk t aim links (if PathText.isAbsolute target then [] else here)
      (PathText.parts target ++ rest)

theorem walk_eq_walkParts (t : FileTree) (aim : Aim) (links : Nat) :
    walk t aim links = walkParts t aim (following t aim links) := by
  cases links with
  | zero => rfl
  | succ links => rfl

theorem walk_nil : walk t aim links here [] = .ok (.item here .directory) := by
  rw [walk_eq_walkParts, walkParts]

theorem walk_dot (h : part = "" ∨ part = ".") :
    walk t aim links here (part :: rest) = walk t aim links here rest := by
  rw [walk_eq_walkParts, walkParts, if_pos h]

theorem walk_up : walk t aim links here (".." :: rest) = walk t aim links here.dropLast rest := by
  rw [walk_eq_walkParts, walkParts, if_neg (by decide), if_pos rfl]

/-- What a walk comes to with such a move at a name. -/
def Move.comesTo (t : FileTree) (aim : Aim) (links : Nat) (here : Route) (part : String)
    (rest : List String) : Move → Except OsError Spot
  | .ends outcome => outcome
  | .down => walk t aim links (here ++ [part]) rest
  | .follow target => following t aim links here target rest

theorem walk_name (h : Plain part) : walk t aim links here (part :: rest)
    = (moveAt t aim here part rest).comesTo t aim links here part rest := by
  rw [walk_eq_walkParts, walkParts, if_neg (not_or.2 ⟨h.1, h.2.1⟩), if_neg h.2.2]
  unfold moveAt moveTo Last Move.comesTo
  rw [walk_eq_walkParts]
  cases t.item? (here ++ [part]) with
  | none => grind
  | some i => cases i <;> grind

/-- What a walk does part by part, and what it comes to. -/
inductive Walks (t : FileTree) (aim : Aim) :
    Nat → Route → List String → Except OsError Spot → Prop
  | done {links : Nat} {here : Route} : Walks t aim links here [] (.ok (.item here .directory))
  | dot {links : Nat} {here : Route} {part : String} {rest : List String}
      {outcome : Except OsError Spot} (hdot : part = "" ∨ part = ".")
      (h : Walks t aim links here rest outcome) : Walks t aim links here (part :: rest) outcome
  | up {links : Nat} {here : Route} {rest : List String} {outcome : Except OsError Spot}
      (h : Walks t aim links here.dropLast rest outcome) :
      Walks t aim links here (".." :: rest) outcome
  | ends {links : Nat} {here : Route} {part : String} {rest : List String}
      {outcome : Except OsError Spot} (hname : Plain part)
      (hmove : moveAt t aim here part rest = .ends outcome) :
      Walks t aim links here (part :: rest) outcome
  | down {links : Nat} {here : Route} {part : String} {rest : List String}
      {outcome : Except OsError Spot} (hname : Plain part)
      (hmove : moveAt t aim here part rest = .down)
      (h : Walks t aim links (here ++ [part]) rest outcome) :
      Walks t aim links here (part :: rest) outcome
  | follow {links : Nat} {here : Route} {part target : String} {rest : List String}
      {outcome : Except OsError Spot} (hname : Plain part)
      (hmove : moveAt t aim here part rest = .follow target)
      (h : Walks t aim links (if PathText.isAbsolute target then [] else here)
        (PathText.parts target ++ rest) outcome) :
      Walks t aim (links + 1) here (part :: rest) outcome
  | spent {here : Route} {part target : String} {rest : List String} (hname : Plain part)
      (hmove : moveAt t aim here part rest = .follow target) :
      Walks t aim 0 here (part :: rest) (.error .tooManyLinks)

/-- The rules lead to nothing else. -/
theorem Walks.walk_eq (h : Walks t aim links here parts outcome) :
    walk t aim links here parts = outcome := by
  induction h with
  | done => exact walk_nil
  | dot hdot _ ih => rw [walk_dot hdot, ih]
  | up _ ih => rw [walk_up, ih]
  | ends hname hmove => rw [walk_name hname, hmove, Move.comesTo]
  | down hname hmove _ ih => rw [walk_name hname, hmove, Move.comesTo, ih]
  | follow hname hmove _ ih => rw [walk_name hname, hmove, Move.comesTo, following, ih]
  | spent hname hmove => rw [walk_name hname, hmove, Move.comesTo, following]

/-- The rules lead to what the walk comes to. -/
theorem walks (t : FileTree) (aim : Aim) (links : Nat) (here : Route) (parts : List String) :
    Walks t aim links here parts (walk t aim links here parts) := by
  match parts with
  | [] =>
    rw [walk_nil]
    exact .done
  | part :: rest =>
    by_cases hdot : part = "" ∨ part = "."
    · rw [walk_dot hdot]
      exact .dot hdot (walks t aim links here rest)
    by_cases hup : part = ".."
    · subst hup
      rw [walk_up]
      exact .up (walks t aim links here.dropLast rest)
    have hname : Plain part := ⟨(not_or.1 hdot).1, (not_or.1 hdot).2, hup⟩
    rw [walk_name hname]
    cases hmove : moveAt t aim here part rest with
    | ends outcome => exact .ends hname hmove
    | down => exact .down hname hmove (walks t aim links (here ++ [part]) rest)
    | follow target =>
      cases links with
      | zero => exact .spent hname hmove
      | succ links => exact .follow hname hmove (walks t aim links _ _)
termination_by (links, parts.length)

/-- **A walk comes to exactly what the rules lead to.** -/
theorem walk_eq_iff : walk t aim links here parts = outcome
    ↔ Walks t aim links here parts outcome :=
  ⟨fun h => h ▸ walks t aim links here parts, Walks.walk_eq⟩

theorem walks_nil_iff : Walks t aim links here [] outcome
    ↔ outcome = .ok (.item here .directory) :=
  ⟨fun h => h.walk_eq.symm.trans walk_nil, fun h => h ▸ .done⟩

/-- Slashes at the end lead no further. -/
theorem walks_of_last (h : Last rest) :
    Walks t aim links here rest (.ok (.item here .directory)) := by
  induction rest with
  | nil => exact .done
  | cons part rest ih =>
    obtain ⟨hpart, hrest⟩ := last_cons.1 h
    exact .dot (.inl hpart) (ih hrest)

end SpecCatalog.FileTree
