import SpecCatalog.Proofs.FileTree.Items

/-!
# The order of a tree's items

A tree lists its items in some order, and so a directory lists its names in some order. Which
one it is shows nowhere else: two trees that differ in it have the same item at each route
(`Reordered.item?`) and every path leads to the same place in both (`Reordered.resolve`).
-/

namespace SpecCatalog.FileTree

variable {t u : FileTree} {aim : Aim}

/-- The trees have the same items and the same home, but may list the items in other orders. -/
structure Reordered (t u : FileTree) : Prop where
  entries : u.entries.Perm t.entries
  home : u.home = t.home

theorem Reordered.symm (h : Reordered t u) : Reordered u t := ⟨h.entries.symm, h.home.symm⟩

theorem Reordered.item?_of_some {r : Route} {i : Item} (h : Reordered t u)
    (hi : t.item? r = some i) : u.item? r = some i := by
  by_cases hr : r = []
  · subst hr
    exact hi
  · exact item?_of_mem (h.entries.mem_iff.2 (mem_entries_of_item?_eq_some hr hi))

theorem Reordered.item? (h : Reordered t u) (r : Route) : u.item? r = t.item? r := by
  cases hi : t.item? r with
  | some i => exact h.item?_of_some hi
  | none =>
    cases hi' : u.item? r with
    | none => rfl
    | some i =>
      have hsome := h.symm.item?_of_some hi'
      rw [hi] at hsome
      cases hsome

/-- The names in a directory are the same, in some order. -/
theorem Reordered.children (h : Reordered t u) (folder : Route) :
    (u.children folder).Perm (t.children folder) :=
  h.entries.filterMap _

/-! ## Walks -/

theorem Reordered.walkParts (h : Reordered t u)
    (follow : Route → String → List String → Except OsError Spot) (here : Route)
    (parts : List String) :
    FileTree.walkParts u aim follow here parts = FileTree.walkParts t aim follow here parts := by
  induction parts generalizing here with
  | nil => rfl
  | cons part rest ih =>
    rw [FileTree.walkParts, FileTree.walkParts]
    simp only [ih, h.item?]

theorem Reordered.walk (h : Reordered t u) (links : Nat) :
    FileTree.walk u aim links = FileTree.walk t aim links := by
  induction links with
  | zero =>
    funext here parts
    exact h.walkParts _ here parts
  | succ links ih =>
    funext here parts
    unfold FileTree.walk
    rw [ih]
    exact h.walkParts _ here parts

/-- **Where a path leads does not hang on the order of the items.** -/
theorem Reordered.resolve (h : Reordered t u) (aim : Aim) (path : String) :
    u.resolve aim path = t.resolve aim path := by
  unfold FileTree.resolve
  rw [h.walk, h.home]

theorem Reordered.status (h : Reordered t u) (path : String) : u.status path = t.status path := by
  unfold FileTree.status
  rw [h.resolve]

theorem Reordered.contents (h : Reordered t u) (path : String) :
    u.contents path = t.contents path := by
  unfold FileTree.contents
  rw [h.status]

end SpecCatalog.FileTree
