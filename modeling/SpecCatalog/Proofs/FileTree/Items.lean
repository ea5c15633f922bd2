import Mathlib.Data.List.Nodup
import SpecCatalog.FileTree.Operations

/-!
# Items of a tree

What stands in a directory is what the tree has at the routes one name below it
(`mem_children`), and such a name can be an item's (`below_of_item?`).
-/

namespace SpecCatalog.FileTree

variable {t : FileTree} {r folder : Route} {name : String} {i : Item}

theorem find?_entry {e : Route × Item} (he : e ∈ t.entries) :
    t.entries.find? (fun d => d.1 = e.1) = some e := by
  cases hfind : t.entries.find? (fun d => d.1 = e.1) with
  | none => exact absurd (decide_eq_true rfl) (List.find?_eq_none.1 hfind e he)
  | some d =>
    have hroute : d.1 = e.1 := by simpa using List.find?_some hfind
    rw [List.inj_on_of_nodup_map t.sound.distinct (List.mem_of_find?_eq_some hfind) he hroute]

/-- An item stands where its entry says. -/
theorem item?_of_mem {e : Route × Item} (he : e ∈ t.entries) : t.item? e.1 = some e.2 := by
  obtain ⟨above, last, hroute, _⟩ := t.sound.below e he
  have hne : e.1 ≠ [] := by
    rw [hroute]
    simp
  unfold item? lookIn
  rw [if_neg hne, find?_entry he]
  rfl

theorem mem_entries_of_item?_eq_some (hr : r ≠ []) (h : t.item? r = some i) :
    (r, i) ∈ t.entries := by
  unfold item? lookIn at h
  rw [if_neg hr, Option.map_eq_some_iff] at h
  obtain ⟨e, hfind, rfl⟩ := h
  have hroute : e.1 = r := by simpa using List.find?_some hfind
  rw [← hroute]
  exact List.mem_of_find?_eq_some hfind

/-- An item below a route stands in a directory, under a name that an item can have. -/
theorem below_of_item? (h : t.item? (folder ++ [name]) = some i) :
    t.item? folder = some .directory ∧ IsItemName name := by
  have hmem := mem_entries_of_item?_eq_some (by simp) h
  obtain ⟨above, last, hroute, hname, habove⟩ := t.sound.below _ hmem
  obtain ⟨rfl, hlast⟩ := List.append_inj' hroute rfl
  obtain rfl := List.singleton_inj.1 hlast
  exact ⟨habove, hname⟩

theorem mem_children : (name, i) ∈ t.children folder ↔ t.item? (folder ++ [name]) = some i := by
  unfold children
  rw [List.mem_filterMap]
  constructor
  · rintro ⟨e, he, hfound⟩
    obtain ⟨above, last, hroute, _⟩ := t.sound.below e he
    simp only [hroute, List.getLast?_concat, List.dropLast_concat] at hfound
    split at hfound
    · rename_i habove
      cases hfound
      rw [← habove, ← hroute]
      exact item?_of_mem he
    · cases hfound
  · intro h
    refine ⟨_, mem_entries_of_item?_eq_some (by simp) h, ?_⟩
    simp only [List.getLast?_concat, List.dropLast_concat, if_pos]

end SpecCatalog.FileTree
