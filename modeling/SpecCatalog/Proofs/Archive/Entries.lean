import Mathlib.Data.List.Nodup
import SpecCatalog.Archive.Directory

/-!
# Names of entries

A directory may give one name to several entries, but in an archive that was opened no two
entries have one name (`nodup_of_open?`). So an entry is the one that is found under its name
(`find?_of_mem`), and what an archive holds is a listing of names with what comes of opening
each (`mem_listing`).
-/

namespace SpecCatalog.Archive

variable {archive : Archive} {es : List Entry} {e : Entry} {name : String}

theorem nodup_enter (h : (es.map (·.name)).Nodup) : ((enter es e).map (·.name)).Nodup := by
  unfold enter
  split
  · -- an entry that gives way to another leaves it its name
    have hnames : (es.map fun d => if d.name = e.name then e else d).map (·.name)
        = es.map (·.name) := by
      rw [List.map_map]
      refine List.map_congr_left fun d _ => ?_
      by_cases hd : d.name = e.name
      · simp [hd]
      · simp [hd]
    rw [hnames]
    exact h
  · rename_i hnew
    have hfree : e.name ∉ es.map (·.name) := by
      intro hmem
      obtain ⟨d, hd, hname⟩ := List.mem_map.1 hmem
      exact hnew (List.any_eq_true.2 ⟨d, hd, decide_eq_true hname⟩)
    rw [List.map_append, List.map_singleton, ← List.concat_eq_append]
    exact h.concat hfree

theorem nodup_foldl_enter (entered : List Entry) (h : (es.map (·.name)).Nodup) :
    ((entered.foldl enter es).map (·.name)).Nodup := by
  induction entered generalizing es with
  | nil => exact h
  | cons e entered ih => exact ih (nodup_enter h)

/-- Wherever the directory is found, its records are entered one after the other. -/
theorem exists_entered {bs : Bytes} {missed : Option Fault} {ps : List Nat}
    (h : openAmong bs missed ps = .ok es) : ∃ entered : List Entry, es = entered.foldl enter [] := by
  induction ps generalizing missed with
  | nil => cases h
  | cons p ps ih =>
    unfold openAmong at h
    split at h
    · exact ih h
    · exact ih h
    · exact ih h
    · split at h
      · rename_i entered _
        cases h
        exact ⟨entered, rfl⟩
      · exact ih h

/-- **No two entries of an archive have one name.** -/
theorem nodup_of_open? {file : Bytes} (h : Archive.open? file = .ok archive) :
    (archive.entries.map (·.name)).Nodup := by
  unfold Archive.open? at h
  cases hamong : openAmong file none (places endMark file).reverse with
  | error f =>
    rw [hamong] at h
    cases h
  | ok es =>
    rw [hamong] at h
    cases h
    obtain ⟨entered, rfl⟩ := exists_entered hamong
    exact nodup_foldl_enter entered .nil

theorem of_find? (h : archive.find? name = some e) : e ∈ archive.entries ∧ e.name = name := by
  unfold Archive.find? at h
  exact ⟨List.mem_of_find?_eq_some h, by simpa using List.find?_some h⟩

/-- An entry is the one that is found under its name. -/
theorem find?_of_mem (hnames : (archive.entries.map (·.name)).Nodup) (he : e ∈ archive.entries) :
    archive.find? e.name = some e := by
  cases hfind : archive.find? e.name with
  | none => exact absurd (decide_eq_true rfl) (List.find?_eq_none.1 hfind e he)
  | some d =>
    obtain ⟨hd, hname⟩ := of_find? hfind
    rw [List.inj_on_of_nodup_map hnames hd he hname]

/-- The names of the entries, with what comes of opening each. -/
def listing (archive : Archive) : List (String × Except Fault (Except IoError Bytes)) :=
  archive.entries.map fun e => (e.name, e.open? archive.file)

theorem mem_listing {r : Except Fault (Except IoError Bytes)} :
    (name, r) ∈ archive.listing
      ↔ ∃ e ∈ archive.entries, e.name = name ∧ e.open? archive.file = r := by
  unfold listing
  simp only [List.mem_map, Prod.mk.injEq]

end SpecCatalog.Archive
