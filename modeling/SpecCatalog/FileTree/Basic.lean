import SpecCatalog.FileTree.Answers
import SpecCatalog.FileTree.PathText

/-!
# File trees

A file tree is a finite map from routes to items. A route is the list of names from the
top down; an item is a directory, a file with its bytes or a link with the text of its
target. The type holds only trees: every item stands in a directory, no route is taken
twice, and the names are ones that a path can spell.

A tree also has a home, the directory that relative paths start from. It is there as long as
the tree is. And it stands on a disk, whose answers to the requests to come are part of it.
-/

namespace SpecCatalog

/-- The names from the top of a tree down to an item. -/
abbrev Route := List String

inductive Item where
  | directory
  | file (body : Bytes)
  | link (target : String)
  deriving DecidableEq, Repr

/-- A name that one step of a path can spell and a directory can hold. -/
def IsItemName (name : String) : Prop :=
  name ≠ "" ∧ name ≠ "." ∧ name ≠ ".." ∧ '/' ∉ name.toList ∧ '\x00' ∉ name.toList
    ∧ name.utf8ByteSize ≤ 255

instance (name : String) : Decidable (IsItemName name) := by
  unfold IsItemName; infer_instance

namespace FileTree

/-- The item at a route; the top is a directory. -/
def lookIn (entries : List (Route × Item)) (r : Route) : Option Item :=
  if r = [] then some .directory else (entries.find? fun e => e.1 = r).map (·.2)

/-- What makes a list of entries a tree. -/
structure Sound (entries : List (Route × Item)) : Prop where
  distinct : (entries.map (·.1)).Nodup
  below : ∀ e ∈ entries, ∃ folder name, e.1 = folder ++ [name] ∧ IsItemName name
    ∧ lookIn entries folder = some .directory

end FileTree

structure FileTree where
  entries : List (Route × Item)
  home : Route
  sound : FileTree.Sound entries
  home_directory : FileTree.lookIn entries home = some .directory
  /-- What the system answers to the requests to come. -/
  answers : List FileTree.Answer

namespace FileTree

def item? (t : FileTree) (r : Route) : Option Item := lookIn t.entries r

/-- The tree with nothing in it, on a disk that never fails. -/
def empty : FileTree := ⟨[], [], ⟨.nil, by simp⟩, rfl, []⟩

/-- The same tree on a disk with other answers to come. -/
def answering (t : FileTree) (answers : List Answer) : FileTree := { t with answers }

/-- The same tree seen from another directory, if it is one. -/
def atHome (t : FileTree) (home : Route) : FileTree :=
  if h : t.item? home = some .directory then { t with home, home_directory := h } else t

/-- The names in a directory, in no particular order, with their items. -/
def children (t : FileTree) (folder : Route) : List (String × Item) :=
  t.entries.filterMap fun e =>
    match e.1.getLast? with
    | some name => if e.1.dropLast = folder then some (name, e.2) else none
    | none => none

/-! ## Look-ups -/

theorem item?_nil (t : FileTree) : t.item? [] = some .directory := rfl

@[simp] theorem item?_answering (t : FileTree) (answers : List Answer) :
    (t.answering answers).item? = t.item? := rfl

@[simp] theorem home_answering (t : FileTree) (answers : List Answer) :
    (t.answering answers).home = t.home := rfl

theorem lookIn_append {es : List (Route × Item)} {r s : Route} {i : Item} (hr : r ≠ []) :
    lookIn (es ++ [(s, i)]) r = (lookIn es r).or (if s = r then some i else none) := by
  unfold lookIn
  rw [if_neg hr, if_neg hr, List.find?_append]
  cases es.find? fun e => e.1 = r with
  | some e => simp
  | none => by_cases h : s = r <;> simp [h]

theorem lookIn_append_of_some {es : List (Route × Item)} {r s : Route} {i j : Item}
    (h : lookIn es r = some j) : lookIn (es ++ [(s, i)]) r = some j := by
  by_cases hr : r = []
  · subst hr; simpa [lookIn] using h
  · rw [lookIn_append hr, h]; rfl

theorem lookIn_eq_none_iff {es : List (Route × Item)} {r : Route} :
    lookIn es r = none ↔ r ≠ [] ∧ r ∉ es.map (·.1) := by
  unfold lookIn
  split
  · simp_all
  · rename_i hr
    rw [Option.map_eq_none_iff, List.find?_eq_none]
    simp only [decide_eq_true_eq, List.mem_map, not_exists, not_and, ne_eq, hr, not_false_eq_true,
      true_and]

/-! ## New items -/

/-- Whether a new item may be put under this name into this directory. -/
def Vacant (t : FileTree) (folder : Route) (name : String) : Prop :=
  t.item? folder = some .directory ∧ IsItemName name ∧ t.item? (folder ++ [name]) = none

instance (t : FileTree) (folder : Route) (name : String) : Decidable (t.Vacant folder name) := by
  unfold Vacant; infer_instance

theorem Sound.append {es : List (Route × Item)} (h : Sound es) {folder : Route} {name : String}
    {i : Item} (hf : lookIn es folder = some .directory) (hn : IsItemName name)
    (hv : lookIn es (folder ++ [name]) = none) : Sound (es ++ [(folder ++ [name], i)]) := by
  refine ⟨?_, ?_⟩
  · rw [List.map_append, List.nodup_append]
    refine ⟨h.distinct, by simp, ?_⟩
    intro a ha b hb
    simp only [List.map_cons, List.map_nil, List.mem_singleton] at hb
    subst hb
    intro he
    exact (lookIn_eq_none_iff.1 hv).2 (he ▸ ha)
  · intro e he
    rcases List.mem_append.1 he with he | he
    · obtain ⟨f, n, h1, h2, h3⟩ := h.below e he
      exact ⟨f, n, h1, h2, lookIn_append_of_some h3⟩
    · rw [List.mem_singleton] at he
      subst he
      exact ⟨folder, name, rfl, hn, lookIn_append_of_some hf⟩

/-- The tree with a new item in it, if there is room for one. -/
def put (t : FileTree) (folder : Route) (name : String) (i : Item) : FileTree :=
  if h : t.Vacant folder name then
    { t with
      entries := t.entries ++ [(folder ++ [name], i)]
      sound := t.sound.append h.1 h.2.1 h.2.2
      home_directory := lookIn_append_of_some t.home_directory }
  else t

theorem item?_put {t : FileTree} {folder : Route} {name : String} {i : Item}
    (h : t.Vacant folder name) (r : Route) :
    (t.put folder name i).item? r = if r = folder ++ [name] then some i else t.item? r := by
  unfold put
  rw [dif_pos h]
  by_cases hr : r = []
  · subst hr; simp [item?, lookIn]
  · show lookIn _ r = _
    rw [lookIn_append hr]
    by_cases he : r = folder ++ [name]
    · subst he
      rw [show lookIn t.entries (folder ++ [name]) = none from h.2.2]
      simp
    · rw [if_neg (fun h => he h.symm), if_neg he]
      simp [item?]

@[simp] theorem answers_put (t : FileTree) (folder : Route) (name : String) (i : Item) :
    (t.put folder name i).answers = t.answers := by
  unfold put
  split <;> rfl

/-! ## New contents -/

/-- The entries with the file at `r` holding `body`. -/
def refill (r : Route) (body : Bytes) (e : Route × Item) : Route × Item :=
  match e.2 with
  | .file _ => if e.1 = r then (e.1, .file body) else e
  | _ => e

theorem refill_fst (r : Route) (body : Bytes) (e : Route × Item) : (refill r body e).1 = e.1 := by
  unfold refill
  split
  · split <;> rfl
  · rfl

theorem lookIn_map_refill {es : List (Route × Item)} {r s : Route} {body : Bytes} :
    lookIn (es.map (refill r body)) s =
      (lookIn es s).map fun i => match i with
        | .file b => if s = r then .file body else .file b
        | other => other := by
  unfold lookIn
  split
  · rfl
  · rw [List.find?_map, Option.map_map]
    have : ((fun e : Route × Item => decide (e.1 = s)) ∘ refill r body)
        = fun e => decide (e.1 = s) := by
      funext e; simp [refill_fst]
    rw [this]
    cases hf : es.find? fun e => decide (e.1 = s) with
    | none => rfl
    | some e =>
      have hs : e.1 = s := by simpa using List.find?_some hf
      obtain ⟨q, i⟩ := e
      cases i <;> simp_all [refill]
      split <;> rfl

theorem Sound.refill {es : List (Route × Item)} (h : Sound es) (r : Route) (body : Bytes) :
    Sound (es.map (FileTree.refill r body)) := by
  refine ⟨?_, ?_⟩
  · rw [List.map_map, show (fun e => e.1) ∘ FileTree.refill r body = fun e => e.1 from
      funext (refill_fst r body)]
    exact h.distinct
  · intro e he
    obtain ⟨d, hd, rfl⟩ := List.mem_map.1 he
    obtain ⟨f, n, h1, h2, h3⟩ := h.below d hd
    exact ⟨f, n, by rw [refill_fst, h1], h2, by rw [lookIn_map_refill, h3]; rfl⟩

/-- The tree with the file at `r` holding `body`; nothing else changes, and nothing at
all does if there is no file. -/
def fill (t : FileTree) (r : Route) (body : Bytes) : FileTree :=
  { t with
    entries := t.entries.map (refill r body)
    sound := t.sound.refill r body
    home_directory := by rw [lookIn_map_refill, t.home_directory]; rfl }

theorem item?_fill {t : FileTree} {r s : Route} {body : Bytes} :
    (t.fill r body).item? s =
      (t.item? s).map fun i => match i with
        | .file b => if s = r then .file body else .file b
        | other => other :=
  lookIn_map_refill

/-! ## Removal -/

theorem isPrefixOf_eq_true {r s : Route} (h : r <+: s) : r.isPrefixOf s = true :=
  Iff.mpr List.isPrefixOf_iff_prefix h

theorem isPrefixOf_eq_false {r s : Route} (h : ¬ r <+: s) : r.isPrefixOf s = false :=
  Bool.eq_false_iff.2 fun hp => h (Iff.mp List.isPrefixOf_iff_prefix hp)

theorem find?_filter_below {es : List (Route × Item)} {r s : Route} (h : ¬ r <+: s) :
    (es.filter fun e => !r.isPrefixOf e.1).find? (fun e => e.1 = s)
      = es.find? fun e => e.1 = s := by
  rw [List.find?_filter]
  congr 1
  funext e
  by_cases he : e.1 = s
  · subst he
    rw [isPrefixOf_eq_false h]
    simp
  · simp [he]

theorem lookIn_filter_below {es : List (Route × Item)} {r s : Route} (h : ¬ r <+: s) :
    lookIn (es.filter fun e => !r.isPrefixOf e.1) s = lookIn es s := by
  unfold lookIn
  rw [find?_filter_below h]

theorem Sound.filter {es : List (Route × Item)} (h : Sound es) (r : Route) :
    Sound (es.filter fun e => !r.isPrefixOf e.1) := by
  refine ⟨?_, ?_⟩
  · exact h.distinct.sublist (List.filter_sublist.map _)
  · intro e he
    rw [List.mem_filter] at he
    obtain ⟨f, n, h1, h2, h3⟩ := h.below e he.1
    have hr : ¬ r <+: e.1 := fun hp => by simp [isPrefixOf_eq_true hp] at he
    have hf : ¬ r <+: f := fun hp => hr (h1 ▸ hp.trans (List.prefix_append f [n]))
    exact ⟨f, n, h1, h2, (lookIn_filter_below hf).trans h3⟩

/-- The tree without the item at `r` and all that stands below it. An item that the home
stands in stays. -/
def without (t : FileTree) (r : Route) : FileTree :=
  if h : r.isPrefixOf t.home then t
  else
    { t with
      entries := t.entries.filter fun e => !r.isPrefixOf e.1
      sound := t.sound.filter r
      home_directory :=
        (lookIn_filter_below fun hp => h (isPrefixOf_eq_true hp)).trans t.home_directory }

end FileTree

end SpecCatalog
