import SpecCatalog.Name.Set

/-!
# Maps from names

A map from names is kept as its entries in strictly increasing order of the names, so
two maps are equal exactly when they look up the same. `get?_insert` says what an
insertion does to a look-up and `ext` that look-ups are all there is to a map.
-/

namespace SpecCatalog

/-- A finite map whose keys are names. -/
structure NameMap (α : Type) where
  entries : List (String × α)
  increasing : (entries.map (·.1)).Pairwise (· < ·)

namespace NameMap

variable {α β : Type}

theorem increasing_nil : (([] : List (String × α)).map (·.1)).Pairwise (· < ·) := .nil

def empty : NameMap α := ⟨[], increasing_nil⟩

instance : EmptyCollection (NameMap α) := ⟨empty⟩

instance : Inhabited (NameMap α) := ⟨empty⟩

def keys (m : NameMap α) : List String := m.entries.map (·.1)

def values (m : NameMap α) : List α := m.entries.map (·.2)

def find (x : String) : List (String × α) → Option α
  | [] => none
  | (y, a) :: rest => if x = y then some a else find x rest

def get? (m : NameMap α) (x : String) : Option α := find x m.entries

/-! ## Insertion -/

/-- Puts an entry where the order wants it, in place of one with the same key. -/
def place (x : String) (a : α) : List (String × α) → List (String × α)
  | [] => [(x, a)]
  | (y, b) :: rest =>
    if x < y then (x, a) :: (y, b) :: rest
    else if x = y then (x, a) :: rest
    else (y, b) :: place x a rest

theorem mem_keys_place {x z : String} {a : α} {l : List (String × α)} :
    z ∈ (place x a l).map (·.1) ↔ z = x ∨ z ∈ l.map (·.1) := by
  induction l with
  | nil => simp [place]
  | cons e rest ih =>
    obtain ⟨y, b⟩ := e
    unfold place
    split
    · simp
    · split
      · rename_i h; simp [h]
      · rw [List.map_cons, List.mem_cons, ih, List.map_cons, List.mem_cons]; grind

theorem place_increasing {x : String} {a : α} {l : List (String × α)}
    (h : (l.map (·.1)).Pairwise (· < ·)) : ((place x a l).map (·.1)).Pairwise (· < ·) := by
  induction l with
  | nil => simp [place]
  | cons e rest ih =>
    obtain ⟨y, b⟩ := e
    rw [List.map_cons] at h
    have hy := List.pairwise_cons.1 h
    unfold place
    split
    · rename_i hxy
      refine List.pairwise_cons.2 ⟨fun z hz => ?_, h⟩
      rcases List.mem_cons.1 hz with rfl | hz
      · exact hxy
      · exact String.lt_trans hxy (hy.1 z hz)
    · split
      · rename_i he
        subst he
        exact h
      · rename_i hxy hne
        refine List.pairwise_cons.2 ⟨fun z hz => ?_, ih hy.2⟩
        rcases mem_keys_place.1 hz with rfl | hz
        · exact NameSet.lt_of_not_lt_of_ne hxy hne
        · exact hy.1 z hz

def insert (m : NameMap α) (x : String) (a : α) : NameMap α :=
  ⟨place x a m.entries, place_increasing m.increasing⟩

theorem find_place {x z : String} {a : α} {l : List (String × α)} :
    find z (place x a l) = if z = x then some a else find z l := by
  induction l with
  | nil => simp [place, find]
  | cons e rest ih =>
    obtain ⟨y, b⟩ := e
    unfold place
    split
    · simp [find]
    · split
      · rename_i h; subst h; simp only [find]; split <;> rfl
      · rename_i hne
        simp only [find, ih]
        split
        · rename_i h; subst h; rw [if_neg (fun h => hne h.symm)]
        · rfl

@[simp] theorem get?_insert {m : NameMap α} {x z : String} {a : α} :
    (m.insert x a).get? z = if z = x then some a else m.get? z := find_place

@[simp] theorem get?_empty {z : String} : (empty : NameMap α).get? z = none := rfl

/-! ## Keys and look-ups -/

theorem find_eq_none_iff {x : String} {l : List (String × α)} :
    find x l = none ↔ x ∉ l.map (·.1) := by
  induction l with
  | nil => simp [find]
  | cons e rest ih =>
    obtain ⟨y, b⟩ := e
    simp only [find, List.map_cons, List.mem_cons]
    split
    · rename_i h; simp [h]
    · rename_i h; rw [ih]; simp [h]

theorem mem_keys_iff {m : NameMap α} {x : String} : x ∈ m.keys ↔ (m.get? x).isSome := by
  show x ∈ m.entries.map (·.1) ↔ (find x m.entries).isSome
  have h := find_eq_none_iff (x := x) (l := m.entries)
  cases hf : find x m.entries with
  | none => simpa using h.1 hf
  | some a =>
    have hin : x ∈ m.entries.map (·.1) :=
      Decidable.not_not.1 fun hn => by rw [h.2 hn] at hf; cases hf
    simpa using hin

theorem mem_of_find {x : String} {a : α} {l : List (String × α)} (h : find x l = some a) :
    (x, a) ∈ l := by
  induction l with
  | nil => simp [find] at h
  | cons e rest ih =>
    obtain ⟨y, b⟩ := e
    simp only [find] at h
    split at h
    · rename_i hx; injection h with h; simp [hx, h]
    · exact List.mem_cons_of_mem _ (ih h)

theorem find_of_mem {x : String} {a : α} {l : List (String × α)}
    (hl : (l.map (·.1)).Pairwise (· < ·)) (h : (x, a) ∈ l) : find x l = some a := by
  induction l with
  | nil => simp at h
  | cons e rest ih =>
    obtain ⟨y, b⟩ := e
    rw [List.map_cons] at hl
    have hy := List.pairwise_cons.1 hl
    simp only [find]
    rcases List.mem_cons.1 h with he | h
    · injection he with h1 h2
      simp [h1, h2]
    · have hlt : y < x := hy.1 x (List.mem_map.2 ⟨(x, a), h, rfl⟩)
      rw [if_neg]
      · exact ih hy.2 h
      · intro he; exact absurd (he ▸ hlt) (String.lt_irrefl y)

theorem mem_entries_iff {m : NameMap α} {x : String} {a : α} :
    (x, a) ∈ m.entries ↔ m.get? x = some a :=
  ⟨find_of_mem m.increasing, mem_of_find⟩

theorem entries_eq {l m : List (String × α)} (hl : (l.map (·.1)).Pairwise (· < ·))
    (hm : (m.map (·.1)).Pairwise (· < ·)) (h : ∀ x, find x l = find x m) : l = m := by
  have hk : l.map (·.1) = m.map (·.1) := by
    refine NameSet.eq_of_increasing hl hm fun x => ?_
    have h1 := find_eq_none_iff (x := x) (l := l)
    have h2 := find_eq_none_iff (x := x) (l := m)
    rw [h x] at h1
    exact Decidable.not_iff_not.1 (h1.symm.trans h2)
  induction l generalizing m with
  | nil =>
    cases m with
    | nil => rfl
    | cons e rest => simp at hk
  | cons e rest ih =>
    cases m with
    | nil => simp at hk
    | cons e' rest' =>
      obtain ⟨x, a⟩ := e
      obtain ⟨y, b⟩ := e'
      simp only [List.map_cons, List.cons.injEq] at hk
      obtain ⟨hxy, hk⟩ := hk
      subst hxy
      have hab := h x
      simp only [find, if_true, Option.some.injEq] at hab
      subst hab
      rw [List.map_cons] at hl hm
      have hl' := List.pairwise_cons.1 hl
      have hm' := List.pairwise_cons.1 hm
      rw [ih hl'.2 hm'.2 ?_ hk]
      intro z
      have hz := h z
      simp only [find] at hz
      split at hz
      · rename_i hzx
        subst hzx
        rw [find_eq_none_iff.2 fun hin => absurd (hl'.1 z hin) (String.lt_irrefl z),
          find_eq_none_iff.2 fun hin => absurd (hm'.1 z hin) (String.lt_irrefl z)]
      · exact hz

theorem ext {m n : NameMap α} (h : ∀ x, m.get? x = n.get? x) : m = n := by
  have := entries_eq m.increasing n.increasing h
  cases m; cases n; simp_all

/-! ## Mapping the values -/

def map (f : α → β) (m : NameMap α) : NameMap β :=
  ⟨m.entries.map fun e => (e.1, f e.2), by
    have : (m.entries.map fun e => (e.1, f e.2)).map (·.1) = m.entries.map (·.1) := by
      simp [List.map_map, Function.comp_def]
    rw [this]
    exact m.increasing⟩

@[simp] theorem get?_map {f : α → β} {m : NameMap α} {x : String} :
    (m.map f).get? x = (m.get? x).map f := by
  show find x (m.entries.map fun e => (e.1, f e.2)) = (find x m.entries).map f
  induction m.entries with
  | nil => rfl
  | cons e rest ih =>
    obtain ⟨y, b⟩ := e
    simp only [List.map_cons, find]
    split
    · rfl
    · exact ih

end NameMap

end SpecCatalog
