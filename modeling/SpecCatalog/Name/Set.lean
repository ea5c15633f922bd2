/-!
# Sets of names

A set of names is kept as the strictly increasing list of its members, so two sets are
equal exactly when they have the same members, and listing one needs no sorting. Names
are ordered by their characters' code points, which is also the order of their UTF-8
bytes.
-/

namespace SpecCatalog

/-- A finite set of names. -/
structure NameSet where
  toList : List String
  increasing : toList.Pairwise (· < ·)

namespace NameSet

instance : DecidableEq NameSet := fun s t =>
  if h : s.toList = t.toList then isTrue (by cases s; cases t; simp_all)
  else isFalse fun he => h (he ▸ rfl)

instance : Membership String NameSet := ⟨fun s x => x ∈ s.toList⟩

theorem mem_toList {s : NameSet} {x : String} : x ∈ s.toList ↔ x ∈ s := Iff.rfl

instance (x : String) (s : NameSet) : Decidable (x ∈ s) :=
  inferInstanceAs (Decidable (x ∈ s.toList))

def empty : NameSet := ⟨[], .nil⟩

instance : EmptyCollection NameSet := ⟨empty⟩

instance : Inhabited NameSet := ⟨empty⟩

def size (s : NameSet) : Nat := s.toList.length

/-! ## Insertion -/

/-- Puts a name where the order wants it, unless it is there. -/
def place (x : String) : List String → List String
  | [] => [x]
  | y :: ys => if x < y then x :: y :: ys else if x = y then y :: ys else y :: place x ys

theorem mem_place {x z : String} {l : List String} : z ∈ place x l ↔ z = x ∨ z ∈ l := by
  induction l with
  | nil => simp [place]
  | cons y ys ih =>
    unfold place
    split
    · simp
    · split
      · rename_i h; simp [h]
      · simp [ih]; grind

theorem lt_of_not_lt_of_ne {x y : String} (h : ¬ x < y) (hne : x ≠ y) : y < x := by
  by_cases hlt : y < x
  · exact hlt
  · exact absurd (String.le_antisymm hlt h) hne

theorem place_increasing {x : String} {l : List String} (h : l.Pairwise (· < ·)) :
    (place x l).Pairwise (· < ·) := by
  induction l with
  | nil => simp [place]
  | cons y ys ih =>
    have hy := List.pairwise_cons.1 h
    unfold place
    split
    · rename_i hxy
      refine List.pairwise_cons.2 ⟨fun z hz => ?_, h⟩
      rcases List.mem_cons.1 hz with rfl | hz
      · exact hxy
      · exact String.lt_trans hxy (hy.1 z hz)
    · split
      · exact h
      · rename_i hxy hne
        refine List.pairwise_cons.2 ⟨fun z hz => ?_, ih hy.2⟩
        rcases mem_place.1 hz with rfl | hz
        · exact lt_of_not_lt_of_ne hxy hne
        · exact hy.1 z hz

def insert (s : NameSet) (x : String) : NameSet := ⟨place x s.toList, place_increasing s.increasing⟩

@[simp] theorem mem_insert {s : NameSet} {x y : String} : y ∈ s.insert x ↔ y = x ∨ y ∈ s :=
  mem_place

def ofList (l : List String) : NameSet := l.foldl insert empty

theorem mem_foldl_insert {l : List String} {s : NameSet} {x : String} :
    x ∈ l.foldl insert s ↔ x ∈ s ∨ x ∈ l := by
  induction l generalizing s with
  | nil => simp
  | cons y ys ih => simp [ih]; grind

@[simp] theorem mem_ofList {l : List String} {x : String} : x ∈ ofList l ↔ x ∈ l := by
  have he : ¬ x ∈ empty := List.not_mem_nil
  simp [ofList, mem_foldl_insert, he]

/-! ## Sets with the same members -/

theorem eq_of_increasing {l m : List String} (hl : l.Pairwise (· < ·)) (hm : m.Pairwise (· < ·))
    (h : ∀ x, x ∈ l ↔ x ∈ m) : l = m := by
  induction l generalizing m with
  | nil =>
    cases m with
    | nil => rfl
    | cons y ys => exact absurd ((h y).2 List.mem_cons_self) List.not_mem_nil
  | cons a as ih =>
    cases m with
    | nil => exact absurd ((h a).1 List.mem_cons_self) List.not_mem_nil
    | cons b bs =>
      have ha := List.pairwise_cons.1 hl
      have hb := List.pairwise_cons.1 hm
      have hab : a = b := by
        rcases List.mem_cons.1 ((h a).1 List.mem_cons_self) with he | hin
        · exact he
        · rcases List.mem_cons.1 ((h b).2 List.mem_cons_self) with he | hin'
          · exact he.symm
          · exact absurd (String.lt_trans (hb.1 a hin) (ha.1 b hin')) (String.lt_irrefl b)
      subst hab
      rw [ih ha.2 hb.2]
      intro x
      constructor
      · intro hx
        rcases List.mem_cons.1 ((h x).1 (List.mem_cons_of_mem _ hx)) with rfl | hx'
        · exact absurd (ha.1 x hx) (String.lt_irrefl x)
        · exact hx'
      · intro hx
        rcases List.mem_cons.1 ((h x).2 (List.mem_cons_of_mem _ hx)) with rfl | hx'
        · exact absurd (hb.1 x hx) (String.lt_irrefl x)
        · exact hx'

theorem ext {s t : NameSet} (h : ∀ x, x ∈ s ↔ x ∈ t) : s = t := by
  have := eq_of_increasing s.increasing t.increasing h
  cases s; cases t; simp_all

end NameSet

end SpecCatalog
