import SpecCatalog.Location
import SpecCatalog.Proofs.FileTree.Spellings
import SpecCatalog.Proofs.Text.Order

/-!
# The order of locations

Locations are compared by their kinds, then by the components of their sources' paths and then by
their resources, and the first difference decides (`Location.compare_eq_lt_iff`). Each of the three
is compared by a total order that takes only equal things for equal. So what is put together from
them is transitive and total, and two locations are taken for equal exactly if they differ in the
spelling of the source's path at most (`Location.compare_orders`).
-/

namespace SpecCatalog

open PathText Std

variable {l m : Location}

/-! ## Kinds and texts -/

instance : Ord SourceKind := ⟨SourceKind.compare⟩

instance : TransOrd SourceKind where
  eq_swap {k k'} := by cases k <;> cases k' <;> rfl
  isLE_trans {k k' k''} := by cases k <;> cases k' <;> cases k'' <;> decide

theorem SourceKind.compare_eq_lt_iff {k k' : SourceKind} :
    k.compare k' = .lt ↔ k = .directory ∧ k' = .archive := by
  cases k <;> cases k' <;> decide

theorem SourceKind.compare_eq_eq_iff {k k' : SourceKind} : k.compare k' = .eq ↔ k = k' := by
  cases k <;> cases k' <;> decide

theorem compareText_eq : compareText = Ord.compare := rfl

/-- Texts are in the order of their bytes. -/
theorem compareText_eq_lt_iff {s t : String} :
    compareText s t = .lt ↔ Text.toBytes s < Text.toBytes t := by
  rw [Text.toBytes_lt_iff]
  unfold compareText
  split
  · rename_i h
    exact iff_of_true rfl h
  · rename_i h
    refine iff_of_false (fun he => ?_) h
    split at he <;> cases he

/-! ## Components -/

namespace PathText

/-- The top comes first, then dots, and names come last. -/
def Component.rank : Component → Nat
  | .top => 0
  | .here => 1
  | .up => 2
  | .name _ => 3

/-- The rank decides, and names come in the order of their bytes. -/
def Component.Before (c d : Component) : Prop :=
  c.rank < d.rank ∨ c.rank = d.rank ∧ Text.toBytes c.text < Text.toBytes d.text

instance : Ord Component := ⟨Component.compare⟩

/-- Only names differ in their texts alone. -/
theorem Component.compare_eq :
    Component.compare = compareLex (compareOn Component.rank) (compareOn Component.text) := by
  funext c d
  cases c <;> cases d <;> rfl

instance : TransOrd Component := by
  change TransCmp Component.compare
  rw [Component.compare_eq]
  infer_instance

theorem Component.eq_of_text {c d : Component} (hrank : c.rank = d.rank)
    (htext : c.text = d.text) : c = d := by
  cases c <;> cases d <;> simp_all [Component.rank, Component.text]

theorem Component.compare_eq_eq_iff {c d : Component} : c.compare d = .eq ↔ c = d := by
  rw [Component.compare_eq, compareLex_eq_eq, compareOn, compareOn,
    LawfulEqOrd.compare_eq_iff_eq, LawfulEqOrd.compare_eq_iff_eq]
  exact ⟨fun h => eq_of_text h.1 h.2, fun h => h ▸ ⟨rfl, rfl⟩⟩

theorem Component.compare_eq_lt_iff {c d : Component} : c.compare d = .lt ↔ c.Before d := by
  rw [Component.compare_eq, compareLex, compareOn, compareOn, Ordering.then_eq_lt,
    Nat.compare_eq_lt, Nat.compare_eq_eq, ← compareText_eq, compareText_eq_lt_iff]
  exact Iff.rfl

instance : LawfulEqOrd Component where
  compare_self := Component.compare_eq_eq_iff.2 rfl
  eq_of_compare := Component.compare_eq_eq_iff.1

theorem compareComponents_eq : compareComponents = Ord.compare := by
  funext cs ds
  induction cs generalizing ds with
  | nil =>
    cases ds with
    | nil => rfl
    | cons d ds => rfl
  | cons c cs ih =>
    cases ds with
    | nil => rfl
    | cons d ds =>
      rw [compareComponents, ih, List.compare_cons_cons]
      rfl

theorem compareComponents_eq_eq_iff {cs ds : List Component} :
    compareComponents cs ds = .eq ↔ cs = ds := by
  rw [compareComponents_eq, LawfulEqOrd.compare_eq_iff_eq]

/-- **The first difference decides**, and what ends there comes first. -/
theorem compareComponents_eq_lt_iff {cs ds : List Component} :
    compareComponents cs ds = .lt ↔ List.Lex Component.Before cs ds := by
  induction cs generalizing ds with
  | nil =>
    cases ds with
    | nil => exact iff_of_false (fun h => nomatch h) List.not_lex_nil
    | cons d ds => exact iff_of_true rfl .nil
  | cons c cs ih =>
    cases ds with
    | nil => exact iff_of_false (fun h => nomatch h) List.not_lex_nil
    | cons d ds =>
      rw [compareComponents, Ordering.then_eq_lt, Component.compare_eq_lt_iff,
        Component.compare_eq_eq_iff, ih, List.cons_lex_cons_iff]

end PathText

/-! ## Locations -/

namespace Location

/-- The kind decides, then the path of the source and then the resource. -/
def Before (l m : Location) : Prop :=
  (l.source.kind = .directory ∧ m.source.kind = .archive)
  ∨ l.source.kind = m.source.kind
    ∧ (List.Lex Component.Before (components l.source.path) (components m.source.path)
      ∨ components l.source.path = components m.source.path
        ∧ Text.toBytes l.resource < Text.toBytes m.resource)

theorem compare_eq_lt_iff : l.compare m = .lt ↔ l.Before m := by
  rw [Location.compare, Ordering.then_eq_lt, Ordering.then_eq_lt, SourceKind.compare_eq_lt_iff,
    SourceKind.compare_eq_eq_iff, compareComponents_eq_lt_iff, compareComponents_eq_eq_iff,
    compareText_eq_lt_iff]
  exact Iff.rfl

theorem compare_eq_eq_iff : l.compare m = .eq ↔ l.source.kind = m.source.kind
    ∧ components l.source.path = components m.source.path ∧ l.resource = m.resource := by
  rw [Location.compare, Ordering.then_eq_eq, Ordering.then_eq_eq, SourceKind.compare_eq_eq_iff,
    compareComponents_eq_eq_iff, compareText_eq, LawfulEqOrd.compare_eq_iff_eq]

theorem compare_eq : Location.compare = compareLex (compareOn fun l => l.source.kind)
    (compareLex (compareOn fun l => components l.source.path) (compareOn Location.resource)) := by
  funext l m
  rw [Location.compare, compareComponents_eq, compareText_eq]
  rfl

/-- The first difference decides by a total order, so all of it is a total order. -/
instance : TransCmp Location.compare := by
  rw [compare_eq]
  infer_instance

/-- **Locations are totally ordered, up to the spelling of paths.** The answer is "less" where the
first location comes before the second, and "greater" the other way round; each answer goes over
from neighbours to what is further apart; and of two locations one is at most the other. Every
directory comes before every archive. What is taken for equal has the same kind, the same components
and the same resource, and two paths have the same components if they begin alike and go on by the
same steps, that is, if one is a respelling of the other. -/
theorem compare_orders :
    (∀ a b : Location, a.compare b = .lt ↔ a.Before b)
    ∧ (∀ a b : Location, a.compare b = .lt ↔ b.compare a = .gt)
    ∧ (∀ (a b c : Location) (o : Ordering),
        a.compare b = o → b.compare c = o → a.compare c = o)
    ∧ (∀ a b c : Location, (a.compare b).isLE → (b.compare c).isLE → (a.compare c).isLE)
    ∧ (∀ a b : Location, (a.compare b).isLE ∨ (b.compare a).isLE)
    ∧ (∀ a b : Location, a.source.kind = .directory → b.source.kind = .archive →
        a.compare b = .lt)
    ∧ (∀ a b : Location, a.compare b = .eq ↔ a.source.kind = b.source.kind
        ∧ components a.source.path = components b.source.path ∧ a.resource = b.resource)
    ∧ (∀ p q : String, components p = components q ↔ beginning p = beginning q ∧ steps p = steps q)
    ∧ ∀ p q : String, components p = components q ↔ Respelling p q := by
  refine ⟨fun a b => compare_eq_lt_iff, fun a b => OrientedCmp.gt_iff_lt.symm, ?_,
    fun a b c => TransCmp.isLE_trans, ?_, fun a b ha hb => compare_eq_lt_iff.2 (.inl ⟨ha, hb⟩),
    fun a b => compare_eq_eq_iff, fun p q => components_eq_components_iff,
    fun p q => components_eq_iff_respelling⟩
  · intro a b c o hab hbc
    cases o with
    | lt => exact TransCmp.lt_trans hab hbc
    | eq => exact TransCmp.eq_trans hab hbc
    | gt => exact TransCmp.gt_trans hab hbc
  · intro a b
    cases hab : a.compare b with
    | lt => exact .inl rfl
    | eq => exact .inl rfl
    | gt => exact .inr (by rw [OrientedCmp.gt_iff_lt.1 hab]; rfl)

/-- A directory in two spellings, its neighbour and an archive. As texts the paths of the neighbour
and the directory are the other way round. -/
theorem compare_orders_neighbour :
    Location.compare ⟨⟨.directory, "lib/a"⟩, "m"⟩ ⟨⟨.directory, "lib/.//a/"⟩, "m"⟩ = .eq
      ∧ Location.compare ⟨⟨.directory, "lib/.//a/"⟩, "m"⟩ ⟨⟨.directory, "lib.d"⟩, "m"⟩ = .lt
      ∧ (Location.compare ⟨⟨.directory, "lib/a"⟩, "m"⟩ ⟨⟨.directory, "lib.d"⟩, "m"⟩).isLE
      ∧ Location.compare ⟨⟨.directory, "lib.d"⟩, "m"⟩ ⟨⟨.archive, "a"⟩, "m"⟩ = .lt
      ∧ Location.compare ⟨⟨.directory, "lib/.//a/"⟩, "m"⟩ ⟨⟨.archive, "a"⟩, "m"⟩ = .lt := by
  obtain ⟨-, -, htrans, hle, -, hkinds, -⟩ := compare_orders
  have hsame : Location.compare ⟨⟨.directory, "lib/a"⟩, "m"⟩
      ⟨⟨.directory, "lib/.//a/"⟩, "m"⟩ = .eq := by decide +kernel
  have hbefore : Location.compare ⟨⟨.directory, "lib/.//a/"⟩, "m"⟩
      ⟨⟨.directory, "lib.d"⟩, "m"⟩ = .lt := by decide +kernel
  have harchive := hkinds ⟨⟨.directory, "lib.d"⟩, "m"⟩ ⟨⟨.archive, "a"⟩, "m"⟩ rfl rfl
  exact ⟨hsame, hbefore, hle _ _ _ (by rw [hsame]; rfl) (by rw [hbefore]; rfl), harchive,
    htrans _ _ _ _ hbefore harchive⟩

end Location

end SpecCatalog
