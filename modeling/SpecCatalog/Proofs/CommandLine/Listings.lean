import Mathlib.Data.List.Basic
import SpecCatalog.CommandLine.Run
import SpecCatalog.Proofs.Name.Characters

/-!
# What a listing tells

A specification is displayed without any escapes: its name between quotes and its dependencies
in brackets, with commas between them. No standard name has a quote, a comma or a bracket, so a
display can be read off from its front, and it is told from what comes after it
(`display_append_cancel`). Hence a display tells the specification, and a listing, which is one
display after the other, tells all of them in their order (`display_eq_iff`).
-/

namespace SpecCatalog

variable {s s' : Specification} {c c' : Char} {r r' : List Char}

/-- The name and the dependencies are valid under the rules. -/
structure Specification.ValidBy (rules : NameRules) (s : Specification) : Prop where
  name : rules.isValid s.name = true
  dependencies : ∀ d ∈ s.dependencies, rules.isValid d = true

namespace CommandLine

/-! ## Texts cut at a sign -/

/-- Where the first sign stands is told by the text alone. -/
theorem cut_at_sign {sign : Char → Prop} {front front' : List Char} (hc : sign c) (hc' : sign c')
    (hfront : ∀ d ∈ front, ¬ sign d) (hfront' : ∀ d ∈ front', ¬ sign d)
    (h : front ++ c :: r = front' ++ c' :: r') : front = front' ∧ c = c' ∧ r = r' := by
  induction front generalizing front' with
  | nil =>
    cases front' with
    | nil =>
      obtain ⟨hsign, hrest⟩ := List.cons.inj h
      exact ⟨rfl, hsign, hrest⟩
    | cons d front' =>
      obtain ⟨rfl, -⟩ := List.cons.inj h
      exact absurd hc (hfront' c List.mem_cons_self)
  | cons d front ih =>
    rw [List.forall_mem_cons] at hfront
    cases front' with
    | nil =>
      obtain ⟨rfl, -⟩ := List.cons.inj h
      exact absurd hc' hfront.1
    | cons d' front' =>
      obtain ⟨rfl, hrest⟩ := List.cons.inj h
      rw [List.forall_mem_cons] at hfront'
      obtain ⟨rfl, hsame⟩ := ih hfront.2 hfront'.2 hrest
      exact ⟨rfl, hsame⟩

/-! ## Names in a display -/

/-- What a display writes between names. -/
def Divides (c : Char) : Prop := c ∈ ['"', ',', ']']

instance (c : Char) : Decidable (Divides c) := inferInstanceAs (Decidable (c ∈ ['"', ',', ']']))

theorem not_divides_of_isValid {name : String} (h : NameRules.standard.isValid name = true) :
    ∀ c ∈ name.toList, ¬ Divides c := by
  intro c hc hdivides
  have hcode := NameRules.toNat_of_continuesName
    ((NameRules.isValid_iff_isStandardName.1 h).continuesName c hc)
  have hsigns : c.toNat ∈ [34, 44, 93] := List.mem_map.2 ⟨c, hdivides, rfl⟩
  simp only [List.mem_cons, List.not_mem_nil, or_false] at hcode hsigns
  omega

/-- What can stand in a list of dependencies. -/
def IsEntry (d : List Char) : Prop := d ≠ [] ∧ ∀ c ∈ d, ¬ Divides c

theorem isEntry_of_isValid {name : String} (h : NameRules.standard.isValid name = true) :
    IsEntry name.toList :=
  ⟨toList_ne_nil_of_isValid h, not_divides_of_isValid h⟩

/-- The entries up to the bracket. -/
def bracketed (ds : List (List Char)) (r : List Char) : List Char :=
  List.intercalate [',', ' '] ds ++ ']' :: r

theorem bracketed_singleton (d r : List Char) : bracketed [d] r = d ++ ']' :: r := by
  rw [bracketed, List.intercalate_singleton]

theorem bracketed_cons_cons (d e : List Char) (ds : List (List Char)) (r : List Char) :
    bracketed (d :: e :: ds) r = d ++ ',' :: ' ' :: bracketed (e :: ds) r := by
  rw [bracketed, List.intercalate_cons_cons, bracketed]
  simp

/-- An entry comes first, and what divides it from the rest. -/
theorem exists_bracketed_cons (d : List Char) (ds : List (List Char)) (r : List Char) :
    ∃ c rest, Divides c ∧ bracketed (d :: ds) r = d ++ c :: rest := by
  cases ds with
  | nil => exact ⟨']', r, by decide, bracketed_singleton d r⟩
  | cons e ds => exact ⟨',', _, by decide, bracketed_cons_cons d e ds r⟩

/-- Nothing is listed exactly if the bracket comes at once. -/
theorem bracketed_nil_ne {d : List Char} {ds : List (List Char)} (hd : IsEntry d) :
    bracketed [] r ≠ bracketed (d :: ds) r' := by
  intro h
  obtain ⟨c, rest, -, hcons⟩ := exists_bracketed_cons d ds r'
  rw [hcons] at h
  cases d with
  | nil => exact hd.1 rfl
  | cons a d =>
    obtain ⟨ha, -⟩ := List.cons.inj h
    exact hd.2 a List.mem_cons_self (ha ▸ (by decide : Divides ']'))

/-- **The entries can be read off**, and what comes after the bracket. -/
theorem bracketed_cancel {ds ds' : List (List Char)} (hds : ∀ d ∈ ds, IsEntry d)
    (hds' : ∀ d ∈ ds', IsEntry d) (h : bracketed ds r = bracketed ds' r') :
    ds = ds' ∧ r = r' := by
  induction ds generalizing ds' with
  | nil =>
    cases ds' with
    | nil => exact ⟨rfl, (List.cons.inj h).2⟩
    | cons d' ds' => exact absurd h (bracketed_nil_ne (hds' d' List.mem_cons_self))
  | cons d ds ih =>
    rw [List.forall_mem_cons] at hds
    cases ds' with
    | nil => exact absurd h.symm (bracketed_nil_ne hds.1)
    | cons d' ds' =>
      rw [List.forall_mem_cons] at hds'
      cases ds with
      | nil =>
        cases ds' with
        | nil =>
          rw [bracketed_singleton, bracketed_singleton] at h
          obtain ⟨rfl, -, hrest⟩ := cut_at_sign (by decide) (by decide) hds.1.2 hds'.1.2 h
          exact ⟨rfl, hrest⟩
        | cons e' ds' =>
          rw [bracketed_singleton, bracketed_cons_cons] at h
          obtain ⟨-, hsign, -⟩ := cut_at_sign (by decide) (by decide) hds.1.2 hds'.1.2 h
          cases hsign
      | cons e ds =>
        cases ds' with
        | nil =>
          rw [bracketed_singleton, bracketed_cons_cons] at h
          obtain ⟨-, hsign, -⟩ := cut_at_sign (by decide) (by decide) hds.1.2 hds'.1.2 h
          cases hsign
        | cons e' ds' =>
          -- both go on behind a comma
          rw [bracketed_cons_cons, bracketed_cons_cons] at h
          obtain ⟨rfl, -, hrest⟩ := cut_at_sign (by decide) (by decide) hds.1.2 hds'.1.2 h
          obtain ⟨hmore, rfl⟩ := ih hds.2 hds'.2 (List.cons.inj hrest).2
          exact ⟨by rw [hmore], rfl⟩

/-! ## Displays -/

theorem display_append (s : Specification) (r : List Char) :
    s.display.toList ++ r = "Specification\x7bname=\"".toList
      ++ (s.name.toList ++ '"' :: (", dependencies=[".toList
        ++ bracketed (s.dependencies.toList.map String.toList) ('\x7d' :: r))) := by
  unfold Specification.display bracketed
  dsimp only [toString]
  simp only [String.toList_append, String.toList_intercalate, List.append_assoc]
  rfl

/-- **A display tells what it displays and where it ends.** -/
theorem display_append_cancel (hs : s.ValidBy .standard) (hs' : s'.ValidBy .standard)
    (h : s.display.toList ++ r = s'.display.toList ++ r') : s = s' ∧ r = r' := by
  have hentries : ∀ s : Specification, s.ValidBy .standard →
      ∀ d ∈ s.dependencies.toList.map String.toList, IsEntry d := by
    intro s hs d hd
    obtain ⟨name, hname, rfl⟩ := List.mem_map.1 hd
    exact isEntry_of_isValid (hs.dependencies name hname)
  rw [display_append, display_append] at h
  obtain ⟨hname, -, hrest⟩ := cut_at_sign (by decide) (by decide)
    (not_divides_of_isValid hs.name) (not_divides_of_isValid hs'.name)
    (List.append_cancel_left h)
  obtain ⟨hdeps, hends⟩ := bracketed_cancel (hentries s hs) (hentries s' hs')
    (List.append_cancel_left hrest)
  have hlist : s.dependencies.toList = s'.dependencies.toList :=
    List.map_injective_iff.2 (fun _ _ => String.toList_injective) hdeps
  refine ⟨?_, (List.cons.inj hends).2⟩
  cases s
  cases s'
  rw [Specification.mk.injEq]
  refine ⟨String.toList_injective hname, NameSet.ext fun x => ?_⟩
  rw [← NameSet.mem_toList, ← NameSet.mem_toList, hlist]

theorem listing_cons (s : Specification) (specs : List Specification) :
    (listing (s :: specs)).toList = s.display.toList ++ '\n' :: (listing specs).toList := by
  unfold listing
  simp

theorem listing_injective {specs specs' : List Specification}
    (hspecs : ∀ s ∈ specs, s.ValidBy .standard) (hspecs' : ∀ s ∈ specs', s.ValidBy .standard)
    (h : (listing specs).toList = (listing specs').toList) : specs = specs' := by
  have hline : ∀ (s : Specification) (specs : List Specification),
      (listing (s :: specs)).toList ≠ (listing []).toList := by
    intro s specs hnone
    rw [listing_cons] at hnone
    exact List.append_ne_nil_of_right_ne_nil _ (List.cons_ne_nil _ _) hnone
  induction specs generalizing specs' with
  | nil =>
    cases specs' with
    | nil => rfl
    | cons s' specs' => exact absurd h.symm (hline s' specs')
  | cons s specs ih =>
    cases specs' with
    | nil => exact absurd h (hline s specs)
    | cons s' specs' =>
      rw [List.forall_mem_cons] at hspecs hspecs'
      rw [listing_cons, listing_cons] at h
      obtain ⟨rfl, hrest⟩ := display_append_cancel hspecs.1 hspecs'.1 h
      rw [ih hspecs.2 hspecs'.2 (List.cons.inj hrest).2]

/-- **A listing identifies what it lists.** Specifications with standard names are displayed
alike only if they are equal, and what is printed for two lists of them, a line for each, is the
same only if the lists are. -/
theorem display_eq_iff :
    (∀ s s' : Specification, s.ValidBy .standard → s'.ValidBy .standard →
      (s.display = s'.display ↔ s = s'))
    ∧ ∀ specs specs' : List Specification, (∀ s ∈ specs, s.ValidBy .standard) →
        (∀ s ∈ specs', s.ValidBy .standard) →
        (listing specs = listing specs' ↔ specs = specs') := by
  refine ⟨fun s s' hs hs' => ⟨fun h => ?_, fun h => by rw [h]⟩,
    fun specs specs' hspecs hspecs' => ⟨fun h => ?_, fun h => by rw [h]⟩⟩
  · have hchars : s.display.toList ++ [] = s'.display.toList ++ [] := by rw [h]
    exact (display_append_cancel hs hs' hchars).1
  · exact listing_injective hspecs hspecs' (by rw [h])

/-- Two specifications that differ in one dependency, listed in one order and in the other. -/
theorem display_eq_iff_crosswise :
    Specification.ValidBy .standard ⟨"a", .ofList ["b", "c-d"]⟩
      ∧ Specification.ValidBy .standard ⟨"a", .ofList ["b", "c", "d"]⟩
      ∧ Specification.display ⟨"a", .ofList ["b", "c-d"]⟩
        ≠ Specification.display ⟨"a", .ofList ["b", "c", "d"]⟩
      ∧ listing [⟨"a", .ofList ["b", "c-d"]⟩, ⟨"a", .ofList ["b", "c", "d"]⟩]
        ≠ listing [⟨"a", .ofList ["b", "c", "d"]⟩, ⟨"a", .ofList ["b", "c-d"]⟩] := by
  have hone : Specification.ValidBy .standard ⟨"a", .ofList ["b", "c-d"]⟩ :=
    ⟨by decide +kernel, by decide +kernel⟩
  have hother : Specification.ValidBy .standard ⟨"a", .ofList ["b", "c", "d"]⟩ :=
    ⟨by decide +kernel, by decide +kernel⟩
  have hdiffer : (⟨"a", .ofList ["b", "c-d"]⟩ : Specification)
      ≠ ⟨"a", .ofList ["b", "c", "d"]⟩ := by decide +kernel
  obtain ⟨hdisplays, hlistings⟩ := display_eq_iff
  refine ⟨hone, hother, fun h => hdiffer ((hdisplays _ _ hone hother).1 h), fun h => hdiffer ?_⟩
  have hboth := (hlistings _ _ (List.forall_mem_cons.2 ⟨hone, List.forall_mem_singleton.2 hother⟩)
    (List.forall_mem_cons.2 ⟨hother, List.forall_mem_singleton.2 hone⟩)).1 h
  exact (List.cons.inj hboth).1

end CommandLine

end SpecCatalog
