import Mathlib.Data.List.Nodup
import Mathlib.Data.List.Perm.Subperm
import SpecCatalog.Proofs.Json.Acceptance
import SpecCatalog.Proofs.Json.Derivation

/-!
# The documents that hold a record

`Shape.Form` is the grammar of a record: an object whose members have different keys, all of
them the names of fields and the required ones among them, or a list of the first fields in
their order, of which the ones left out are not required. The record is carried along, since
what a value becomes is a matter of the field: `V f` relates a record, the bytes of a value of
`f` and the record with the value in it.

`parse_eq_ok_iff` says that the reader accepts exactly the documents of this grammar and gives
the record they stand for, provided that it reads each field as `V` says.

A value is followed by more of its container and never directly by another value. A reader may
rely on that, as one of numbers has to, so values are only taken before something that `Stops`
them.
-/

namespace SpecCatalog.Json

open Scan

/-- What follows a value inside a container: a blank, a comma or a closing bracket. -/
def Stops (t : Bytes) : Prop :=
  ∃ b rest, t = b :: rest ∧
    (isBlank b = true ∨ b = Byte.comma ∨ b = Byte.closeList ∨ b = Byte.closeMap)

/-- The step takes each form of `W` that is followed by what stops it, with any blanks before
it, and nothing after it. -/
def TakesInside {α : Type} (x : Scan α) (W : Writing α) : Prop :=
  ∀ {u w : Bytes} {a : α}, Blanks u → W w a → ∀ t, Stops t → Gives x (u ++ (w ++ t)) a t

theorem stops_blanks {u : Bytes} (hu : Blanks u) {b : UInt8}
    (hb : b = Byte.closeList ∨ b = Byte.closeMap) (t : Bytes) : Stops (u ++ b :: t) := by
  cases u with
  | nil => exact ⟨b, t, rfl, .inr (.inr hb)⟩
  | cons x u => exact ⟨x, u ++ b :: t, rfl, .inl (hu x List.mem_cons_self)⟩

theorem stops_lead {lead : Bytes} (hl : Lead false lead) (t : Bytes) : Stops (lead ++ t) := by
  cases hl with
  | @later u v hu _ =>
    cases u with
    | nil => exact ⟨Byte.comma, v ++ t, rfl, .inr (.inl rfl)⟩
    | cons x u =>
      refine ⟨x, (u ++ Byte.comma :: v) ++ t, rfl, .inl (hu x List.mem_cons_self)⟩

namespace Shape

variable {ρ : Type} {s : Shape ρ} {V : Field ρ → ρ → Writing ρ}

/-! ## The grammar -/

/-- The members of an object up to its brace, after those of the names in `seen`, which have
made the first record; they make the second one of it. -/
inductive Members (s : Shape ρ) (V : Field ρ → ρ → Writing ρ) :
    Bool → List String → ρ → Writing ρ where
  | nil {first : Bool} {seen : List String} {r : ρ} {u : Bytes} :
      (∀ f ∈ s.fields, f.required = true → f.name ∈ seen) → Blanks u →
      Members s V first seen r u r
  | cons {first : Bool} {seen : List String} {f : Field ρ} {r r' r'' : ρ}
      {lead k u v w more : Bytes} :
      f ∈ s.fields → f.name ∉ seen →
      Lead first lead → TextForm k f.name → Blanks u → Blanks v → V f r w r' →
      Members s V false (f.name :: seen) r' more r'' →
      Members s V first seen r (lead ++ (k ++ (u ++ Byte.colon :: (v ++ (w ++ more))))) r''

/-- The elements of a list up to its bracket: values of these fields in their order, of which
the last ones may be left out. -/
inductive Elements (V : Field ρ → ρ → Writing ρ) : Bool → List (Field ρ) → ρ → Writing ρ where
  | nil {first : Bool} {fs : List (Field ρ)} {r : ρ} {u : Bytes} :
      (∀ f ∈ fs, f.required = false) → Blanks u → Elements V first fs r u r
  | cons {first : Bool} {f : Field ρ} {fs : List (Field ρ)} {r r' r'' : ρ}
      {lead w more : Bytes} :
      Lead first lead → V f r w r' → Elements V false fs r' more r'' →
      Elements V first (f :: fs) r (lead ++ (w ++ more)) r''

/-- A record, as an object or as a list. -/
inductive Form (s : Shape ρ) (V : Field ρ → ρ → Writing ρ) : Writing ρ where
  | object {w : Bytes} {r : ρ} :
      Members s V true [] s.blank w r → Form s V (Byte.openMap :: w ++ [Byte.closeMap]) r
  | list {w : Bytes} {r : ρ} :
      Elements V true s.fields s.blank w r →
      Form s V (Byte.openList :: w ++ [Byte.closeList]) r

/-- The reader of the shape reads the value of each field as `V` says, and can tell by its
first byte that it comes. -/
structure ReadsAs (s : Shape ρ) (V : Field ρ → ρ → Writing ρ) : Prop where
  distinct : s.names.Nodup
  takes : ∀ f ∈ s.fields, ∀ r, TakesInside (f.read r) (V f r)
  derived : ∀ f ∈ s.fields, ∀ r, Derived (f.read r) (V f r)
  begins : ∀ f ∈ s.fields, ∀ r w r', V f r w r' →
    ∃ b rest, w = b :: rest ∧ isBlank b = false ∧ b ≠ Byte.closeList

/-! ## Blanks before the end -/

theorem Members.append_blanks {first : Bool} {seen : List String} {r r' : ρ} {w u : Bytes}
    (h : Members s V first seen r w r') (hu : Blanks u) :
    Members s V first seen r (w ++ u) r' := by
  induction h with
  | nil hr hw => exact .nil hr (List.forall_mem_append.2 ⟨hw, hu⟩)
  | cons hf hs hl hk hu' hv hw _ ih =>
    simp only [List.append_assoc, List.cons_append]
    exact .cons hf hs hl hk hu' hv hw ih

theorem Elements.append_blanks {first : Bool} {fs : List (Field ρ)} {r r' : ρ} {w u : Bytes}
    (h : Elements V first fs r w r') (hu : Blanks u) : Elements V first fs r (w ++ u) r' := by
  induction h with
  | nil hr hw => exact .nil hr (List.forall_mem_append.2 ⟨hw, hu⟩)
  | cons hl hw _ ih =>
    simp only [List.append_assoc]
    exact .cons hl hw ih

theorem Members.stops {seen : List String} {r r' : ρ} {w : Bytes}
    (h : Members s V false seen r w r') (t : Bytes) : Stops (w ++ Byte.closeMap :: t) := by
  cases h with
  | nil _ hu => exact stops_blanks hu (.inr rfl) t
  | cons _ _ hl _ _ _ _ _ =>
    rw [List.append_assoc]
    exact stops_lead hl _

theorem Elements.stops {fs : List (Field ρ)} {r r' : ρ} {w : Bytes}
    (h : Elements V false fs r w r') (t : Bytes) : Stops (w ++ Byte.closeList :: t) := by
  cases h with
  | nil _ hu => exact stops_blanks hu (.inl rfl) t
  | cons hl _ _ =>
    rw [List.append_assoc]
    exact stops_lead hl _

/-! ## Fuel

The names that have come are different names of fields, so there is a round left as long as
there are more rounds than names to come. -/

/-- There are rounds for all names that have not come yet, and one more. -/
structure Fueled (s : Shape ρ) (fuel : Nat) (seen : List String) : Prop where
  distinct : seen.Nodup
  known : seen ⊆ s.names
  enough : s.names.length < seen.length + fuel

theorem fueled_start (s : Shape ρ) : s.Fueled (s.fields.length + 1) [] where
  distinct := .nil
  known := List.nil_subset _
  enough := by
    rw [names, List.length_map, List.length_nil]
    omega

theorem not_fueled_zero {seen : List String} : ¬ s.Fueled 0 seen := by
  intro h
  have hlen : seen.length ≤ s.names.length := (h.distinct.subperm h.known).length_le
  exact absurd h.enough (Nat.not_lt.2 hlen)

theorem Fueled.cons {fuel : Nat} {seen : List String} {f : Field ρ} (h : s.Fueled (fuel + 1) seen)
    (hf : f ∈ s.fields) (hs : f.name ∉ seen) : s.Fueled fuel (f.name :: seen) where
  distinct := h.distinct.cons hs
  known := List.cons_subset.2 ⟨List.mem_map.2 ⟨f, hf, rfl⟩, h.known⟩
  enough := by
    have := h.enough
    rw [List.length_cons]
    omega

/-! ## The reader takes every record -/

theorem find?_name (h : s.names.Nodup) {f : Field ρ} (hf : f ∈ s.fields) :
    s.fields.find? (·.name = f.name) = some f := by
  cases hfind : s.fields.find? (·.name = f.name) with
  | none => exact absurd (decide_eq_true rfl) (List.find?_eq_none.1 hfind f hf)
  | some g =>
    have hname : g.name = f.name := by simpa using List.find?_some hfind
    rw [List.inj_on_of_nodup_map h (List.mem_of_find?_eq_some hfind) hf hname]

/-- The required fields have come exactly if none is missed. -/
theorem find?_missing_eq_none_iff {seen : List String} :
    s.fields.find? (fun f => f.required && !seen.contains f.name) = none
      ↔ ∀ f ∈ s.fields, f.required = true → f.name ∈ seen := by
  simp only [List.find?_eq_none, Bool.and_eq_true, Bool.not_eq_true', not_and,
    Bool.not_eq_false, List.contains_iff_mem]

theorem findIdx?_required_eq_none_iff {fs : List (Field ρ)} :
    fs.findIdx? (·.required) = none ↔ ∀ f ∈ fs, f.required = false := by
  simp only [List.findIdx?_eq_none_iff]

theorem gives_members (hV : s.ReadsAs V) {first : Bool} {seen : List String} {r r' : ρ}
    {w : Bytes} (h : Members s V first seen r w r') (t : Bytes) :
    ∀ {fuel : Nat}, s.Fueled fuel seen →
      Gives (s.members fuel first seen r) (w ++ Byte.closeMap :: t) r' (Byte.closeMap :: t) := by
  induction h with
  | nil hr hu =>
    intro fuel hfuel
    cases fuel with
    | zero => exact absurd hfuel not_fueled_zero
    | succ fuel => exact gives_members_nil fuel _ (find?_missing_eq_none_iff.2 hr) hu t
  | @cons first seen f r r' r'' lead k u v w more hf hs hl hk hu hv hw hmore ih =>
    intro fuel hfuel
    cases fuel with
    | zero => exact absurd hfuel not_fueled_zero
    | succ fuel =>
      have hvalue := hV.takes f hf r hv hw _ (hmore.stops t)
      have hall := gives_members_cons hl hk (find?_name hV.distinct hf) hs hu hvalue
        (ih (hfuel.cons hf hs))
      simpa only [List.append_assoc, List.cons_append] using hall

/-- The reader of elements stops before the bracket or before the blanks in front of it. -/
theorem gives_elements (hV : s.ReadsAs V) {first : Bool} {fs : List (Field ρ)} {r r' : ρ}
    {w : Bytes} (h : Elements V first fs r w r') (hfs : fs ⊆ s.fields) (t : Bytes) (i : Nat) :
    ∃ u, Blanks u ∧ Gives (s.elements i first r fs) (w ++ Byte.closeList :: t) r'
      (u ++ Byte.closeList :: t) := by
  induction h generalizing i with
  | @nil first fs r u hr hu =>
    cases fs with
    | nil => exact ⟨u, hu, .pure r _⟩
    | cons f fs =>
      refine ⟨[], blanks_nil, (gives_nextItem_end first hu t).bind ?_⟩
      rw [if_neg (by decide), findIdx?_required_eq_none_iff.2 hr]
      exact .pure r _
  | @cons first f fs r r' r'' lead w more hl hw hmore ih =>
    have hf : f ∈ s.fields := hfs List.mem_cons_self
    obtain ⟨u, hu, hrest⟩ := ih (fun g hg => hfs (List.mem_cons_of_mem f hg)) (i + 1)
    obtain ⟨b, rest, rfl, hb, hne⟩ := hV.begins f hf r w r' hw
    have hvalue := hV.takes f hf r blanks_nil hw _ (hmore.stops t)
    refine ⟨u, hu, ?_⟩
    rw [List.append_assoc, List.append_assoc, List.cons_append]
    refine (gives_nextItem hl hb hne _).bind ?_
    rw [if_pos rfl]
    exact hvalue.bind hrest

theorem gives_value_list {u w t : Bytes} {r : ρ} (hu : Blanks u)
    (he : ∃ v, Blanks v ∧ Gives (s.elements 0 true s.blank s.fields) w r
      (v ++ Byte.closeList :: t)) :
    Gives s.value (u ++ Byte.openList :: w) r t := by
  obtain ⟨v, hv, he⟩ := he
  refine (gives_peekPastBlanks hu (by decide) w).bind ?_
  dsimp only
  rw [if_pos rfl]
  exact .placed ((gives_skip _ w).bind (he.closing (gives_endList hv t)))

theorem takes_value (hV : s.ReadsAs V) : Takes s.value (s.Form V) := by
  intro u w r hu hw t
  cases hw with
  | object hm =>
    rw [List.append_assoc]
    exact gives_value_object hu (gives_members hV hm t s.fueled_start)
  | list he =>
    rw [List.append_assoc]
    exact gives_value_list hu (gives_elements hV he (List.Subset.refl _) t 0)

/-! ## Whatever is read is a record -/

theorem taken_nextMember {c c' : Cursor} {first more : Bool}
    (h : nextMember first c = .ok more c') :
    if more = true then
      ∃ lead rest, Lead first lead ∧ Taken c lead c' ∧ c'.rest = Byte.quote :: rest
    else ∃ u, Blanks u ∧ Taken c u c' := by
  -- what comes is a key exactly if it begins with a quote
  have hkey : ∀ {c₁ : Cursor} {b : UInt8} {rest : Bytes}, c₁.rest = b :: rest →
      nextMember.key b c₁ = .ok more c' →
      more = true ∧ c' = c₁ ∧ c₁.rest = Byte.quote :: rest := by
    intro c₁ b rest hrest hrun
    unfold nextMember.key at hrun
    split at hrun
    · rename_i hquote
      subst hquote
      cases hrun
      exact ⟨rfl, rfl, hrest⟩
    · cases hrun
  obtain ⟨u, b, rest, c₁, hu, hblanks, hrest, hrun⟩ := exists_of_peekPastBlanks h nofun
  dsimp only at hrun
  split at hrun
  · cases hrun
    exact ⟨u, hu, hblanks⟩
  split at hrun
  · rename_i hfirst
    subst hfirst
    obtain ⟨rfl, rfl, hquote⟩ := hkey hrest hrun
    exact ⟨u, rest, .first hu, hblanks, hquote⟩
  · rename_i hlater
    rw [Bool.not_eq_true] at hlater
    subst hlater
    split at hrun
    · rename_i hcomma
      subst hcomma
      obtain ⟨c₂, hskipped, hrun⟩ := exists_of_skip hrun hrest
      obtain ⟨v, b', rest', c₃, hv, hblanks', hrest', hrun⟩ := exists_of_peekPastBlanks hrun nofun
      dsimp only at hrun
      -- a comma right before the brace is refused
      split at hrun
      · cases hrun
      · obtain ⟨rfl, rfl, hquote⟩ := hkey hrest' hrun
        exact ⟨_, rest', .later hu hv, hblanks.append (hskipped.append hblanks'), hquote⟩
    · cases hrun

theorem taken_colon {c c' : Cursor} (h : colon c = .ok () c') :
    ∃ u, Blanks u ∧ Taken c (u ++ [Byte.colon]) c' := by
  obtain ⟨u, b, rest, c₁, hu, hblanks, hrest, hrun⟩ := exists_of_peekPastBlanks h nofun
  dsimp only at hrun
  split at hrun
  · rename_i hcolon
    subst hcolon
    exact ⟨u, hu, hblanks.append (taken_skip hrest hrun)⟩
  · cases hrun

/-- An object is left at its brace only. -/
theorem taken_endMap {c c' : Cursor} (h : endMap c = .ok () c') :
    ∃ u, Blanks u ∧ Taken c (u ++ [Byte.closeMap]) c' := by
  obtain ⟨u, b, rest, c₁, hu, hblanks, hrest, hrun⟩ := exists_of_peekPastBlanks h nofun
  dsimp only at hrun
  split at hrun
  · rename_i hclose
    subst hclose
    exact ⟨u, hu, hblanks.append (taken_skip hrest hrun)⟩
  split at hrun
  · cases hrun
  · cases hrun

theorem taken_members (hV : s.ReadsAs V) {c c' : Cursor} {fuel : Nat} {first : Bool}
    {seen : List String} {r r' : ρ} (hfuel : s.Fueled fuel seen)
    (h : s.members fuel first seen r c = .ok r' c') :
    ∃ w, Members s V first seen r w r' ∧ Taken c w c' := by
  induction fuel generalizing c first seen r with
  | zero => exact absurd hfuel not_fueled_zero
  | succ fuel ih =>
    obtain ⟨more, c₁, hnext, h⟩ := exists_of_bind_eq_ok h
    have hmember := taken_nextMember hnext
    cases more with
    | false =>
      obtain ⟨u, hu, htaken⟩ := hmember
      rw [if_neg (by decide)] at h
      cases hmissing : s.fields.find? fun f => f.required && !seen.contains f.name with
      | some f =>
        rw [hmissing] at h
        cases h
      | none =>
        rw [hmissing] at h
        cases h
        exact ⟨u, .nil (find?_missing_eq_none_iff.1 hmissing) hu, htaken⟩
    | true =>
      obtain ⟨lead, rest, hlead, hled, hrest⟩ := hmember
      rw [if_pos rfl] at h
      obtain ⟨c₂, hskipped, h⟩ := exists_of_skip h hrest
      obtain ⟨key, c₃, htext, h⟩ := exists_of_bind_eq_ok h
      obtain ⟨k, hparts, hkey⟩ := taken_text htext
      cases hfind : s.fields.find? (·.name = key) with
      | none =>
        rw [hfind] at h
        cases h
      | some f =>
        have hf : f ∈ s.fields := List.mem_of_find?_eq_some hfind
        have hname : f.name = key := by simpa using List.find?_some hfind
        subst hname
        rw [hfind] at h
        dsimp only at h
        split at h
        · cases h
        · rename_i hseen
          -- the key is a field's and has not come before, so the rounds still suffice
          have hnew : f.name ∉ seen := fun hin => hseen (List.contains_iff_mem.2 hin)
          obtain ⟨_, c₄, hcolon, h⟩ := exists_of_bind_eq_ok h
          obtain ⟨r₁, c₅, hread, h⟩ := exists_of_bind_eq_ok h
          obtain ⟨u, hu, hcol⟩ := taken_colon hcolon
          obtain ⟨v, w, hv, hw, hvalue⟩ := hV.derived f hf r hread
          obtain ⟨ws, hmembers, hrest'⟩ := ih (hfuel.cons hf hnew) h
          have hall := hled.append (hskipped.append (hkey.append (hcol.append
            (hvalue.append hrest'))))
          refine ⟨_, .cons hf hnew hlead (.quoted hparts) hu hv hw hmembers, ?_⟩
          simpa only [List.append_assoc, List.cons_append, List.nil_append] using hall

theorem taken_elements (hV : s.ReadsAs V) {c c' : Cursor} {fs : List (Field ρ)}
    (hfs : fs ⊆ s.fields) {i : Nat} {first : Bool} {r r' : ρ}
    (h : s.elements i first r fs c = .ok r' c') :
    ∃ w, Elements V first fs r w r' ∧ Taken c w c' := by
  induction fs generalizing c i first r with
  | nil =>
    cases h
    exact ⟨[], .nil (fun f hf => absurd hf List.not_mem_nil) blanks_nil, .nil c'⟩
  | cons f fs ih =>
    obtain ⟨more, c₁, hnext, h⟩ := exists_of_bind_eq_ok h
    have hitem := taken_nextItem hnext
    cases more with
    | false =>
      obtain ⟨u, hu, htaken⟩ := hitem
      rw [if_neg (by decide)] at h
      cases hmissing : (f :: fs).findIdx? (·.required) with
      | some k =>
        rw [hmissing] at h
        cases h
      | none =>
        rw [hmissing] at h
        cases h
        exact ⟨u, .nil (findIdx?_required_eq_none_iff.1 hmissing) hu, htaken⟩
    | true =>
      obtain ⟨lead, hlead, hled⟩ := hitem
      rw [if_pos rfl] at h
      obtain ⟨r₁, c₂, hread, h⟩ := exists_of_bind_eq_ok h
      obtain ⟨u, w, hu, hw, hvalue⟩ := hV.derived f (hfs List.mem_cons_self) r hread
      obtain ⟨ws, helements, hrest⟩ := ih (fun g hg => hfs (List.mem_cons_of_mem f hg)) h
      have hall := hled.append (hvalue.append hrest)
      refine ⟨_, .cons (hlead.append_blanks hu) hw helements, ?_⟩
      simpa only [List.append_assoc] using hall

theorem derived_value (hV : s.ReadsAs V) : Derived s.value (s.Form V) := by
  intro c c' r h
  obtain ⟨u, b, rest, c₁, hu, hblanks, hrest, h⟩ := exists_of_peekPastBlanks h nofun
  dsimp only at h
  split at h
  · rename_i hopen
    subst hopen
    obtain ⟨w, v, helements, hv, htaken⟩ := taken_closing (placed_eq_ok h) hrest
      (fun hbody => taken_elements hV (List.Subset.refl _) hbody) taken_endList
    exact ⟨u, _, hu, .list (helements.append_blanks hv), hblanks.append htaken⟩
  split at h
  · rename_i hopen
    subst hopen
    obtain ⟨w, v, hmembers, hv, htaken⟩ := taken_closing (placed_eq_ok h) hrest
      (fun hbody => taken_members hV s.fueled_start hbody) taken_endMap
    exact ⟨u, _, hu, .object (hmembers.append_blanks hv), hblanks.append htaken⟩
  · exact absurd h (hopeless_mismatch _)

/-! ## Documents -/

/-- A whole document: a form with blanks around it. -/
def Document {α : Type} (W : Writing α) : Writing α := fun bs a =>
  ∃ u w v, Blanks u ∧ W w a ∧ Blanks v ∧ bs = u ++ (w ++ v)

/-- **The reader accepts exactly the documents of the grammar** that come to their end, whether
they are held whole or arrive. -/
theorem read_eq_ok_iff (hV : s.ReadsAs V) {c : Cursor} {r : ρ} :
    s.read c = .ok r ↔ Document (s.Form V) c.rest r ∧ c.ending = .finished := by
  constructor
  · intro h
    unfold read at h
    cases hdoc : s.document c with
    | error e c =>
      rw [hdoc] at h
      cases h
    | ok r' c' =>
      rw [hdoc] at h
      cases h
      obtain ⟨_, c₁, hvalue, hrun⟩ := exists_of_bind_eq_ok hdoc
      obtain ⟨_, c₂, hend, hrun⟩ := exists_of_bind_eq_ok hrun
      cases hrun
      obtain ⟨u, w, hu, hw, htaken⟩ := derived_value hV hvalue
      -- acceptance looks past the record and sees the end
      obtain ⟨b?, c₃, hpeek, hrun⟩ := exists_of_bind_eq_ok hend
      cases b? with
      | some b => cases hrun
      | none =>
        obtain ⟨hv, hfinished⟩ := peekPastBlanks_eq_none hpeek
        refine ⟨⟨u, w, c₁.rest, hu, hw, hv, ?_⟩, htaken.2 ▸ hfinished⟩
        rw [← List.append_assoc]
        exact htaken.1
  · rintro ⟨⟨u, w, v, hu, hw, hv, hrest⟩, hfinished⟩
    exact read_of_gives (hrest ▸ takes_value hV hu hw v) hv hfinished

theorem parse_eq_ok_iff (hV : s.ReadsAs V) {bs : Bytes} {r : ρ} :
    s.parse bs = .ok r ↔ Document (s.Form V) bs r :=
  (read_eq_ok_iff hV).trans (and_iff_left rfl)

theorem parseStream_eq_ok_iff (hV : s.ReadsAs V) {stream : Stream} {r : ρ} :
    s.parseStream stream = .ok r
      ↔ Document (s.Form V) stream.bytes r ∧ stream.ending = .finished :=
  read_eq_ok_iff hV

end Shape

end SpecCatalog.Json
