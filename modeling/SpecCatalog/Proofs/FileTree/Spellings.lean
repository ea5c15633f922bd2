import Mathlib.Logic.Relation
import SpecCatalog.Proofs.FileTree.Ancestors

/-!
# Spellings of a path

The components of a path tell what it begins with, a slash or a dot that stands alone, and its
steps, which are what stands between slashes but for empty texts and dots. They tell nothing else
(`components_eq_components_iff`). So a slash after a slash, a slash at the end and a dot further
inside can be left out of a path and put into it, and every path with the same components is
reached like that (`components_eq_iff_respelling`): each is a respelling of the components
themselves, written with slashes between them (`respelling_written`).
-/

namespace SpecCatalog.PathText

variable {p q front : String} {first segment : List Char} {rest : List (List Char)}

/-! ## Beginning and steps -/

/-- A slash in front, or else a dot that stands alone in front. -/
def beginning (path : String) : Option Component :=
  if isAbsolute path then some .top
  else if (path.toList.splitOn '/').head? = some ['.'] then some .here
  else none

/-- What makes no component, unless it stands in front. -/
def Blank (segment : List Char) : Prop := segment = [] ∨ segment = ['.']

instance (segment : List Char) : Decidable (Blank segment) :=
  inferInstanceAs (Decidable (segment = [] ∨ segment = ['.']))

/-- What stands between the slashes, but for empty texts and dots. -/
def steps (path : String) : List (List Char) :=
  (path.toList.splitOn '/').filter fun segment => ¬ Blank segment

/-- Two dots lead up, and all else is a name. -/
def Component.ofStep (step : List Char) : Component :=
  if step = ['.', '.'] then .up else .name (String.ofList step)

theorem Component.ofStep_injective : Function.Injective Component.ofStep := by
  intro s t h
  unfold Component.ofStep at h
  split at h <;> split at h
  · rename_i hs ht
    rw [hs, ht]
  · cases h
  · cases h
  · exact String.ofList_injective (Component.name.inj h)

theorem segments_eq_splitOn (cs : List Char) : segments cs = cs.splitOn '/' := by
  induction cs with
  | nil => rfl
  | cons c cs ih =>
    rw [List.splitOn_cons_eq_if_modifyHead, ← ih]
    by_cases hc : c = '/'
    · subst hc
      rfl
    · obtain ⟨first, rest, hcs⟩ := List.exists_cons_of_ne_nil (segments_ne_nil cs)
      rw [segments_cons hc hcs, hcs, if_neg (by simpa using hc), List.modifyHead_cons]

theorem componentOf_eq_ofStep (h : ¬ Blank segment) (atFront : Bool) :
    componentOf atFront segment = some (.ofStep segment) := by
  unfold Blank at h
  rw [not_or] at h
  unfold componentOf Component.ofStep
  split
  · exact absurd rfl h.1
  · exact absurd rfl h.2
  · rfl
  · rename_i hup
    rw [if_neg hup]

/-- Behind the first slash the steps make the components. -/
theorem filterMap_componentOf (rest : List (List Char)) :
    rest.filterMap (componentOf false)
      = (rest.filter fun segment => ¬ Blank segment).map .ofStep := by
  induction rest with
  | nil => rfl
  | cons segment rest ih =>
    by_cases h : Blank segment
    · rw [List.filterMap_cons_none (componentOf_eq_none h), ih,
        List.filter_cons_of_neg (by simpa using h)]
    · rw [List.filterMap_cons_some (componentOf_eq_ofStep h false), ih,
        List.filter_cons_of_pos (by simpa using h), List.map_cons]

theorem eq_empty_of_segments (h : segments p.toList = [[]]) : p = "" := by
  refine String.toList_injective ?_
  rw [← intercalate_segments p.toList, h]
  rfl

theorem isAbsolute_iff_of_segments (h : segments p.toList = first :: rest) :
    isAbsolute p = true ↔ first = [] ∧ rest ≠ [] := by
  unfold isAbsolute
  cases hp : p.toList with
  | nil =>
    rw [hp] at h
    cases h
    simp
  | cons c cs =>
    rw [hp] at h
    obtain ⟨first', rest', hcs⟩ := List.exists_cons_of_ne_nil (segments_ne_nil cs)
    by_cases hc : c = '/'
    · subst hc
      rw [segments_slash, hcs] at h
      cases h
      simp
    · rw [segments_cons hc hcs] at h
      cases h
      simp [hc]

/-- **The components are the beginning and the steps.** -/
theorem components_eq (path : String) :
    components path = (beginning path).toList ++ (steps path).map .ofStep := by
  obtain ⟨first, rest, hsegments⟩ := List.exists_cons_of_ne_nil (segments_ne_nil path.toList)
  unfold beginning steps
  rw [← segments_eq_splitOn, hsegments, List.head?_cons]
  by_cases hne : first ≠ [] ∨ rest ≠ []
  · rw [components_of_segments hsegments hne, filterMap_componentOf]
    simp only [isAbsolute_iff_of_segments hsegments]
    -- only the first segment can be a beginning; if it is none, it is a step as well
    by_cases hfirst : first = []
    · subst hfirst
      rw [if_pos ⟨rfl, hne.resolve_left (fun h => h rfl)⟩]
      rfl
    · rw [if_neg fun h => hfirst h.1]
      by_cases hdot : first = ['.']
      · subst hdot
        rfl
      · have hstep : ¬ Blank first := not_or.2 ⟨hfirst, hdot⟩
        rw [if_neg (by simpa using hdot), List.filter_cons_of_pos (by simpa using hstep), opening,
          if_neg hfirst, componentOf_eq_ofStep hstep]
        rfl
  · rw [not_or, not_not, not_not] at hne
    obtain ⟨rfl, rfl⟩ := hne
    rw [eq_empty_of_segments hsegments]
    rfl

/-- What a path begins with is never a step. -/
def Component.Begins (c : Component) : Prop := c = .top ∨ c = .here

instance (c : Component) : Decidable c.Begins := inferInstanceAs (Decidable (c = .top ∨ c = .here))

theorem Component.not_begins_ofStep (step : List Char) : ¬ (Component.ofStep step).Begins := by
  unfold Component.ofStep Component.Begins
  split <;> simp

theorem begins_of_mem_beginning {c : Component} (h : c ∈ beginning p) : c.Begins := by
  unfold beginning at h
  split at h
  · cases h
    exact .inl rfl
  · split at h
    · cases h
      exact .inr rfl
    · cases h

/-- The beginning and the steps can be read off the components. -/
theorem filter_begins_components (path : String) :
    (components path).filter (fun c => c.Begins) = (beginning path).toList
      ∧ (components path).filter (fun c => ¬ c.Begins) = (steps path).map .ofStep := by
  have hfront : ∀ c ∈ (beginning path).toList, c.Begins := by
    intro c hc
    exact begins_of_mem_beginning (Option.mem_toList.1 hc)
  have hsteps : ∀ c ∈ (steps path).map Component.ofStep, ¬ c.Begins := by
    intro c hc
    obtain ⟨step, -, rfl⟩ := List.mem_map.1 hc
    exact Component.not_begins_ofStep step
  rw [components_eq, List.filter_append, List.filter_append]
  constructor
  · rw [List.filter_eq_self.2 (by simpa using hfront),
      List.filter_eq_nil_iff.2 (by simpa using hsteps), List.append_nil]
  · rw [List.filter_eq_nil_iff.2 (by simpa using hfront),
      List.filter_eq_self.2 (by simpa using hsteps), List.nil_append]

/-- **Components tell the beginning and the steps, and nothing else.** -/
theorem components_eq_components_iff :
    components p = components q ↔ beginning p = beginning q ∧ steps p = steps q := by
  constructor
  · intro h
    have hp := filter_begins_components p
    have hq := filter_begins_components q
    rw [h] at hp
    refine ⟨?_, List.map_injective_iff.2 Component.ofStep_injective (hp.2.symm.trans hq.2)⟩
    rw [← Option.head?_toList (o := beginning p), ← hp.1, hq.1, Option.head?_toList]
  · rintro ⟨hbeginning, hsteps⟩
    rw [components_eq, components_eq, hbeginning, hsteps]

/-! ## Respellings -/

/-- The second path is the first one without a slash or a dot that makes no component. -/
inductive Shortening : String → String → Prop
  | slash (front back : String) : Shortening (front ++ "//" ++ back) (front ++ "/" ++ back)
  | dot (front back : String) : Shortening (front ++ "/./" ++ back) (front ++ "/" ++ back)
  | lastDot (front : String) : Shortening (front ++ "/.") (front ++ "/")
  | lastSlash (front : String) : front ≠ "" → Shortening (front ++ "/") front

/-- Some slashes and dots left out and others put in. -/
def Respelling : String → String → Prop := Relation.EqvGen Shortening

theorem segments_slash_between (front back : String) :
    segments (front ++ "/" ++ back).toList = segments front.toList ++ segments back.toList := by
  have hlist : (front ++ "/" ++ back).toList = front.toList ++ '/' :: back.toList := by
    simp [String.toList_append]
  rw [hlist, segments_append_slash]

theorem segments_slash_at_end (front : String) :
    segments (front ++ "/").toList = segments front.toList ++ [[]] := by
  have hend := segments_slash_between front ""
  rwa [String.append_empty] at hend

/-- What comes behind a slash adds the components of its segments. -/
theorem components_append_slash (front back : String) :
    components (front ++ "/" ++ back)
      = components (front ++ "/") ++ (segments back.toList).filterMap (componentOf false) := by
  obtain ⟨first, rest, hfront⟩ := List.exists_cons_of_ne_nil (segments_ne_nil front.toList)
  have hback := segments_slash_between front back
  have hend := segments_slash_at_end front
  rw [hfront, List.cons_append] at hback hend
  have hne : rest ++ segments back.toList ≠ [] :=
    List.append_ne_nil_of_right_ne_nil _ (segments_ne_nil _)
  rw [components_of_segments hback (.inr hne), components_of_segments hend (.inr (by simp)),
    List.filterMap_append, List.filterMap_append, List.append_assoc, List.append_assoc]
  rfl

theorem components_slash_at_end (hfront : front ≠ "") :
    components (front ++ "/") = components front := by
  obtain ⟨first, rest, hsegments⟩ := List.exists_cons_of_ne_nil (segments_ne_nil front.toList)
  have hne : first ≠ [] ∨ rest ≠ [] := by
    rw [← not_and_or]
    rintro ⟨rfl, rfl⟩
    exact hfront (eq_empty_of_segments hsegments)
  have hend := segments_slash_at_end front
  rw [hsegments, List.cons_append] at hend
  rw [components_of_segments hend (.inr (by simp)), components_of_segments hsegments hne,
    List.filterMap_append]
  exact congrArg _ (List.append_nil _)

/-- **What is left out makes no component.** -/
theorem Shortening.components_eq (h : Shortening p q) : components p = components q := by
  cases h with
  | slash front back =>
    have hback : front ++ "//" ++ back = front ++ "/" ++ ("/" ++ back) := by
      have hsign : "//" = "/" ++ "/" := rfl
      rw [hsign]
      simp only [String.append_assoc]
    rw [hback, components_append_slash, components_append_slash, String.toList_append]
    rfl
  | dot front back =>
    have hback : front ++ "/./" ++ back = front ++ "/" ++ ("./" ++ back) := by
      have hsign : "/./" = "/" ++ "./" := rfl
      rw [hsign]
      simp only [String.append_assoc]
    rw [hback, components_append_slash, components_append_slash, String.toList_append]
    rfl
  | lastDot front =>
    have hback : front ++ "/." = front ++ "/" ++ "." := by
      rw [String.append_assoc]
      rfl
    rw [hback, components_append_slash]
    exact List.append_nil _
  | lastSlash _ hfront => exact components_slash_at_end hfront

theorem Respelling.components_eq (h : Respelling p q) : components p = components q := by
  induction h with
  | rel p q h => exact h.components_eq
  | refl p => rfl
  | symm p q _ ih => exact ih.symm
  | trans p q r _ _ ih ih' => exact ih.trans ih'

/-! ## Components as a path -/

/-- The path that goes on from another one through the segments. -/
def goOn (front : String) (rest : List (List Char)) : String :=
  rest.foldl (fun path segment => path ++ "/" ++ String.ofList segment) front

theorem goOn_cons (front : String) (segment : List Char) (rest : List (List Char)) :
    goOn front (segment :: rest) = goOn (front ++ "/" ++ String.ofList segment) rest := rfl

theorem goOn_append (before front : String) (rest : List (List Char)) :
    goOn (before ++ front) rest = before ++ goOn front rest := by
  induction rest generalizing front with
  | nil => rfl
  | cons segment rest ih =>
    rw [goOn_cons, goOn_cons, String.append_assoc, String.append_assoc, ih, ← String.append_assoc]

theorem toList_goOn (first : List Char) (rest : List (List Char)) :
    (goOn (String.ofList first) rest).toList = List.intercalate ['/'] (first :: rest) := by
  induction rest generalizing first with
  | nil =>
    rw [List.intercalate_singleton]
    exact String.toList_ofList
  | cons segment rest ih =>
    rw [goOn_cons, goOn_append, List.intercalate_cons_cons, ← ih segment, String.toList_append,
      String.toList_append, String.toList_ofList]
    rfl

/-- A path goes on from its first segment through the others. -/
theorem eq_goOn (h : segments p.toList = first :: rest) : p = goOn (String.ofList first) rest := by
  refine String.toList_injective ?_
  rw [toList_goOn, ← h, intercalate_segments]

/-- What is read as the component; for the top it is the slash itself. -/
def Component.text : Component → String
  | .top => "/"
  | .here => "."
  | .up => ".."
  | .name s => s

/-- The components with slashes between them. -/
def written : List Component → String
  | [] => ""
  | c :: cs => goOn c.text (cs.map fun c => c.text.toList)

theorem Component.text_ofStep (step : List Char) : (ofStep step).text = String.ofList step := by
  unfold ofStep
  split
  · rename_i hup
    rw [hup]
    rfl
  · rfl

theorem written_cons (c : Component) (rest : List (List Char)) :
    written (c :: rest.map .ofStep) = goOn c.text rest := by
  have htexts : (rest.map Component.ofStep).map (fun c => c.text.toList) = rest := by
    rw [List.map_map]
    refine List.map_id'' (fun step => ?_) rest
    rw [Function.comp_apply, Component.text_ofStep, String.toList_ofList]
  rw [written, htexts]

theorem exists_opening_text (hne : first ≠ []) :
    ∃ c, opening first = [c] ∧ c.text = String.ofList first := by
  unfold opening
  rw [if_neg hne]
  by_cases hdot : first = ['.']
  · subst hdot
    exact ⟨.here, rfl, rfl⟩
  · rw [componentOf_eq_ofStep (not_or.2 ⟨hne, hdot⟩)]
    exact ⟨.ofStep first, rfl, Component.text_ofStep first⟩

/-- A blank segment can be left out, whether it is the last one or not. -/
theorem respelling_blank (hblank : Blank segment) (hfront : front ≠ "") (rest : List (List Char)) :
    Respelling (goOn (front ++ "/" ++ String.ofList segment) rest) (goOn front rest) := by
  cases rest with
  | nil =>
    -- nothing comes behind it: the slash before it goes as well
    rcases hblank with rfl | rfl
    · change Respelling (front ++ "/" ++ "") front
      rw [String.append_empty]
      exact .rel _ _ (.lastSlash front hfront)
    · have hdot : front ++ "/" ++ String.ofList ['.'] = front ++ "/." := by
        rw [String.append_assoc]
        rfl
      change Respelling (front ++ "/" ++ String.ofList ['.']) front
      rw [hdot]
      exact .trans _ _ _ (.rel _ _ (.lastDot front)) (.rel _ _ (.lastSlash front hfront))
  | cons next rest =>
    -- something comes behind it: one of the two slashes around it stays
    rw [goOn_cons, goOn_cons, goOn_append, goOn_append]
    rcases hblank with rfl | rfl
    · have hslash : front ++ "/" ++ String.ofList [] ++ "/" = front ++ "//" := by
        rw [String.append_assoc, String.append_assoc]
        rfl
      rw [hslash]
      exact .rel _ _ (.slash front _)
    · have hdot : front ++ "/" ++ String.ofList ['.'] ++ "/" = front ++ "/./" := by
        rw [String.append_assoc, String.append_assoc]
        rfl
      rw [hdot]
      exact .rel _ _ (.dot front _)

/-- By one segment after the other, only the steps are left. -/
theorem respelling_filter (hfront : front ≠ "") (rest : List (List Char)) :
    Respelling (goOn front rest) (goOn front (rest.filter fun segment => ¬ Blank segment)) := by
  induction rest generalizing front with
  | nil => exact .refl _
  | cons segment rest ih =>
    have hmore : front ++ "/" ++ String.ofList segment ≠ "" := by
      simp
    by_cases hblank : Blank segment
    · rw [List.filter_cons_of_neg (by simpa using hblank), goOn_cons]
      exact Relation.EqvGen.trans _ _ _ (respelling_blank hblank hfront rest) (ih hfront)
    · rw [List.filter_cons_of_pos (by simpa using hblank), goOn_cons, goOn_cons]
      exact ih hmore

/-- **Every path is a respelling of its components.** -/
theorem respelling_written (path : String) : Respelling path (written (components path)) := by
  obtain ⟨first, rest, hsegments⟩ := List.exists_cons_of_ne_nil (segments_ne_nil path.toList)
  have hpath := eq_goOn hsegments
  by_cases hfirst : first = []
  · subst hfirst
    cases rest with
    | nil =>
      have hempty : path = "" := hpath
      rw [hempty]
      exact .refl _
    | cons next rest =>
      rw [components_of_segments hsegments (.inr (List.cons_ne_nil next rest)),
        filterMap_componentOf, opening, if_pos rfl, List.singleton_append, written_cons]
      -- the slash in front is the first component, and one more divides it from what follows
      have hslash : Respelling path (goOn "/" (next :: rest)) := by
        rw [hpath, goOn_cons, goOn_cons, goOn_append, goOn_append]
        exact .symm _ _ (.rel _ _ (.slash "" _))
      exact .trans _ _ _ hslash (respelling_filter (by decide) _)
  · obtain ⟨c, hc, htext⟩ := exists_opening_text hfirst
    rw [components_of_segments hsegments (.inl hfirst), filterMap_componentOf, hc,
      List.singleton_append, written_cons, htext]
    nth_rewrite 1 [hpath]
    refine respelling_filter (fun hempty => hfirst ?_) rest
    rw [← String.toList_ofList (l := first), hempty]
    rfl

/-- **Paths have the same components exactly if one is a respelling of the other.** -/
theorem components_eq_iff_respelling : components p = components q ↔ Respelling p q := by
  refine ⟨fun h => ?_, Respelling.components_eq⟩
  have hp := respelling_written p
  rw [h] at hp
  exact .trans _ _ _ hp (.symm _ _ (respelling_written q))

end SpecCatalog.PathText
