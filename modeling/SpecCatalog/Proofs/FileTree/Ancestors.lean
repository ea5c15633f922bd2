import SpecCatalog.Proofs.FileTree.Descent
import SpecCatalog.Proofs.FileTree.Dots
import SpecCatalog.Proofs.FileTree.NewFile

/-!
# Directories above a path

What stands above a path has its components but for the last one (`components_of_parent?`). So
making the directories above a path makes only such where a path leads that has the first of its
components (`createDirectories_addsAt`), also when it fails halfway.
-/

namespace SpecCatalog

/-! ## Components -/

namespace PathText

/-- The component of a first segment; an empty one stands for the slash after it. -/
def opening (first : List Char) : List Component :=
  if first = [] then [.top] else (componentOf true first).toList

variable {path above : String} {first segment : List Char} {rest : List (List Char)}

theorem components_of_segments (h : segments path.toList = first :: rest)
    (hne : first ≠ [] ∨ rest ≠ []) :
    components path = opening first ++ rest.filterMap (componentOf false) := by
  unfold components opening
  rw [h]
  cases first with
  | nil =>
    cases rest with
    | nil => exact absurd rfl (hne.resolve_left (fun h => h rfl))
    | cons next rest => rfl
  | cons ch cs => rfl

theorem exists_opening (hne : first ≠ []) : ∃ c, opening first = [c] := by
  unfold opening componentOf
  rw [if_neg hne]
  split
  · exact absurd rfl hne
  · exact ⟨.here, rfl⟩
  · exact ⟨.up, rfl⟩
  · exact ⟨_, rfl⟩

theorem componentOf_eq_none (h : segment = [] ∨ segment = ['.']) :
    componentOf false segment = none := by
  rcases h with rfl | rfl
  · rfl
  · rfl

theorem exists_component (h : ¬ (segment = [] ∨ segment = ['.'])) :
    ∃ c, componentOf false segment = some c := by
  rw [not_or] at h
  unfold componentOf
  split
  · exact absurd rfl h.1
  · exact absurd rfl h.2
  · exact ⟨.up, rfl⟩
  · exact ⟨_, rfl⟩

theorem trimmed_blank (h : segment = [] ∨ segment = ['.']) {before : List (List Char)}
    (hne : before ≠ []) : trimmed (segment :: before) = trimmed before := by
  cases before with
  | nil => exact absurd rfl hne
  | cons last before =>
    rw [trimmed, if_pos h]
    exact fun he => absurd he (List.cons_ne_nil last before)

/-- The segments that are dropped at the end make no component, and the last one that is kept
makes one. -/
theorem exists_trimmed (first : List Char) (rest : List (List Char)) :
    ∃ kept dropped, rest = kept ++ dropped ∧ dropped.filterMap (componentOf false) = []
      ∧ trimmed (rest.reverse ++ [first]) = kept.reverse ++ [first]
      ∧ ∀ last ∈ kept.getLast?, ∃ c, componentOf false last = some c := by
  induction rest using List.reverseRecOn with
  | nil => exact ⟨[], [], rfl, rfl, rfl, nofun⟩
  | append_singleton before segment ih =>
    have hreverse : (before ++ [segment]).reverse ++ [first]
        = segment :: (before.reverse ++ [first]) := by simp
    rw [hreverse]
    by_cases hblank : segment = [] ∨ segment = ['.']
    · obtain ⟨kept, dropped, rfl, hdropped, htrimmed, hlast⟩ := ih
      refine ⟨kept, dropped ++ [segment], (List.append_assoc _ _ _).symm ▸ rfl, ?_, ?_, hlast⟩
      · rw [List.filterMap_append, hdropped, List.filterMap_cons, componentOf_eq_none hblank]
        rfl
      · rw [trimmed_blank hblank (by simp), htrimmed]
    · refine ⟨before ++ [segment], [], (List.append_nil _).symm, rfl, ?_, ?_⟩
      · rw [trimmed_cons (not_or.1 hblank), hreverse]
      · intro last hlast
        rw [List.getLast?_concat] at hlast
        cases hlast
        exact exists_component hblank

theorem components_rejoin (hslash : ∀ s ∈ first :: rest, '/' ∉ s) :
    components (rejoin (rest.reverse ++ [first]))
      = opening first ++ rest.filterMap (componentOf false) := by
  by_cases hne : first ≠ [] ∨ rest ≠ []
  · have hjoined : rejoin (rest.reverse ++ [first])
        = String.ofList (List.intercalate ['/'] (first :: rest)) := by
      unfold rejoin
      split
      · rename_i he
        have hback := congrArg List.reverse he
        simp at hback
        rcases hne with hfirst | hrest
        · exact absurd hback.1 hfirst
        · exact absurd hback.2 hrest
      · simp
    refine components_of_segments ?_ hne
    rw [hjoined, String.toList_ofList,
      Route.segments_intercalate (List.cons_ne_nil first rest) hslash]
  · simp only [not_or, not_not] at hne
    obtain ⟨rfl, rfl⟩ := hne
    decide

/-- **What stands above a path has its components but for the last one.** -/
theorem components_of_parent? (h : parent? path = some above) :
    ∃ c, components path = components above ++ [c] := by
  obtain ⟨first, rest, hsegments⟩ := List.exists_cons_of_ne_nil (segments_ne_nil path.toList)
  obtain ⟨kept, dropped, rfl, hdropped, htrimmed, hlast⟩ := exists_trimmed first rest
  unfold parent? at h
  rw [hsegments, List.reverse_cons, htrimmed] at h
  rcases List.eq_nil_or_concat' kept with rfl | ⟨front, last, rfl⟩
  · -- the path is one component, or none
    split at h
    · cases h
    · cases h
    · rename_i above' hnot he
      cases he
      cases h
      have hfirst : first ≠ [] := fun hnil => hnot hnil rfl
      obtain ⟨c, hc⟩ := exists_opening hfirst
      refine ⟨c, ?_⟩
      rw [components_of_segments hsegments (.inl hfirst), hc, List.nil_append, hdropped]
      rfl
  · obtain ⟨c, hc⟩ := hlast last (by rw [List.getLast?_concat]; rfl)
    have hreverse : (front ++ [last]).reverse ++ [first] = last :: (front.reverse ++ [first]) := by
      simp
    obtain ⟨kept', dropped', rfl, hdropped', htrimmed', -⟩ := exists_trimmed first front
    rw [hreverse] at h
    split at h
    · cases h
    · rename_i he
      simp at he
    · rename_i above' _ he
      cases he
      cases h
      refine ⟨c, ?_⟩
      have hslash : ∀ s ∈ first :: kept', '/' ∉ s := by
        intro s hs
        have hmem : s ∈ segments path.toList := by
          rw [hsegments]
          simp only [List.mem_cons, List.mem_append] at hs ⊢
          tauto
        exact (FileTree.mem_segments hmem).1
      rw [htrimmed', components_rejoin hslash, components_of_segments hsegments (.inr (by simp))]
      simp [List.filterMap_append, hdropped, hdropped', hc]

/-- The first path has the first components of the second one, or all of them. -/
def IsAlong (p path : String) : Prop := components p <+: components path

/-- The first path has the first components of the second one, and not all of them. -/
def IsAbove (p path : String) : Prop :=
  components p <+: components path ∧ components p ≠ components path

theorem IsAlong.parent? {p : String} (h : IsAlong p path) (hparent : parent? p = some above) :
    IsAlong above path := by
  obtain ⟨c, hc⟩ := components_of_parent? hparent
  exact (List.prefix_append _ [c]).trans (hc ▸ h)

theorem isAbove_of_parent? {p : String} (hparent : parent? path = some above)
    (h : IsAlong p above) : IsAbove p path := by
  obtain ⟨c, hc⟩ := components_of_parent? hparent
  unfold IsAbove
  rw [hc]
  refine ⟨h.trans (List.prefix_append _ [c]), fun hall => ?_⟩
  have hlength := h.length_le
  rw [hall, List.length_append, List.length_singleton] at hlength
  omega

end PathText

namespace FileTree

open PathText

variable {t t' t'' : FileTree} {here folder r : Route} {path name : String}

/-! ## A directory at the end of a path -/

/-- A directory that is made at the free place of a path is where the path leads. -/
theorem resolve_of_made (hgrows : Grows t t')
    (hmade : t'.item? (folder ++ [name]) = some .directory)
    (h : t.resolve .newDirectory path = .ok (.vacant folder name)) :
    t'.resolve .look path = .ok (.item (folder ++ [name]) .directory) := by
  obtain ⟨hwalkable, hwalk⟩ := resolve_eq_ok_iff.1 h
  have hfinds := (walk_eq_iff.1 hwalk).finds hgrows hmade (.inl rfl)
  exact resolve_eq_ok_iff.2 ⟨hwalkable, hgrows.start path ▸ hfinds.walk_eq⟩

/-! ## Directories along a path -/

/-- The second tree has some more directories than the first, and such paths lead to them. -/
structure AddsAt (places : String → Prop) (t t' : FileTree) : Prop extends Adds t t' where
  leads : ∀ r, t.item? r = none → t'.item? r ≠ none →
    ∃ p, places p ∧ t'.resolve .look p = .ok (.item r .directory)

variable {places places' : String → Prop}

theorem AddsAt.refl (t : FileTree) : AddsAt places t t :=
  ⟨.refl t, fun _ hnone hsome => absurd hnone hsome⟩

theorem AddsAt.trans (h : AddsAt places t t') (h' : AddsAt places t' t'') :
    AddsAt places t t'' where
  toAdds := h.toAdds.trans h'.toAdds
  leads := by
    intro r hnone hsome
    by_cases hr : t'.item? r = none
    · exact h'.leads r hr hsome
    · obtain ⟨p, hp, hleads⟩ := h.leads r hnone hr
      exact ⟨p, hp, resolve_grows_directory h'.toAdds.grows hleads⟩

theorem AddsAt.mono (h : AddsAt places t t') (hplaces : ∀ p, places p → places' p) :
    AddsAt places' t t' where
  toAdds := h.toAdds
  leads := by
    intro r hnone hsome
    obtain ⟨p, hp, hleads⟩ := h.leads r hnone hsome
    exact ⟨p, hplaces p hp, hleads⟩

/-- Other answers to come make no other tree. -/
theorem addsAt_answering (t : FileTree) (answers : List Answer) :
    AddsAt places t (t.answering answers) :=
  ⟨adds_answering t answers, fun _ hnone hsome => absurd hnone hsome⟩

theorem createDirectory_addsAt (t : FileTree) (hpath : places path) :
    AddsAt places t (stateAfter (createDirectory path t)) := by
  refine ⟨createDirectory_adds path t, fun r hnone hsome => ?_⟩
  have hgrows := (createDirectory_adds path t).grows
  unfold createDirectory at hsome hgrows ⊢
  rw [resolveNow_bind] at hsome hgrows ⊢
  cases hspot : t.resolve .newDirectory path with
  | error e =>
    rw [hspot] at hsome
    exact absurd hnone hsome
  | ok spot =>
    rw [hspot] at hsome hgrows
    cases spot with
    | item route i => exact absurd hnone hsome
    | vacant folder name =>
      dsimp only at hsome hgrows ⊢
      rcases request_cases (·.put folder name .directory) t with ⟨answers, hrun⟩ | ⟨_, _, hrun⟩
      · rw [hrun] at hsome hgrows ⊢
        change Grows t ((t.answering answers).put folder name .directory) at hgrows
        change ((t.answering answers).put folder name .directory).item? r ≠ none at hsome
        change ∃ p, places p ∧ ((t.answering answers).put folder name .directory).resolve .look p = _
        -- what is new is at the free place, so there was room for it
        have hvacant : (t.answering answers).Vacant folder name := by
          by_contra hfull
          rw [put, dif_neg hfull] at hsome
          exact hsome hnone
        obtain rfl : r = folder ++ [name] := by
          by_contra hne
          rw [item?_put hvacant, if_neg hne] at hsome
          exact hsome hnone
        have hmade : ((t.answering answers).put folder name .directory).item? (folder ++ [name])
            = some .directory := by
          rw [item?_put hvacant, if_pos rfl]
        exact ⟨path, hpath, resolve_of_made hgrows hmade hspot⟩
      · rw [hrun] at hsome
        exact absurd hnone hsome

/-- **Directories are made along the path only.** -/
theorem createDirectories_addsAt (path : String) (t : FileTree) :
    AddsAt (IsAlong · path) t (stateAfter (createDirectories path t)) :=
  createDirectoriesWithin_of_steps (IsAlong · path) .refl .trans
    (fun hp hparent => hp.parent? hparent) (fun t hp => createDirectory_addsAt t hp) _ t
    List.prefix_rfl

end FileTree

end SpecCatalog
