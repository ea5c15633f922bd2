import SpecCatalog.Proofs.FileTree.Making

/-!
# A file at any path

A file that was created at a path is where the path leads, also after the tree has grown
(`resolve_of_createFile`). The walk for a new file ends at a file that is there, or at a free
place that is named by a part of the path, or by a part of the target of a link that it followed.
So the file can be put there, unless a target is a text that no path can be: links that were made
here have no such targets (`createLink_spelled`).
-/

namespace SpecCatalog.FileTree

variable {t t' : FileTree} {here folder r : Route} {name path : String} {body : Bytes}

/-- There are no links in the tree. -/
def NoLinks (t : FileTree) : Prop := ∀ r target, t.item? r ≠ some (.link target)

theorem mem_entries_of_link {target : String} (hl : t.item? r = some (.link target)) :
    (r, .link target) ∈ t.entries := by
  refine mem_entries_of_item?_eq_some ?_ hl
  rintro rfl
  cases hl

theorem noLinks_of_entries (h : ∀ e ∈ t.entries, ∀ target, e.2 ≠ .link target) : t.NoLinks :=
  fun _ target hl => h _ (mem_entries_of_link hl) target rfl

theorem NoLinks.extends {place : Route → Prop} (h : t.NoLinks) (he : Extends t t' place) :
    t'.NoLinks := by
  intro r target hl
  rcases he.new r _ hl with hl | hl | ⟨⟨body, hl⟩, _⟩
  · exact h r target hl
  · cases hl
  · cases hl

/-- The targets of all links are texts that can be paths. -/
def LinksSpelled (t : FileTree) : Prop :=
  ∀ r target, t.item? r = some (.link target) → '\x00' ∉ target.toList

theorem NoLinks.linksSpelled (h : t.NoLinks) : t.LinksSpelled :=
  fun r target hl => absurd hl (h r target)

theorem linksSpelled_of_entries
    (h : ∀ e ∈ t.entries, ∀ target, e.2 = .link target → '\x00' ∉ target.toList) :
    t.LinksSpelled :=
  fun _ target hl => h _ (mem_entries_of_link hl) target rfl

theorem LinksSpelled.adds (h : t.LinksSpelled) (ha : Adds t t') : t'.LinksSpelled := by
  intro r target hl
  rcases ha.items r with he | ⟨_, hd⟩
  · exact h r target (he.symm.trans hl)
  · rw [hd] at hl
    cases hl

theorem LinksSpelled.put {i : Item} (h : t.LinksSpelled) (folder : Route) (name : String)
    (hi : ∀ target, i = .link target → '\x00' ∉ target.toList) :
    (t.put folder name i).LinksSpelled := by
  intro r target hl
  by_cases hv : t.Vacant folder name
  · rw [item?_put hv] at hl
    split at hl
    · exact hi target (Option.some.inj hl)
    · exact h r target hl
  · unfold FileTree.put at hl
    rw [dif_neg hv] at hl
    exact h r target hl

/-- A link that is made has a target that can be a path. -/
theorem createLink_spelled {target : String} (h : t.LinksSpelled)
    (hmade : createLink path target t = .ok () t') : t'.LinksSpelled := by
  unfold createLink at hmade
  by_cases hnul : target.toList.contains '\x00' = true
  · rw [if_pos hnul] at hmade
    cases hmade
  · rw [if_neg hnul] at hmade
    change (resolveNow .newDirectory path >>= _) t = _ at hmade
    rw [resolveNow_bind] at hmade
    cases hspot : t.resolve .newDirectory path with
    | error e =>
      rw [hspot] at hmade
      cases hmade
    | ok spot =>
      rw [hspot] at hmade
      cases spot with
      | item route i => cases hmade
      | vacant folder name =>
        dsimp only at hmade
        rcases request_cases (·.put folder name (.link target)) t with
          ⟨answers, hrun⟩ | ⟨_, _, hrun⟩
        · cases hrun.symm.trans hmade
          have h' : (t.answering answers).LinksSpelled := h
          refine h'.put folder name ?_
          rintro other he
          cases he
          simpa using hnul
        · cases hrun.symm.trans hmade

/-! ## Parts of a path -/

theorem mem_segments {cs segment : List Char} (h : segment ∈ PathText.segments cs) :
    '/' ∉ segment ∧ ∀ c ∈ segment, c ∈ cs := by
  induction cs generalizing segment with
  | nil =>
    rw [List.mem_singleton.1 h]
    exact ⟨List.not_mem_nil, nofun⟩
  | cons c cs ih =>
    by_cases hc : c = '/'
    · subst hc
      rw [PathText.segments_slash] at h
      rcases List.mem_cons.1 h with rfl | h
      · exact ⟨List.not_mem_nil, nofun⟩
      · exact ⟨(ih h).1, fun d hd => List.mem_cons_of_mem _ ((ih h).2 d hd)⟩
    · cases hcs : PathText.segments cs with
      | nil => exact absurd hcs (PathText.segments_ne_nil cs)
      | cons first rest =>
        rw [hcs] at ih
        rw [PathText.segments_cons hc hcs] at h
        rcases List.mem_cons.1 h with rfl | h
        · obtain ⟨hslash, hfirst⟩ := ih List.mem_cons_self
          refine ⟨?_, fun d hd => ?_⟩
          · rw [List.mem_cons, not_or]
            exact ⟨Ne.symm hc, hslash⟩
          · rcases List.mem_cons.1 hd with rfl | hd
            · exact List.mem_cons_self
            · exact List.mem_cons_of_mem _ (hfirst d hd)
        · obtain ⟨hslash, hrest⟩ := ih (List.mem_cons_of_mem _ h)
          exact ⟨hslash, fun d hd => List.mem_cons_of_mem _ (hrest d hd)⟩

theorem mem_parts {part : String} (h : part ∈ PathText.parts path) :
    '/' ∉ part.toList ∧ ∀ c ∈ part.toList, c ∈ path.toList := by
  obtain ⟨segment, hsegment, rfl⟩ := List.mem_map.1 h
  rw [String.toList_ofList]
  exact mem_segments hsegment

/-- Parts of texts that can be paths. -/
def Spelled (parts : List String) : Prop :=
  ∀ part ∈ parts, '/' ∉ part.toList ∧ '\x00' ∉ part.toList

theorem spelled_parts (h : '\x00' ∉ path.toList) : Spelled (PathText.parts path) := by
  intro part hpart
  obtain ⟨hslash, hsub⟩ := mem_parts hpart
  exact ⟨hslash, fun hnul => h (hsub _ hnul)⟩

theorem Spelled.append {parts parts' : List String} (h : Spelled parts) (h' : Spelled parts') :
    Spelled (parts ++ parts') := by
  intro part hpart
  rcases List.mem_append.1 hpart with hpart | hpart
  · exact h part hpart
  · exact h' part hpart

/-! ## Where a walk lands -/

/-- Where a spot is, or would be. -/
def Spot.route : Spot → Route
  | .item r _ => r
  | .vacant folder name => folder ++ [name]

/-- Where a walk comes to a free place, a new item can be put. -/
theorem Walks.vacant {aim : Aim} {links : Nat} {parts : List String}
    (h : Walks t aim links here parts (.ok (.vacant folder name))) (hlinks : t.LinksSpelled)
    (hparts : Spelled parts) (hd : t.item? here = some .directory) : t.Vacant folder name := by
  generalize houtcome : Except.ok (Spot.vacant folder name) = outcome at h
  induction h with
  | done => cases houtcome
  | dot _ _ ih => exact ih (List.forall_mem_cons.1 hparts).2 hd houtcome
  | up _ ih => exact ih (List.forall_mem_cons.1 hparts).2 (item?_dropLast hd) houtcome
  | ends hname hmove =>
    subst houtcome
    obtain ⟨hseeks, hnone, _, rfl, rfl⟩ := moveAt_eq_vacant_iff.1 hmove
    obtain ⟨hslash, hnul⟩ := hparts _ List.mem_cons_self
    exact ⟨hd, ⟨hname.1, hname.2.1, hname.2.2, hslash, hnul, hseeks.short⟩, hnone⟩
  | down _ hmove _ ih =>
    exact ih (List.forall_mem_cons.1 hparts).2 (moveAt_eq_down_iff.1 hmove).2 houtcome
  | follow _ hmove _ ih =>
    have htarget := spelled_parts (hlinks _ _ (moveAt_eq_follow_iff.1 hmove).2.1)
    exact ih (htarget.append (List.forall_mem_cons.1 hparts).2) (item?_origin _ hd) houtcome
  | spent => cases houtcome

/-- **A file that was created is where its path leads**, also after the tree has grown. -/
theorem resolve_of_createFile (hlinks : t.LinksSpelled) (h : createFile path t = .ok r t') :
    WithFile t r [] t' ∧ ∀ t'' body, Grows t t'' → t''.item? r = some (.file body) →
      t''.resolve .look path = .ok (.item r (.file body)) := by
  rcases createFile_eq_ok h with ⟨folder, name, answers, hspot, rfl, rfl⟩ | ⟨old, answers, hspot, rfl⟩
  all_goals
    obtain ⟨hwalkable, hwalk⟩ := resolve_eq_ok_iff.1 hspot
    have hwalks := walk_eq_iff.1 hwalk
  · have hvacant : (t.answering answers).Vacant folder name :=
      hwalks.vacant hlinks (spelled_parts hwalkable.no_nul) (t.item?_start path)
    refine ⟨(withFile_put hvacant []).of_answering, fun t'' body hgrows hfile => ?_⟩
    have hfinds := hwalks.finds hgrows hfile (.inr ⟨rfl, body, rfl⟩)
    exact resolve_eq_ok_iff.2 ⟨hwalkable, hgrows.start path ▸ hfinds.walk_eq⟩
  · have hold : (t.answering answers).item? r = some (.file old) :=
      hwalks.item? (t.item?_start path)
    refine ⟨(withFile_fill hold []).of_answering, fun t'' body hgrows hfile => ?_⟩
    -- the walk that looks ends at this file too, and the tree says what is in it
    obtain ⟨i', hleads, _⟩ := resolve_grows hgrows hspot (by decide)
    obtain rfl : i' = .file body := Option.some.inj ((item?_of_resolve hleads).symm.trans hfile)
    exact hleads

end SpecCatalog.FileTree
