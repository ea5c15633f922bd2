import SpecCatalog.Proofs.FileTree.Growth
import SpecCatalog.Proofs.Stateful

/-!
# What changes make of a tree

Making a directory adds it and nothing else (`createDirectory_adds`), and making those above it
as well is one such step after the other, also when it fails halfway
(`createDirectoriesWithin_of_steps`). A file that is created in a directory, or that was there,
is the only thing that differs afterwards (`createFile_below`). In both cases the tree has grown,
and it is an extension of the old one if the file was not there (`Extends`).
-/

namespace SpecCatalog.FileTree

variable {t t' t'' : FileTree} {r : Route} {path name : String} {body : Bytes}

/-! ## More directories -/

/-- The second tree has some more directories than the first. -/
structure Adds (t t' : FileTree) : Prop where
  home : t'.home = t.home
  items : ∀ r, t'.item? r = t.item? r ∨ t.item? r = none ∧ t'.item? r = some .directory

theorem Adds.refl (t : FileTree) : Adds t t := ⟨rfl, fun _ => .inl rfl⟩

theorem Adds.trans (h : Adds t t') (h' : Adds t' t'') : Adds t t'' where
  home := h'.home.trans h.home
  items := by
    intro r
    rcases h.items r with he | ⟨hnone, hd⟩
    · rw [← he]
      exact h'.items r
    · rcases h'.items r with he' | ⟨hnone', _⟩
      · exact .inr ⟨hnone, he'.trans hd⟩
      · rw [hd] at hnone'
        cases hnone'

theorem Adds.grows (h : Adds t t') : Grows t t' where
  home := h.home
  items := by
    intro r i hi
    rcases h.items r with he | ⟨hnone, _⟩
    · exact ⟨i, he.trans hi, i.becomes_refl⟩
    · rw [hi] at hnone
      cases hnone

/-- Other answers to come make no other tree. -/
theorem adds_answering (t : FileTree) (answers : List Answer) : Adds t (t.answering answers) :=
  ⟨rfl, fun _ => .inl rfl⟩

theorem adds_put (t : FileTree) (folder : Route) (name : String) :
    Adds t (t.put folder name .directory) := by
  by_cases hv : t.Vacant folder name
  · refine ⟨?_, fun r => ?_⟩
    · unfold put
      rw [dif_pos hv]
    · rw [item?_put hv]
      split
      · rename_i hr
        exact .inr ⟨hr ▸ hv.2.2, rfl⟩
      · exact .inl rfl
  · unfold put
    rw [dif_neg hv]
    exact .refl t

theorem resolveNow_bind {α : Type} (aim : Aim) (path : String) (f : Spot → Change α)
    (t : FileTree) : (resolveNow aim path >>= f) t =
      match t.resolve aim path with
      | .ok spot => f spot t
      | .error e => .error e t := by
  change EStateM.bind (resolveNow aim path) f t = _
  unfold EStateM.bind resolveNow
  cases t.resolve aim path with
  | ok spot => rfl
  | error e => rfl

/-- A change at one request is made or not, and beside it only the answers to come are others. -/
theorem request_cases (change : FileTree → FileTree) (t : FileTree) :
    (∃ answers, request change t = .ok () (change (t.answering answers)))
      ∨ ∃ r answers, request change t = .error (.os (.refused r)) (t.answering answers) := by
  unfold request
  split
  · exact .inl ⟨t.answers, rfl⟩
  · exact .inr ⟨_, _, rfl⟩
  · exact .inl ⟨_, rfl⟩

/-- A disk that never fails grants everything. -/
theorem request_of_granting (h : t.answers = []) (change : FileTree → FileTree) :
    request change t = .ok () (change t) := by
  unfold request
  rw [h]

theorem createDirectory_adds (path : String) (t : FileTree) :
    Adds t (stateAfter (createDirectory path t)) := by
  unfold createDirectory
  rw [resolveNow_bind]
  cases t.resolve .newDirectory path with
  | error e => exact .refl t
  | ok spot =>
    cases spot with
    | item route i => exact .refl t
    | vacant folder name =>
      dsimp only
      rcases request_cases (·.put folder name .directory) t with ⟨answers, hrun⟩ | ⟨_, answers, hrun⟩
      · rw [hrun]
        exact (adds_answering t answers).trans (adds_put _ folder name)
      · rw [hrun]
        exact adds_answering t answers

theorem settle_of_step {related : FileTree → FileTree → Prop}
    (hmake : related t (stateAfter (createDirectory path t))) :
    related t (stateAfter (createDirectoriesWithin.settle path t)) := by
  unfold createDirectoriesWithin.settle
  cases hmade : createDirectory path t with
  | ok _ t' =>
    rw [hmade] at hmake
    exact hmake
  | error e t' =>
    rw [hmade] at hmake
    dsimp only
    split
    · exact hmake
    · exact hmake

/-- **What each directory does to the tree, all of them do.** It has to be shown of the paths that
can come up: the first one, and with a path what stands above it. -/
theorem createDirectoriesWithin_of_steps {related : FileTree → FileTree → Prop}
    (places : String → Prop) (hrefl : ∀ t, related t t)
    (htrans : ∀ {t t' t''}, related t t' → related t' t'' → related t t'')
    (habove : ∀ {p above}, places p → PathText.parent? p = some above → places above)
    (hmake : ∀ {p} t, places p → related t (stateAfter (createDirectory p t)))
    (depth : Nat) (t : FileTree) (hpath : places path) :
    related t (stateAfter (createDirectoriesWithin depth path t)) := by
  induction depth generalizing path t with
  | zero => exact hrefl t
  | succ depth ih =>
    unfold createDirectoriesWithin
    split
    · exact hrefl t
    · have h := hmake t hpath
      split
      · rename_i hmade
        rw [hmade] at h
        exact h
      · -- the directories above come first
        rename_i t' hmade
        rw [hmade] at h
        split
        · exact h
        · rename_i above hparent
          have hmore := ih t' (habove hpath hparent)
          split
          · rename_i t'' hdone
            rw [hdone] at hmore
            exact htrans (htrans h hmore) (settle_of_step (hmake t'' hpath))
          · rename_i hdone
            rw [hdone] at hmore
            exact htrans h hmore
      · -- any other failure ends it, and so does a directory that is there already
        rename_i hmade
        rw [hmade] at h
        split
        · exact h
        · exact h

/-! ## One file -/

/-- The second tree is the first with this file, for which there was room. -/
structure WithFile (t : FileTree) (r : Route) (body : Bytes) (t' : FileTree) : Prop where
  home : t'.home = t.home
  room : t.item? r = none ∨ ∃ old, t.item? r = some (.file old)
  items : ∀ s, t'.item? s = if s = r then some (.file body) else t.item? s

theorem WithFile.item? (h : WithFile t r body t') : t'.item? r = some (.file body) := by
  rw [h.items r, if_pos rfl]

theorem WithFile.other (h : WithFile t r body t') {s : Route} (hs : s ≠ r) :
    t'.item? s = t.item? s := by
  rw [h.items s, if_neg hs]

theorem WithFile.grows (h : WithFile t r body t') : Grows t t' where
  home := h.home
  items := by
    intro s i hi
    rw [h.items s]
    split
    · rename_i hs
      subst hs
      rcases h.room with hnone | ⟨old, hold⟩
      · rw [hi] at hnone
        cases hnone
      · rw [hi] at hold
        cases hold
        exact ⟨_, rfl, body, rfl⟩
    · exact ⟨i, hi, i.becomes_refl⟩

/-- What is written over a file takes its place. -/
theorem WithFile.trans {body' : Bytes} (h : WithFile t r body t') (h' : WithFile t' r body' t'') :
    WithFile t r body' t'' where
  home := h'.home.trans h.home
  room := h.room
  items := by
    intro s
    rw [h'.items s]
    split
    · rfl
    · rename_i hs
      exact h.other hs

theorem withFile_put {folder : Route} (hv : t.Vacant folder name) (body : Bytes) :
    WithFile t (folder ++ [name]) body (t.put folder name (.file body)) where
  home := by
    unfold put
    rw [dif_pos hv]
  room := .inl hv.2.2
  items := item?_put hv

theorem withFile_fill {old : Bytes} (h : t.item? r = some (.file old)) (body : Bytes) :
    WithFile t r body (t.fill r body) where
  home := rfl
  room := .inr ⟨old, h⟩
  items := by
    intro s
    rw [item?_fill]
    by_cases hs : s = r
    · subst hs
      rw [h, if_pos rfl]
      exact congrArg some (if_pos rfl)
    · rw [if_neg hs]
      cases t.item? s with
      | none => rfl
      | some i =>
        cases i with
        | file b => exact congrArg some (if_neg hs)
        | directory => rfl
        | link target => rfl

/-- A file that is there already. -/
theorem withFile_same (h : t.item? r = some (.file body)) : WithFile t r body t where
  home := rfl
  room := .inr ⟨body, h⟩
  items := by
    intro s
    split
    · rename_i hs
      rw [hs, h]
    · rfl

/-- The answers to come are no part of what is there. -/
theorem WithFile.of_answering {answers : List Answer}
    (h : WithFile (t.answering answers) r body t') : WithFile t r body t' :=
  ⟨h.home, h.room, h.items⟩

theorem WithFile.answering (h : WithFile t r body t') (answers : List Answer) :
    WithFile t r body (t'.answering answers) :=
  ⟨h.home, h.room, h.items⟩

theorem withFile_edit {old : Bytes} (h : t.item? r = some (.file old)) (change : Bytes → Bytes) :
    WithFile t r (change old) (t.edit r change) := by
  unfold edit
  rw [h]
  exact withFile_fill h _

/-- The file holds what was taken. -/
theorem withFile_handOver {old : Bytes} (h : t.item? r = some (.file old)) (stalled : IoError)
    (into : Bytes → Bytes → Bytes) (bs : Bytes) :
    WithFile t r (into old (Handing.of stalled t.answers bs).taken)
      (t.handOver stalled r into bs).2 :=
  (withFile_edit h fun body => into body _).answering _

/-- What was written is in the file as it was to be put there, and if the writing failed, a
beginning of it is. -/
theorem withFile_write {old : Bytes} (h : t.item? r = some (.file old))
    (into : Bytes → Bytes → Bytes) (bs : Bytes) :
    (∃ t', write r into bs t = .ok () t' ∧ WithFile t r (into old bs) t')
      ∨ ∃ e t' kept, write r into bs t = .error e t' ∧ kept <+: bs
        ∧ WithFile t r (into old kept) t' := by
  have hfile := withFile_handOver h .notTaken into bs
  unfold write
  cases hcause : (Handing.of .notTaken t.answers bs).cause with
  | none =>
    refine .inl ⟨_, ?_, Handing.taken_eq hcause ▸ hfile⟩
    simp only [handOver, hcause]
  | some e =>
    refine .inr ⟨e, _, _, ?_, Handing.taken_prefix _ _ _, hfile⟩
    simp only [handOver, hcause]

/-! ## More of anything -/

/-- The second tree has all of the first as it was, and besides some directories, and files at
such places. -/
structure Extends (t t' : FileTree) (place : Route → Prop) : Prop where
  home : t'.home = t.home
  kept : ∀ r i, t.item? r = some i → t'.item? r = some i
  new : ∀ r i, t'.item? r = some i →
    t.item? r = some i ∨ i = .directory ∨ (∃ body, i = .file body) ∧ place r

/-- A route of something right in the folder. -/
def Inside (folder r : Route) : Prop := ∃ name, r = folder ++ [name]

variable {place place' all : Route → Prop}

theorem Extends.refl (t : FileTree) (place : Route → Prop) : Extends t t place :=
  ⟨rfl, fun _ _ h => h, fun _ _ h => .inl h⟩

theorem Extends.grows (h : Extends t t' place) : Grows t t' where
  home := h.home
  items r i hi := ⟨i, h.kept r i hi, i.becomes_refl⟩

theorem Extends.trans (h : Extends t t' place) (h' : Extends t' t'' place')
    (hp : ∀ r, place r → all r) (hp' : ∀ r, place' r → all r) : Extends t t'' all where
  home := h'.home.trans h.home
  kept r i hi := h'.kept r i (h.kept r i hi)
  new := by
    intro r i hi
    rcases h'.new r i hi with hi | hd | ⟨hfile, hr⟩
    · exact (h.new r i hi).imp_right (Or.imp_right (And.imp_right (hp r)))
    · exact .inr (.inl hd)
    · exact .inr (.inr ⟨hfile, hp' r hr⟩)

theorem Adds.extends (h : Adds t t') (place : Route → Prop) : Extends t t' place where
  home := h.home
  kept := by
    intro r i hi
    rcases h.items r with he | ⟨hnone, _⟩
    · exact he.trans hi
    · rw [hi] at hnone
      cases hnone
  new := by
    intro r i hi
    rcases h.items r with he | ⟨_, hd⟩
    · exact .inl (he.symm.trans hi)
    · rw [hi] at hd
      exact .inr (.inl (Option.some.inj hd))

theorem Extends.adds (h : Extends t t' place) (ha : Adds t' t'') : Extends t t'' place :=
  h.trans (ha.extends place) (fun _ hr => hr) (fun _ hr => hr)

/-- A file where there was nothing at the start. -/
theorem Extends.withFile (h : Extends t t' place) (hf : WithFile t' r body t'')
    (hnew : t.item? r = none) (hr : place r) : Extends t t'' place where
  home := hf.home.trans h.home
  kept := by
    intro s i hi
    rw [hf.other]
    · exact h.kept s i hi
    · rintro rfl
      rw [hnew] at hi
      cases hi
  new := by
    intro s i hi
    by_cases hs : s = r
    · subst hs
      rw [hf.item?] at hi
      cases hi
      exact .inr (.inr ⟨⟨body, rfl⟩, hr⟩)
    · rw [hf.other hs] at hi
      exact h.new s i hi

/-- Creating a file puts an empty one into a free place or empties the one that is there; if it
fails, the tree is left alone. -/
theorem createFile_cases (path : String) (t : FileTree) :
    (∃ e answers, createFile path t = .error e (t.answering answers))
      ∨ (∃ folder name answers, t.resolve .newFile path = .ok (.vacant folder name)
          ∧ createFile path t
            = .ok (folder ++ [name]) ((t.answering answers).put folder name (.file [])))
      ∨ ∃ route old answers, t.resolve .newFile path = .ok (.item route (.file old))
          ∧ createFile path t = .ok route ((t.answering answers).fill route []) := by
  unfold createFile
  rw [resolveNow_bind]
  cases hspot : t.resolve .newFile path with
  | error e => exact .inl ⟨e, t.answers, rfl⟩
  | ok spot =>
    dsimp only
    cases spot with
    | vacant folder name =>
      rcases request_cases (·.put folder name (.file [])) t with
        ⟨answers, hrun⟩ | ⟨_, answers, hrun⟩
      · exact .inr (.inl ⟨folder, name, answers, rfl, bind_of_eq_ok hrun⟩)
      · exact .inl ⟨_, answers, bind_of_eq_error hrun⟩
    | item route i =>
      cases i with
      | directory => exact .inl ⟨_, t.answers, rfl⟩
      | link target => exact .inl ⟨_, t.answers, rfl⟩
      | file old =>
        rcases request_cases (·.fill route []) t with ⟨answers, hrun⟩ | ⟨_, answers, hrun⟩
        · exact .inr (.inr ⟨route, old, answers, rfl, bind_of_eq_ok hrun⟩)
        · exact .inl ⟨_, answers, bind_of_eq_error hrun⟩

theorem createFile_eq_ok (h : createFile path t = .ok r t') :
    (∃ folder name answers, t.resolve .newFile path = .ok (.vacant folder name)
        ∧ r = folder ++ [name] ∧ t' = (t.answering answers).put folder name (.file []))
      ∨ ∃ old answers, t.resolve .newFile path = .ok (.item r (.file old))
        ∧ t' = (t.answering answers).fill r [] := by
  rcases createFile_cases path t with
    ⟨_, _, hrun⟩ | ⟨folder, name, answers, hspot, hrun⟩ | ⟨_, old, answers, hspot, hrun⟩
  · cases hrun.symm.trans h
  · cases hrun.symm.trans h
    exact .inl ⟨folder, name, answers, hspot, rfl, rfl⟩
  · cases hrun.symm.trans h
    exact .inr ⟨old, answers, hspot, rfl⟩

/-- Creating a file one name below a directory makes an empty file there and changes nothing
else, unless there is a link, which may lead anywhere. -/
theorem createFile_below {p : String} (hp : p ≠ "") (hslash : '/' ∉ name.toList)
    (hname : name ≠ "") (h : createFile (p ++ "/" ++ name) t = .ok r t') :
    Walkable (p ++ "/" ++ name) ∧ ∃ here, t.resolve .look p = .ok (.item here .directory)
      ∧ ((∃ target, t.item? (here ++ [name]) = some (.link target))
        ∨ r = here ++ [name] ∧ WithFile t r [] t') := by
  rcases createFile_eq_ok h with ⟨folder, name', answers, hspot, rfl, rfl⟩ | ⟨old, answers, hspot, rfl⟩
  all_goals
    obtain ⟨links, here, hd, hwalk⟩ := exists_of_resolve_below hp hslash hname hspot
    have hwalkable := (resolve_eq_ok_iff.1 hspot).1
    refine ⟨hwalkable, here, hd, ?_⟩
    rcases walk_name_cases hwalk with
      ⟨route, hspot'⟩ | ⟨hplain, hshort, ⟨hnone, hspot'⟩ | ⟨body, hfile, hspot'⟩ | ⟨target, hlink⟩⟩
  · cases hspot'
  · cases hspot'
    have hnul : '\x00' ∉ name.toList := by
      have hall := hwalkable.no_nul
      simp only [String.toList_append, List.mem_append, not_or] at hall
      exact hall.2
    have hdirectory : t.item? folder = some .directory := item?_of_resolve hd
    have hvacant : (t.answering answers).Vacant folder name :=
      ⟨hdirectory, ⟨hplain.1, hplain.2.1, hplain.2.2, hslash, hnul, hshort⟩, hnone⟩
    exact .inr ⟨rfl, (withFile_put hvacant []).of_answering⟩
  · cases hspot'
  · exact .inl ⟨target, hlink⟩
  · cases hspot'
  · cases hspot'
  · cases hspot'
    have hfile' : (t.answering answers).item? (here ++ [name]) = some (.file old) := hfile
    exact .inr ⟨rfl, (withFile_fill hfile' []).of_answering⟩
  · exact .inl ⟨target, hlink⟩

/-- A file that cannot be created leaves the tree alone. -/
theorem answering_of_createFile_error {e : IoError} (h : createFile path t = .error e t') :
    ∃ answers, t' = t.answering answers := by
  rcases createFile_cases path t with ⟨_, answers, hrun⟩ | ⟨_, _, _, _, hrun⟩ | ⟨_, _, _, _, hrun⟩
  · cases hrun.symm.trans h
    exact ⟨answers, rfl⟩
  · cases hrun.symm.trans h
  · cases hrun.symm.trans h

/-! ## Any change that only makes -/

theorem put_grows (t : FileTree) (folder : Route) (name : String) (i : Item) :
    Grows t (t.put folder name i) := by
  by_cases hv : t.Vacant folder name
  · refine ⟨?_, fun r j hj => ?_⟩
    · unfold put
      rw [dif_pos hv]
    · rw [item?_put hv]
      split
      · rename_i hr
        rw [hr, hv.2.2] at hj
        cases hj
      · exact ⟨j, hj, j.becomes_refl⟩
  · unfold put
    rw [dif_neg hv]
    exact .refl t

theorem fill_grows (t : FileTree) (r : Route) (body : Bytes) : Grows t (t.fill r body) where
  home := rfl
  items := by
    intro s i hi
    rw [item?_fill, hi]
    cases i with
    | directory => exact ⟨_, rfl, rfl⟩
    | link target => exact ⟨_, rfl, rfl⟩
    | file old =>
      by_cases hs : s = r
      · exact ⟨_, congrArg some (if_pos hs), body, rfl⟩
      · exact ⟨_, congrArg some (if_neg hs), old, rfl⟩

theorem createFile_grows (path : String) (t : FileTree) :
    Grows t (stateAfter (createFile path t)) := by
  have hanswering (answers : List Answer) : Grows t (t.answering answers) :=
    (adds_answering t answers).grows
  rcases createFile_cases path t with
    ⟨_, answers, hrun⟩ | ⟨folder, name, answers, _, hrun⟩ | ⟨route, _, answers, _, hrun⟩
  · rw [hrun]
    exact hanswering answers
  · rw [hrun]
    exact (hanswering answers).trans (put_grows _ folder name _)
  · rw [hrun]
    exact (hanswering answers).trans (fill_grows _ route [])

theorem edit_grows (t : FileTree) (r : Route) (change : Bytes → Bytes) :
    Grows t (t.edit r change) := by
  unfold edit
  split
  · exact fill_grows t r _
  · exact .refl t

theorem handOver_grows (t : FileTree) (stalled : IoError) (r : Route)
    (into : Bytes → Bytes → Bytes) (bs : Bytes) :
    Grows t (t.handOver stalled r into bs).2 :=
  (edit_grows t r _).trans (adds_answering _ _).grows

theorem write_grows (r : Route) (into : Bytes → Bytes → Bytes) (bs : Bytes) (t : FileTree) :
    Grows t (stateAfter (write r into bs t)) := by
  have hgrows := handOver_grows t .notTaken r into bs
  unfold write
  dsimp only
  split
  · exact hgrows
  · exact hgrows

end SpecCatalog.FileTree
