import SpecCatalog.Proofs.FileTree.Ancestors
import SpecCatalog.Proofs.Layout.Paths
import SpecCatalog.Proofs.Sink.ReadBack
import SpecCatalog.Sink.Directory

/-!
# Writing below a root

A write that succeeds has the descriptor's file where it belongs, in the directory that the
root and the layout lead to, and nothing else about the tree is changed but for directories
that were missing (`exists_of_write_eq_ok`). The path that is answered leads to the file
(`exists_withFile_of_write`).

A write that fails before the file was opened leaves some of these directories at most. One that
fails later has emptied or made the file and put a beginning of the descriptor into it, because
the disk takes bytes in order and what it has taken stays (`exists_of_write_eq_error`).
-/

namespace SpecCatalog

open FileTree

variable {t t' : FileTree} {c : Codec} {s : Specification} {root path : String} {route : Route}

theorem at_eq_ok {α : Type} {place : String} {change : Change α} {a : α}
    (h : change.at place t = .ok a t') : change t = .ok a t' := by
  unfold Change.at at h
  split at h
  · rename_i hrun
    rw [hrun]
    cases h
    rfl
  · cases h

theorem stateAfter_at {α : Type} (place : String) (change : Change α) (t : FileTree) :
    stateAfter (change.at place t) = stateAfter (change t) := by
  unfold Change.at
  split
  · rename_i hrun
    rw [hrun]
    rfl
  · rename_i hrun
    rw [hrun]
    rfl

/-! ## Opening -/

/-- The directories above an entry, made before it is opened. -/
def makeAbove (full : String) : EStateM CatalogError FileTree Unit :=
  match PathText.parent? full with
  | some above => (createDirectories above).at above
  | none => return ()

/-- What opening an entry does to the tree. -/
def openFile (full : String) : EStateM CatalogError FileTree Route := do
  makeAbove full
  (createFile full).at full

theorem openEntry_eq (root path : String) :
    (directorySink root).openEntry path = Buffered.ofTree (openFile (PathText.join root path)) := by
  unfold directorySink openFile makeAbove
  dsimp only
  cases PathText.parent? (PathText.join root path) with
  | none => rfl
  | some above => rfl

theorem makeAbove_addsAt (full : String) (t : FileTree) :
    AddsAt (PathText.IsAbove · full) t (stateAfter (makeAbove full t)) := by
  unfold makeAbove
  cases hparent : PathText.parent? full with
  | none => exact .refl t
  | some above =>
    dsimp only
    rw [stateAfter_at]
    exact (createDirectories_addsAt above t).mono fun p hp =>
      PathText.isAbove_of_parent? hparent hp

theorem exists_of_openFile_eq_ok {full : String} (h : openFile full t = .ok route t') :
    ∃ t₁, AddsAt (PathText.IsAbove · full) t t₁ ∧ createFile full t₁ = .ok route t' := by
  obtain ⟨_, t₁, hmade, h⟩ := exists_of_bind_eq_ok h
  have hadds := makeAbove_addsAt full t
  rw [hmade] at hadds
  exact ⟨t₁, hadds, at_eq_ok h⟩

theorem addsAt_of_openFile_eq_error {full : String} {e : CatalogError}
    (h : openFile full t = .error e t') : AddsAt (PathText.IsAbove · full) t t' := by
  have hadds := makeAbove_addsAt full t
  rcases exists_of_bind_eq_error h with hmade | ⟨_, t₁, hmade, h⟩
  · rw [hmade] at hadds
    exact hadds
  · rw [hmade] at hadds
    cases hcreate : createFile full t₁ with
    | ok r t₂ =>
      unfold Change.at at h
      rw [hcreate] at h
      cases h
    | error e' t₂ =>
      have hstate := stateAfter_at full (createFile full) t₁
      rw [h, hcreate] at hstate
      obtain ⟨answers, hleft⟩ := answering_of_createFile_error hcreate
      have ht : t' = t₁.answering answers := (show t' = t₂ from hstate).trans hleft
      rw [ht]
      exact hadds.trans (addsAt_answering t₁ answers)

/-! ## Handing over -/

namespace Buffered

/-- Bytes that wait are put behind what the file holds, or, if that fails, a beginning of them. -/
theorem drain_cases {old : Bytes} (h : t.item? route = some (.file old)) (waiting : Bytes) :
    (∃ t', drain route ⟨t, waiting⟩ = .ok () ⟨t', []⟩
        ∧ (waiting = [] ∧ t' = t ∨ WithFile t route (old ++ waiting) t'))
      ∨ ∃ e t' kept, drain route ⟨t, waiting⟩ = .error e ⟨t', []⟩ ∧ kept <+: waiting
        ∧ WithFile t route (old ++ kept) t' := by
  by_cases hempty : waiting.isEmpty = true
  · refine .inl ⟨t, ?_, .inl ⟨List.isEmpty_iff.1 hempty, rfl⟩⟩
    rw [List.isEmpty_iff.1 hempty]
    rfl
  have hfile := withFile_handOver h .notDrained (· ++ ·) waiting
  have hall := Handing.taken_append_left .notDrained t.answers waiting
  cases hcause : (Handing.of .notDrained t.answers waiting).cause with
  | none =>
    rw [Handing.taken_eq hcause] at hfile
    refine .inl ⟨_, ?_, .inr hfile⟩
    unfold drain
    simp only [handOver, hcause, if_neg hempty]
  | some e =>
    -- what is left is tried once more and comes right behind what was taken
    have hmore := withFile_handOver hfile.item? .notDrained (· ++ ·)
      (Handing.of .notDrained t.answers waiting).left
    refine .inr ⟨e, _, _, ?_, ?_, List.append_assoc .. ▸ hfile.trans hmore⟩
    · unfold drain
      simp only [handOver, hcause, if_neg hempty]
    · have hprefix := (List.prefix_append_right_inj
        (Handing.of .notDrained t.answers waiting).taken).2 (Handing.taken_prefix .notDrained
          (t.handOver .notDrained route (· ++ ·) waiting).2.answers
          (Handing.of .notDrained t.answers waiting).left)
      rw [hall] at hprefix
      exact hprefix

theorem drain_nil (route : Route) (t : FileTree) :
    drain route ⟨t, []⟩ = .ok () ⟨t, []⟩ := rfl

theorem write_eq (route : Route) (bs : Bytes) (b : Buffered) :
    write route bs b =
      if b.waiting.length + bs.length < capacity then wait bs b
      else (makeRoom route bs.length >>= fun _ =>
        if bs.length < capacity then wait bs else ofTree (append route bs)) b := by
  change (if b.waiting.length + bs.length < capacity then wait bs else _ : EStateM _ _ _) b = _
  split <;> rfl

theorem write_few {bs : Bytes} (hfew : bs.length < capacity) :
    write route bs ⟨t, []⟩ = .ok () ⟨t, bs⟩ := by
  rw [write_eq, if_pos (by simpa using hfew)]
  rfl

theorem write_many (route : Route) (t : FileTree) {bs : Bytes} (hmany : capacity ≤ bs.length) :
    write route bs ⟨t, []⟩ = ofTree (append route bs) ⟨t, []⟩ := by
  have hroom : makeRoom route bs.length ⟨t, []⟩ = .ok () ⟨t, []⟩ := by
    unfold makeRoom
    rw [drain_nil, ite_self]
  rw [write_eq, if_neg (by simpa using hmany), bind_of_eq_ok hroom, if_neg (Nat.not_lt.2 hmany)]

/-- **What is written to an empty file is in it once it is flushed**; if the disk refuses, a
beginning of it is. -/
theorem write_drain_cases (h : t.item? route = some (.file [])) (bs : Bytes) :
    (∃ t', (do write route bs; drain route) (⟨t, []⟩ : Buffered) = .ok () ⟨t', []⟩
        ∧ WithFile t route bs t')
      ∨ ∃ e t' kept, (do write route bs; drain route) (⟨t, []⟩ : Buffered) = .error e ⟨t', []⟩
        ∧ kept <+: bs ∧ WithFile t route kept t' := by
  by_cases hfew : bs.length < capacity
  · rw [bind_of_eq_ok (write_few hfew)]
    rcases drain_cases h bs with ⟨t', hrun, ⟨rfl, rfl⟩ | hfile⟩ | ⟨e, t', kept, hrun, hkept, hfile⟩
    · exact .inl ⟨t', hrun, withFile_same h⟩
    · exact .inl ⟨t', hrun, hfile⟩
    · exact .inr ⟨e, t', kept, hrun, hkept, hfile⟩
  · have hwrite := write_many route t (Nat.not_lt.1 hfew)
    rcases withFile_write h (· ++ ·) bs with ⟨t', hrun, hfile⟩ | ⟨e, t', kept, hrun, hkept, hfile⟩
    · have happended : write route bs ⟨t, []⟩ = .ok () ⟨t', []⟩ := by
        rw [hwrite, ofTree, append, hrun]
      exact .inl ⟨t', bind_of_eq_ok happended, hfile⟩
    · have hbroke : write route bs ⟨t, []⟩ = .error e ⟨t', []⟩ := by
        rw [hwrite, ofTree, append, hrun]
      exact .inr ⟨e, t', kept, bind_of_eq_error hbroke, hkept, hfile⟩

/-! ## What is left in any case -/

theorem drain_grows (route : Route) (b : Buffered) :
    Grows b.tree (stateAfter (drain route b)).tree := by
  have hgrows := handOver_grows b.tree .notDrained route (· ++ ·) b.waiting
  unfold drain
  split
  · exact .refl _
  · dsimp only
    split
    · exact hgrows
    · exact hgrows.trans (handOver_grows _ _ _ _ _)

theorem ofTree_grows {α ε : Type} {x : EStateM ε FileTree α} (b : Buffered)
    (h : Grows b.tree (stateAfter (x b.tree))) : Grows b.tree (stateAfter (ofTree x b)).tree := by
  unfold ofTree
  split
  · rename_i hrun
    rw [hrun] at h
    exact h
  · rename_i hrun
    rw [hrun] at h
    exact h

theorem write_grows (route : Route) (bs : Bytes) (b : Buffered) :
    Grows b.tree (stateAfter (write route bs b)).tree := by
  rw [write_eq]
  split
  · exact .refl _
  · have hroom : Grows b.tree (stateAfter (makeRoom route bs.length b)).tree := by
      unfold makeRoom
      split
      · exact drain_grows route b
      · exact .refl _
    cases hrun : makeRoom route bs.length b with
    | error e b₁ =>
      rw [bind_of_eq_error hrun]
      rw [hrun] at hroom
      exact hroom
    | ok _ b₁ =>
      rw [bind_of_eq_ok hrun]
      rw [hrun] at hroom
      refine hroom.trans ?_
      split
      · exact .refl _
      · exact ofTree_grows b₁ (FileTree.write_grows route _ bs b₁.tree)

/-- What is written and flushed only adds, whether it succeeds or not, and wherever it goes. -/
theorem write_drain_grows (route : Route) (bs : Bytes) (b : Buffered) :
    Grows b.tree (stateAfter ((do write route bs; drain route) b)).tree := by
  have hwrite := write_grows route bs b
  cases hrun : write route bs b with
  | error e b₁ =>
    rw [bind_of_eq_error hrun]
    rw [hrun] at hwrite
    exact hwrite
  | ok _ b₁ =>
    rw [bind_of_eq_ok hrun]
    rw [hrun] at hwrite
    exact hwrite.trans (drain_grows route b₁)

theorem drain_waiting {b b' : Buffered} (h : drain route b = .ok () b') : b'.waiting = [] := by
  unfold drain at h
  split at h
  · rename_i hempty
    cases h
    exact List.isEmpty_iff.1 hempty
  · dsimp only at h
    split at h
    · cases h
      rfl
    · cases h

theorem ofTree_eq_ok {α ε : Type} {x : EStateM ε FileTree α} {a : α} {b b' : Buffered}
    (h : ofTree x b = .ok a b') : ∃ t', x b.tree = .ok a t' ∧ b' = ⟨t', []⟩ := by
  unfold ofTree at h
  split at h
  · rename_i t' hrun
    cases h
    exact ⟨t', hrun, rfl⟩
  · cases h

theorem ofTree_eq_error {α ε : Type} {x : EStateM ε FileTree α} {e : ε} {b b' : Buffered}
    (h : ofTree x b = .error e b') : x b.tree = .error e b'.tree := by
  unfold ofTree at h
  split at h
  · cases h
  · rename_i t' hrun
    cases h
    exact hrun

theorem onTree_eq_ok {α ε : Type} {x : EStateM ε Buffered α} {a : α}
    (h : onTree x t = .ok a t') : ∃ b, x ⟨t, []⟩ = .ok a b ∧ b.tree = t' := by
  unfold onTree at h
  split at h
  · rename_i b hrun
    cases h
    exact ⟨b, hrun, rfl⟩
  · cases h

theorem onTree_eq_error {α ε : Type} {x : EStateM ε Buffered α} {e : ε}
    (h : onTree x t = .error e t') : ∃ b, x ⟨t, []⟩ = .error e b ∧ b.tree = t' := by
  unfold onTree at h
  split at h
  · cases h
  · rename_i b hrun
    cases h
    exact ⟨b, hrun, rfl⟩

end Buffered

/-! ## One entry -/

/-- An entry that was put is in the file that was opened, if the file was empty then. Nothing
waits after it. -/
theorem exists_of_put_eq_ok {bs : Bytes} {b b' : Buffered}
    (h : (directorySink root).put path bs b = .ok () b') :
    ∃ route t₁, openFile (PathText.join root path) b.tree = .ok route t₁ ∧ Grows t₁ b'.tree
      ∧ b'.waiting = []
      ∧ (t₁.item? route = some (.file []) → WithFile t₁ route bs b'.tree) := by
  obtain ⟨route, b₁, hopen, hwrite⟩ := exists_of_bind_eq_ok h
  obtain ⟨t₁, hopened, rfl⟩ := Buffered.ofTree_eq_ok (openEntry_eq root path ▸ hopen)
  have hdone : (do Buffered.write route bs; Buffered.drain route) ⟨t₁, []⟩ = .ok () b' :=
    Sink.atEntry_eq_ok hwrite
  have hgrows := Buffered.write_drain_grows route bs ⟨t₁, []⟩
  rw [hdone] at hgrows
  obtain ⟨_, b₂, _, hdrain⟩ := exists_of_bind_eq_ok hdone
  refine ⟨route, t₁, hopened, hgrows, Buffered.drain_waiting hdrain, fun hempty => ?_⟩
  rcases Buffered.write_drain_cases hempty bs with ⟨t', hrun, hfile⟩ | ⟨_, _, _, hrun, _⟩
  · cases hrun.symm.trans hdone
    exact hfile
  · cases hrun.symm.trans hdone

/-- An entry that could not be put did not open, or the disk refused what was written; then the
file that was opened has a beginning of it, if the file was empty then. -/
theorem exists_of_put_eq_error {bs : Bytes} {b b' : Buffered} {e : CatalogError}
    (h : (directorySink root).put path bs b = .error e b') :
    openFile (PathText.join root path) b.tree = .error e b'.tree
      ∨ ∃ route t₁ cause, openFile (PathText.join root path) b.tree = .ok route t₁
        ∧ e = .io ((directorySink root).describe path) cause ∧ Grows t₁ b'.tree
        ∧ (t₁.item? route = some (.file []) →
            ∃ kept, kept <+: bs ∧ WithFile t₁ route kept b'.tree) := by
  rcases exists_of_bind_eq_error h with hopen | ⟨route, b₁, hopen, hwrite⟩
  · exact .inl (Buffered.ofTree_eq_error (openEntry_eq root path ▸ hopen))
  · obtain ⟨t₁, hopened, rfl⟩ := Buffered.ofTree_eq_ok (openEntry_eq root path ▸ hopen)
    obtain ⟨cause, rfl, hbroke⟩ := Sink.exists_of_atEntry_eq_error hwrite
    have hgrows := Buffered.write_drain_grows route bs ⟨t₁, []⟩
    change (do Buffered.write route bs; Buffered.drain route) ⟨t₁, []⟩ = _ at hbroke
    rw [hbroke] at hgrows
    refine .inr ⟨route, t₁, cause, hopened, rfl, hgrows, fun hempty => ?_⟩
    rcases Buffered.write_drain_cases hempty bs with ⟨_, hrun, _⟩ | ⟨_, t', kept, hrun, hkept, hfile⟩
    · cases hrun.symm.trans hbroke
    · cases hrun.symm.trans hbroke
      exact ⟨kept, hkept, hfile⟩

/-! ## Disks that never fail -/

/-- If the disk never fails before, it never fails after. -/
def FileTree.KeepsGranting (t t' : FileTree) : Prop := t.answers = [] → t'.answers = []

theorem request_keepsGranting {change : FileTree → FileTree}
    (hchange : ∀ t, (change t).answers = t.answers) (t : FileTree) :
    KeepsGranting t (stateAfter (request change t)) := by
  intro h
  rw [request_of_granting h]
  exact (hchange t).trans h

theorem createDirectory_keepsGranting (path : String) (t : FileTree) :
    KeepsGranting t (stateAfter (createDirectory path t)) := by
  unfold createDirectory
  rw [resolveNow_bind]
  cases t.resolve .newDirectory path with
  | error e => exact fun h => h
  | ok spot =>
    cases spot with
    | item route i => exact fun h => h
    | vacant folder name => exact request_keepsGranting (fun t => answers_put t folder name _) t

theorem createDirectories_keepsGranting (path : String) (t : FileTree) :
    KeepsGranting t (stateAfter (createDirectories path t)) :=
  createDirectoriesWithin_of_steps (fun _ => True) (fun _ h => h) (fun h h' h₀ => h' (h h₀))
    (fun _ _ => trivial) (fun {p} t _ => createDirectory_keepsGranting p t) _ t trivial

theorem createFile_keepsGranting (path : String) (t : FileTree) :
    KeepsGranting t (stateAfter (createFile path t)) := by
  unfold createFile
  rw [resolveNow_bind]
  cases t.resolve .newFile path with
  | error e => exact fun h => h
  | ok spot =>
    cases spot with
    | vacant folder name =>
      exact bind_keeps (P := fun t : FileTree => t.answers = [])
        (request_keepsGranting fun t => answers_put t folder name _) fun _ _ h => h
    | item route i =>
      cases i with
      | file body =>
        exact bind_keeps (P := fun t : FileTree => t.answers = []) (request_keepsGranting fun _ => rfl) fun _ _ h => h
      | directory => exact fun h => h
      | link target => exact fun h => h

theorem openFile_keepsGranting (full : String) (t : FileTree) :
    KeepsGranting t (stateAfter (openFile full t)) := by
  refine bind_keeps (P := fun t : FileTree => t.answers = []) (fun t h => ?_) fun _ t h => ?_
  · unfold makeAbove
    cases PathText.parent? full with
    | none => exact h
    | some above =>
      dsimp only
      rw [stateAfter_at]
      exact createDirectories_keepsGranting above t h
  · rw [stateAfter_at]
    exact createFile_keepsGranting full t h

namespace Buffered

theorem handOver_granting {stalled : IoError} {into : Bytes → Bytes → Bytes} {bs : Bytes}
    (h : t.answers = []) : (t.handOver stalled route into bs).1.cause = none := by
  rw [handOver, h]
  rfl

/-- A disk that never fails takes what is written. -/
theorem write_drain_granting (h : t.answers = []) (bs : Bytes) :
    ∃ b, (do write route bs; drain route) (⟨t, []⟩ : Buffered) = .ok () b
      ∧ b.tree.answers = [] := by
  have hafter : ∀ stalled, (t.handOver stalled route (· ++ ·) bs).2.answers = [] := by
    intro stalled
    rw [handOver, h]
    rfl
  by_cases hfew : bs.length < capacity
  · rw [bind_of_eq_ok (write_few hfew)]
    unfold drain
    split
    · exact ⟨_, rfl, h⟩
    · dsimp only
      rw [handOver_granting h]
      exact ⟨_, rfl, hafter _⟩
  · have hwrite := write_many route t (Nat.not_lt.1 hfew)
    have happend : append route bs t = .ok () (t.handOver .notTaken route (· ++ ·) bs).2 := by
      unfold append FileTree.write
      dsimp only
      rw [handOver_granting h]
    rw [ofTree, happend] at hwrite
    rw [bind_of_eq_ok hwrite]
    exact ⟨_, rfl, hafter _⟩

end Buffered

/-- On a disk that never fails only opening can fail, and the disk goes on like that. -/
theorem put_granting (root path : String) (bs : Bytes) {b : Buffered}
    (hgrants : b.tree.answers = []) :
    (stateAfter ((directorySink root).put path bs b)).tree.answers = []
      ∧ ∀ e b', (directorySink root).put path bs b = .error e b' →
          openFile (PathText.join root path) b.tree = .error e b'.tree := by
  have hkept := openFile_keepsGranting (PathText.join root path) b.tree hgrants
  cases hopen : openFile (PathText.join root path) b.tree with
  | error e t₁ =>
    have hput : (directorySink root).put path bs b = .error e ⟨t₁, []⟩ := by
      refine bind_of_eq_error ?_
      rw [openEntry_eq, Buffered.ofTree, hopen]
    rw [hopen] at hkept
    rw [hput]
    refine ⟨hkept, fun e' b' h => ?_⟩
    cases h
    rfl
  | ok route t₁ =>
    have hopened : (directorySink root).openEntry path b = .ok route ⟨t₁, []⟩ := by
      rw [openEntry_eq, Buffered.ofTree, hopen]
    rw [hopen] at hkept
    obtain ⟨b₂, hdone, hanswers⟩ :
        ∃ b₂, (do Buffered.write route bs; Buffered.drain route) (⟨t₁, []⟩ : Buffered) = .ok () b₂
          ∧ b₂.tree.answers = [] := Buffered.write_drain_granting hkept bs
    have hput : (directorySink root).put path bs b = .ok () b₂ := by
      exact (bind_of_eq_ok hopened).trans (Sink.atEntry_of_eq_ok hdone)
    rw [hput]
    exact ⟨hanswers, nofun⟩

/-! ## One descriptor -/

/-- Opening the entry of a name puts an empty file into the directory of descriptors. Only where
a link stands in the place of the file it is not known where the file is. -/
theorem openFile_below (hl : c.layout.Proper) (hname : c.rules.isValid s.name = true)
    (h : openFile (PathText.join root (c.layout.pathOf s.name)) t = .ok route t') :
    Walkable (PathText.join root c.layout.directory ++ "/" ++ (s.name ++ c.layout.extension)) ∧
      ∃ t₁ here, Adds t t₁ ∧ Grows t₁ t'
        ∧ t₁.resolve .look (PathText.join root c.layout.directory) = .ok (.item here .directory)
        ∧ ((∃ target, t₁.item? (here ++ [s.name ++ c.layout.extension]) = some (.link target))
          ∨ route = here ++ [s.name ++ c.layout.extension] ∧ WithFile t₁ route [] t') := by
  obtain ⟨t₁, hadds, hcreate⟩ := exists_of_openFile_eq_ok h
  have hmade := createFile_grows (PathText.join root (c.layout.pathOf s.name)) t₁
  rw [hcreate] at hmade
  rw [join_pathOf_eq hl] at hcreate
  obtain ⟨hwalkable, here, hd, hplace⟩ := createFile_below (join_directory_ne hl root)
    (slash_not_mem_fileName hl hname) (fileName_ne hl s.name) hcreate
  exact ⟨hwalkable, t₁, here, hadds.toAdds, hmade, hd, hplace⟩

/-- **A write that succeeds puts one file into the directory of descriptors.** Only where a
link stands in the place of the file it is not known where the file is. -/
theorem exists_of_write_eq_ok {b b' : Buffered} (hl : c.layout.Proper)
    (h : (directorySink root).writeSpecification c s b = .ok path b') :
    c.rules.isValid s.name = true ∧ path = c.layout.pathOf s.name ∧ b'.waiting = []
      ∧ Walkable (PathText.join root c.layout.directory ++ "/" ++ (s.name ++ c.layout.extension)) ∧
      ∃ t₁ here, Adds b.tree t₁ ∧ Grows t₁ b'.tree
        ∧ t₁.resolve .look (PathText.join root c.layout.directory) = .ok (.item here .directory)
        ∧ ((∃ target, t₁.item? (here ++ [s.name ++ c.layout.extension]) = some (.link target))
          ∨ WithFile t₁ (here ++ [s.name ++ c.layout.extension]) (c.encode s) b'.tree) := by
  obtain ⟨hname, rfl, hput⟩ := Sink.writeSpecification_eq_ok_iff.1 h
  obtain ⟨route, t₂, hopen, hgrows, hwaiting, hfile⟩ := exists_of_put_eq_ok hput
  obtain ⟨hwalkable, t₁, here, hadds, hmade, hd, hplace⟩ := openFile_below hl hname hopen
  refine ⟨hname, rfl, hwaiting, hwalkable, t₁, here, hadds, hmade.trans hgrows, hd,
    hplace.imp_right ?_⟩
  rintro ⟨rfl, hempty⟩
  exact hempty.trans (hfile hempty.item?)

theorem openEntry_succeeded {b : Buffered} :
    succeeded ((directorySink root).openEntry path b)
      = succeeded (openFile (PathText.join root path) b.tree) := by
  rw [openEntry_eq]
  unfold Buffered.ofTree
  cases openFile (PathText.join root path) b.tree with
  | ok route t₁ => rfl
  | error e t₁ => rfl

/-- **A write that fails has not opened the file or leaves a beginning of the descriptor in it.** -/
theorem exists_of_write_eq_error {b b' : Buffered} {e : CatalogError} (hl : c.layout.Proper)
    (h : (directorySink root).writeSpecification c s b = .error e b') :
    (directorySink root).opens c s b = false ∧ Adds b.tree b'.tree ∨
      (directorySink root).opens c s b = true ∧ c.rules.isValid s.name = true
      ∧ Walkable (PathText.join root c.layout.directory ++ "/" ++ (s.name ++ c.layout.extension)) ∧
      ∃ t₁ here, Adds b.tree t₁ ∧ Grows t₁ b'.tree
        ∧ t₁.resolve .look (PathText.join root c.layout.directory) = .ok (.item here .directory)
        ∧ ((∃ target, t₁.item? (here ++ [s.name ++ c.layout.extension]) = some (.link target))
          ∨ ∃ kept, kept <+: c.encode s
            ∧ WithFile t₁ (here ++ [s.name ++ c.layout.extension]) kept b'.tree) := by
  rcases Sink.writeSpecification_eq_error_iff.1 h with ⟨hname, -, rfl⟩ | ⟨hname, hput⟩
  · exact .inl ⟨Sink.opens_of_invalid hname, .refl _⟩
  rw [Sink.opens_of_valid hname, openEntry_succeeded]
  rcases exists_of_put_eq_error hput with hopen | ⟨route, t₂, _, hopen, _, hgrows, hfile⟩
  · exact .inl ⟨hopen ▸ rfl, (addsAt_of_openFile_eq_error hopen).toAdds⟩
  · obtain ⟨hwalkable, t₁, here, hadds, hmade, hd, hplace⟩ := openFile_below hl hname hopen
    refine .inr ⟨hopen ▸ rfl, hname, hwalkable, t₁, here, hadds, hmade.trans hgrows, hd,
      hplace.imp_right ?_⟩
    rintro ⟨rfl, hempty⟩
    obtain ⟨kept, hkept, hfull⟩ := hfile hempty.item?
    exact ⟨kept, hkept, hempty.trans hfull⟩

/-! ## Where the path leads -/

/-- The file that was opened is where the path leads, also after the tree has grown. -/
theorem openFile_leads {full : String} (hlinks : t.LinksSpelled)
    (h : openFile full t = .ok route t') :
    ∃ t₁, AddsAt (PathText.IsAbove · full) t t₁ ∧ WithFile t₁ route [] t' ∧
      ∀ {t'' : FileTree} {body : Bytes}, WithFile t' route body t'' →
        WithFile t₁ route body t''
          ∧ t''.resolve .look full = .ok (.item route (.file body)) := by
  obtain ⟨t₁, hadds, hcreate⟩ := exists_of_openFile_eq_ok h
  obtain ⟨hempty, hleads⟩ := resolve_of_createFile (hlinks.adds hadds.toAdds) hcreate
  refine ⟨t₁, hadds, hempty, fun {t'' body} hfile => ?_⟩
  have hfull := hempty.trans hfile
  exact ⟨hfull, hleads _ _ hfull.grows hfull.item?⟩

/-- A write that succeeds makes directories above the path and puts the descriptor where the path
leads. -/
theorem exists_withFile_of_write {b b' : Buffered} (hlinks : b.tree.LinksSpelled)
    (h : (directorySink root).writeSpecification c s b = .ok path b') :
    c.rules.isValid s.name = true ∧ path = c.layout.pathOf s.name ∧
      ∃ t₁ r, AddsAt (PathText.IsAbove · (PathText.join root path)) b.tree t₁
        ∧ WithFile t₁ r (c.encode s) b'.tree
        ∧ b'.tree.resolve .look (PathText.join root path)
          = .ok (.item r (.file (c.encode s))) := by
  obtain ⟨hname, rfl, hput⟩ := Sink.writeSpecification_eq_ok_iff.1 h
  obtain ⟨r, t₂, hopen, -, -, hfile⟩ := exists_of_put_eq_ok hput
  obtain ⟨t₁, hadds, hempty, hfull⟩ := openFile_leads hlinks hopen
  obtain ⟨hwritten, hleads⟩ := hfull (hfile hempty.item?)
  exact ⟨hname, rfl, t₁, r, hadds, hwritten, hleads⟩

end SpecCatalog
