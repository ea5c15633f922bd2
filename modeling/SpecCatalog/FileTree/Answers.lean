import SpecCatalog.FileTree.IoError
import SpecCatalog.Text.Bytes

/-!
# Answers of the system

Whatever a path allows, the system may still refuse: the disk is full, or broken, or may not be
written to. What it will answer to the requests to come is a list. Behind the end of the list it
grants everything, so a tree without a list is one on a disk that never fails.

Bytes are handed over by requests. One request may take only some of them; the others are handed
over by the next one, until all are taken or a request is refused (`Handing.of`).
-/

namespace SpecCatalog.FileTree

inductive Answer where
  | grants
  /-- So many bytes are taken; of a request without bytes this grants it. -/
  | takes (n : Nat)
  | refuses (r : Refusal)
  deriving DecidableEq, Repr

/-- What has come of handing bytes over. -/
structure Handing where
  taken : Bytes
  /-- The bytes that were not taken; if there are any, there is a cause. -/
  left : Bytes
  cause : Option IoError
  answers : List Answer

/-- Hands bytes over; `stalled` is the cause if a request takes none of them. -/
def Handing.of (stalled : IoError) : List Answer → Bytes → Handing
  | [], bs => ⟨bs, [], none, []⟩
  | answer :: answers, bs =>
    if bs.isEmpty then ⟨[], [], none, answer :: answers⟩
    else
      match answer with
      | .grants => ⟨bs, [], none, answers⟩
      | .refuses r => ⟨[], bs, some (.os (.refused r)), answers⟩
      | .takes n =>
        if n = 0 then ⟨[], bs, some stalled, answers⟩
        else
          let more := of stalled answers (bs.drop n)
          { more with taken := bs.take n ++ more.taken }

namespace Handing

/-- Nothing is lost between what is taken and what is left. -/
theorem taken_append_left (stalled : IoError) (answers : List Answer) (bs : Bytes) :
    (of stalled answers bs).taken ++ (of stalled answers bs).left = bs := by
  induction answers generalizing bs with
  | nil => exact List.append_nil bs
  | cons answer answers ih =>
    unfold of
    split
    · rename_i hempty
      exact (List.isEmpty_iff.1 hempty).symm
    cases answer with
    | grants => exact List.append_nil bs
    | refuses r => rfl
    | takes n =>
      dsimp only
      split
      · rfl
      · dsimp only
        rw [List.append_assoc, ih, List.take_append_drop]

/-- If there is no cause, nothing is left. -/
theorem left_eq_nil {stalled : IoError} {answers : List Answer} {bs : Bytes}
    (h : (of stalled answers bs).cause = none) : (of stalled answers bs).left = [] := by
  induction answers generalizing bs with
  | nil => rfl
  | cons answer answers ih =>
    unfold of at h ⊢
    split at h
    · rename_i hempty
      rw [if_pos hempty]
    rename_i hempty
    rw [if_neg hempty]
    cases answer with
    | grants => rfl
    | refuses r => cases h
    | takes n =>
      dsimp only at h ⊢
      split at h
      · cases h
      · rename_i hn
        rw [if_neg hn]
        exact ih h

theorem taken_prefix (stalled : IoError) (answers : List Answer) (bs : Bytes) :
    (of stalled answers bs).taken <+: bs :=
  ⟨_, taken_append_left stalled answers bs⟩

theorem taken_eq {stalled : IoError} {answers : List Answer} {bs : Bytes}
    (h : (of stalled answers bs).cause = none) : (of stalled answers bs).taken = bs := by
  have hall := taken_append_left stalled answers bs
  rwa [left_eq_nil h, List.append_nil] at hall

end Handing

end SpecCatalog.FileTree
