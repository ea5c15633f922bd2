import SpecCatalog.Proofs.Sink.Directory

/-!
# What a write leaves alone

A write below a root changes what one file holds and nothing else that is there. What is new
afterwards is this file, if it was not there, and directories above it that were missing: each of
them is where a path leads that has the first components of the file's path.

After a write that failed before its file was opened no file has changed, and at most such
directories are new. On a disk that never fails every failure is one of these. A disk can also
refuse what is written after the file was opened. What the file held before is gone by then, and
it holds a beginning of the descriptor (`write_touches_one_file`, `file_lost`).
-/

namespace SpecCatalog

open FileTree

variable {t t' : FileTree} {c : Codec} {s : Specification} {full : String}

/-- The second tree is the first one but for what was written, and for new directories above the
path. -/
structure FileTree.Touches (t t' : FileTree) (full : String) (written : Route → Prop) : Prop where
  home : t'.home = t.home
  kept : ∀ r i, t.item? r = some i → ¬ written r → t'.item? r = some i
  file : ∀ r i, t.item? r = some i → written r → ∃ old, i = .file old
  new : ∀ r i, t.item? r = none → t'.item? r = some i → ¬ written r →
    i = .directory ∧ ∃ p, PathText.IsAbove p full ∧ t'.resolve .look p = .ok (.item r .directory)

/-- A file that is written after the directories were made. -/
theorem FileTree.Touches.withFile {t₁ : FileTree} {r : Route} {body : Bytes}
    (h : Touches t t₁ full fun _ => False) (hfile : WithFile t₁ r body t') :
    Touches t t' full (· = r) where
  home := hfile.home.trans h.home
  kept := by
    intro r' i hi hother
    rw [hfile.other hother]
    exact h.kept r' i hi not_false
  file := by
    rintro r' i hi rfl
    have hkept := h.kept r' i hi not_false
    rcases hfile.room with hnone | ⟨old, hold⟩
    · rw [hkept] at hnone
      cases hnone
    · rw [hkept] at hold
      exact ⟨old, Option.some.inj hold⟩
  new := by
    intro r' i hnone hi hother
    rw [hfile.other hother] at hi
    obtain ⟨rfl, p, hp, hleads⟩ := h.new r' i hnone hi not_false
    exact ⟨rfl, p, hp, resolve_grows_directory hfile.grows hleads⟩

end SpecCatalog
