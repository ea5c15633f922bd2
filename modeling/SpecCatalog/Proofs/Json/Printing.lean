import SpecCatalog.Json.Printer
import SpecCatalog.Proofs.Json.Grammar

/-!
# What is printed is well written

The printer's output is in the grammar and stands for what was printed: each byte of a
text becomes one part of it, and the line ends and spaces between items are blanks. The
depth and the indent do not matter.
-/

namespace SpecCatalog.Json.Printer

/-! ## Marks -/

@[simp] theorem ascii_comma : ascii "," = [Byte.comma] := rfl

@[simp] theorem ascii_openList : ascii "[" = [Byte.openList] := rfl

@[simp] theorem ascii_closeList : ascii "]" = [Byte.closeList] := rfl

@[simp] theorem ascii_openMap : ascii "\x7b" = [Byte.openMap] := rfl

@[simp] theorem ascii_closeMap : ascii "\x7d" = [Byte.closeMap] := rfl

@[simp] theorem ascii_colon : ascii ": " = [Byte.colon, 0x20] := rfl

/-! ## Texts -/

/-- A control character is escaped by its number. -/
theorem textPart_control (n : Fin 32) :
    TextPart
      (ascii "\\u00" ++
        [escapedByte.hexDigit (UInt8.ofNat n / 16), escapedByte.hexDigit (UInt8.ofNat n % 16)])
      [UInt8.ofNat n] := by
  have hhigh : Scan.hexValue (escapedByte.hexDigit (UInt8.ofNat n / 16)) = some (n.val / 16) := by
    revert n
    decide
  have hlow : Scan.hexValue (escapedByte.hexDigit (UInt8.ofNat n % 16)) = some (n.val % 16) := by
    revert n
    decide
  have hzero : Scan.hexValue 0x30 = some 0 := by decide
  have hvalue : ((0 * 16 + 0) * 16 + n.val / 16) * 16 + n.val % 16 = n.val := by omega
  have hutf8 : Scan.utf8 n = [UInt8.ofNat n] := by
    revert n
    decide
  have hpart := TextPart.numbered (.digits hzero hzero hhigh hlow) (.inl (by omega))
  rw [hvalue, hutf8] at hpart
  exact hpart

theorem textPart_escapedByte (b : UInt8) : TextPart (escapedByte b) [b] := by
  unfold escapedByte
  -- the escape letters, in the order in which the printer asks for them
  split
  · rename_i h
    exact h ▸ .letter (p := ('"', 0x22)) (by decide)
  split
  · rename_i h
    exact h ▸ .letter (p := ('\\', 0x5c)) (by decide)
  split
  · rename_i h
    exact h ▸ .letter (p := ('b', 0x08)) (by decide)
  split
  · rename_i h
    exact h ▸ .letter (p := ('t', 0x09)) (by decide)
  split
  · rename_i h
    exact h ▸ .letter (p := ('n', 0x0a)) (by decide)
  split
  · rename_i h
    exact h ▸ .letter (p := ('f', 0x0c)) (by decide)
  split
  · rename_i h
    exact h ▸ .letter (p := ('r', 0x0d)) (by decide)
  split
  · rename_i h
    have hb : UInt8.ofNat b.toNat = b := UInt8.ofNat_toNat
    have hcontrol := textPart_control ⟨b.toNat, h⟩
    rwa [hb] at hcontrol
  · rename_i hquote hslash _ _ _ _ _ hcontrol
    exact .plain hquote hslash hcontrol

theorem textParts_flatMap (bs : Bytes) : TextParts (bs.flatMap escapedByte) bs := by
  induction bs with
  | nil => exact .nil
  | cons b bs ih => exact .cons (textPart_escapedByte b) ih

theorem textForm_text (s : String) : TextForm (text s).flatten s := by
  have hflat : (text s).flatten
      = Byte.quote :: (Text.toBytes s).flatMap escapedByte ++ [Byte.quote] := by
    simp only [text, List.flatten_append, List.flatten_singleton, List.flatMap_def]
    rfl
  rw [hflat]
  exact .quoted (textParts_flatMap _)

/-! ## Lists -/

theorem blanks_newline (indent depth : Nat) : Blanks (newline indent depth) := by
  intro b hb
  rcases List.mem_cons.1 hb with rfl | hb
  · decide
  · rw [List.eq_of_mem_replicate hb]
    decide

variable {α β : Type} {W : Writing β} {print : α → List Bytes} {value : α → β}

/-- The items after the first, each with its comma, and the line end after the last. -/
theorem items_between (h : ∀ a, W (print a).flatten (value a)) (indent depth : Nat)
    (as : List α) :
    Items W false
      (((as.map print).flatMap fun thing => [ascii ","] ++ newline indent (depth + 1) :: thing)
        ++ [newline indent depth]).flatten
      (as.map value) := by
  induction as with
  | nil =>
    refine .nil ?_
    simpa using blanks_newline indent depth
  | cons a as ih =>
    have hlead : Lead false (Byte.comma :: newline indent (depth + 1)) :=
      .later blanks_nil (blanks_newline indent (depth + 1))
    have hitems := Items.cons hlead (h a) ih
    simpa [List.append_assoc] using hitems

theorem listForm_list (h : ∀ a, W (print a).flatten (value a)) (indent depth : Nat)
    (as : List α) :
    ListForm W (list indent depth (as.map print)).flatten (as.map value) := by
  cases as with
  | nil => exact .bracketed (.nil blanks_nil)
  | cons a as =>
    have hitems := Items.cons (.first (blanks_newline indent (depth + 1))) (h a)
      (items_between h indent depth as)
    have hlist := ListForm.bracketed hitems
    simpa [list, between, List.append_assoc] using hlist

end SpecCatalog.Json.Printer
