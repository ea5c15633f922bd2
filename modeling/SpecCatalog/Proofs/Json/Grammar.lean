import SpecCatalog.Json.Record

/-!
# How values are written

The written forms of texts, lists and values that may be `null`, as relations between
bytes and what they stand for. They follow the grammar and know nothing of cursors,
positions or messages, so the reader and the printer are each compared with them: the
printer writes one form of each value and the reader takes all of them.

A text is written in parts. A part stands for some bytes of the text and need not be a
whole character: a character beyond ASCII may stand there raw, one byte a part, or be
escaped as a whole. Only all parts together have to be UTF-8.

A value begins with a byte that is not blank and from which its kind can be told. Which
bytes those are is recorded as well, since the reader decides on them.
-/

namespace SpecCatalog.Json

/-- Ways to write values of a type: the bytes and the value they stand for. -/
abbrev Writing (α : Type) := Bytes → α → Prop

/-- Every written value begins with one of these bytes. -/
def Writing.BeginsIn {α : Type} (W : Writing α) (heads : Bytes) : Prop :=
  ∀ w a, W w a → ∃ b ∈ heads, ∃ rest, w = b :: rest

/-- What may stand between the parts of a document. -/
def Blanks (w : Bytes) : Prop := ∀ b ∈ w, Scan.isBlank b = true

theorem blanks_nil : Blanks [] := fun _ h => absurd h List.not_mem_nil

/-! ## Texts -/

/-- Four hexadecimal digits and their number. -/
inductive FourDigits : Writing Nat where
  | digits {a b c d : UInt8} {i j k l : Nat} :
      Scan.hexValue a = some i → Scan.hexValue b = some j →
      Scan.hexValue c = some k → Scan.hexValue d = some l →
      FourDigits [a, b, c, d] (((i * 16 + j) * 16 + k) * 16 + l)

/-- A part of a text and the bytes it stands for. -/
inductive TextPart : Writing Bytes where
  | plain {b : UInt8} :
      b ≠ Byte.quote → b ≠ Byte.backslash → ¬ b < 0x20 → TextPart [b] [b]
  | letter {p : Char × UInt8} :
      p ∈ Scan.escapeLetters → TextPart [Byte.backslash, Byte.ofChar p.1] [p.2]
  | numbered {w : Bytes} {n : Nat} :
      FourDigits w n → n < 0xd800 ∨ 0xdfff < n →
      TextPart (Byte.backslash :: Byte.ofChar 'u' :: w) (Scan.utf8 n)
  /-- The two halves of a code point beyond the first plane. -/
  | pair {w v : Bytes} {n m : Nat} :
      FourDigits w n → 0xd800 ≤ n → n < 0xdc00 →
      FourDigits v m → 0xdc00 ≤ m → m ≤ 0xdfff →
      TextPart
        (Byte.backslash :: Byte.ofChar 'u' :: w ++ Byte.backslash :: Byte.ofChar 'u' :: v)
        (Scan.utf8 (0x10000 + (n - 0xd800) * 0x400 + (m - 0xdc00)))

/-- What stands between the quotes of a text. -/
inductive TextParts : Writing Bytes where
  | nil : TextParts [] []
  | cons {w v ws vs : Bytes} : TextPart w v → TextParts ws vs → TextParts (w ++ ws) (v ++ vs)

/-- A text in its quotes. -/
inductive TextForm : Writing String where
  | quoted {w : Bytes} {s : String} :
      TextParts w (Text.toBytes s) → TextForm (Byte.quote :: w ++ [Byte.quote]) s

theorem TextPart.length_pos {w v : Bytes} (h : TextPart w v) : 0 < w.length := by
  cases h <;> simp

theorem textForm_beginsIn : Writing.BeginsIn TextForm [Byte.quote] := by
  intro w s h
  cases h
  exact ⟨_, List.mem_singleton_self _, _, rfl⟩

/-! ## Values that may be absent -/

def nullWord : Bytes := ['n', 'u', 'l', 'l'].map Byte.ofChar

inductive OrNull {α : Type} (W : Writing α) : Writing (Option α) where
  | null : OrNull W nullWord none
  | value {w : Bytes} {a : α} : W w a → OrNull W w (some a)

theorem Writing.BeginsIn.orNull {α : Type} {W : Writing α} {heads : Bytes} (h : W.BeginsIn heads) :
    Writing.BeginsIn (OrNull W) (Byte.ofChar 'n' :: heads) := by
  intro w a hw
  cases hw with
  | null => exact ⟨_, List.mem_cons_self, _, rfl⟩
  | value hw =>
    obtain ⟨b, hb, rest, rfl⟩ := h _ _ hw
    exact ⟨b, List.mem_cons_of_mem _ hb, rest, rfl⟩

/-! ## Lists -/

/-- What stands before an item or a member: blanks, and a comma among them unless it is
the first. -/
inductive Lead : Bool → Bytes → Prop where
  | first {w : Bytes} : Blanks w → Lead true w
  | later {u v : Bytes} : Blanks u → Blanks v → Lead false (u ++ Byte.comma :: v)

/-- The items of a list up to its bracket; the flag says whether the first of them is the
first of the list. -/
inductive Items {α : Type} (W : Writing α) : Bool → Writing (List α) where
  | nil {first : Bool} {w : Bytes} : Blanks w → Items W first w []
  | cons {first : Bool} {lead w more : Bytes} {a : α} {as : List α} :
      Lead first lead → W w a → Items W false more as →
      Items W first (lead ++ w ++ more) (a :: as)

/-- A list in its brackets. -/
inductive ListForm {α : Type} (W : Writing α) : Writing (List α) where
  | bracketed {w : Bytes} {as : List α} :
      Items W true w as → ListForm W (Byte.openList :: w ++ [Byte.closeList]) as

theorem listForm_beginsIn {α : Type} (W : Writing α) :
    Writing.BeginsIn (ListForm W) [Byte.openList] := by
  intro w as h
  cases h
  exact ⟨_, List.mem_singleton_self _, _, rfl⟩

end SpecCatalog.Json
