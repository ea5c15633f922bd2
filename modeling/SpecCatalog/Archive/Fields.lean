import SpecCatalog.Text.Bytes

/-!
# Records of numbers

The records of an archive are rows of numbers, each of a fixed width and with its lowest
byte first. A row is written from pairs of width and number and read back by the list of
its widths; `readFields_writeFields` says that every number that fits its width comes
back.
-/

namespace SpecCatalog.Archive

def writeNumber : Nat → Nat → Bytes
  | 0, _ => []
  | width + 1, n => UInt8.ofNat n :: writeNumber width (n / 256)

def readNumber : Bytes → Nat
  | [] => 0
  | b :: bs => b.toNat + 256 * readNumber bs

theorem length_writeNumber (width n : Nat) : (writeNumber width n).length = width := by
  induction width generalizing n with
  | zero => rfl
  | succ width ih => simp [writeNumber, ih]

/-- How many numbers fit a width. -/
def capacity : Nat → Nat
  | 0 => 1
  | width + 1 => 256 * capacity width

theorem readNumber_writeNumber {width n : Nat} (h : n < capacity width) :
    readNumber (writeNumber width n) = n := by
  induction width generalizing n with
  | zero =>
    have : n = 0 := Nat.lt_one_iff.1 h
    simp [writeNumber, readNumber, this]
  | succ width ih =>
    have hdiv : n / 256 < capacity width := Nat.div_lt_of_lt_mul h
    rw [writeNumber, readNumber, ih hdiv]
    have hb : (UInt8.ofNat n).toNat = n % 256 := by simp
    rw [hb]
    exact Nat.mod_add_div n 256

/-- The numbers of a row, each before its width. -/
def writeFields : List (Nat × Nat) → Bytes
  | [] => []
  | (width, n) :: row => writeNumber width n ++ writeFields row

/-- Reads a row by its widths, and gives the bytes after it. -/
def readFields : List Nat → Bytes → Option (List Nat × Bytes)
  | [], bs => some ([], bs)
  | width :: widths, bs =>
    if bs.length < width then none
    else
      (readFields widths (bs.drop width)).map fun (ns, rest) =>
        (readNumber (bs.take width) :: ns, rest)

theorem readFields_writeFields (row : List (Nat × Nat)) (rest : Bytes)
    (h : ∀ f ∈ row, f.2 < capacity f.1) :
    readFields (row.map (·.1)) (writeFields row ++ rest) = some (row.map (·.2), rest) := by
  induction row with
  | nil => rfl
  | cons f row ih =>
    obtain ⟨width, n⟩ := f
    have hl := length_writeNumber width n
    have hn := readNumber_writeNumber (h (width, n) List.mem_cons_self)
    have hrow := ih fun f hf => h f (List.mem_cons_of_mem _ hf)
    simp only [List.map_cons, readFields, writeFields, List.append_assoc]
    rw [if_neg (by simp [hl]), List.drop_left' hl, hrow, List.take_left' hl, hn]
    rfl

end SpecCatalog.Archive
