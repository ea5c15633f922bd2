/-!
# Ranges of code points

A Unicode property is a set of characters, and the standard gives it as ranges of
code points. The tables of this folder write such a set as text: ranges in
hexadecimal, parted by blanks, one code point standing for itself. `Ranges.ofText`
reads that text. Only the tables are written this way, so an item that is no range
is passed over rather than reported.
-/

namespace SpecCatalog.Unicode

/-- A set of characters, as ranges of code points with both ends included. -/
structure Ranges where
  spans : List (Nat × Nat)
  deriving DecidableEq, Repr, Inhabited

namespace Ranges

def contains (r : Ranges) (c : Char) : Bool :=
  r.spans.any fun s => s.1 ≤ c.toNat && c.toNat ≤ s.2

def union (r s : Ranges) : Ranges := ⟨r.spans ++ s.spans⟩

/-- The number of ranges, which is what a matcher built from the set grows with. -/
def size (r : Ranges) : Nat := r.spans.length

/-! ## Reading a table -/

def hexDigit? (c : Char) : Option Nat :=
  if '0' ≤ c && c ≤ '9' then some (c.toNat - '0'.toNat)
  else if 'a' ≤ c && c ≤ 'f' then some (c.toNat - 'a'.toNat + 10)
  else if 'A' ≤ c && c ≤ 'F' then some (c.toNat - 'A'.toNat + 10)
  else none

/-- One step over the text of a table: the spans so far, the start of a range whose
dash has been seen, and the number being read. -/
def readChar : List (Nat × Nat) × Option Nat × Option Nat → Char →
    List (Nat × Nat) × Option Nat × Option Nat
  | (spans, start, n), c =>
    match hexDigit? c with
    | some d => (spans, start, some (n.getD 0 * 16 + d))
    | none =>
      match start, n with
      | none, some n => if c = '-' then (spans, some n, none) else ((n, n) :: spans, none, none)
      | some a, some b => ((a, b) :: spans, none, none)
      | _, none => (spans, none, none)

/-- The pairs of numbers that a table's text writes, in order. -/
def pairsOfText (text : String) : List (Nat × Nat) :=
  let (spans, start, n) := text.toList.foldl readChar ([], none, none)
  let spans := match start, n with
    | none, some n => (n, n) :: spans
    | some a, some b => (a, b) :: spans
    | _, none => spans
  spans.reverse

def ofText (text : String) : Ranges := ⟨pairsOfText text⟩

end Ranges

/-- A row of a table: the names a property value goes by, in lower case and without
separators, and the text of its ranges. -/
structure Named where
  names : List String
  text : String

namespace Named

/-- A property name with the differences removed that Unicode tells us to ignore:
case, blanks, hyphens, underscores and a leading "is". What is left of "isc" would be
the category "c", which it does not mean, so that name stays whole. -/
def loosely (name : String) : String :=
  let fold (cs : List Char) : List Char := cs.filterMap fun c =>
    if c = ' ' || c = '-' || c = '_' || c.toNat > 127 then none else some c.toLower
  match name.toList with
  | i :: s :: rest =>
    if i.toLower = 'i' && s.toLower = 's' then
      let rest := fold rest
      String.ofList (if rest = ['c'] then ['i', 's', 'c'] else rest)
    else String.ofList (fold (i :: s :: rest))
  | short => String.ofList (fold short)

def ranges (row : Named) : Ranges := .ofText row.text

/-- The row that goes by the name, which is taken loosely. -/
def find? (table : List Named) (name : String) : Option Named :=
  let name := loosely name
  table.find? fun row => row.names.contains name

end Named

end SpecCatalog.Unicode
