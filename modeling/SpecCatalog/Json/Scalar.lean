import SpecCatalog.Json.Cursor
import SpecCatalog.Text.Lossy

/-!
# Texts, numbers and words of a document

A text is read after its opening quote. Its raw bytes and the bytes its escapes stand
for are gathered and must be UTF-8 when the closing quote comes; a code point beyond
the first plane is escaped as two halves, which must come together. Of a document that
is held whole the plain bytes up to the next special one are taken in one run, and the
four digits of an escape at once; of a stream each byte is taken as it comes.

A number is only ever wanted as a count. Any other number is read to its end all the
same, so that a message can name it.
-/

namespace SpecCatalog.Json

namespace Byte

abbrev quote : UInt8 := 0x22
abbrev plus : UInt8 := 0x2b
abbrev comma : UInt8 := 0x2c
abbrev minus : UInt8 := 0x2d
abbrev point : UInt8 := 0x2e
abbrev zero : UInt8 := 0x30
abbrev colon : UInt8 := 0x3a
abbrev openList : UInt8 := 0x5b
abbrev backslash : UInt8 := 0x5c
abbrev closeList : UInt8 := 0x5d
abbrev openMap : UInt8 := 0x7b
abbrev closeMap : UInt8 := 0x7d

/-- The byte of an ASCII character. -/
def ofChar (c : Char) : UInt8 := c.toNat.toUInt8

end Byte

namespace Scan

/-! ## Words -/

/-- Takes exactly these bytes. -/
def word : List Char → Scan Unit
  | [] => pure ()
  | c :: cs => do
    match ← next with
    | none => failHere .endInValue
    | some b => if b = Byte.ofChar c then word cs else failHere .expectedWord

/-! ## Texts -/

/-- Takes the next byte of a text. -/
def textByte : Scan UInt8 := do
  match ← next with
  | some b => return b
  | none => failHere .endInText

def hexValue (b : UInt8) : Option Nat :=
  if 0x30 ≤ b && b ≤ 0x39 then some (b.toNat - 0x30)
  else if 0x61 ≤ b && b ≤ 0x66 then some (b.toNat - 0x61 + 10)
  else if 0x41 ≤ b && b ≤ 0x46 then some (b.toNat - 0x41 + 10)
  else none

/-- The number that four hexadecimal digits write. -/
def hexNumber (a b c d : UInt8) : Option Nat :=
  match hexValue a, hexValue b, hexValue c, hexValue d with
  | some a, some b, some c, some d => some (((a * 16 + b) * 16 + c) * 16 + d)
  | _, _, _, _ => none

/-- The four digits of a slice, if there are four bytes; else all that is left is taken. -/
def fourHexAtOnce (s : Slice) : EStateM.Result Failure Cursor Nat :=
  match s.rest with
  | a :: b :: c :: d :: _ =>
    match hexNumber a b c d with
    | some n => .ok n (.whole (s.takeBytes 4))
    | none => failHere .badEscape (.whole (s.takeBytes 4))
  | _ => failHere .endInText (.whole (s.takeBytes s.rest.length))

/-- Four digits, one byte after the other. All four are taken before they are judged. -/
def fourHexByBytes : Scan Nat := do
  let a ← textByte
  let b ← textByte
  let c ← textByte
  let d ← textByte
  match hexNumber a b c d with
  | some n => return n
  | none => failHere .badEscape

/-- The number that four hexadecimal digits write. -/
def fourHex : Scan Nat
  | .whole s => fourHexAtOnce s
  | .arriving f => fourHexByBytes (.arriving f)

/-- Takes the byte that must join the halves of a pair. -/
def joiner (wanted : Char) : Scan Unit := do
  match ← peek with
  | none => failHere .endInText
  | some b =>
    skip
    if b = Byte.ofChar wanted then return () else failHere .unfinishedSurrogate

def utf8 (n : Nat) : Bytes := String.utf8EncodeChar (Char.ofNat n)

/-- The bytes that a numbered escape stands for, read after its `u`. -/
def numberedEscape : Scan Bytes := do
  let n ← fourHex
  if 0xdc00 ≤ n && n ≤ 0xdfff then failHere .loneSurrogate
  else if n < 0xd800 || 0xdfff < n then return utf8 n
  else
    joiner '\\'
    joiner 'u'
    let m ← fourHex
    if 0xdc00 ≤ m && m ≤ 0xdfff then
      return utf8 (0x10000 + (n - 0xd800) * 0x400 + (m - 0xdc00))
    else failHere .loneSurrogate

/-- The characters that an escape letter stands for. -/
def escapeLetters : List (Char × UInt8) :=
  [('"', 0x22), ('\\', 0x5c), ('/', 0x2f), ('b', 0x08), ('f', 0x0c), ('n', 0x0a), ('r', 0x0d),
    ('t', 0x09)]

/-- The bytes that an escape stands for, read after its backslash. -/
def escaped : Scan Bytes := do
  let b ← textByte
  match escapeLetters.find? fun p => Byte.ofChar p.1 = b with
  | some p => return [p.2]
  | none => if b = Byte.ofChar 'u' then numberedEscape else failHere .badEscape

/-- Whether a byte of a text stands for itself. -/
def isPlain (b : UInt8) : Bool := b != Byte.quote && b != Byte.backslash && !(b < 0x20)

/-- Takes the plain bytes up to the next other one; a stream does not show any. -/
def plainRun : Scan Bytes
  | .whole s =>
    let run := s.rest.takeWhile isPlain
    .ok run (.whole (s.takeBytes run.length))
  | .arriving f => .ok [] (.arriving f)

/-- Gathers a text up to its closing quote by runs of plain bytes, latest byte first. Each
round takes a byte. -/
def textByRuns : Nat → Bytes → Scan Bytes
  | 0, _ => failHere .endInText
  | fuel + 1, gathered => do
    let run ← plainRun
    let b ← textByte
    if b = Byte.quote then return (run.reverse ++ gathered).reverse
    else if b = Byte.backslash then
      let e ← escaped
      textByRuns fuel (e.reverse ++ (run.reverse ++ gathered))
    else failHere .controlCharacter

/-- Gathers a text up to its closing quote, latest byte first. Each round takes a byte. -/
def textByBytes : Nat → Bytes → Scan Bytes
  | 0, _ => failHere .endInText
  | fuel + 1, gathered => do
    let b ← textByte
    if b = Byte.quote then return gathered.reverse
    else if b = Byte.backslash then
      let e ← escaped
      textByBytes fuel (e.reverse ++ gathered)
    else if b < 0x20 then failHere .controlCharacter
    else textByBytes fuel (b :: gathered)

/-- The bytes of a text up to its closing quote. -/
def textBytes : Scan Bytes
  | .whole s => textByRuns (s.rest.length + 1) [] (.whole s)
  | .arriving f => textByBytes (f.rest.length + 1) [] (.arriving f)

/-- The text whose opening quote has been taken. -/
def text : Scan String := do
  let bs ← textBytes
  match Text.ofBytes? bs with
  | some s => return s
  | none => failBack (Text.unreadable bs).length .notUtf8

/-! ## Numbers -/

/-- The digit to come, if one does. -/
def peekDigit : Scan (Option Nat) := do
  match ← peek with
  | some b => return if 0x30 ≤ b && b ≤ 0x39 then some (b.toNat - 0x30) else none
  | none => return none

/-- Takes digits as long as they come. -/
def digitsFor : Nat → Scan (List Nat)
  | 0 => return []
  | fuel + 1 => do
    match ← peekDigit with
    | none => return []
    | some d =>
      skip
      let rest ← digitsFor fuel
      return d :: rest

def digits : Scan (List Nat) := fun c => digitsFor c.rest.length c

end Scan

/-- A number as it was written: a whole number of the machine's range, or any other. -/
inductive Number where
  | integer (n : Int)
  | real (x : Float)

namespace Number

def found : Number → Found
  | .integer n => .integer n
  | .real x => .real x

/-- Goes on with the digits of a significand until it would pass 64 bits; also says how
many digits went in. -/
def gather : Nat → List Nat → Nat × Nat
  | n, [] => (n, 0)
  | n, d :: ds =>
    if n * 10 + d < Nat.pow 2 64 then
      let (m, k) := gather (n * 10 + d) ds
      (m, k + 1)
    else (n, 0)

/-- `n * 10 ^ e` in floating point, or nothing if it is too large. A power of ten that
has no floating-point form of its own is divided by in steps. -/
def scaled (n : Nat) (e : Int) : Option Float :=
  let rec go : Nat → Float → Int → Option Float
    | 0, f, _ => some f
    | fuel + 1, f, e =>
      if e.natAbs ≤ 308 then
        let power := Float.ofScientific 1 false e.natAbs
        if 0 ≤ e then
          let f := f * power
          if f.isInf then none else some f
        else some (f / power)
      else if f == 0.0 then some f
      else if 0 ≤ e then none
      else go fuel (f / 1e308) (e + 308)
  go 8 (UInt64.ofNat n).toFloat e

/-- A whole number by its sign and size. Minus zero and a negative number beyond the
machine's range are kept as floating point. -/
def ofSigned (positive : Bool) (n : Nat) : Number :=
  if positive then .integer n
  else if n = 0 || Nat.pow 2 63 < n then .real (-(UInt64.ofNat n).toFloat)
  else .integer (-n)

end Number

namespace Scan

open Number

/-- The number `n * 10 ^ e`, once all of it has been read. -/
def realNumber (positive : Bool) (n : Nat) (e : Int) : Scan Number :=
  match scaled n e with
  | some f => return .real (if positive then f else -f)
  | none => failHere .numberTooLarge

/-- Whether an exponent comes. -/
def peekExponent : Scan Bool := do
  match ← peek with
  | some b => return b = Byte.ofChar 'e' || b = Byte.ofChar 'E'
  | none => return false

/-- Takes the further digits of an exponent. One beyond 31 bits makes the number too
large at once, or zero if the number is small or zero. -/
def exponentDigits (tooLarge : Bool) : Nat → Nat → Scan (Option Nat)
  | 0, e => return some e
  | fuel + 1, e => do
    match ← peekDigit with
    | none => return some e
    | some d =>
      skip
      if e * 10 + d < Nat.pow 2 31 then exponentDigits tooLarge fuel (e * 10 + d)
      else if tooLarge then failHere .numberTooLarge
      else
        let _ ← digits
        return none

/-- Takes the sign of an exponent, if there is one; says whether it is no minus. -/
def exponentSign : Scan Bool := do
  match ← peek with
  | some b =>
    if b = Byte.plus then
      skip
      return true
    else if b = Byte.minus then
      skip
      return false
    else return true
  | none => return true

/-- The number whose exponent comes next, scaled by `10 ^ e` so far. -/
def withExponent (positive : Bool) (n : Nat) (e : Int) : Scan Number := do
  skip
  let rising ← exponentSign
  match ← next with
  | none => failHere .endInValue
  | some b =>
    if 0x30 ≤ b && b ≤ 0x39 then
      match ← (fun c => exponentDigits (n != 0 && rising) c.rest.length (b.toNat - 0x30) c) with
      | some x => realNumber positive n (if rising then e + x else e - x)
      | none => return .real (if positive then 0.0 else -0.0)
    else failHere .badNumber

/-- The number whose fraction comes next. -/
def withFraction (positive : Bool) (n : Nat) (e : Int) : Scan Number := do
  skip
  let ds ← digits
  if ds.isEmpty then
    match ← peek with
    | some _ => failAhead .badNumber
    | none => failAhead .endInValue
  else
    let (n, k) := gather n ds
    if ← peekExponent then withExponent positive n (e - k)
    else realNumber positive n (e - k)

/-- A number after its sign. -/
def number (positive : Bool) : Scan Number := do
  match ← next with
  | none => failHere .endInValue
  | some b =>
    if b = Byte.zero then
      if (← peekDigit).isSome then failAhead .badNumber else rest 0 0
    else if 0x31 ≤ b && b ≤ 0x39 then
      let ds ← digits
      let (n, k) := gather (b.toNat - 0x30) ds
      rest n (ds.length - k)
    else failHere .badNumber
where
  /-- What follows the whole digits, of which `dropped` did not go into `n`. -/
  rest (n dropped : Nat) : Scan Number := do
    match ← peek with
    | some b =>
      if b = Byte.point then withFraction positive n dropped
      else if b = Byte.ofChar 'e' || b = Byte.ofChar 'E' then withExponent positive n dropped
      else whole n dropped
    | none => whole n dropped
  whole (n dropped : Nat) : Scan Number :=
    if dropped = 0 then return ofSigned positive n else realNumber positive n dropped

end Scan

end SpecCatalog.Json
