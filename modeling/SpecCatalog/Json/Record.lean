import SpecCatalog.Json.Scalar

/-!
# Documents that hold a record

A record is written as an object, whose members may come in any order, or as a list of
its fields in their own order, from which the last ones may be left out. A `Shape` says
what the fields are and how the value of each is read; a field that it does not have, or
that comes twice, is an error, and so is a required one that does not come.

A container is left by the same step whether or not its inside was read, so the position
of a failure inside that has none yet lies after the next thing in the document.
-/

namespace SpecCatalog.Json

namespace Scan

/-! ## Values of a wrong kind -/

/-- Fails because the value to come is not the one wanted. A scalar is read first, so
that the message can show it; its own faults go first too. -/
def mismatch {α : Type} (wanted : String) : Scan α := placed do
  match ← peek with
  | none => failAhead .expectedValue
  | some b =>
    if b = Byte.ofChar 'n' then skip; word ['u', 'l', 'l']; failLater (.wrongType .null wanted)
    else if b = Byte.ofChar 't' then
      skip; word ['r', 'u', 'e']; failLater (.wrongType (.boolean true) wanted)
    else if b = Byte.ofChar 'f' then
      skip; word ['a', 'l', 's', 'e']; failLater (.wrongType (.boolean false) wanted)
    else if b = Byte.minus then
      skip
      let n ← number false
      failLater (.wrongType n.found wanted)
    else if 0x30 ≤ b && b ≤ 0x39 then
      let n ← number true
      failLater (.wrongType n.found wanted)
    else if b = Byte.quote then
      skip
      let s ← text
      failLater (.wrongType (.text s) wanted)
    else if b = Byte.openList then failLater (.wrongType .sequence wanted)
    else if b = Byte.openMap then failLater (.wrongType .map wanted)
    else failAhead .expectedValue

/-! ## Scalars -/

/-- A text, with the blanks before it. -/
def textValue : Scan String := placed do
  match ← peekPastBlanks with
  | none => failAhead .endInValue
  | some b => if b = Byte.quote then skip; text else mismatch "a string"

/-- A count that fits the machine's word. -/
def countValue : Scan Nat := placed do
  match ← peekPastBlanks with
  | none => failAhead .endInValue
  | some b =>
    if b = Byte.minus then
      skip
      let n ← number false
      judge n
    else if 0x30 ≤ b && b ≤ 0x39 then
      let n ← number true
      judge n
    else mismatch "usize"
where
  judge : Number → Scan Nat
    | .integer (.ofNat n) => return n
    | .integer n => failLater (.wrongValue (.integer n) "usize")
    | .real x => failLater (.wrongType (.real x) "usize")

/-- `null`, or a value. -/
def orNull {α : Type} (value : Scan α) : Scan (Option α) := do
  match ← peekPastBlanks with
  | some b =>
    if b = Byte.ofChar 'n' then
      skip
      word ['u', 'l', 'l']
      return none
    else
      let a ← value
      return some a
  | none =>
    let a ← value
    return some a

/-! ## Lists -/

/-- Whether another item comes; the comma before it is taken. -/
def nextItem (first : Bool) : Scan Bool := do
  match ← peekPastBlanks with
  | none => failAhead .endInList
  | some b =>
    if b = Byte.closeList then return false
    else if first then return true
    else if b = Byte.comma then
      skip
      match ← peekPastBlanks with
      | none => failAhead .endInValue
      | some b => if b = Byte.closeList then failAhead .trailingComma else return true
    else failAhead .expectedListCommaOrEnd

/-- Leaves a list. -/
def endList : Scan Unit := do
  match ← peekPastBlanks with
  | none => failAhead .endInList
  | some b =>
    if b = Byte.closeList then skip
    else if b = Byte.comma then
      skip
      afterComma
    else failAhead .trailingCharacters
where
  afterComma : Scan Unit := fun c =>
    match peekPastBlanks c with
    | .ok (some b) c =>
      if b = Byte.closeList then failAhead .trailingComma c else failAhead .trailingCharacters c
    | .ok none c => failAhead .trailingCharacters c
    | .error _ c => failAhead .trailingCharacters c

/-- The items up to the end of the list. Each round takes a byte. -/
def itemsFor {α : Type} (item : Scan α) : Nat → Bool → Scan (List α)
  | 0, _ => failAhead .endInList
  | fuel + 1, first => do
    if ← nextItem first then
      let a ← item
      let rest ← itemsFor item fuel false
      return a :: rest
    else return []

def listValue {α : Type} (item : Scan α) : Scan (List α) := placed do
  match ← peekPastBlanks with
  | none => failAhead .endInValue
  | some b =>
    if b = Byte.openList then
      skip
      closing (fun c => itemsFor item (c.rest.length + 1) true c) endList
    else mismatch "a sequence"

/-! ## Objects -/

/-- Whether another member comes, in which case its key starts with the next byte. -/
def nextMember (first : Bool) : Scan Bool := do
  match ← peekPastBlanks with
  | none => failAhead .endInObject
  | some b =>
    if b = Byte.closeMap then return false
    else if first then key b
    else if b = Byte.comma then
      skip
      match ← peekPastBlanks with
      | none => failAhead .endInValue
      | some b => if b = Byte.closeMap then failAhead .trailingComma else key b
    else failAhead .expectedObjectCommaOrEnd
where
  key (b : UInt8) : Scan Bool := if b = Byte.quote then return true else failAhead .keyNotText

def colon : Scan Unit := do
  match ← peekPastBlanks with
  | none => failAhead .endInObject
  | some b => if b = Byte.colon then skip else failAhead .expectedColon

/-- Leaves an object. -/
def endMap : Scan Unit := do
  match ← peekPastBlanks with
  | none => failAhead .endInObject
  | some b =>
    if b = Byte.closeMap then skip
    else if b = Byte.comma then failAhead .trailingComma
    else failAhead .trailingCharacters

/-- The end of the document, blanks aside. -/
def endDocument : Scan Unit := do
  match ← peekPastBlanks with
  | none => return ()
  | some _ => failAhead .trailingCharacters

end Scan

/-- A field of a record: its name, whether it must come, and how its value goes in. -/
structure Field (ρ : Type) where
  name : String
  required : Bool
  read : ρ → Scan ρ

/-- A record: what messages call it, its value when no field has come, and its fields. -/
structure Shape (ρ : Type) where
  title : String
  blank : ρ
  fields : List (Field ρ)

namespace Shape

open Scan

variable {ρ : Type}

def names (s : Shape ρ) : List String := s.fields.map (·.name)

/-- What messages call the list form. -/
def listTitle (s : Shape ρ) : String := s!"{s.title} with {s.fields.length} elements"

/-- The fields from number `i` on, as items of a list. -/
def elements (s : Shape ρ) : Nat → Bool → ρ → List (Field ρ) → Scan ρ
  | _, _, r, [] => return r
  | i, first, r, f :: fs => do
    if ← nextItem first then
      let r ← f.read r
      elements s (i + 1) false r fs
    else
      match (f :: fs).findIdx? (·.required) with
      | some k => failLater (.tooShort (i + k) s.listTitle)
      | none => return r

/-- The members of an object. Each round but the last reads a field that has not come
before, so one round more than there are fields is enough. -/
def members (s : Shape ρ) : Nat → Bool → List String → ρ → Scan ρ
  | 0, _, _, r => return r
  | fuel + 1, first, seen, r => do
    if ← nextMember first then
      skip
      let key ← text
      match s.fields.find? (·.name = key) with
      | none => failLater (.unknownField key s.names)
      | some f =>
        if seen.contains key then failLater (.duplicateField key)
        else
          colon
          let r ← f.read r
          members s fuel false (key :: seen) r
    else
      match s.fields.find? fun f => f.required && !seen.contains f.name with
      | some f => failLater (.missingField f.name)
      | none => return r

/-- A failure inside the record has a place when the record has been left. Only a stream
that breaks before it begins has none. -/
def value (s : Shape ρ) : Scan ρ := do
  match ← peekPastBlanks with
  | none => failAhead .endInValue
  | some b =>
    if b = Byte.openList then
      placed do
        skip
        closing (s.elements 0 true s.blank s.fields) endList
    else if b = Byte.openMap then
      placed do
        skip
        closing (s.members (s.fields.length + 1) true [] s.blank) endMap
    else mismatch s.title

/-- The record and nothing after it. -/
def document (s : Shape ρ) : Scan ρ := do
  let r ← s.value
  endDocument
  return r

/-- Reads the document under the cursor. -/
def read (s : Shape ρ) (c : Cursor) : Except Failure ρ :=
  match s.document c with
  | .ok r _ => .ok r
  | .error e _ => .error e

/-- Reads a document that is held whole. -/
def parse (s : Shape ρ) (bs : Bytes) : Except Failure ρ := s.read (.ofBytes bs)

/-- Reads a document from a stream. -/
def parseStream (s : Shape ρ) (stream : Stream) : Except Failure ρ := s.read (.ofStream stream)

end Shape

end SpecCatalog.Json
