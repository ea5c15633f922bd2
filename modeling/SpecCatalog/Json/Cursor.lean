import SpecCatalog.Json.Fault
import SpecCatalog.Json.Stream

/-!
# Reading a document byte by byte

A cursor is a document that is being read. One that is held whole is a list of bytes with a
place in it (`Slice`). One that arrives as a stream is what is still to be delivered and the
byte that was asked for last, if it was only looked at (`Feed`). They differ in how a byte is
looked at and taken, in how texts are read, and in how positions are counted: a slice knows
what was taken and what comes next, a stream only what it has handed out. A stream can also
break: the read that should have given the next byte, or the end, gives an error instead.

A reading step either gives a value or a failure, and in both cases the cursor after it: a
container that was left in the middle by a failure is still looked at for its end, and that
moves the position the failure is reported at.
-/

namespace SpecCatalog.Json

/-- Lines count from one; the column is the number of bytes after the last line feed. -/
structure Position where
  line : Nat
  column : Nat
  deriving DecidableEq, Repr

namespace Position

def start : Position := ⟨1, 0⟩

/-- The position after one more byte. -/
def after (p : Position) (b : UInt8) : Position :=
  if b = 10 then ⟨p.line + 1, 0⟩ else ⟨p.line, p.column + 1⟩

/-- The position behind these bytes, of which the latest comes first. -/
def behind (before : Bytes) : Position :=
  ⟨1 + before.count 10, (before.takeWhile fun b => b ≠ 10).length⟩

end Position

/-- A fault and where it was met. A fault of the shape has no place until the value it
concerns has been left. -/
structure Failure where
  fault : Fault
  place : Option Position

/-! ## Documents held whole -/

structure Slice where
  /-- The bytes that were taken, latest first. -/
  before : Bytes
  rest : Bytes

namespace Slice

/-- The slice with its next bytes taken, as many as are said. -/
def takeBytes (s : Slice) (n : Nat) : Slice := ⟨(s.rest.take n).reverse ++ s.before, s.rest.drop n⟩

/-- The position behind the bytes that were taken. -/
def here (s : Slice) : Position := .behind s.before

/-- The position behind the next byte, or at the end. -/
def ahead (s : Slice) : Position := (s.takeBytes 1).here

end Slice

/-! ## Documents that arrive -/

structure Feed where
  deliveries : List Delivery
  ending : Ending
  /-- The byte that was looked at and has not been taken. -/
  held : Option UInt8
  /-- The position behind the bytes that were handed out, with the one that is held. -/
  position : Position

namespace Feed

def ofStream (s : Stream) : Feed := ⟨s.deliveries, s.ending, none, .start⟩

def rest (f : Feed) : Bytes := f.held.toList ++ f.deliveries.flatMap Delivery.content

/-- Asks for the next byte, unless one is held. -/
def pull (f : Feed) : Feed :=
  match f.held, Delivery.next f.deliveries with
  | none, some (b, ds) =>
    { f with deliveries := ds, held := some b, position := f.position.after b }
  | _, _ => f

/-- Gives the byte that is held away; without one the next byte is asked for. -/
def drop (f : Feed) : Feed := { f.pull with held := none }

end Feed

/-! ## Cursors -/

inductive Cursor where
  | whole (s : Slice)
  | arriving (f : Feed)

namespace Cursor

def ofBytes (bs : Bytes) : Cursor := .whole ⟨[], bs⟩

def ofStream (s : Stream) : Cursor := .arriving (.ofStream s)

/-- What is left of the document. -/
def rest : Cursor → Bytes
  | .whole s => s.rest
  | .arriving f => f.rest

/-- What comes after the last byte. -/
def ending : Cursor → Ending
  | .whole _ => .finished
  | .arriving f => f.ending

/-- The position of a failure about what was taken. -/
def here : Cursor → Position
  | .whole s => s.here
  | .arriving f => f.position

/-- The position of a failure about the byte that was looked at. -/
def ahead : Cursor → Position
  | .whole s => s.ahead
  | .arriving f => f.position

/-- The cursor past the byte that was looked at. -/
def advance : Cursor → Cursor
  | .whole s => .whole (s.takeBytes 1)
  | .arriving f => .arriving f.drop

end Cursor

/-- A step of reading: a value or a failure, and the cursor after it. -/
abbrev Scan := EStateM Failure Cursor

namespace Scan

/-- The next byte without taking it; nothing at the end. -/
def peek : Scan (Option UInt8)
  | .whole s => .ok s.rest.head? (.whole s)
  | .arriving f =>
    let f := f.pull
    match f.held, f.ending with
    | some b, _ => .ok (some b) (.arriving f)
    | none, .finished => .ok none (.arriving f)
    | none, .broken reason => .error ⟨.readFailed reason, none⟩ (.arriving f)

/-- Takes the byte that was looked at. -/
def skip : Scan Unit := fun c => .ok () c.advance

/-- Takes the next byte; nothing at the end. -/
def next : Scan (Option UInt8) := do
  let b ← peek
  skip
  return b

/-- Fails about what was taken. -/
def failHere {α : Type} (f : Fault) : Scan α := fun c => .error ⟨f, some c.here⟩ c

/-- Fails about what was taken so many bytes ago on the same line. -/
def failBack {α : Type} (n : Nat) (f : Fault) : Scan α := fun c =>
  .error ⟨f, some { c.here with column := c.here.column - n }⟩ c

/-- Fails about the byte that was looked at, or about the end. -/
def failAhead {α : Type} (f : Fault) : Scan α := fun c => .error ⟨f, some c.ahead⟩ c

/-- Fails without a place; the place is given when the value has been left. -/
def failLater {α : Type} (f : Fault) : Scan α := fun c => .error ⟨f, none⟩ c

/-- Gives a failure that has no place yet the place reached. -/
def placed {α : Type} (x : Scan α) : Scan α := fun c =>
  match x c with
  | .ok a c => .ok a c
  | .error ⟨f, none⟩ c => .error ⟨f, some c.here⟩ c
  | .error e c => .error e c

/-- Runs `body` and then `close`, which runs even if `body` failed; of two failures
`body`'s is kept. -/
def closing {α : Type} (body : Scan α) (close : Scan Unit) : Scan α := fun c =>
  match body c with
  | .ok a c =>
    match close c with
    | .ok () c => .ok a c
    | .error e c => .error e c
  | .error e c =>
    match close c with
    | .ok () c => .error e c
    | .error _ c => .error e c

/-! ## Blanks -/

/-- The blanks that may stand between the parts of a document. -/
def isBlank (b : UInt8) : Bool := b = 0x20 || b = 0x0a || b = 0x09 || b = 0x0d

/-- Passes over blanks, one at a time, with a round for each byte of the list. -/
def peekPastBlanksFor : Bytes → Scan (Option UInt8)
  | [] => peek
  | _ :: fuel => do
    match ← peek with
    | some b =>
      if isBlank b then
        skip
        peekPastBlanksFor fuel
      else return some b
    | none => return none

/-- Passes over blanks and looks at the byte after them. -/
def peekPastBlanks : Scan (Option UInt8) := fun c => peekPastBlanksFor c.rest c

end Scan

end SpecCatalog.Json
