import SpecCatalog.Archive.Compressor
import SpecCatalog.Archive.Directory

/-!
# Building archives

An archive is built from front to back. Before an entry's contents stands a record that has their
checksum and sizes, which are not known until the contents end. So the record is written without
them, and when the entry is closed they are put into it. The directory comes when all entries are
there. No two entries have one name.

A builder does not write by itself: its steps say what has to be written where.
-/

namespace SpecCatalog.Archive

/-- Bytes and the place they are for. -/
abbrev Writing := Nat × Bytes

/-- The bytes with others in the place of those that stand there. The place is not behind the
end. -/
def overwrite (bs : Bytes) (place : Nat) (new : Bytes) : Bytes :=
  bs.take place ++ (new ++ bs.drop (place + new.length))

/-- An entry whose contents are complete. -/
structure Finished where
  name : String
  sum : Nat
  storedSize : Nat
  size : Nat
  start : Nat
  deriving DecidableEq, Repr

/-- An entry whose contents are still written. -/
structure Pending where
  name : String
  /-- How the compressor was given the contents. -/
  turns : List Turn
  start : Nat
  /-- Where the contents start. -/
  inside : Nat
  deriving DecidableEq, Repr

structure Builder where
  finished : List Finished := []
  pending : Option Pending := none
  /-- Where the next bytes go. -/
  position : Nat := 0
  deriving Repr

/-- What is said of contents that four bytes cannot count. -/
def sizeRefused : IoError := .custom "Large file option has not been set"

namespace Builder

/-- The names that are taken. -/
def names (b : Builder) : List String :=
  b.finished.map (·.name) ++ (b.pending.map (·.name)).toList

/-! ## Records -/

/-- Bit 11 says that the name is UTF-8. -/
def flags (name : String) : Nat := if name.toList.all (·.toNat < 128) then 0 else 2048

/-- The number of the way in which contents are compressed. -/
def deflateNumber : Nat := 8

/-- The first day that the records' calendar has. -/
def firstDay : Nat := 33

/-- The version of the format that archives are made by. -/
def version : Nat := 45

/-- The version that is needed for compressed contents. -/
def neededVersion : Nat := 20

def localRecord (name : String) (sum storedSize size : Nat) : Bytes :=
  let bytes := Text.toBytes name
  writeFields [(4, localMark), (2, neededVersion), (2, flags name), (2, deflateNumber), (2, 0),
      (2, firstDay), (4, sum), (4, storedSize), (4, size), (2, bytes.length), (2, 0)]
    ++ bytes

/-- What is put into the record when the entry is closed. -/
def sizeFields (f : Finished) : Bytes :=
  writeFields [(4, f.sum), (4, f.storedSize), (4, f.size)]

/-- Where in the record that belongs. -/
def sizeOffset : Nat := 14

/-- If an offset is too large for its four bytes, an extra field has it with the sizes. -/
def directoryRecord (f : Finished) : Bytes :=
  let bytes := Text.toBytes f.name
  let wide := wideMark ≤ f.start
  let wideRow := [(2, 1), (2, 24), (8, f.size), (8, f.storedSize), (8, f.start)]
  let extra := if wide then writeFields wideRow else []
  writeFields [(4, directoryMark), (2, version), (2, neededVersion), (2, flags f.name),
      (2, deflateNumber), (2, 0), (2, firstDay), (4, f.sum), (4, f.storedSize), (4, f.size),
      (2, bytes.length), (2, extra.length), (2, 0), (2, 0), (2, 0), (4, 0),
      (4, if wide then wideMark else f.start)]
    ++ bytes ++ extra

/-- The records after a directory of so many entries and bytes from `start` on. -/
def endRecords (count size start : Nat) : Bytes :=
  let wide := 0xFFFF ≤ count ∨ wideMark ≤ size ∨ wideMark ≤ start
  let wideEnd :=
    writeFields [(4, wideEndMark), (8, 44), (2, version), (2, version), (4, 0), (4, 0),
      (8, count), (8, count), (8, size), (8, start)]
  let locator := writeFields [(4, locatorMark), (4, 0), (8, start + size), (4, 1)]
  let shown := min count 0xFFFF
  (if wide then wideEnd ++ locator else [])
    ++ writeFields [(4, endMark), (2, 0), (2, 0), (2, shown), (2, shown),
        (4, min size wideMark), (4, if wide then wideMark else start), (2, 0)]

/-! ## Steps -/

/-- Ends the entry that is open. One that takes more bytes than its record can say is refused. -/
def close (z : Compressor) (b : Builder) : Except IoError (List Writing × Builder) :=
  match b.pending with
  | none => .ok ([], b)
  | some p =>
    let last := z.last p.turns
    let position := b.position + last.length
    let body := given p.turns
    if wideMark < position - p.inside then .error sizeRefused
    else
      let f : Finished :=
        ⟨p.name, (checksum body).toNat, position - p.inside, body.length, p.start⟩
      .ok ([(b.position, last), (p.start + sizeOffset, sizeFields f)],
        { finished := b.finished ++ [f], position })

/-- Begins an entry. -/
def begin (b : Builder) (name : String) : Except Fault (Writing × Builder) :=
  if b.names.contains name then .error (.damaged (.duplicate name))
  else if 0xFFFF < name.utf8ByteSize then .error (.damaged .longName)
  else
    let header := localRecord name 0 0 0
    let inside := b.position + header.length
    .ok ((b.position, header),
      { b with
        pending := some ⟨name, [], b.position, inside⟩
        position := inside })

/-- Gives the compressor its turn, if an entry is open. -/
def turn (z : Compressor) (b : Builder) (t : Turn) : Option (Writing × Builder) :=
  b.pending.map fun p =>
    let out := z.out p.turns t
    ((b.position, out),
      { b with
        pending := some { p with turns := t :: p.turns }
        position := b.position + out.length })

/-- The contents of the open entry are more than its record can say. -/
def Overfull (b : Builder) : Prop := ∃ p ∈ b.pending, wideMark < (given p.turns).length

instance (b : Builder) : Decidable b.Overfull := by
  unfold Overfull; infer_instance

/-- Gives the open entry up: the compressor ends it, and then its place is free again. -/
def giveUp (z : Compressor) (b : Builder) : List Writing × Builder :=
  match b.pending with
  | none => ([], b)
  | some p => ([(b.position, z.last p.turns)], { b with pending := none, position := p.start })

/-- The directory, if it starts here, and the records after it. -/
def ending (b : Builder) (start : Nat) : Bytes :=
  let directory := b.finished.flatMap directoryRecord
  directory ++ endRecords b.finished.length directory.length start

/-- How many bytes the last record takes. -/
def endLength : Nat := 22

end Builder

end SpecCatalog.Archive
