import SpecCatalog.Archive.Checksum
import SpecCatalog.Archive.CodePage437
import SpecCatalog.Archive.Fault
import SpecCatalog.Archive.Fields
import SpecCatalog.Archive.Inflate
import SpecCatalog.Text.Lossy

/-!
# Entries of an archive

The directory of an archive holds a record for every entry: its name, where its contents
start, how many bytes they take and how they are compressed. Extra fields after the name
can change some of that. The contents themselves stand after a record of their own.
-/

namespace SpecCatalog.Archive

inductive Method where
  | stored
  | deflated
  | other (n : Nat)
  deriving DecidableEq, Repr

def Method.ofNumber (n : Nat) : Method :=
  if n = 0 then .stored else if n = 8 then .deflated else .other n

/-- The number that stands for encrypted contents, whose method is given elsewhere. -/
def encryptedMethod : Method := .other 99

structure Entry where
  name : String
  encrypted : Bool
  method : Method
  /-- The contents carry an encryption of their own. -/
  sealedContents : Bool
  sum : Nat
  /-- How many bytes the contents take in the archive. -/
  storedSize : Nat
  size : Nat
  /-- Where the entry's own record starts. -/
  start : Nat
  deriving DecidableEq, Repr

/-- A name that says of itself that it is a directory's. -/
def Entry.isDirectory (e : Entry) : Bool :=
  match e.name.toList.getLast? with
  | some c => c = '/' || c = '\\'
  | none => false

/-- Stands for an offset or a size that four bytes cannot hold and an extra field gives. -/
def wideMark : Nat := 0xFFFFFFFF

/-! ## Extra fields -/

/-- An entry while its record is read. -/
structure Draft where
  entry : Entry
  nameBytes : Bytes
  comment : String

/-- Sizes and an offset in eight bytes each. A short field has only those that the record
leaves open. Like the readers of the other fields, it gives the bytes after the field, or
none of them if they run out before. -/
def wideSizes (length : Nat) (d : Draft) (bs : Bytes) : Except Fault (Draft × Option Bytes) :=
  let wanted (n : Nat) : Bool := 24 ≤ length || n = wideMark
  let step (used : Nat) (n : Nat) (bs : Bytes) : Option (Nat × Nat × Bytes) :=
    if wanted n then (readFields [8] bs).bind fun (ns, rest) => ns.head?.map (·, used + 8, rest)
    else some (n, used, bs)
  match step 0 d.entry.size bs with
  | none => .ok (d, none)
  | some (size, used, bs) =>
    let d := { d with entry.size := size }
    match step used d.entry.storedSize bs with
    | none => .ok (d, none)
    | some (storedSize, used, bs) =>
      let d := { d with entry.storedSize := storedSize }
      match step used d.entry.start bs with
      | none => .ok (d, none)
      | some (start, used, bs) =>
        let d := { d with entry.start := start }
        if length < used then .error (.damaged .wideSizes)
        else if bs.length < length - used then .ok (d, none)
        else .ok (d, some (bs.drop (length - used)))

/-- How contents with an encryption of their own are compressed. -/
def sealing (length : Nat) (d : Draft) (bs : Bytes) : Except Fault (Draft × Option Bytes) :=
  if length ≠ 7 then .error (.unsupported .encryptionField)
  else
    match readFields [2, 2, 1, 2] bs with
    | some ([version, vendor, strength, method], rest) =>
      if vendor ≠ 0x4541 then .error (.damaged .encryptionVendor)
      else if version ≠ 1 ∧ version ≠ 2 then .error (.damaged .encryptionVersion)
      else if strength = 0 ∨ 3 < strength then .error (.damaged .encryptionStrength)
      else
        .ok ({ d with
          entry.sealedContents := true
          entry.method := .ofNumber method }, some rest)
    | _ => .ok (d, none)

/-- Another form of a text, valid for the bytes with the given checksum. -/
def otherForm (length : Nat) (stated : Bytes) (bs : Bytes) :
    Except Fault (Option (Bytes × Bytes)) :=
  match readFields [1, 4] bs with
  | some ([_, sum], rest) =>
    if length < 5 then .error (.damaged .unicodeSize)
    else if rest.length < length - 5 then .ok none
    else if (checksum stated).toNat ≠ sum then .error (.damaged .unicodeChecksum)
    else .ok (some (rest.take (length - 5), rest.drop (length - 5)))
  | _ => .ok none

/-- The name in UTF-8. -/
def otherName (length : Nat) (d : Draft) (bs : Bytes) : Except Fault (Draft × Option Bytes) := do
  match ← otherForm length d.nameBytes bs with
  | none => return (d, none)
  | some (form, rest) =>
    match Text.ofBytes? form with
    | none => throw (.damaged .unicodeText)
    | some name => return ({ d with entry.name := name, nameBytes := form }, some rest)

/-- The comment in UTF-8. -/
def otherComment (length : Nat) (d : Draft) (bs : Bytes) :
    Except Fault (Draft × Option Bytes) := do
  match ← otherForm length (Text.toBytes d.comment) bs with
  | none => return (d, none)
  | some (form, rest) =>
    match Text.ofBytes? form with
    | none => throw (.damaged .unicodeText)
    | some comment => return ({ d with comment }, some rest)

/-- Times of the file that the entry was made from; only their form matters. -/
def fileTimes (length : Nat) (d : Draft) (bs : Bytes) : Except Fault (Draft × Option Bytes) :=
  if length ≠ 32 then .error (.unsupported .timeField)
  else
    match readFields [4, 2] bs with
    | some ([_, tag], rest) =>
      if tag ≠ 1 then .error (.unsupported .timeAttribute)
      else
        match readFields [2] rest with
        | some ([size], rest) =>
          if size ≠ 24 then .error (.unsupported .timeSize)
          else if rest.length < 24 then .ok (d, none)
          else .ok (d, some (rest.drop 24))
        | _ => .ok (d, none)
    | _ => .ok (d, none)

/-- Times that the flags say are there. -/
def timeStamps (length : Nat) (d : Draft) (bs : Bytes) : Except Fault (Draft × Option Bytes) :=
  match readFields [1] bs with
  | some ([flags], rest) =>
    let set := (List.range 8).countP fun i => flags.testBit i
    if length ≠ 5 ∧ length ≠ 1 + 4 * set then .error (.unsupported .stampLength)
    else if 8 ≤ flags then .error (.unsupported .stampFlags)
    else
      let taken := if length = 5 then 4 else 4 * set
      if rest.length < taken then .ok (d, none) else .ok (d, some (rest.drop taken))
  | _ => .ok (d, none)

/-- Goes through the extra fields; one that the bytes end in is left alone. Each round
takes four bytes. -/
def extraFields : Nat → Draft → Bytes → Except Fault Draft
  | 0, d, _ => .ok d
  | fuel + 1, d, bs =>
    match readFields [2, 2] bs with
    | some ([kind, length], rest) => do
      let (d, rest) ←
        if kind = 0x0001 then wideSizes length d rest
        else if kind = 0x000a then fileTimes length d rest
        else if kind = 0x9901 then sealing length d rest
        else if kind = 0x5455 then timeStamps length d rest
        else if kind = 0x6375 then otherComment length d rest
        else if kind = 0x7075 then otherName length d rest
        else if rest.length < length then .ok (d, none)
        else .ok (d, some (rest.drop length))
      match rest with
      | none => return d
      | some rest => extraFields fuel d rest
    | _ => .ok d

/-! ## Records -/

def directoryMark : Nat := 0x02014b50

def directoryWidths : List Nat := [4, 2, 2, 2, 2, 2, 2, 4, 4, 4, 2, 2, 2, 2, 2, 4, 4]

def localMark : Nat := 0x04034b50

def localWidths : List Nat := [4, 2, 2, 2, 2, 2, 4, 4, 4, 2, 2]

/-- The text of a name or comment: UTF-8 if the entry says so. -/
def entryText (utf8 : Bool) (bs : Bytes) : String :=
  if utf8 then Text.ofBytesLossy bs else ofCodePage437 bs

/-- Cuts off a part of the given length. -/
def cut (length : Nat) (bs : Bytes) : Except Fault (Bytes × Bytes) :=
  if bs.length < length then .error (.io .endOfFile) else .ok (bs.take length, bs.drop length)

/-- Reads a record of the directory. Offsets in it count from a place `shift` bytes into
the file. -/
def readRecord (shift : Nat) (bs : Bytes) : Except Fault (Entry × Bytes) :=
  match readFields directoryWidths bs with
  | some ([mark, _, _, flags, method, _, _, sum, storedSize, size, nameLength, extraLength,
      commentLength, _, _, _, start], rest) => do
    if mark ≠ directoryMark then throw (.damaged .directoryHeader)
    let utf8 := flags.testBit 11
    let (nameBytes, rest) ← cut nameLength rest
    let (extra, rest) ← cut extraLength rest
    let (comment, rest) ← cut commentLength rest
    let entry : Entry :=
      { name := entryText utf8 nameBytes
        encrypted := flags.testBit 0
        method := .ofNumber method
        sealedContents := false
        sum, storedSize, size, start }
    let d ← extraFields (extra.length + 1) ⟨entry, nameBytes, entryText utf8 comment⟩ extra
    let entry := d.entry
    if entry.method = encryptedMethod ∧ !entry.sealedContents then
      throw (.damaged .encryptionMark)
    if capacity 8 ≤ entry.start + shift then throw (.damaged .headerOffset)
    return ({ entry with start := entry.start + shift }, rest)
  | _ => .error (.io .endOfFile)

/-! ## Contents -/

/-- Opens the entry in the archive's file. What is there may still turn out unreadable,
so there are two ways to fail: the entry cannot be opened, or its contents not be read. -/
def Entry.open? (file : Bytes) (e : Entry) : Except Fault (Except IoError Bytes) :=
  if e.encrypted then .error (.unsupported .password)
  else
    match readFields localWidths (file.drop e.start) with
    | some ([mark, _, _, _, _, _, _, _, _, nameLength, extraLength], rest) =>
      if mark ≠ localMark then .error (.damaged .localHeader)
      else
        let contents := (rest.drop (nameLength + extraLength)).take e.storedSize
        match e.method with
        | .other _ => .error (.unsupported .method)
        | method =>
          if e.sealedContents then .error .wrongPassword
          else
            let plain := if method = .deflated then inflate contents else some contents
            .ok <| match plain with
              | none => .error .badCompression
              | some body =>
                if (checksum body).toNat = e.sum then .ok body else .error .badChecksum
    | _ => .error (.io .endOfFile)

end SpecCatalog.Archive
