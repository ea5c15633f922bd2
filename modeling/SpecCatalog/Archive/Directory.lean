import SpecCatalog.Archive.Entry

/-!
# The directory of an archive

An archive is read from its end. Its last record says where the directory is and how many
entries it has; there may be bytes after that record and before the first entry. So every
place where the end record's mark stands is tried, the last one first, until one leads to
a directory. A second, wider end record stands before the first if the numbers are too
large for it.

Of entries with the same name the last counts, in the place of the first.
-/

namespace SpecCatalog

structure Archive where
  file : Bytes
  entries : List Archive.Entry
  deriving Repr

namespace Archive

/-- The places where the number stands, four bytes wide. -/
def placesFrom (mark : Nat) : Nat → Bytes → List Nat
  | _, [] => []
  | i, b :: bs =>
    if (writeNumber 4 mark).isPrefixOf (b :: bs) then i :: placesFrom mark (i + 1) bs
    else placesFrom mark (i + 1) bs

def places (mark : Nat) (bs : Bytes) : List Nat := placesFrom mark 0 bs

/-! ## End records -/

def endMark : Nat := 0x06054b50

def endWidths : List Nat := [4, 2, 2, 2, 2, 4, 4, 2]

def wideEndMark : Nat := 0x06064b50

def wideEndWidths : List Nat := [4, 8, 2, 2, 4, 4, 8, 8, 8, 8]

def locatorMark : Nat := 0x07064b50

def locatorWidths : List Nat := [4, 4, 8, 4]

def locatorLength : Nat := 20

/-- Where a directory starts, how many entries it has, and how far its offsets are off. -/
structure Whereabouts where
  start : Nat
  count : Nat
  shift : Nat
  deriving DecidableEq, Repr

/-- A fault of an end record: one that says how the record is wrong hides those met
before it, one about the length of the record does not. -/
inductive Miss where
  | weak (f : Fault)
  | strong (f : Fault)
  /-- The record is right but what it leads to is not. -/
  | astray

/-- The first place of a directory record from `low` up to `high`. -/
def firstRecord (bs : Bytes) (low high : Nat) : Option Nat :=
  (places directoryMark bs).find? fun p => low ≤ p && p + 4 ≤ high

/-- Reads the wide end record at `p`, which must reach to the locator. -/
def readWideEnd (bs : Bytes) (locatorAt locatorDisk offset p : Nat) :
    Except Fault (Option Whereabouts) :=
  match readFields wideEndWidths (bs.drop p) with
  | some ([_, size, madeBy, needed, disk, directoryDisk, countHere, count, _, start], _) =>
    if size < 44 then .error (.damaged .shortWideEnd)
    else if locatorAt - p < size + 12 then .error (.damaged .longWideEnd)
    else if directoryDisk ≠ locatorDisk then .error (.damaged .wideEndDisk)
    else if size + 12 ≠ locatorAt - p then .error (.damaged .wideEndLength)
    else if p < count * 46 + start then .error (.damaged .wideEndCount)
    else if count < countHere ∨ madeBy < needed ∨ disk ≠ directoryDisk then .ok none
    else .ok (some ⟨start + (p - offset), count, p - offset⟩)
  | _ => .error (.io .endOfFile)

/-- Tries the places of wide end records. -/
def wideEndAmong (bs : Bytes) (locatorAt locatorDisk offset : Nat) :
    Fault → List Nat → Except Miss Whereabouts
  | f, [] => .error (.strong f)
  | _, p :: ps =>
    match readWideEnd bs locatorAt locatorDisk offset p with
    | .ok (some w) => .ok w
    | .ok none => .error .astray
    | .error f => wideEndAmong bs locatorAt locatorDisk offset f ps

/-- Reads the end record at `p`. -/
def readEnd (bs : Bytes) (p : Nat) : Except Miss Whereabouts :=
  match readFields endWidths (bs.drop p) with
  | some ([_, disk, directoryDisk, countHere, count, _, offset, commentLength], rest) =>
    if rest.length < commentLength then .error (.weak (.damaged .endComment))
    else
      let narrow : Except Miss Whereabouts :=
        let found (shift : Nat) : Except Miss Whereabouts :=
          if disk ≠ directoryDisk then .error .astray
          else .ok ⟨offset + shift, countHere, shift⟩
        if count = 0 then found (p - offset)
        else if p ≤ offset then .error (.strong (.damaged .directoryOffset))
        else
          match firstRecord bs offset p with
          | some first => found (first - offset)
          | none => .error (.strong (.damaged .noDirectory))
      if count ≠ 0xFFFF ∧ offset ≠ 0xFFFFFFFF then narrow
      else if p < locatorLength then narrow
      else
        let locatorAt := p - locatorLength
        match readFields locatorWidths (bs.drop locatorAt) with
        | some ([mark, locatorDisk, wideOffset, disks], _) =>
          if mark ≠ locatorMark then narrow
          else if locatorAt ≤ wideOffset then .error (.strong (.damaged .locatorOffset))
          else if 1 < disks then .error (.strong (.damaged .manyDisks))
          else
            wideEndAmong bs locatorAt locatorDisk wideOffset (.damaged .noWideEnd)
              ((places wideEndMark bs).filter fun q => wideOffset ≤ q && q + 4 ≤ locatorAt)
        | _ => narrow
  | _ => .error (.weak (.io .endOfFile))

/-! ## Opening -/

/-- Reads so many records. -/
def readRecords (shift : Nat) : Nat → Bytes → Except Fault (List Entry)
  | 0, _ => .ok []
  | n + 1, bs => do
    let (e, rest) ← readRecord shift bs
    let es ← readRecords shift n rest
    return e :: es

/-- Adds an entry: in place of one with its name, else at the end. -/
def enter (es : List Entry) (e : Entry) : List Entry :=
  if es.any (·.name = e.name) then es.map fun d => if d.name = e.name then e else d
  else es ++ [e]

/-- Tries the places of end records in turn; `missed` is what to report if none is left. -/
def openAmong (bs : Bytes) : Option Fault → List Nat → Except Fault (List Entry)
  | missed, [] => .error (missed.getD (.damaged .noEnd))
  | missed, p :: ps =>
    match readEnd bs p with
    | .error (.weak f) => openAmong bs (missed.or (some f)) ps
    | .error (.strong f) => openAmong bs (some f) ps
    | .error .astray => openAmong bs none ps
    | .ok w =>
      match readRecords w.shift w.count (bs.drop w.start) with
      | .ok es => .ok (es.foldl enter [])
      | .error _ => openAmong bs none ps

/-- Opens the archive that a file holds. -/
def open? (file : Bytes) : Except Fault Archive :=
  (openAmong file none (places endMark file).reverse).map fun entries => { file, entries }

def find? (a : Archive) (name : String) : Option Entry := a.entries.find? (·.name = name)

end Archive

end SpecCatalog
