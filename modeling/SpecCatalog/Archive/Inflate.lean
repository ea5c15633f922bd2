import SpecCatalog.Text.Bytes

/-!
# Compressed contents

Compressed contents are a row of bits, the lowest bit of each byte first, in blocks. A
block is stored as it is or coded; a code gives short rows of bits to frequent symbols. A
symbol stands for a byte, for the end of the block, or for a copy of bytes that came out
before, given by length and distance. A copy from before the start copies zeros.

Each step takes what it needs from the bits and gives the rest; it fails by `none` if the
bits run out or say nothing.
-/

namespace SpecCatalog.Archive.Inflate

abbrev Bits := List Bool

def bitsOfByte (b : UInt8) : Bits :=
  (List.range 8).map fun i => (b >>> UInt8.ofNat i) &&& 1 = 1

def bitsOf (bs : Bytes) : Bits := bs.flatMap bitsOfByte

/-- A step of reading bits. -/
abbrev Step := StateT Bits Option

/-- The next bits as a number, its lowest bit first. -/
def number : Nat → Step Nat
  | 0 => return 0
  | n + 1 => fun bits =>
    match bits with
    | [] => none
    | b :: bits => (number n bits).map fun (k, rest) => (b.toNat + 2 * k, rest)

/-! ## Codes -/

/-- A code: how many symbols have rows of one bit, of two and so on up to fifteen, and
the symbols by length and then by value. -/
structure Code where
  counts : List Nat
  symbols : Array Nat

/-- The code with these lengths, by symbol; zero means that a symbol has no row. Codes
of two and more symbols must leave no row of bits unused or used twice. -/
def Code.ofLengths (lengths : List Nat) : Option Code :=
  let counts := (List.range 15).map fun l => lengths.count (l + 1)
  if 1 < counts.foldl (· + ·) 0 ∧ weight counts ≠ Nat.pow 2 15 then none
  else
    let symbols := (List.range 15).flatMap fun l =>
      (lengths.zipIdx.filter fun p => p.1 = l + 1).map (·.2)
    some ⟨counts, symbols.toArray⟩
where
  /-- The share of all rows of fifteen bits that the code uses. -/
  weight (counts : List Nat) : Nat :=
    counts.zipIdx.foldl (fun total p => total + p.1 * Nat.pow 2 (14 - p.2)) 0

/-- Reads one symbol; `row` is what was read of it so far, `first` the first row of this
length that stands for a symbol and `index` the number of symbols with shorter ones. -/
def symbolIn (symbols : Array Nat) (row first index : Nat) : List Nat → Step Nat
  | [] => fun _ => none
  | count :: counts => fun bits =>
    match bits with
    | [] => none
    | b :: bits =>
      let row := 2 * row + b.toNat
      if row < first + count then (symbols[index + (row - first)]?).map (·, bits)
      else symbolIn symbols row (2 * (first + count)) (index + count) counts bits

def Code.symbol (c : Code) : Step Nat := symbolIn c.symbols 0 0 0 c.counts

/-! ## Lengths and distances -/

/-- The least length and the number of extra bits, by symbol less 257. -/
def lengthTable : List (Nat × Nat) :=
  [(3, 0), (4, 0), (5, 0), (6, 0), (7, 0), (8, 0), (9, 0), (10, 0), (11, 1), (13, 1),
   (15, 1), (17, 1), (19, 2), (23, 2), (27, 2), (31, 2), (35, 3), (43, 3), (51, 3), (59, 3),
   (67, 4), (83, 4), (99, 4), (115, 4), (131, 5), (163, 5), (195, 5), (227, 5), (258, 0)]

/-- The least distance and the number of extra bits, by symbol. -/
def distanceTable : List (Nat × Nat) :=
  [(1, 0), (2, 0), (3, 0), (4, 0), (5, 1), (7, 1), (9, 2), (13, 2), (17, 3), (25, 3),
   (33, 4), (49, 4), (65, 5), (97, 5), (129, 6), (193, 6), (257, 7), (385, 7), (513, 8),
   (769, 8), (1025, 9), (1537, 9), (2049, 10), (3073, 10), (4097, 11), (6145, 11),
   (8193, 12), (12289, 12), (16385, 13), (24577, 13)]

/-- A number from a table and the extra bits it asks for. -/
def extended (table : List (Nat × Nat)) (i : Nat) : Step Nat := do
  match table[i]? with
  | none => failure
  | some (least, extra) =>
    let more ← number extra
    return least + more

/-- Copies bytes from so far back, one after the other, so that a copy may reach into
itself. -/
def copy (out : Array UInt8) (distance : Nat) : Nat → Array UInt8
  | 0 => out
  | n + 1 =>
    let b := if distance ≤ out.size then out.getD (out.size - distance) 0 else 0
    copy (out.push b) distance n

/-! ## Blocks -/

/-- The coded contents of a block, up to its end. Each round takes a bit. -/
def codedBlock (lengths distances : Code) : Nat → Array UInt8 → Step (Array UInt8)
  | 0, _ => failure
  | fuel + 1, out => do
    let s ← lengths.symbol
    if s < 256 then codedBlock lengths distances fuel (out.push (UInt8.ofNat s))
    else if s = 256 then return out
    else
      let length ← extended lengthTable (s - 257)
      let d ← distances.symbol
      let distance ← extended distanceTable d
      codedBlock lengths distances fuel (copy out distance length)

/-- The code that needs no description. -/
def fixedLengths : List Nat :=
  List.replicate 144 8 ++ List.replicate 112 9 ++ List.replicate 24 7 ++ List.replicate 8 8

def fixedDistances : List Nat := List.replicate 32 5

/-- The order in which the lengths of the code for code lengths are given. -/
def lengthOrder : List Nat :=
  [16, 17, 18, 0, 8, 7, 9, 6, 10, 5, 11, 4, 12, 3, 13, 2, 14, 1, 15]

/-- Reads `wanted` code lengths, of which some stand for several; `read` has the ones
before, the last one first. Each round reads one length at least. -/
def codeLengths (c : Code) (wanted : Nat) : Nat → List Nat → Step (List Nat)
  | 0, _ => failure
  | fuel + 1, read => do
    if read.length = wanted then return read.reverse
    else if wanted < read.length then failure
    else
      let s ← c.symbol
      if s < 16 then codeLengths c wanted fuel (s :: read)
      else if s = 16 then
        match read with
        | [] => failure
        | last :: _ =>
          let n ← number 2
          codeLengths c wanted fuel (List.replicate (3 + n) last ++ read)
      else if s = 17 then
        let n ← number 3
        codeLengths c wanted fuel (List.replicate (3 + n) 0 ++ read)
      else
        let n ← number 7
        codeLengths c wanted fuel (List.replicate (11 + n) 0 ++ read)

/-- The codes that a block describes at its start. -/
def describedCodes : Step (Code × Code) := do
  let literals := 257 + (← number 5)
  let distances := 1 + (← number 5)
  let given := 4 + (← number 4)
  if 286 < literals ∨ 30 < distances then failure
  else
    let ls ← (List.replicate given 3).mapM number
    let byLength := (lengthOrder.zip ls)
    let outer := (List.range 19).map fun s => (byLength.lookup s).getD 0
    let some code := Code.ofLengths outer | failure
    let all ← codeLengths code (literals + distances) (literals + distances + 1) []
    let some l := Code.ofLengths (all.take literals) | failure
    let some d := Code.ofLengths (all.drop literals) | failure
    return (l, d)

/-- A block that is stored as it is starts at a whole byte with its length and the
inverse of that. -/
def storedBlock (out : Array UInt8) : Step (Array UInt8) := do
  modify fun bits => bits.drop (bits.length % 8)
  let length ← number 16
  let inverse ← number 16
  if length + inverse ≠ 0xFFFF then failure
  else
    let bytes ← (List.replicate length 8).mapM number
    return out ++ (bytes.map UInt8.ofNat).toArray

/-- A block of the given kind. -/
def block (kind : Nat) (out : Array UInt8) : Step (Array UInt8) :=
  if kind = 0 then storedBlock out
  else if kind = 1 then do
    let some l := Code.ofLengths fixedLengths | failure
    let some d := Code.ofLengths fixedDistances | failure
    let bits ← get
    codedBlock l d (bits.length + 1) out
  else if kind = 2 then do
    let (l, d) ← describedCodes
    let bits ← get
    codedBlock l d (bits.length + 1) out
  else failure

/-- The blocks up to the last one. Each round takes a bit. -/
def blocks : Nat → Array UInt8 → Step (Array UInt8)
  | 0, _ => failure
  | fuel + 1, out => do
    let last ← number 1
    let kind ← number 2
    let out ← block kind out
    if last = 1 then return out else blocks fuel out

end Inflate

/-- The contents that were compressed; what follows them is not looked at. -/
def inflate (bs : Bytes) : Option Bytes :=
  let bits := Inflate.bitsOf bs
  ((Inflate.blocks (bits.length + 1) #[]).run bits).map (·.1.toList)

end SpecCatalog.Archive
