import SpecCatalog.Config
import SpecCatalog.Json.Printer
import SpecCatalog.Specification.Valid

/-!
# Descriptors

A descriptor is the written form of a specification: an object with its dependencies, in
order, and its name. Writers of the same specification with the same indent write the same
bytes. A reader takes the two parts in any order, and the dependencies may be missing.
-/

namespace SpecCatalog

/-- How a program ends that is stopped in the middle. -/
inductive Crash where
  | panic
  | abort
  deriving DecidableEq, Repr

namespace Crash

/-- The size from which on no buffer can be asked for. -/
def bufferLimit : Nat := Nat.pow 2 63

/-- What comes of asking for a buffer of `n` bytes where no more than `memory` bytes can be had. -/
def ofBuffer (memory n : Nat) : Option Crash :=
  if bufferLimit ≤ n then some .panic
  else if memory < n then some .abort
  else none

end Crash

/-- How descriptors are named, written and read. -/
structure Codec where
  rules : NameRules
  layout : Layout
  indent : Nat

namespace Codec

/-- A codec always indents by one space at least. -/
def ofParts (rules : NameRules) (layout : Layout) (indent : Nat) : Codec :=
  ⟨rules, layout, max indent 1⟩

def standard : Codec := ofParts .standard .standard 2

/-- The codec that a configuration stands for, if it is accepted. -/
def ofConfig (c : Config) : Fallible Codec := do
  match c.check with
  | .error e => throw (.badConfig e)
  | .ok () =>
    let rules ← NameRules.ofPattern c.namePattern
    return ofParts rules (.ofParts c.specsDirectory c.extension) c.indent

/-- Makes the codec, which keeps the spaces of its indent in a buffer. It asks for the buffer when
all has been accepted. -/
def build (memory : Nat) (c : Config) : Except Crash (Fallible Codec) :=
  match ofConfig c with
  | .error e => .ok (.error e)
  | .ok codec =>
    match Crash.ofBuffer memory codec.indent with
    | none => .ok (.ok codec)
    | some crash => .error crash

def specPath (c : Codec) (name : String) : Fallible String := c.layout.specPath c.rules name

/-! ## Writing -/

/-- The pieces of a descriptor, in the order they are written. -/
def pieces (c : Codec) (s : Specification) : List Bytes :=
  Json.Printer.object c.indent 0
    [("dependencies",
        Json.Printer.list c.indent 1 (s.dependencies.toList.map Json.Printer.text)),
     ("name", Json.Printer.text s.name)]

def encode (c : Codec) (s : Specification) : Bytes := (c.pieces s).flatten

/-- Writes the pieces one after the other, up to the first that fails. -/
def writePieces {σ : Type} (write : Bytes → EStateM IoError σ Unit) :
    List Bytes → EStateM IoError σ Unit
  | [] => return ()
  | p :: ps => do
    write p
    writePieces write ps

/-- Writes a descriptor to a stream. -/
def encodeTo {σ : Type} (c : Codec) (s : Specification)
    (write : Bytes → EStateM IoError σ Unit) : EStateM CatalogError σ Unit := fun stream =>
  match writePieces write (c.pieces s) stream with
  | .ok () stream => .ok () stream
  | .error e stream => .error (.encode s (.writing e)) stream

/-! ## Reading -/

/-- What a descriptor says, valid or not. -/
structure Descriptor where
  name : Option String
  dependencies : Option (List (Option String))
  deriving DecidableEq, Repr

open Json.Scan in
def descriptorShape : Json.Shape Descriptor where
  title := "struct DescriptorIn"
  blank := ⟨none, none⟩
  fields :=
    [⟨"name", true, fun d => do return { d with name := ← orNull textValue }⟩,
     ⟨"dependencies", false, fun d => do
        return { d with dependencies := ← orNull (listValue (orNull textValue)) }⟩]

/-- What a descriptor says, if it is one, is judged by the rules. -/
def judge (c : Codec) : Except Json.Failure Descriptor → Fallible Specification
  | .ok d => Specification.ofOptions c.rules d.name d.dependencies
  | .error f => .error (.decode (.parsing f))

/-- Reads a descriptor that is held whole. -/
def decode (c : Codec) (bs : Bytes) : Fallible Specification := c.judge (descriptorShape.parse bs)

/-- Reads a descriptor from a stream. -/
def decodeReader (c : Codec) (s : Json.Stream) : Fallible Specification :=
  c.judge (descriptorShape.parseStream s)

/-- Reads the descriptor in the file at the path. A directory can be opened, but the first read
of it fails. -/
def ofFile (c : Codec) (t : FileTree) (path : String) : Fallible Specification :=
  match t.status path with
  | .error e => .error (.io path e)
  | .ok (.file body) => c.decodeReader (.ofFile body)
  | .ok .directory => c.decodeReader (.brokenAtOnce (IoError.os .isDirectory).message)
  | .ok (.link _) => .error (.io path (.os .tooManyLinks))

end Codec

end SpecCatalog
