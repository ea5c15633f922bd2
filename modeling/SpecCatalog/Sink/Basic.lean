import SpecCatalog.Codec

/-!
# Sinks

A sink is where descriptors are written to. Opening an entry gives a stream for its
contents; opening, writing and flushing may each fail, and each changes the state behind
the sink also when it fails.
-/

namespace SpecCatalog

/-- A sink with a state `σ` behind it and streams of type `η`. -/
structure Sink (σ η : Type) where
  openEntry : String → EStateM CatalogError σ η
  write : η → Bytes → EStateM IoError σ Unit
  flush : η → EStateM IoError σ Unit
  /-- What messages call an entry. -/
  describe : String → String

namespace Sink

variable {σ η : Type}

/-- Takes a failure of a stream for one of the entry at `path`. -/
def atEntry {α : Type} (sink : Sink σ η) (path : String) (x : EStateM IoError σ α) :
    EStateM CatalogError σ α := fun s =>
  match x s with
  | .ok a s => .ok a s
  | .error e s => .error (.io (sink.describe path) e) s

/-- Makes the entry at `path` hold these bytes. -/
def put (sink : Sink σ η) (path : String) (bs : Bytes) : EStateM CatalogError σ Unit := do
  let stream ← sink.openEntry path
  sink.atEntry path do
    sink.write stream bs
    sink.flush stream

/-- Writes a descriptor to its place and gives its path. A specification whose name the
codec refuses leaves the sink alone. -/
def writeSpecification (sink : Sink σ η) (c : Codec) (s : Specification) :
    EStateM CatalogError σ String :=
  match c.specPath s.name with
  | .error e => throw e
  | .ok path => do
    sink.put path (c.encode s)
    return path

/-- Writes descriptors in order. After a failure those before it stay written. -/
def writeSpecifications (sink : Sink σ η) (c : Codec) :
    List Specification → EStateM CatalogError σ (List String)
  | [] => return []
  | s :: rest => do
    let path ← sink.writeSpecification c s
    let paths ← writeSpecifications sink c rest
    return path :: paths

end Sink

end SpecCatalog
