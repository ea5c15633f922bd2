import SpecCatalog.FileTree.Operations
import SpecCatalog.Sink.Basic

/-!
# Directories as sinks

Each entry is a file below a root. The directories above it are made when it is opened, and a
file that was there loses what it held. What is written to the file waits in front of it until
there is much of it or it is flushed.

The disk may refuse at any of these steps. When it refuses bytes, the file is there already and
holds what was taken.
-/

namespace SpecCatalog

/-- Takes a failure of a change for one at the path `place`. -/
def FileTree.Change.at {α : Type} (place : String) (c : FileTree.Change α) :
    EStateM CatalogError FileTree α := fun t =>
  match c t with
  | .ok a t => .ok a t
  | .error e t => .error (.io place e) t

/-- A tree and the bytes that wait in front of the file that is open in it. -/
structure Buffered where
  tree : FileTree
  waiting : Bytes

namespace Buffered

variable {ε α : Type}

/-- How many bytes wait at most. -/
def capacity : Nat := 8192

/-- A change of the tree, with which the waiting starts anew. -/
def ofTree (x : EStateM ε FileTree α) : EStateM ε Buffered α := fun s =>
  match x s.tree with
  | .ok a tree => .ok a ⟨tree, []⟩
  | .error e tree => .error e ⟨tree, []⟩

/-- Makes a change of a tree where nothing waits, and gives up what waits after it. -/
def onTree (x : EStateM ε Buffered α) : EStateM ε FileTree α := fun tree =>
  match x ⟨tree, []⟩ with
  | .ok a s => .ok a s.tree
  | .error e s => .error e s.tree

/-- Hands over what waits. If that fails the file is given up, and with it what is left is
handed over once more, whatever comes of it. -/
def drain (route : Route) : EStateM IoError Buffered Unit := fun s =>
  if s.waiting.isEmpty then .ok () s
  else
    let (handing, tree) := s.tree.handOver .notDrained route (· ++ ·) s.waiting
    match handing.cause with
    | none => .ok () ⟨tree, []⟩
    | some e => .error e ⟨(tree.handOver .notDrained route (· ++ ·) handing.left).2, []⟩

/-- Hands over what waits if there is no room for so many bytes behind it. -/
def makeRoom (route : Route) (n : Nat) : EStateM IoError Buffered Unit := fun s =>
  if capacity < s.waiting.length + n then drain route s else .ok () s

/-- Lets bytes wait behind those that do. -/
def wait (bs : Bytes) : EStateM IoError Buffered Unit :=
  modify fun s => { s with waiting := s.waiting ++ bs }

/-- Lets bytes wait if they leave room behind them. If not, those before them may have to go
first, and as many as fill the room go at once. -/
def write (route : Route) (bs : Bytes) : EStateM IoError Buffered Unit := do
  if (← get).waiting.length + bs.length < capacity then wait bs
  else
    makeRoom route bs.length
    if bs.length < capacity then wait bs else ofTree (FileTree.append route bs)

end Buffered

/-- The sink below the directory `root`. -/
def directorySink (root : String) : Sink Buffered Route where
  openEntry path := Buffered.ofTree do
    let full := PathText.join root path
    if let some above := PathText.parent? full then
      (FileTree.createDirectories above).at above
    (FileTree.createFile full).at full
  write := Buffered.write
  flush := Buffered.drain
  describe path := s!"file:{root}/{path}"

end SpecCatalog
