import SpecCatalog.FileTree.IoError
import SpecCatalog.Text.Bytes

/-!
# Stores that fill up

A store takes a limited number of bytes in all. A write that crosses the limit stores what
fits and fails, and after that there is no room.
-/

namespace SpecCatalog

structure LimitedStore where
  written : Bytes := []
  /-- How many bytes still fit; without a number, all do. -/
  room : Option Nat := none
  deriving Repr

def writeFailed : IoError := .custom "write failed"

def LimitedStore.write (bs : Bytes) : EStateM IoError LimitedStore Unit := fun s =>
  match s.room with
  | none => .ok () { s with written := s.written ++ bs }
  | some room =>
    let s := { written := s.written ++ bs.take room, room := some (room - bs.length) }
    if bs.length ≤ room then .ok () s else .error writeFailed s

end SpecCatalog
