import SpecCatalog.Sink.Basic
import SpecCatalog.Sink.Limited

/-!
# Sinks in memory

A sink in memory keeps its entries in a map. It can be told to fail: on opening one
entry, on flushing one, or when an entry gets longer than a limit.
-/

namespace SpecCatalog

structure MemoryEntries where
  entries : NameMap Bytes := {}
  failsToOpen : Option String := none
  failsToFlush : Option String := none
  /-- How many bytes fit into each entry. -/
  limit : Option Nat := none

namespace MemoryEntries

/-- Adds to the entry at `path` what fits. -/
def append (path : String) (bs : Bytes) : EStateM IoError MemoryEntries Unit := fun m =>
  let held := (m.entries.get? path).getD []
  let store : LimitedStore := { written := held, room := m.limit.map (· - held.length) }
  match LimitedStore.write bs store with
  | .ok () store => .ok () { m with entries := m.entries.insert path store.written }
  | .error e store => .error e { m with entries := m.entries.insert path store.written }

/-- The sink; an entry is emptied when it is opened. -/
def sink : Sink MemoryEntries String where
  openEntry path := fun m =>
    if m.failsToOpen = some path then .error (.io path (.custom "open failed")) m
    else .ok path { m with entries := m.entries.insert path [] }
  write path bs := append path bs
  flush path := fun m =>
    if m.failsToFlush = some path then .error (.custom "flush failed") m else .ok () m
  describe path := "mem:" ++ path

end MemoryEntries

end SpecCatalog
