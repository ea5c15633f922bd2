import SpecCatalog.Archive.Builder
import SpecCatalog.Sink.Directory
import SpecCatalog.Sink.Limited

/-!
# Archives as sinks

An archive under construction sends its bytes to an outlet as they come: a file, or a
store in memory. It goes back in it to complete the record of an entry. It has to be finished to
become readable.

The contents of an entry that was given up may still stand in the outlet behind the place where
the archive goes on. The directory has to come behind them in the end, since a reader looks for
it from there.
-/

namespace SpecCatalog

open Archive

/-- Where the bytes of an archive go. -/
structure Outlet (τ : Type) where
  /-- Puts bytes at a place, over those that stand there. -/
  write : Nat → Bytes → EStateM IoError τ Unit
  length : τ → Nat

def Outlet.writeAll {τ : Type} (outlet : Outlet τ) : List Writing → EStateM IoError τ Unit
  | [] => return ()
  | (place, bs) :: writings => do
    outlet.write place bs
    writeAll outlet writings

/-- An archive under construction and the state behind its outlet. -/
structure ArchiveInProgress (τ : Type) where
  builder : Builder := {}
  state : τ

namespace ArchiveInProgress

variable {τ : Type}

/-- Sends bytes to the outlet and goes on. An archive whose outlet failed stays as it was before. -/
def send (outlet : Outlet τ) (writings : List Writing) (next : Builder) :
    EStateM IoError (ArchiveInProgress τ) Unit := fun a =>
  match outlet.writeAll writings a.state with
  | .ok () state => .ok () ⟨next, state⟩
  | .error e state => .error e { a with state }

/-- Ends the entry that is open. -/
def close (z : Compressor) (outlet : Outlet τ) : EStateM IoError (ArchiveInProgress τ) Unit :=
  fun a =>
    match a.builder.close z with
    | .error e => .error e a
    | .ok (writings, next) => send outlet writings next a

/-- Begins an entry. -/
def begin (outlet : Outlet τ) (path : String) : EStateM Fault (ArchiveInProgress τ) Unit := fun a =>
  match a.builder.begin path with
  | .error f => .error f a
  | .ok (writing, next) =>
    match send outlet [writing] next a with
    | .ok () a => .ok () a
    | .error e a => .error (.io e) a

/-- Gives the compressor its turn; `idle` says what comes of that if no entry is open. -/
def turn (z : Compressor) (outlet : Outlet τ) (idle : EStateM IoError (ArchiveInProgress τ) Unit)
    (t : Turn) : EStateM IoError (ArchiveInProgress τ) Unit := fun a =>
  match a.builder.turn z t with
  | none => idle a
  | some (writing, next) => send outlet [writing] next a

/-- An entry that has become too large is given up. -/
def refuseOverfull (z : Compressor) (outlet : Outlet τ) :
    EStateM IoError (ArchiveInProgress τ) Unit := fun a =>
  if a.builder.Overfull then
    let (writings, next) := a.builder.giveUp z
    match outlet.writeAll writings a.state with
    | .ok () state => .error sizeRefused ⟨next, state⟩
    | .error _ state => .error sizeRefused ⟨next, state⟩
  else .ok () a

def notStarted : IoError := .custom "No file has been started"

/-- The sink that builds the archive; `label` is what messages call it. -/
def sink (z : Compressor) (label : String) (outlet : Outlet τ) :
    Sink (ArchiveInProgress τ) Unit where
  openEntry path := fun a =>
    match close z outlet a with
    | .error e a => .error (.archive s!"{label}!/{path}" (.io e)) a
    | .ok () a =>
      match begin outlet path a with
      | .error f a => .error (.archive s!"{label}!/{path}" f) a
      | .ok () a => .ok () a
  write _ bs := do
    turn z outlet (throw notStarted) (.more bs)
    refuseOverfull z outlet
  flush _ := turn z outlet (return ()) .flush
  describe path := s!"jar:file:{label}!/{path}"

/-- Ends the archive with a directory that starts here. Places in it take eight bytes at most. -/
def endAt (outlet : Outlet τ) (start : Nat) : EStateM IoError (ArchiveInProgress τ) Unit := fun a =>
  let last := a.builder.ending start
  if capacity 8 ≤ start + last.length then .error (.os .fileTooLarge) a
  else send outlet [(start, last)] a.builder a

/-- If there are bytes behind the end, spoils it and ends the archive behind them. -/
def endAgain (outlet : Outlet τ) : EStateM IoError (ArchiveInProgress τ) Unit := fun a =>
  let size := (a.builder.ending a.builder.position).length
  let behind := a.builder.position + size
  let length := outlet.length a.state
  if behind < length then
    (do
      send outlet [(a.builder.position, List.replicate 4 0),
        (behind - Builder.endLength, List.replicate 4 0)] a.builder
      endAt outlet (length - size)) a
  else .ok () a

/-- Makes the archive complete. -/
def complete (z : Compressor) (outlet : Outlet τ) : EStateM IoError (ArchiveInProgress τ) Unit := do
  close z outlet
  endAt outlet (← get).builder.position
  endAgain outlet

/-- Makes the archive complete and gives the outlet back. If that fails the archive is given up,
and with it it is tried once more, whatever comes of it. -/
def finish (z : Compressor) (label : String) (outlet : Outlet τ) (a : ArchiveInProgress τ) :
    EStateM.Result CatalogError τ Unit :=
  match complete z outlet a with
  | .ok () a => .ok () a.state
  | .error e a =>
    match complete z outlet a with
    | .ok () a => .error (.archive label (.io e)) a.state
    | .error _ a => .error (.archive label (.io e)) a.state

end ArchiveInProgress

/-- The outlet that writes to a file. -/
def FileTree.outlet (route : Route) : Outlet FileTree where
  write place bs := FileTree.write route (fun body taken => overwrite body place taken) bs
  length t :=
    match t.item? route with
    | some (.file body) => body.length
    | _ => 0

/-- The outlet that writes to a store. -/
def LimitedStore.outlet : Outlet LimitedStore where
  write place bs := fun s =>
    match s.room with
    | none => .ok () { s with written := overwrite s.written place bs }
    | some room =>
      let s : LimitedStore :=
        { written := overwrite s.written place (bs.take room), room := some (room - bs.length) }
      if bs.length ≤ room then .ok () s else .error writeFailed s
  length s := s.written.length

/-- Begins an archive in a new file at the path. -/
def createArchive (path : String) : EStateM CatalogError FileTree Route :=
  (FileTree.createFile path).at path

end SpecCatalog
