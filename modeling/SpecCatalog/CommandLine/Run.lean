import SpecCatalog.Closure
import SpecCatalog.CommandLine.Arguments
import SpecCatalog.CommandLine.Report
import SpecCatalog.Discovery
import SpecCatalog.Sink.Archive

/-!
# Running a command

A run takes the arguments and the file tree to an outcome and the tree after it. What it prints
goes to the standard output at once, line by line, and stays there whatever comes after it. Where
the output takes no more the run is stopped. A run that fails ends with a report.
-/

namespace SpecCatalog.CommandLine

/-- What a run is given by the machine, apart from the files. -/
structure Host where
  /-- How many bytes a buffer can have at most. -/
  memory : Nat
  /-- How many bytes the standard output takes; without a number, all. -/
  room : Option Nat
  compressor : Archive.Compressor

structure Outcome where
  code : Nat
  output : Bytes := []
  /-- The report of a failure. -/
  errors : String := ""
  deriving DecidableEq, Repr

/-- A failure of a run: an error, which may be told as the cause of what was tried. -/
structure Failure where
  error : CatalogError
  attempt : Option String := none

def Failure.report (f : Failure) : String :=
  match f.attempt with
  | none => CommandLine.report f.error.message f.error.causes
  | some attempt => CommandLine.report attempt (f.error.message :: f.error.causes)

/-- What a run changes: the files, and what has been printed. -/
structure World where
  tree : FileTree
  output : LimitedStore

/-- Why a run ends early. -/
inductive Stop where
  | failed (f : Failure)
  | crashed (crash : Crash)

/-- The code that a system gives to a program that was stopped. -/
def codeOf : Crash → Nat
  | .panic => 101
  | .abort => 134

/-- An archive is written if the path says so by its extension. -/
def isArchivePath (path : String) : Bool :=
  match PathText.extension? path with
  | some e => e = "zip" || e = "jar"
  | none => false

/-! ## Steps -/

abbrev Run := EStateM Stop World

def ofFallible {α : Type} (x : Fallible α) (attempt : Option String) : Run α := fun w =>
  match x with
  | .ok a => .ok a w
  | .error error => .error (.failed { error, attempt }) w

def ofChange {α : Type} (x : EStateM CatalogError FileTree α) : Run α := fun w =>
  match x w.tree with
  | .ok a tree => .ok a { w with tree }
  | .error error tree => .error (.failed { error }) { w with tree }

/-- Makes the codec of a configuration, if there is the memory for it. -/
def makeCodec (host : Host) (config : Config) : Run Codec := fun w =>
  match Codec.build host.memory config with
  | .ok result => ofFallible result none w
  | .error crash => .error (.crashed crash) w

/-- Prints lines, one after the other. -/
def printLines (lines : List String) : Run Unit := fun w =>
  let pieces := lines.map fun line => Text.toBytes (line ++ "\n")
  match Codec.writePieces LimitedStore.write pieces w.output with
  | .ok () output => .ok () { w with output }
  | .error _ output => .error (.crashed .panic) { w with output }

/-! ## Commands -/

/-- Writes a specification to an archive of its own. The archive is made complete also if
the specification could not be written. -/
def writeArchive (z : Archive.Compressor) (c : Codec) (out : String) (s : Specification) :
    EStateM CatalogError FileTree String := do
  let route ← createArchive out
  fun t =>
    let outlet := FileTree.outlet route
    match (ArchiveInProgress.sink z out outlet).writeSpecification c s { state := t } with
    | .ok path a =>
      match a.finish z out outlet with
      | .ok () t => .ok path t
      | .error e t => .error e t
    | .error e a =>
      match ArchiveInProgress.complete z outlet a with
      | .ok () a => .error e a.state
      | .error _ a => .error e a.state

/-- Lines for these specifications, as one text. -/
def listing (specs : List Specification) : String :=
  String.join (specs.map fun s => s.display ++ "\n")

def runCommand (host : Host) (c : Codec) : Command → Run Unit
  | .write out name dependencies => do
    let s ← ofFallible (Specification.ofRules c.rules name dependencies) none
    let path ← ofChange <|
      if isArchivePath out then writeArchive host.compressor c out s
      else Buffered.onTree ((directorySink out).writeSpecification c s)
    printLines [s!"Wrote {path} to {out}"]
  | .resolve paths names => do
    let t := (← get).tree
    let sources ← ofFallible (SearchPath.ofPaths t paths) none
    let specs ← ofFallible (sources.resolve t c names) (some "resolve specification closure")
    printLines (specs.map (·.display))
  | .discover paths => do
    let t := (← get).tree
    let sources ← ofFallible (SearchPath.ofPaths t paths) none
    let specs ← ofFallible (sources.discover t c) (some "discover specifications")
    printLines (specs.values.map (·.display))

def runInvocation (host : Host) (i : Invocation) : Run Unit := do
  let config ← fun w =>
    match i.config with
    | none => .ok {} w
    | some path => ofFallible (Config.ofFile w.tree path) none w
  let codec ← makeCodec host config
  runCommand host codec i.command

/-- Runs the program. Wrong usage is told apart from failure by its code. -/
def run (host : Host) (args : List String) (t : FileTree) : Outcome × FileTree :=
  match Invocation.ofArguments args with
  | .error .help => ({ code := 0 }, t)
  | .error .wrong => ({ code := 2 }, t)
  | .ok invocation =>
    match runInvocation host invocation ⟨t, { room := host.room }⟩ with
    | .ok () w => ({ code := 0, output := w.output.written }, w.tree)
    | .error (.failed f) w =>
      ({ code := 1, output := w.output.written, errors := f.report }, w.tree)
    | .error (.crashed crash) w => ({ code := codeOf crash, output := w.output.written }, w.tree)

end SpecCatalog.CommandLine
