import SpecCatalog.Archive.Storing
import SpecCatalog.CommandLine.Run

/-!
# The program

The files that an invocation can look at are read into a file tree, the run is made on
that tree, and what it changed is written back. Everything else is decided by the run.
-/

namespace SpecCatalog.Main

/-- The path of a route from the top. -/
def pathOf (route : Route) : String := "/" ++ String.intercalate "/" route

def routeOf (path : String) : Route :=
  (PathText.components path).filterMap fun c =>
    match c with
    | .name s => some s
    | _ => none

/-- Puts directories along a route that has no links in it. -/
def putDirectories (t : FileTree) (route : Route) : FileTree :=
  (route.foldl (fun (t, folder) name =>
    (FileTree.put t folder name .directory, folder ++ [name])) (t, [])).1

/-- Reads one item into the tree, and gives the directory it is or leads to. -/
def readStep (t : FileTree) (folder : Route) (name : String) : IO (FileTree × Option Route) := do
  let path := pathOf (folder ++ [name])
  try
    let real ← IO.FS.realPath path
    let target := routeOf real.toString
    let t :=
      if target = folder ++ [name] then t
      else
        (putDirectories t target.dropLast).put folder name (.link real.toString)
    if ← real.isDir then return (putDirectories t target, some target)
    else
      let body ← IO.FS.readBinFile real
      return (t.put target.dropLast (target.getLast?.getD name) (.file body.data.toList), none)
  catch _ => return (t, none)

/-- Reads the items along a path. -/
def readAlong (t : FileTree) (folder : Route) : List String → IO (FileTree × Option Route)
  | [] => return (t, some folder)
  | part :: parts => do
    if part = "" ∨ part = "." then readAlong t folder parts
    else if part = ".." then readAlong t folder.dropLast parts
    else
      match ← readStep t folder part with
      | (t, some folder) => readAlong t folder parts
      | (t, none) => return (t, none)

def readPath (t : FileTree) (path : String) : IO (FileTree × Option Route) :=
  readAlong t (if PathText.isAbsolute path then [] else t.home) (PathText.parts path)

/-- Reads a directory's items, but nothing below them. -/
def readFolder (t : FileTree) (folder : Route) : IO FileTree := do
  try
    let path ← IO.FS.realPath (pathOf folder)
    let mut t := t
    for entry in ← path.readDir do
      t := (← readStep t folder entry.fileName).1
    return t
  catch _ => return t

/-- Reads all that the invocation can look at. -/
def readFor (i : CommandLine.Invocation) (home : String) : IO FileTree := do
  let mut t := (putDirectories .empty (routeOf home)).atHome (routeOf home)
  let mut config : Config := {}
  if let some path := i.config then
    t := (← readPath t path).1
    if let .ok c := Config.ofFile t path then config := c
  match i.command with
  | .write out name _ =>
    let layout := Layout.ofParts config.specsDirectory config.extension
    t := (← readPath t out).1
    t := (← readPath t (PathText.join out (layout.pathOf name))).1
  | .resolve paths _ | .discover paths =>
    for path in paths do
      t := (← readPath t path).1
      let folder := PathText.join path (Layout.trimSlashes config.specsDirectory)
      match ← readPath t folder with
      | (s, some route) => t ← readFolder s route
      | (s, none) => t := s
  return t

/-- The machine takes what is printed, and has the memory for any buffer there can be. Archives
are written without compression. -/
def host : CommandLine.Host := ⟨Crash.bufferLimit, none, Archive.storing⟩

/-- Writes back what the run changed. -/
def writeBack (before after : FileTree) : IO Unit :=
  for (route, item) in after.entries do
    if before.item? route ≠ some item then
      match item with
      | .directory => IO.FS.createDirAll (pathOf route)
      | .file body => IO.FS.writeBinFile (pathOf route) ⟨body.toArray⟩
      | .link _ => pure ()

end SpecCatalog.Main

open SpecCatalog in
def main (args : List String) : IO UInt32 := do
  let home := (← IO.currentDir).toString
  let before ←
    match CommandLine.Invocation.ofArguments args with
    | .ok i => Main.readFor i home
    | .error _ => pure .empty
  let (outcome, after) := CommandLine.run Main.host args before
  Main.writeBack before after
  (← IO.getStdout).write ⟨outcome.output.toArray⟩
  IO.eprint outcome.errors
  return UInt32.ofNat outcome.code
