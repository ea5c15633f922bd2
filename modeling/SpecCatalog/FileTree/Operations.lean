import SpecCatalog.FileTree.Walk

/-!
# Looking at files and making them

What can be asked of a path and what can be done at one. An operation that changes the
tree gives the tree after it also when it fails: directories that were made on the way
stay, and so does what a file was given before the disk refused more.
-/

namespace SpecCatalog.FileTree

/-! ## Looking -/

/-- The item at the end of the path; a link there is followed. -/
def status (t : FileTree) (path : String) : Except IoError Item := do
  match ← t.resolve .look path with
  | .item _ i => return i
  | .vacant _ _ => throw (.os .notFound)

def isDirectory (t : FileTree) (path : String) : Bool :=
  match t.status path with
  | .ok .directory => true
  | _ => false

/-- What the file holds. A directory can be opened but has nothing to read. -/
def contents (t : FileTree) (path : String) : Except IoError Bytes := do
  match ← t.status path with
  | .file body => return body
  | .directory => throw (.os .isDirectory)
  | .link _ => throw (.os .tooManyLinks)

/-- The names in the directory with their items, which are not followed. -/
def list (t : FileTree) (path : String) : Except IoError (List (String × Item)) := do
  match ← t.resolve .look path with
  | .item route .directory => return t.children route
  | .item _ _ => throw (.os .notDirectory)
  | .vacant _ _ => throw (.os .notFound)

/-! ## Changing -/

/-- A change of a tree, which may fail halfway. -/
abbrev Change := EStateM IoError FileTree

def Change.run {α : Type} (c : Change α) (t : FileTree) : EStateM.Result IoError FileTree α := c t

/-- Where the path leads in the tree as it is now. -/
def resolveNow (aim : Aim) (path : String) : Change Spot := fun t =>
  match t.resolve aim path with
  | .ok spot => .ok spot t
  | .error e => .error e t

/-- Makes a change that the system makes as a whole or refuses. -/
def request (change : FileTree → FileTree) : Change Unit := fun t =>
  match t.answers with
  | [] => .ok () (change t)
  | .refuses r :: answers => .error (.os (.refused r)) (t.answering answers)
  | _ :: answers => .ok () (change (t.answering answers))

def createDirectory (path : String) : Change Unit := do
  match ← resolveNow .newDirectory path with
  | .vacant folder name => request fun t => t.put folder name .directory
  | .item _ _ => throw (.os .alreadyExists)

/-- Makes a directory and those above it that are missing. A directory that is there
already is no failure. The depth bounds how far up the path goes. -/
def createDirectoriesWithin : Nat → String → Change Unit
  | 0, _ => throw (.os .notFound)
  | depth + 1, path => fun t =>
    if path.isEmpty then .ok () t
    else
      match createDirectory path t with
      | .ok () t => .ok () t
      | .error (.os .notFound) t =>
        match PathText.parent? path with
        | none => .error (.os .notFound) t
        | some above =>
          match createDirectoriesWithin depth above t with
          | .ok () t => settle path t
          | .error e t => .error e t
      | .error e t => if t.isDirectory path then .ok () t else .error e t
where
  settle (path : String) : Change Unit := fun t =>
    match createDirectory path t with
    | .ok () t => .ok () t
    | .error e t => if t.isDirectory path then .ok () t else .error e t

def createDirectories (path : String) : Change Unit :=
  createDirectoriesWithin ((PathText.components path).length + 2) path

/-- Opens an empty file at the path for writing: a file that is there loses what it
held. -/
def createFile (path : String) : Change Route := do
  match ← resolveNow .newFile path with
  | .vacant folder name =>
    request fun t => t.put folder name (.file [])
    return folder ++ [name]
  | .item route (.file _) =>
    request fun t => t.fill route []
    return route
  | .item _ _ => throw (.os .isDirectory)

/-- The tree with other bytes in the file at the route, if there is one. -/
def edit (t : FileTree) (route : Route) (change : Bytes → Bytes) : FileTree :=
  match t.item? route with
  | some (.file body) => t.fill route (change body)
  | _ => t

/-- Hands bytes over for the file that was opened; those that are taken are put `into` what it
holds. -/
def handOver (t : FileTree) (stalled : IoError) (route : Route) (into : Bytes → Bytes → Bytes)
    (bs : Bytes) : Handing × FileTree :=
  let handing := Handing.of stalled t.answers bs
  (handing, (t.edit route fun body => into body handing.taken).answering handing.answers)

/-- Writes bytes into the file that was opened. -/
def write (route : Route) (into : Bytes → Bytes → Bytes) (bs : Bytes) : Change Unit := fun t =>
  let (handing, t) := t.handOver .notTaken route into bs
  match handing.cause with
  | none => .ok () t
  | some e => .error e t

/-- Adds bytes at the end of the file. -/
def append (route : Route) (bs : Bytes) : Change Unit := write route (· ++ ·) bs

/-- Makes a file with the given contents. -/
def writeFile (path : String) (body : Bytes) : Change Unit := do
  let route ← createFile path
  append route body

/-- Makes a link; nothing looks at its target yet. -/
def createLink (path target : String) : Change Unit := do
  if target.toList.contains '\x00' then throw .nulInPath
  match ← resolveNow .newDirectory path with
  | .vacant folder name => request fun t => t.put folder name (.link target)
  | .item _ _ => throw (.os .alreadyExists)

/-- Takes away the item at the path and what is below it; a link is not followed. -/
def remove (path : String) : Change Unit := do
  match ← resolveNow .newDirectory path with
  | .vacant _ _ => throw (.os .notFound)
  | .item route _ => request fun t => t.without route

/-- Everything below a directory by its path from there. -/
def below (t : FileTree) (folder : Route) : List (Route × Item) :=
  t.entries.filterMap fun e =>
    if folder.isPrefixOf e.1 && folder.length < e.1.length then
      some (e.1.drop folder.length, e.2)
    else none

end SpecCatalog.FileTree
