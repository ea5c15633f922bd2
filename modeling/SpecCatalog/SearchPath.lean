import SpecCatalog.Archive.Directory
import SpecCatalog.Codec

/-!
# Sources and search paths

A source is a directory or an archive with descriptors in it, and a search path is a row
of sources. A source can be asked for one resource, and scanned for all its descriptors.
A scan goes through a source in a fixed order and may break off.
-/

namespace SpecCatalog

/-! ## Sources -/

/-- The archive in the file at the path. A directory can be opened but has no bytes. -/
def openArchive (t : FileTree) (path : String) : Fallible Archive :=
  match t.status path with
  | .error e => .error (.io path e)
  | .ok (.file body) => (Archive.open? body).mapError (.archive path)
  | .ok .directory => .error (.archive path (.io (.os .isDirectory)))
  | .ok (.link _) => .error (.io path (.os .tooManyLinks))

/-- The bytes at a location. -/
def Location.read (t : FileTree) (l : Location) : Fallible Bytes := do
  match l.source.kind with
  | .directory =>
    match t.contents (PathText.join l.source.path l.resource) with
    | .ok body => return body
    | .error e => throw (.io l.display e)
  | .archive =>
    let archive ← openArchive t l.source.path
    match archive.find? l.resource with
    | none => throw (.archive l.display .noSuchEntry)
    | some entry =>
      match entry.open? archive.file with
      | .error f => throw (.archive l.display f)
      | .ok (.error e) => throw (.io l.display e)
      | .ok (.ok body) => return body

namespace Source

/-- A directory is a directory source, and all else is taken for an archive. -/
def ofPath (t : FileTree) (path : String) : Fallible Source :=
  match t.status path with
  | .error e => .error (.io path e)
  | .ok .directory => .ok ⟨.directory, path⟩
  | .ok _ => .ok ⟨.archive, path⟩

/-- Where the source has a resource, if it has it. -/
def locate (t : FileTree) (s : Source) (resource : String) : Fallible (Option Location) :=
  match s.kind with
  | .directory =>
    let full := PathText.join s.path resource
    match t.status full with
    | .ok (.file _) => .ok (some ⟨s, resource⟩)
    | .ok _ => .ok none
    | .error (.os .notFound) => .ok none
    | .error e => .error (.io full e)
  | .archive => do
    let archive ← openArchive t s.path
    return (archive.find? resource).map fun _ => ⟨s, resource⟩

/-- A directory has the files that its own path and the resource's lead to. -/
theorem locate_directory {t : FileTree} {s : Source} {resource : String} {l : Location}
    (hs : s.kind = .directory) (h : s.locate t resource = .ok (some l)) :
    l = ⟨s, resource⟩ ∧ ∃ body, t.status (PathText.join s.path resource) = .ok (.file body) := by
  unfold locate at h
  rw [hs] at h
  dsimp only at h
  split at h
  · rename_i body hf
    cases h
    exact ⟨rfl, body, hf⟩
  · cases h
  · cases h
  · cases h

/-- An archive has the entries of the resource's name. -/
theorem locate_archive {t : FileTree} {s : Source} {resource : String} {l : Location}
    (hs : s.kind = .archive) (h : s.locate t resource = .ok (some l)) :
    l = ⟨s, resource⟩ ∧ ∃ archive entry, openArchive t s.path = .ok archive
      ∧ archive.find? resource = some entry := by
  unfold locate at h
  rw [hs] at h
  obtain ⟨archive, ha, h⟩ := bind_eq_ok_iff.1 h
  cases he : archive.find? resource with
  | none => rw [he] at h; cases h
  | some entry =>
      rw [he] at h
      cases h
      exact ⟨rfl, archive, entry, ha, he⟩

end Source

/-! ## Scans -/

/-- What a scan found, in order, and the error that broke it off. -/
structure Scan where
  found : List (Location × Bytes)
  broke : Option CatalogError

namespace Scan

def failed (e : CatalogError) : Scan := ⟨[], some e⟩

/-- The scan with one more thing found before all else. -/
def after (x : Location × Bytes) (s : Scan) : Scan := { s with found := x :: s.found }

/-- One scan and then, if it did not break off, the other. -/
def append (s t : Scan) : Scan :=
  match s.broke with
  | some _ => s
  | none => ⟨s.found ++ t.found, t.broke⟩

/-- Shows what was found to a visitor, who may stop; else the scan ends as it broke off. -/
def visit {β : Type} (step : β → Location × Bytes → Fallible β) (b : β) (s : Scan) :
    Fallible β := do
  let b ← s.found.foldlM step b
  match s.broke with
  | some e => throw e
  | none => return b

end Scan

namespace Source

/-- Reads the locations in turn. -/
def readAll (t : FileTree) : List Location → Scan
  | [] => ⟨[], none⟩
  | l :: ls =>
    match l.read t with
    | .ok body => (readAll t ls).after (l, body)
    | .error e => .failed e

/-- The names of the files, links not followed, that are descriptors. -/
def descriptorNames (c : Codec) (listing : List (String × Item)) : NameSet :=
  .ofList (listing.filterMap fun (name, item) =>
    match item with
    | .file _ => if c.layout.isSpecFileName c.rules name then some name else none
    | _ => none)

/-- The descriptors among the entries of an archive, in the archive's order. Every entry
is opened, also one that is none. -/
def archiveDescriptors (c : Codec) (s : Source) (file : Bytes) : List Archive.Entry → Scan
  | [] => ⟨[], none⟩
  | e :: es =>
    match e.open? file with
    | .error f => .failed (.archive s.path f)
    | .ok contents =>
      if e.isDirectory || !c.layout.isSpecPath c.rules e.name then
        archiveDescriptors c s file es
      else
        match contents with
        | .error cause => .failed (.io s!"{s.path}!/{e.name}" cause)
        | .ok body => (archiveDescriptors c s file es).after (⟨s, e.name⟩, body)

/-- Every descriptor of the source. In a directory these are files right in the
specifications' own directory, by name. -/
def descriptors (t : FileTree) (c : Codec) (s : Source) : Scan :=
  match s.kind with
  | .directory =>
    let folder := PathText.join s.path c.layout.directory
    match t.status folder with
    | .error (.os .notFound) => ⟨[], none⟩
    | .error e => .failed (.io folder e)
    | .ok .directory =>
      match t.list folder with
      | .error e => .failed (.io folder e)
      | .ok listing =>
        readAll t ((descriptorNames c listing).toList.map fun name =>
          ⟨s, c.layout.directory ++ "/" ++ name⟩)
    | .ok _ => ⟨[], none⟩
  | .archive =>
    match openArchive t s.path with
    | .error e => .failed e
    | .ok archive => archiveDescriptors c s archive.file archive.entries

end Source

/-! ## Search paths -/

/-- The sources to look in, in order. -/
abbrev SearchPath := List Source

namespace SearchPath

def ofPaths (t : FileTree) (paths : List String) : Fallible SearchPath :=
  paths.mapM (Source.ofPath t)

/-- Every place that has the resource, in order. -/
def locate (t : FileTree) (sources : SearchPath) (resource : String) :
    Fallible (List Location) :=
  match sources with
  | [] => .ok []
  | s :: rest => do
    let here ← s.locate t resource
    let others ← locate t rest resource
    return here.toList ++ others

/-- The descriptors of all sources. -/
def descriptors (t : FileTree) (c : Codec) (sources : SearchPath) : Scan :=
  (sources.map (Source.descriptors t c)).foldr Scan.append ⟨[], none⟩

end SearchPath

end SpecCatalog
