import SpecCatalog.FileTree.PathText

/-!
# Locations of descriptors

A location is a place inside a source: the source's path and, with slashes, the path of
the resource from there. Locations are ordered: directories come before archives, then
the paths of the sources decide by their components, and then the resources as text.
-/

namespace SpecCatalog

/-- The two kinds of things that hold descriptors. -/
inductive SourceKind where
  | directory
  | archive
  deriving DecidableEq, Repr

/-- A directory or an archive that descriptors are read from. -/
structure Source where
  kind : SourceKind
  path : String
  deriving DecidableEq, Repr

structure Location where
  source : Source
  resource : String
  deriving DecidableEq, Repr

namespace Location

/-- The location as messages show it. -/
def display (l : Location) : String :=
  match l.source.kind with
  | .directory => s!"file:{l.source.path}/{l.resource}"
  | .archive => s!"jar:file:{l.source.path}!/{l.resource}"

end Location

def SourceKind.compare : SourceKind → SourceKind → Ordering
  | .directory, .archive => .lt
  | .archive, .directory => .gt
  | _, _ => .eq

def compareText (s t : String) : Ordering := if s < t then .lt else if s = t then .eq else .gt

def Location.compare (l m : Location) : Ordering :=
  (l.source.kind.compare m.source.kind).then <|
    (PathText.compareComponents (PathText.components l.source.path)
      (PathText.components m.source.path)).then <|
    compareText l.resource m.resource

end SpecCatalog
