import SpecCatalog.Lookup

/-!
# Resolving closures

The closure of some names is everything they depend on, directly or not, with the names
themselves. Names wait on a stack: the last one requested is taken first, and what it
depends on goes on top of the rest, the last in order uppermost. A name taken before is
passed over, so cycles do no harm.

Loading is a parameter, and the loads that a run may make are counted. A run that is given
enough of them answers; `loadBound` is enough for a search path.
-/

namespace SpecCatalog

namespace Closure

/-- What a run knows. -/
structure Progress where
  /-- Every name taken so far with the dependencies it was loaded with. -/
  loaded : NameMap NameSet
  /-- The names that wait, the next one first. -/
  waiting : List String
  /-- The names that were loaded with what they gave, the last one first. -/
  resolved : List (String × Specification)

def start (requested : List String) : Progress := ⟨.empty, requested.reverse, []⟩

/-- The names that wait and have not been taken yet, from the next one on. -/
def Progress.ahead (p : Progress) : List String :=
  p.waiting.dropWhile fun name => (p.loaded.get? name).isSome

/-- After `name`, the next one that waits, was loaded. -/
def Progress.take (p : Progress) (name : String) (s : Specification) (rest : List String) :
    Progress :=
  { loaded := p.loaded.insert name s.dependencies
    waiting := s.dependencies.toList.reverse ++ rest
    resolved := (name, s) :: p.resolved }

/-- The run in the order it was made. -/
def Progress.trail (p : Progress) : List (String × Specification) := p.resolved.reverse

/-- A name that could not be loaded, why, and how far the run had got. -/
structure Stop (ε : Type) where
  progress : Progress
  name : String
  cause : ε

/-- Goes on with at most so many loads; nothing if they are not enough. -/
def runFrom {ε : Type} (load : String → Except ε Specification) :
    Nat → Progress → Option (Except (Stop ε) Progress)
  | loads, p =>
    match p.ahead with
    | [] => some (.ok p)
    | name :: rest =>
      match loads with
      | 0 => none
      | loads + 1 =>
        match load name with
        | .error cause => some (.error ⟨p, name, cause⟩)
        | .ok s => runFrom load loads (p.take name s rest)

/-- Resolves the requested names with at most so many loads. -/
def run? {ε : Type} (load : String → Except ε Specification) (loads : Nat)
    (requested : List String) : Option (Except (Stop ε) Progress) :=
  runFrom load loads (start requested)

/-- What the end of a run is told as: the specifications in the order they were loaded, or
the failure with how far the run had got. -/
def told (requested : List String) :
    Except (Stop CatalogError) Progress → Fallible (List Specification)
  | .ok p => .ok (p.trail.map (·.2))
  | .error stop => .error (.resolution requested stop.progress.loaded stop.cause)

/-- The specifications of the requested names and all they depend on, from any loader and
with at most so many loads. -/
def resolve? (load : String → Fallible Specification) (loads : Nat) (requested : List String) :
    Option (Fallible (List Specification)) :=
  (run? load loads requested).map (told requested)

end Closure

/-- How many names a source can have descriptors for: a file or an entry each, and in a
directory two more, because a name may be one or two dots. -/
def Source.nameBound (t : FileTree) (s : Source) : Nat :=
  match s.kind with
  | .directory => t.entries.length + 2
  | .archive =>
    match openArchive t s.path with
    | .ok archive => archive.entries.length
    | .error _ => 0

/-- The most loads that resolving with these sources takes: one for every name that they
can have, and one that fails. -/
def SearchPath.loadBound (t : FileTree) : SearchPath → Nat
  | [] => 1
  | s :: rest => s.nameBound t + loadBound t rest

/-- The specifications of the requested names and all they depend on, in the order they
were loaded. -/
def SearchPath.resolve (t : FileTree) (c : Codec) (sources : SearchPath)
    (requested : List String) : Fallible (List Specification) :=
  (Closure.resolve? (sources.lookup t c) (sources.loadBound t) requested).getD (.ok [])

end SpecCatalog
