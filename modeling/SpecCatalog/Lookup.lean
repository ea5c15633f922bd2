import SpecCatalog.SearchPath

/-!
# Looking up one specification

A name is looked up in all sources of a search path, not only in the first that has it.
All definitions found have to agree.
-/

namespace SpecCatalog

/-- Reads the descriptor at a location. -/
def Codec.decodeAt (c : Codec) (t : FileTree) (l : Location) : Fallible Specification := do
  let body ← l.read t
  (c.decode body).mapError (.malformed l)

/-- Reads the descriptors at locations, in order. -/
def Codec.definitionsAt (c : Codec) (t : FileTree) :
    List Location → Fallible (List (Location × Specification))
  | [] => .ok []
  | l :: ls => do
    let s ← c.decodeAt t l
    let rest ← definitionsAt c t ls
    return (l, s) :: rest

/-- The specification that all definitions are. -/
def agreed (name : String) : List (Location × Specification) → Fallible (Option Specification)
  | [] => .ok none
  | (l, s) :: rest =>
    if rest.all (·.2 = s) then .ok (some s) else .error (.conflict name ((l, s) :: rest))

/-- The specification of a name. -/
def SearchPath.lookup (t : FileTree) (c : Codec) (sources : SearchPath) (name : String) :
    Fallible Specification := do
  let path ← c.specPath name
  let locations ← sources.locate t path
  let definitions ← c.definitionsAt t locations
  match ← agreed name definitions with
  | some s => return s
  | none => throw (.notFound name path)

end SpecCatalog
