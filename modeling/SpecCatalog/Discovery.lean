import SpecCatalog.Lookup

/-!
# Discovering all specifications

Every descriptor in the sources is read and put under the name it declares. The same
specification may turn up again; another one under the same name is a conflict with the
first.
-/

namespace SpecCatalog

/-- What has been discovered, with where it was seen first. -/
abbrev Registry := NameMap (Location × Specification)

namespace Registry

def register (r : Registry) (l : Location) (s : Specification) : Fallible Registry :=
  match r.get? s.name with
  | none => .ok (r.insert s.name (l, s))
  | some first =>
    if first.2 = s then .ok r else .error (.conflict s.name [first, (l, s)])

/-- Reads a descriptor that was found and registers it. -/
def add (c : Codec) (r : Registry) (x : Location × Bytes) : Fallible Registry := do
  let s ← (c.decode x.2).mapError (.malformed x.1)
  r.register x.1 s

end Registry

/-- All specifications of the sources by name. -/
def SearchPath.discover (t : FileTree) (c : Codec) (sources : SearchPath) :
    Fallible (NameMap Specification) := do
  let r ← (sources.descriptors t c).visit (Registry.add c) NameMap.empty
  return r.map (·.2)

end SpecCatalog
