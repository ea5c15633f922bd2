import SpecCatalog.Name.Set

/-!
# Specifications

A specification has a name and the names it depends on. Two are the same if both agree;
a hash looks at the name alone, so specifications of one name share it.
-/

namespace SpecCatalog

structure Specification where
  name : String
  dependencies : NameSet
  deriving DecidableEq

namespace Specification

/-- What hash tables may put a specification under. -/
def hashKey (s : Specification) : String := s.name

/-- The specification on one line, its dependencies in order. -/
def display (s : Specification) : String :=
  let deps := String.intercalate ", " s.dependencies.toList
  s!"Specification\x7bname=\"{s.name}\", dependencies=[{deps}]\x7d"

end Specification

end SpecCatalog
