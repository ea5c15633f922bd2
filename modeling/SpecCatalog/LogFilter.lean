import SpecCatalog.Unicode.Property

/-!
# The filter for log messages

Which messages are logged is said by a directive. One from the environment goes before one
from the command line; a blank one counts as none but still hides the other.
-/

namespace SpecCatalog.LogFilter

/-- The directive if nothing else is said. -/
def standard : String := "warn"

def isBlank (directive : String) : Bool := directive.toList.all Unicode.whiteSpace.contains

def directive (environment configured : Option String) : String :=
  match environment.or configured with
  | some d => if isBlank d then standard else d
  | none => standard

end SpecCatalog.LogFilter
