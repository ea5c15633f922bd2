import SpecCatalog.Error
import SpecCatalog.Pattern.Reader

/-!
# Rules for names

A name becomes the first part of a file name, so whatever the pattern of the rules says,
a name is not empty and holds no slash and no backslash.
-/

namespace SpecCatalog

structure NameRules where
  pattern : Pattern.Expr

namespace NameRules

/-- Names of ASCII letters, digits, underscores and, after the first character,
hyphens. -/
def standardPattern : String := "^[A-Za-z0-9_][A-Za-z0-9_-]*$"

/-- The rules that a pattern stands for. -/
def ofPattern (pattern : String) : Fallible NameRules :=
  match Pattern.Expr.ofPattern pattern with
  | .ok e => .ok ⟨e⟩
  | .error refusal => .error (.badConfig (.badPattern pattern refusal))

def standard : NameRules :=
  ⟨match Pattern.Expr.ofPattern standardPattern with
    | .ok e => e
    | .error _ => .empty⟩

def isValid (rules : NameRules) (name : String) : Bool :=
  !name.isEmpty && name.toList.all (fun c => c ≠ '/' && c ≠ '\\') && rules.pattern.foundIn name

/-- An absent name is not valid. -/
def accepts (rules : NameRules) (name : Option String) : Bool := name.any rules.isValid

def validate (rules : NameRules) (name : String) : Fallible String :=
  if rules.isValid name then .ok name else .error (.invalidName (some name))

end NameRules

end SpecCatalog
