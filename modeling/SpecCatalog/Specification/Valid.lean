import SpecCatalog.Name.Rules

/-!
# Valid specifications

A specification is made from a name and dependencies under some rules. The dependencies
are looked at first, and all that are wrong are reported at once. An absent list of
dependencies stands for none; an absent name or dependency is wrong.
-/

namespace SpecCatalog.Specification

/-- The distinct entries that the rules refuse, an absent one first and the rest in
order. -/
def refused (rules : NameRules) (deps : List (Option String)) : List (Option String) :=
  let bad := deps.filter fun d => !rules.accepts d
  (if bad.contains none then [none] else []) ++ (NameSet.ofList (bad.filterMap id)).toList.map some

def ofOptions (rules : NameRules) (name : Option String)
    (dependencies : Option (List (Option String))) : Fallible Specification :=
  let deps := dependencies.getD []
  match refused rules deps with
  | [] =>
    match name with
    | some n =>
      if rules.isValid n then .ok ⟨n, .ofList (deps.filterMap id)⟩
      else .error (.invalidName (some n))
    | none => .error (.invalidName none)
  | invalid => .error (.invalidDependencies invalid)

def ofRules (rules : NameRules) (name : String) (dependencies : List String) :
    Fallible Specification :=
  ofOptions rules (some name) (some (dependencies.map some))

def ofNames (name : String) (dependencies : List String) : Fallible Specification :=
  ofRules .standard name dependencies

/-- A specification that depends on nothing. -/
def ofName (name : String) : Fallible Specification := ofOptions .standard (some name) none

end SpecCatalog.Specification
