import SpecCatalog.Name.Rules

/-!
# Where descriptors stand

Every descriptor stands in one directory, under the name of its specification with an
extension. So the path follows from the name alone, and a path is a descriptor's exactly
if it is the path of some name.
-/

namespace SpecCatalog

structure Layout where
  directory : String
  extension : String
  deriving DecidableEq, Repr

namespace Layout

def standardDirectory : String := "metadata/specs"

def standardExtension : String := ".json"

/-- Without the slashes at both ends. -/
def trimSlashes (s : String) : String :=
  String.ofList ((s.toList.dropWhile (· = '/')).reverse.dropWhile (· = '/')).reverse

def ofParts (directory extension : String) : Layout := ⟨trimSlashes directory, extension⟩

def standard : Layout := ofParts standardDirectory standardExtension

/-- The path of a valid name. -/
def pathOf (l : Layout) (name : String) : String := l.directory ++ "/" ++ name ++ l.extension

def specPath (l : Layout) (rules : NameRules) (name : String) : Fallible String :=
  (rules.validate name).map l.pathOf

/-- The text before an ending. -/
def beforeEnding (ending s : List Char) : Option (List Char) :=
  let kept := s.length - ending.length
  if s.drop kept = ending then some (s.take kept) else none

/-- The name that a file name is made from. -/
def nameOfFileName? (l : Layout) (rules : NameRules) (fileName : String) : Option String :=
  match beforeEnding l.extension.toList fileName.toList with
  | some stem =>
    if rules.isValid (String.ofList stem) then some (String.ofList stem) else none
  | none => none

def isSpecFileName (l : Layout) (rules : NameRules) (fileName : String) : Bool :=
  (l.nameOfFileName? rules fileName).isSome

/-- What stands before the last slash and after it. -/
def splitLast (path : List Char) : Option (List Char × List Char) :=
  match path.reverse.dropWhile (· ≠ '/') with
  | [] => none
  | _ :: before => some (before.reverse, (path.reverse.takeWhile (· ≠ '/')).reverse)

/-- Whether a path is the path of some name. -/
def isSpecPath (l : Layout) (rules : NameRules) (path : String) : Bool :=
  match splitLast path.toList with
  | some (directory, fileName) =>
    directory = l.directory.toList && l.isSpecFileName rules (String.ofList fileName)
  | none => false

end Layout

end SpecCatalog
