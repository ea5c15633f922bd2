import SpecCatalog.FileTree.Operations
import SpecCatalog.Json.Record
import SpecCatalog.Layout

/-!
# Configuration

A configuration says where descriptors stand, what names look like and how far descriptors
are indented. It is read from a file, where every part may be left out.
-/

namespace SpecCatalog

structure Config where
  specsDirectory : String := Layout.standardDirectory
  extension : String := Layout.standardExtension
  namePattern : String := NameRules.standardPattern
  indent : Nat := 2
  deriving DecidableEq, Repr

namespace Config

open Json.Scan in
def shape : Json.Shape Config where
  title := "struct Config"
  blank := {}
  fields :=
    [⟨"specs_directory", false, fun c => do return { c with specsDirectory := ← textValue }⟩,
     ⟨"extension", false, fun c => do return { c with extension := ← textValue }⟩,
     ⟨"name_pattern", false, fun c => do return { c with namePattern := ← textValue }⟩,
     ⟨"indent", false, fun c => do return { c with indent := ← countValue }⟩]

/-- Reads the file at the path. -/
def ofFile (t : FileTree) (path : String) : Fallible Config :=
  match t.contents path with
  | .error e => .error (.io path e)
  | .ok body =>
    match Text.ofBytes? body with
    | none => .error (.io path .notText)
    | some _ =>
      match shape.parse body with
      | .ok c => .ok c
      | .error f => .error (.badConfig (.unreadable path (.parsing f)))

/-- What must hold of the parts, the pattern aside. -/
def check (c : Config) : Except ConfigError Unit :=
  if Layout.trimSlashes c.specsDirectory = "" then .error .emptyDirectory
  else if c.extension = "" ∨ c.extension.toList.contains '/' then
    .error (.badExtension c.extension)
  else if c.indent = 0 then .error .noIndent
  else .ok ()

end Config

end SpecCatalog
