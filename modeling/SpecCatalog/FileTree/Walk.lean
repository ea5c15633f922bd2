import SpecCatalog.FileTree.Basic
import SpecCatalog.FileTree.IoError

/-!
# Where a path leads

A path is walked part by part from the home directory, or from the top if it starts with
a slash. On the way links are followed: what is left of the path comes after the parts of
the link's target. The walk ends at an item or at a free place, where an item could be
put; anything else is an error. Forty links may be followed on one walk, so every walk
ends.
-/

namespace SpecCatalog.FileTree

/-- Where a walk ends. -/
inductive Spot where
  | item (route : Route) (i : Item)
  | vacant (folder : Route) (name : String)
  deriving DecidableEq, Repr

/-- What a path is walked for, which decides about its last part. -/
inductive Aim where
  /-- The item itself; a link there is followed. -/
  | look
  /-- A file that may have to be made; a slash at the end would ask for a directory. -/
  | newFile
  /-- The name of a directory to be made, which no link stands for. -/
  | newDirectory
  deriving DecidableEq, Repr

/-- The most links followed on one walk. -/
def linkLimit : Nat := 40

/-- The longest name in bytes. -/
def nameLimit : Nat := 255

/-- One more than the bytes of the longest path. -/
def pathLimit : Nat := 4096

/-- Walks down from the directory `here`; a link is left to `follow`, with the directory
that holds it, its target and the parts after it. -/
def walkParts (t : FileTree) (aim : Aim)
    (follow : Route → String → List String → Except OsError Spot) :
    Route → List String → Except OsError Spot
  | here, [] => .ok (.item here .directory)
  | here, part :: rest =>
    if part = "" ∨ part = "." then walkParts t aim follow here rest
    else if part = ".." then walkParts t aim follow here.dropLast rest
    else
      let last := rest.all (· = "")
      let slash := !rest.isEmpty
      if aim = .newFile ∧ last ∧ slash then .error .isDirectory
      else if nameLimit < part.utf8ByteSize then .error .nameTooLong
      else
        match t.item? (here ++ [part]) with
        | none => if last then .ok (.vacant here part) else .error .notFound
        | some .directory => walkParts t aim follow (here ++ [part]) rest
        | some (.file body) =>
          if last ∧ (aim = .newDirectory ∨ !slash) then .ok (.item (here ++ [part]) (.file body))
          else .error .notDirectory
        | some (.link target) =>
          if last ∧ aim = .newDirectory then .ok (.item (here ++ [part]) (.link target))
          else follow here target rest

/-- Walks with so many links left to follow. -/
def walk (t : FileTree) (aim : Aim) : Nat → Route → List String → Except OsError Spot
  | 0 => walkParts t aim fun _ _ _ => .error .tooManyLinks
  | links + 1 => walkParts t aim fun here target rest =>
    walk t aim links (if PathText.isAbsolute target then [] else here)
      (PathText.parts target ++ rest)

/-- Where the path leads. -/
def resolve (t : FileTree) (aim : Aim) (path : String) : Except IoError Spot :=
  if path.toList.contains '\x00' then .error .nulInPath
  else if path.isEmpty then .error (.os .notFound)
  else if pathLimit ≤ path.utf8ByteSize then .error (.os .nameTooLong)
  else
    (walk t aim linkLimit (if PathText.isAbsolute path then [] else t.home)
      (PathText.parts path)).mapError .os

end SpecCatalog.FileTree
