import SpecCatalog.Archive.Fault
import SpecCatalog.Json.Cursor
import SpecCatalog.Location
import SpecCatalog.Name.Map
import SpecCatalog.Pattern.Refusal
import SpecCatalog.Specification.Basic

/-!
# Errors

Every failure is a cause with what belongs to it; `message` has the wording. Two of the
causes wrap another error: a descriptor that could not be read, with where it stands, and
a closure that could not be resolved, with how far it got. `rootCause` looks through both.
-/

namespace SpecCatalog

/-- Why a document could not be read or printed. -/
inductive DocumentError where
  | parsing (failure : Json.Failure)
  | writing (cause : IoError)

def DocumentError.message : DocumentError → String
  | .parsing ⟨fault, none⟩ => fault.message
  | .parsing ⟨fault, some p⟩ => s!"{fault.message} at line {p.line} column {p.column}"
  | .writing cause => cause.message

inductive ConfigError where
  | badPattern (pattern : String) (refusal : Pattern.Refusal)
  | emptyDirectory
  | badExtension (extension : String)
  | noIndent
  | unreadable (path : String) (cause : DocumentError)
  | custom (text : String)

def ConfigError.message : ConfigError → String
  | .badPattern pattern refusal => s!"bad name pattern {Text.quoted pattern}: {refusal.message}"
  | .emptyDirectory => "specs_directory cannot be empty"
  | .badExtension extension =>
    s!"extension must be a non-empty file suffix, got {Text.quoted extension}"
  | .noIndent => "indent must be at least 1"
  | .unreadable path cause => s!"cannot parse {path}: {cause.message}"
  | .custom text => text

inductive CatalogError where
  | invalidName (name : Option String)
  /-- The dependencies that are no names, sorted and each once; an absent one comes
  first. -/
  | invalidDependencies (invalid : List (Option String))
  | notFound (name path : String)
  /-- All definitions that were seen, in the order they were. -/
  | conflict (name : String) (definitions : List (Location × Specification))
  | malformed (location : Location) (cause : CatalogError)
  | decode (cause : DocumentError)
  | encode (spec : Specification) (cause : DocumentError)
  | io (place : String) (cause : IoError)
  | archive (place : String) (cause : Archive.Fault)
  | badConfig (cause : ConfigError)
  /-- What was loaded before the failure, with the dependencies of each. -/
  | resolution (requested : List String) (loaded : NameMap NameSet) (cause : CatalogError)
  deriving Inhabited

namespace CatalogError

/-- The kinds of errors. -/
inductive Kind where
  | invalidName
  | invalidDependencies
  | notFound
  | conflict
  | malformed
  | decode
  | encode
  | io
  | archive
  | badConfig
  | resolution
  deriving DecidableEq, Repr

def kind : CatalogError → Kind
  | invalidName _ => .invalidName
  | invalidDependencies _ => .invalidDependencies
  | notFound _ _ => .notFound
  | conflict _ _ => .conflict
  | malformed _ _ => .malformed
  | decode _ => .decode
  | encode _ _ => .encode
  | io _ _ => .io
  | archive _ _ => .archive
  | badConfig _ => .badConfig
  | resolution _ _ _ => .resolution

/-! ## Wording -/

/-- Texts one after the other with commas between. -/
def commas (texts : List String) : String := String.intercalate ", " texts

/-- A name as messages show it, without escapes. -/
def showName : Option String → String
  | some name => s!"\"{name}\""
  | none => "null"

/-- What every failed resolution ends with. -/
def resolutionHint : String :=
  "The requested specifications are discovered by scanning projects and modules on the search " ++
  "path. You may not have included the project containing the distributed metadata."

def showDefinition (d : Location × Specification) : String :=
  s!"{d.2.display} (from {d.1.display})"

def showLoaded (e : String × NameSet) : String :=
  s!"{e.1}=[{commas e.2.toList}]"

def message : CatalogError → String
  | invalidName name => s!"Invalid metadata name: {showName name}"
  | invalidDependencies invalid =>
    let label := if invalid.length = 1 then "Invalid dependency: " else "Invalid dependencies: "
    label ++ commas (invalid.map showName)
  | notFound name path => s!"Cannot find metadata \"{name}\" (resource name \"{path}\")"
  | conflict name definitions =>
    s!"Conflicting definitions of metadata \"{name}\": "
      ++ String.intercalate " vs " (definitions.map showDefinition)
  | malformed location cause => s!"Error reading definition from {location.display}: " ++ cause.message
  | decode cause => s!"Invalid descriptor body: {cause.message}"
  | encode spec cause => s!"Error writing definition for {spec.display}: {cause.message}"
  | io place cause => s!"I/O error at {place}: {cause.message}"
  | archive place cause => s!"Archive error at {place}: {cause.message}"
  | badConfig cause => s!"Invalid configuration: {cause.message}"
  | resolution requested loaded cause =>
    cause.message
      ++ s!"\nDirectly asked for: [{commas requested}]"
      ++ "\nLoaded up to now (with dependencies): \x7b"
      ++ commas (loaded.entries.map showLoaded)
      ++ "\x7d\n" ++ resolutionHint

/-! ## Causes -/

/-- The innermost error. -/
def rootCause : CatalogError → CatalogError
  | malformed _ cause => cause.rootCause
  | resolution _ _ cause => cause.rootCause
  | e => e

/-- The wordings of the causes behind an error, the nearest first. -/
def causes : CatalogError → List String
  | malformed _ cause => cause.message :: cause.causes
  | resolution _ _ cause => cause.message :: cause.causes
  | decode cause => [cause.message]
  | encode _ cause => [cause.message]
  | io _ cause => [cause.message]
  | archive _ (.io cause) => [(Archive.Fault.io cause).message, cause.message]
  | archive _ cause => [cause.message]
  | _ => []

end CatalogError

/-- What may fail with an error. -/
abbrev Fallible := Except CatalogError

/-! ## Steps that may fail -/

section Steps

variable {ε δ α β : Type} {x : Except ε α}

theorem bind_eq_ok_iff {f : α → Except ε β} {b : β} :
    (x >>= f) = .ok b ↔ ∃ a, x = .ok a ∧ f a = .ok b := by
  cases x with
  | error e => simp [bind, Except.bind]
  | ok a => simp [bind, Except.bind]

theorem bind_eq_error_iff {f : α → Except ε β} {e : ε} :
    (x >>= f) = .error e ↔ x = .error e ∨ ∃ a, x = .ok a ∧ f a = .error e := by
  cases x with
  | error e => simp [bind, Except.bind]
  | ok a => simp [bind, Except.bind]

theorem mapError_eq_ok_iff {f : ε → δ} {a : α} : x.mapError f = .ok a ↔ x = .ok a := by
  cases x with
  | error e =>
      constructor
      · intro h; cases h
      · intro h; cases h
  | ok a =>
      constructor
      · intro h; cases h; rfl
      · intro h; cases h; rfl

theorem mapError_eq_error_iff {f : ε → δ} {e : δ} :
    x.mapError f = .error e ↔ ∃ cause, x = .error cause ∧ f cause = e := by
  cases x with
  | error cause =>
      constructor
      · intro h; cases h; exact ⟨cause, rfl, rfl⟩
      · rintro ⟨_, h, rfl⟩; cases h; rfl
  | ok a =>
      constructor
      · intro h; cases h
      · rintro ⟨_, h, _⟩; cases h

theorem map_eq_error_iff {f : α → β} {e : ε} : x.map f = .error e ↔ x = .error e := by
  cases x with
  | error e => simp [Except.map]
  | ok a => simp [Except.map]

/-- A test that is passed says that there is something to test. -/
theorem exists_of_any_toOption {p : α → Bool} (h : x.toOption.any p = true) :
    ∃ a, x = .ok a ∧ p a = true := by
  cases x with
  | error e => cases h
  | ok a => exact ⟨a, rfl, h⟩

theorem eq_ok_of_any_toOption [DecidableEq α] {a : α}
    (h : x.toOption.any (fun b => b = a) = true) : x = .ok a := by
  obtain ⟨b, hb, he⟩ := exists_of_any_toOption h
  rw [hb, of_decide_eq_true he]

/-- One step after the other fails at the first that does; all before it were fine. -/
theorem mapM_eq_error_iff {f : α → Except ε β} {as : List α} {e : ε} :
    as.mapM f = .error e ↔ ∃ before a after, as = before ++ a :: after
      ∧ (∀ a' ∈ before, ∃ b, f a' = .ok b) ∧ f a = .error e := by
  induction as with
  | nil =>
      constructor
      · intro h; cases h
      · rintro ⟨before, a, after, h, _⟩
        exact absurd h.symm (by simp)
  | cons a as ih =>
      rw [List.mapM_cons]
      constructor
      · intro h
        rcases bind_eq_error_iff.1 h with h | ⟨b, hb, h⟩
        · exact ⟨[], a, as, rfl, by simp, h⟩
        · rcases bind_eq_error_iff.1 h with h | ⟨bs, _, h⟩
          · obtain ⟨before, a', after, rfl, hbefore, he⟩ := ih.1 h
            refine ⟨a :: before, a', after, rfl, ?_, he⟩
            intro a'' hm
            rcases List.mem_cons.1 hm with rfl | hm
            · exact ⟨b, hb⟩
            · exact hbefore a'' hm
          · cases h
      · rintro ⟨before, a', after, h, hbefore, he⟩
        cases before with
        | nil =>
            cases h
            exact bind_eq_error_iff.2 (.inl he)
        | cons a'' before =>
            cases h
            obtain ⟨b, hb⟩ := hbefore a List.mem_cons_self
            refine bind_eq_error_iff.2 (.inr ⟨b, hb, bind_eq_error_iff.2 (.inl ?_)⟩)
            exact ih.2
              ⟨before, a', after, rfl, fun x hm => hbefore x (List.mem_cons_of_mem _ hm), he⟩

/-- Step after step fails at the first that does; all before it went well. -/
theorem foldlM_eq_error_iff {f : β → α → Except ε β} {as : List α} {b : β} {e : ε} :
    as.foldlM f b = .error e ↔ ∃ before a after b', as = before ++ a :: after
      ∧ before.foldlM f b = .ok b' ∧ f b' a = .error e := by
  induction as generalizing b with
  | nil =>
      constructor
      · intro h; cases h
      · rintro ⟨before, a, after, _, h, _⟩
        exact absurd h.symm (by simp)
  | cons a as ih =>
      rw [List.foldlM_cons, bind_eq_error_iff]
      constructor
      · rintro (h | ⟨b₁, hb, h⟩)
        · exact ⟨[], a, as, b, rfl, rfl, h⟩
        · obtain ⟨before, a', after, b', rfl, hbefore, he⟩ := ih.1 h
          refine ⟨a :: before, a', after, b', rfl, ?_, he⟩
          rw [List.foldlM_cons]
          exact bind_eq_ok_iff.2 ⟨b₁, hb, hbefore⟩
      · rintro ⟨before, a', after, b', h, hbefore, he⟩
        cases before with
        | nil =>
            cases h
            cases hbefore
            exact .inl he
        | cons a'' before =>
            cases h
            rw [List.foldlM_cons] at hbefore
            obtain ⟨b₁, hb, hbefore⟩ := bind_eq_ok_iff.1 hbefore
            exact .inr ⟨b₁, hb, ih.2 ⟨before, a', after, b', rfl, hbefore, he⟩⟩

end Steps

end SpecCatalog
