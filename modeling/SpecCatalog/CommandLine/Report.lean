import SpecCatalog.Error

/-!
# Reports of failures

A report gives the failure and below it what caused it, the nearest cause first. A single
cause is indented; several are numbered, and their further lines stand below the text.
-/

namespace SpecCatalog.CommandLine

/-- The lines of a text. -/
def linesOf (s : String) : List String := (splitLines s.toList).map String.ofList
where
  splitLines : List Char → List (List Char)
    | [] => [[]]
    | c :: cs =>
      if c = '\n' then [] :: splitLines cs
      else
        match splitLines cs with
        | [] => [[c]]
        | l :: ls => (c :: l) :: ls

/-- A text whose first line follows `lead` and whose others are indented as far. -/
def hanging (lead indent text : String) : String :=
  lead ++ String.intercalate ("\n" ++ indent) (linesOf text)

def numberedCause (i : Nat) (text : String) : String :=
  let digits := toString i
  hanging (String.ofList (List.replicate (5 - digits.length) ' ') ++ digits ++ ": ") "       " text

def report (failure : String) (causes : List String) : String :=
  let below :=
    match causes with
    | [] => ""
    | [cause] => "\n\nCaused by:\n" ++ hanging "    " "    " cause
    | _ =>
      "\n\nCaused by:\n"
        ++ String.intercalate "\n" (causes.zipIdx.map fun (cause, i) => numberedCause i cause)
  s!"Error: {failure}{below}\n"

end SpecCatalog.CommandLine
