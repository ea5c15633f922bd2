/-!
# Arguments

The arguments name one of three commands with its options. An option's value follows it
as the next argument or after an equals sign, with a one-letter option also right away; a
next argument that starts with a hyphen is no value, unless it is a single one. Two
hyphens end the options. Two options stand before the command or among its own.
-/

namespace SpecCatalog.CommandLine

inductive Command where
  | write (out name : String) (dependencies : List String)
  | resolve (paths names : List String)
  | discover (paths : List String)
  deriving DecidableEq, Repr

structure Invocation where
  config : Option String
  logFilter : Option String
  command : Command
  deriving DecidableEq, Repr

/-- Why the arguments make no invocation. -/
inductive Usage where
  | wrong
  /-- Help was asked for. -/
  | help
  deriving DecidableEq, Repr

/-! ## Options -/

structure OptionRule where
  name : String
  letter : Option Char := none
  /-- The option may come more than once. -/
  repeats : Bool := false
  /-- The option's value is a path, which is never empty. -/
  isPath : Bool := false
  deriving DecidableEq, Repr

def globalOptions : List OptionRule :=
  [{ name := "config", isPath := true }, { name := "log-filter" }]

def writeOptions : List OptionRule :=
  [{ name := "out", letter := some 'o', isPath := true }, { name := "name" },
   { name := "dep", repeats := true }]

def pathOptions : List OptionRule := [{ name := "path", repeats := true, isPath := true }]

/-- What one argument is. -/
inductive Shape where
  | free
  | ending
  /-- An option by its name, with the value attached to it. -/
  | long (name : List Char) (value : Option (List Char))
  | short (letter : Char) (value : Option (List Char))
  deriving DecidableEq, Repr

/-- What stands before the first equals sign and after it. -/
def splitEquals (s : List Char) : List Char × Option (List Char) :=
  match s.dropWhile (· ≠ '=') with
  | [] => (s, none)
  | _ :: value => (s.takeWhile (· ≠ '='), some value)

def shapeOf (arg : String) : Shape :=
  match arg.toList with
  | ['-', '-'] => .ending
  | '-' :: '-' :: s => .long (splitEquals s).1 (splitEquals s).2
  | '-' :: letter :: '=' :: value => .short letter (some value)
  | ['-', letter] => .short letter none
  | '-' :: letter :: value => .short letter (some value)
  | _ => .free

/-- Whether the argument can be the value of the option before it. -/
def isValue (arg : String) : Bool :=
  match shapeOf arg with
  | .free => true
  | _ => false

/-! ## Reading -/

/-- What was read from the arguments. -/
structure Given where
  options : List (String × String) := []
  free : List String := []
  deriving Repr

def Given.values (g : Given) (name : String) : List String :=
  (g.options.filter (·.1 = name)).map (·.2)

def Given.value? (g : Given) (name : String) : Option String := (g.values name).head?

/-- Adds an option, if its value is one it can have and it did not come too often. -/
def Given.add (g : Given) (rule : OptionRule) (value : String) : Except Usage Given :=
  if rule.isPath ∧ value = "" then .error .wrong
  else if !rule.repeats ∧ g.values rule.name ≠ [] then .error .wrong
  else .ok { g with options := g.options ++ [(rule.name, value)] }

/-- The rule for an option that was found. -/
def ruleFor (rules : List OptionRule) : Shape → Except Usage OptionRule
  | .long name _ =>
    if name = "help".toList then .error .help
    else
      match rules.find? fun r => r.name.toList = name with
      | some r => .ok r
      | none => .error .wrong
  | .short letter _ =>
    if letter = 'h' then .error .help
    else
      match rules.find? fun r => r.letter = some letter with
      | some r => .ok r
      | none => .error .wrong
  | _ => .error .wrong

def Shape.attached : Shape → Option String
  | .long _ value => value.map String.ofList
  | .short _ value => value.map String.ofList
  | _ => none

/-- Takes up an option. If no value is attached to it, the next argument has to be one. -/
def Given.addShape (g : Given) (rules : List OptionRule) (shape : Shape) :
    Except Usage (Given × Option OptionRule) := do
  let rule ← ruleFor rules shape
  match shape.attached with
  | some value => return (← g.add rule value, none)
  | none => return (g, some rule)

/-- Takes up the value of an option. -/
def Given.addValue (g : Given) (rule : OptionRule) (value : String) : Except Usage Given :=
  if isValue value then g.add rule value else .error .wrong

/-- Reads the arguments of a command; an option may wait for its value. -/
def readGiven (rules : List OptionRule) : Given → Option OptionRule → List String →
    Except Usage Given
  | g, none, [] => .ok g
  | _, some _, [] => .error .wrong
  | g, some rule, arg :: rest => do
    let g ← g.addValue rule arg
    readGiven rules g none rest
  | g, none, arg :: rest =>
    match shapeOf arg with
    | .free => readGiven rules { g with free := g.free ++ [arg] } none rest
    | .ending => .ok { g with free := g.free ++ rest }
    | shape => do
      let (g, waiting) ← g.addShape rules shape
      readGiven rules g waiting rest

/-- Reads the options before the command, and gives the command's name and arguments. -/
def readCommand : Given → Option OptionRule → List String →
    Except Usage (Given × String × List String)
  | _, _, [] => .error .wrong
  | g, some rule, arg :: rest => do
    let g ← g.addValue rule arg
    readCommand g none rest
  | g, none, arg :: rest =>
    match shapeOf arg with
    | .free => .ok (g, arg, rest)
    | .ending => .error .wrong
    | shape => do
      let (g, waiting) ← g.addShape globalOptions shape
      readCommand g waiting rest

def required (value : Option String) : Except Usage String :=
  match value with
  | some v => .ok v
  | none => .error .wrong

def someOf (values : List String) : Except Usage (List String) :=
  if values.isEmpty then .error .wrong else .ok values

def noneOf (values : List String) : Except Usage Unit :=
  if values.isEmpty then .ok () else .error .wrong

/-- Reads the arguments. An option given both before and after the command counts as it
was given after. -/
def Invocation.ofArguments (args : List String) : Except Usage Invocation := do
  let (before, name, rest) ← readCommand {} none args
  let finish (g : Given) (command : Command) : Invocation :=
    { config := (g.value? "config").or (before.value? "config")
      logFilter := (g.value? "log-filter").or (before.value? "log-filter")
      command }
  if name = "write" then
    let g ← readGiven (globalOptions ++ writeOptions) {} none rest
    noneOf g.free
    return finish g (.write (← required (g.value? "out")) (← required (g.value? "name"))
      (g.values "dep"))
  else if name = "resolve" then
    let g ← readGiven (globalOptions ++ pathOptions) {} none rest
    return finish g (.resolve (← someOf (g.values "path")) (← someOf g.free))
  else if name = "discover" then
    let g ← readGiven (globalOptions ++ pathOptions) {} none rest
    noneOf g.free
    return finish g (.discover (← someOf (g.values "path")))
  else if name = "help" then throw .help
  else throw .wrong

end SpecCatalog.CommandLine
