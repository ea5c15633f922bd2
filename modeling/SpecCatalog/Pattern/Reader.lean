import SpecCatalog.Pattern.Expr
import SpecCatalog.Pattern.Refusal
import SpecCatalog.Unicode.Age
import SpecCatalog.Unicode.Breaks
import SpecCatalog.Unicode.Script

/-!
# Reading patterns

A pattern is read from left to right into an expression. The flags in force are known
at every point, so each part of the pattern gets its meaning when it is read: a flag
set inside a group holds up to the end of the group.

Every part also carries how deep it is nested and about how many states a matching
machine for it would have. Both are bounded, and the second is looked at before a
counted repetition is written out, so a short pattern cannot ask for a huge expression.
-/

namespace SpecCatalog.Pattern

structure Flags where
  ignoreCase : Bool := false
  multiLine : Bool := false
  dotAll : Bool := false
  swapGreed : Bool := false
  unicode : Bool := true
  anyLineEnd : Bool := false
  /-- Blanks and comments in the pattern mean nothing. -/
  verbose : Bool := false
  deriving DecidableEq, Repr, Inhabited

/-- What is left of the pattern, the flags in force and the group names so far. -/
structure Source where
  rest : List Char
  flags : Flags
  groupNames : List (List Char)

abbrev Reader := EStateM Refusal Source

/-- A part of a pattern that has been read. -/
structure Part where
  expr : Expr
  depth : Nat
  states : Nat
  deriving Inhabited

namespace Part

def deepest : Nat := 250

def mostStates : Nat := 327680

end Part

namespace Reader

/-! ## Single characters -/

def peek : Reader (Option Char) := fun s => .ok s.rest.head? s

def skip : Reader Unit := fun s => .ok () { s with rest := s.rest.tail }

def refuse {α : Type} (r : Refusal) : Reader α := fun s => .error r s

def flags : Reader Flags := fun s => .ok s.flags s

def setFlags (f : Flags) : Reader Unit := fun s => .ok () { s with flags := f }

/-- Takes the text if it comes next. -/
def takeIf (text : List Char) : Reader Bool := fun s =>
  if text.isPrefixOf s.rest then .ok true { s with rest := s.rest.drop text.length }
  else .ok false s

def isSpace (c : Char) : Bool := Unicode.whiteSpace.contains c

/-- The text without the blanks and comments it starts with. -/
def pastSpaces : List Char → Bool → List Char
  | [], _ => []
  | c :: cs, true => pastSpaces cs (c != '\n')
  | c :: cs, false =>
    if isSpace c then pastSpaces cs false
    else if c = '#' then pastSpaces cs true
    else c :: cs

/-- Passes over blanks and comments where they mean nothing. -/
def skipSpaces : Reader Unit := fun s =>
  .ok () (if s.flags.verbose then { s with rest := pastSpaces s.rest false } else s)

/-- Takes a character and the blanks after it. -/
def skipOne : Reader Unit := do
  skip
  skipSpaces

/-! ## Numbers and escapes -/

/-- Blanks inside a counted repetition never mean anything. -/
def skipBlanks : Reader Unit := fun s =>
  .ok () { s with rest := s.rest.dropWhile isSpace }

def digitsFor : Nat → Reader (List Char)
  | 0 => return []
  | fuel + 1 => do
    match ← peek with
    | some c =>
      if '0' ≤ c && c ≤ '9' then
        skipOne
        return c :: (← digitsFor fuel)
      else return []
    | none => return []

/-- A decimal below `2 ^ 32`, with the blanks around it; nothing if there is no digit. -/
def decimal? : Reader (Option Nat) := do
  skipBlanks
  let ds ← fun s => digitsFor s.rest.length s
  skipBlanks
  if ds.isEmpty then return none
  else
    let n := ds.foldl (fun n d => n * 10 + (d.toNat - '0'.toNat)) 0
    if n < Nat.pow 2 32 then return some n else refuse .badCount

/-- What a hexadecimal escape stands for. -/
def charOfHex (ds : List Char) : Reader Char :=
  let n := ds.foldl (fun n d => n * 16 + (Unicode.Ranges.hexDigit? d).getD 0) 0
  if n < 0xd800 || (0xdfff < n && n < 0x110000) then return Char.ofNat n else refuse .badHex

def hexDigits : Nat → Reader (List Char)
  | 0 => return []
  | n + 1 => do
    match ← peek with
    | none => refuse .unfinishedEscape
    | some c =>
      if (Unicode.Ranges.hexDigit? c).isSome then
        skipOne
        return c :: (← hexDigits n)
      else refuse .badHex

/-- The digits up to a closing brace, which is taken. -/
def bracedHex : Nat → Reader (List Char)
  | 0 => refuse .unfinishedEscape
  | fuel + 1 => do
    match ← peek with
    | none => refuse .unfinishedEscape
    | some c =>
      if c = '\x7d' then
        skipOne
        return []
      else if (Unicode.Ranges.hexDigit? c).isSome then
        skipOne
        return c :: (← bracedHex fuel)
      else refuse .badHex

/-- A character given by its code point, and whether it was given by exactly two
digits, which without Unicode stand for a byte. -/
def hexEscape (letter : Char) : Reader (Char × Bool) := do
  skipOne
  match ← peek with
  | none => refuse .unfinishedEscape
  | some '\x7b' =>
    skipOne
    let ds ← fun s => bracedHex (s.rest.length + 1) s
    if ds.isEmpty then refuse .badHex else return (← charOfHex ds, false)
  | some _ =>
    let ds ← hexDigits (if letter = 'x' then 2 else if letter = 'u' then 4 else 8)
    return (← charOfHex ds, letter = 'x')

/-! ## Unicode properties -/

/-- The class that one row of a table gives. -/
def rowClass? (table : List Unicode.Named) (name : String) : Option CharClass :=
  (Unicode.Named.find? table name).map fun row => .table row.ranges

/-- The class that a property name, or a category or script name, stands for. -/
def propertyClass? (name : String) : Option CharClass :=
  let loose := Unicode.Named.loosely name
  let property := if ["cf", "sc", "lc"].contains loose then none
    else Unicode.Named.find? Unicode.propertyTable name
  match property with
  | some row => some (.table row.ranges)
  | none =>
    match categoryClass? name with
    | some k => some k
    | none => rowClass? Unicode.scriptTable name
where
  categoryClass? (name : String) : Option CharClass :=
    let loose := Unicode.Named.loosely name
    if loose = "any" then some .everything
    else if loose = "ascii" then some (.span '\x00' '\x7f')
    else if loose = "assigned" then some (.table Unicode.assignedRanges)
    else if loose = "cn" || loose = "unassigned" then some (.not (.table Unicode.assignedRanges))
    else if loose = "c" || loose = "other" then
      some (.or (.table (Unicode.categoriesRanges ["cc", "cf", "cs", "co"]))
        (.not (.table Unicode.assignedRanges)))
    else
      match Unicode.categoryGroups.find? fun g => g.1.contains loose with
      | some g => some (.table (Unicode.categoriesRanges g.2))
      | none => rowClass? Unicode.categoryTable name

/-- The class of the characters for which a property has a value. -/
def valueClass? (property value : String) : Option CharClass :=
  let loose := Unicode.Named.loosely property
  if ["gc", "generalcategory"].contains loose then propertyClass?.categoryClass? value
  else if ["sc", "script"].contains loose then rowClass? Unicode.scriptTable value
  else if ["scx", "scriptextensions"].contains loose then
    -- a script without a row of its own has no more characters here than as a script
    (rowClass? Unicode.scriptExtensionTable value).or (rowClass? Unicode.scriptTable value)
  else if loose = "age" then (Unicode.ageRanges? value).map .table
  else if ["gcb", "graphemeclusterbreak"].contains loose then
    rowClass? Unicode.graphemeBreakTable value
  else if ["wb", "wordbreak"].contains loose then rowClass? Unicode.wordBreakTable value
  else if ["sb", "sentencebreak"].contains loose then rowClass? Unicode.sentenceBreakTable value
  else none

/-- Splits at the first place where `mark` stands. -/
def cutAt (mark : List Char) : List Char → Option (List Char × List Char)
  | [] => none
  | c :: cs =>
    if mark.isPrefixOf (c :: cs) then some ([], (c :: cs).drop mark.length)
    else (cutAt mark cs).map fun p => (c :: p.1, p.2)

/-- The class that the text between the braces of a property stands for. -/
def namedClass? (text : List Char) : Option CharClass :=
  let value (p : List Char × List Char) := valueClass? (String.ofList p.1) (String.ofList p.2)
  match cutAt ['!', '='] text, cutAt [':'] text, cutAt ['='] text with
  | some p, _, _ => (value p).map .not
  | none, some p, _ => value p
  | none, none, some p => value p
  | none, none, none => propertyClass? (String.ofList text)

def propertyName : Nat → Reader (List Char)
  | 0 => refuse .unfinishedEscape
  | fuel + 1 => do
    match ← peek with
    | none => refuse .unfinishedEscape
    | some c =>
      if c = '\x7d' then
        skip
        return []
      else
        skipOne
        return c :: (← propertyName fuel)

/-- A property class, read from its letter on. -/
def property (negated : Bool) : Reader CharClass := do
  skipOne
  let k? ← do
    match ← peek with
    | none => refuse .unfinishedEscape
    | some '\x7b' =>
      skipOne
      let name ← fun s => propertyName (s.rest.length + 1) s
      pure (namedClass? name)
    | some '\\' => refuse .unknownProperty
    | some c =>
      skipOne
      pure (propertyClass? (String.singleton c))
  match k? with
  | none => refuse .unknownProperty
  | some k =>
    let f ← flags
    if !f.unicode then refuse .notUnicode
    else return .negatedIf negated (if f.ignoreCase then .anyCase k else k)

/-! ## Escapes -/

/-- What an escape, or a character that means itself, can be. -/
inductive Primitive where
  | literal (c : Char) (byte : Bool)
  | cls (k : CharClass)
  | look (l : Look)

/-- The characters with a meaning of their own somewhere in a pattern. -/
def metaCharacters : List Char :=
  ['\\', '.', '+', '*', '?', '(', ')', '|', '[', ']', '\x7b', '\x7d', '^', '$', '#', '&', '-', '~']

/-- Characters that a backslash before them does not change. -/
def isPlainEscape (c : Char) : Bool :=
  metaCharacters.contains c || (c.toNat < 128 && !c.isAlphanum && c != '<' && c != '>')

/-- Letters that stand for a control character. -/
def controlLetters : List (Char × Char) :=
  [('a', '\x07'), ('f', '\x0c'), ('t', '\t'), ('n', '\n'), ('r', '\r'), ('v', '\x0b')]

/-- The classes of digits, blanks and word characters; the capital letter negates. -/
def shorthand (c : Char) : Reader CharClass := do
  let f ← flags
  let negated := c.isUpper
  if !f.unicode && negated then refuse .notUtf8
  else
    let k := match c.toLower, f.unicode with
      | 'd', true => CharClass.digit
      | 'd', false => CharClass.asciiDigit
      | 's', true => CharClass.space
      | 's', false => CharClass.asciiSpace
      | _, true => CharClass.word
      | _, false => CharClass.asciiWord
    return .negatedIf negated k

def isEdgeLetter (c : Char) : Bool := c.isAlpha || c = '-'

def edgeName : Nat → Reader (List Char)
  | 0 => return []
  | fuel + 1 => do
    match ← peek with
    | some c =>
      if isEdgeLetter c then
        skipOne
        return c :: (← edgeName fuel)
      else return []
    | none => return []

/-- The edge of a word, whose kind may follow in braces. Braces that hold no name belong
to a repetition and are left alone. -/
def wordEdge (ascii : Bool) : Reader Look := fun s =>
  match s.rest with
  | '\x7b' :: _ =>
    let named : Reader Look := do
      skipOne
      match ← peek with
      | none => refuse .badWordEdge
      | some c =>
        if isEdgeLetter c then
          let name ← fun s => edgeName s.rest.length s
          match ← peek with
          | some '\x7d' =>
            skip
            match String.ofList name with
            | "start" => return .wordStart ascii
            | "end" => return .wordEnd ascii
            | "start-half" => return .noWordBefore ascii
            | "end-half" => return .noWordAfter ascii
            | _ => refuse .badWordEdge
          | _ => refuse .badWordEdge
        else fun _ => .ok (.wordEdge ascii) s
    named s
  | _ => .ok (.wordEdge ascii) s

/-- An escape, read from its backslash on. -/
def escape : Reader Primitive := do
  skip
  match ← peek with
  | none => refuse .unfinishedEscape
  | some c =>
    let ascii := !(← flags).unicode
    if '0' ≤ c && c ≤ '9' then refuse .backreference
    else if c = 'x' || c = 'u' || c = 'U' then
      let (c, byte) ← hexEscape c
      return .literal c byte
    else if c = 'p' || c = 'P' then return .cls (← property (c = 'P'))
    else if ['d', 's', 'w', 'D', 'S', 'W'].contains c then
      skip
      return .cls (← shorthand c)
    else
      skip
      if isPlainEscape c then return .literal c false
      else
        match controlLetters.find? fun p => p.1 = c with
        | some p => return .literal p.2 false
        | none =>
          match c with
          | 'A' => return .look .textStart
          | 'z' => return .look .textEnd
          | 'b' => return .look (← wordEdge ascii)
          | 'B' => return .look (.noWordEdge ascii)
          | '<' => return .look (.wordStart ascii)
          | '>' => return .look (.wordEnd ascii)
          | _ => refuse .badEscape

/-- The class of one character under the flags in force. -/
def literalClass (c : Char) (byte : Bool) : Reader CharClass := do
  let f ← flags
  if !f.unicode && byte && 0x7f < c.toNat then refuse .notUtf8
  else if !f.ignoreCase then return .one c
  else if f.unicode then return .anyCase (.one c)
  else if 0x7f < c.toNat then refuse .notUnicode
  else return .or (.one c.toLower) (.one c.toUpper)

/-! ## Bracketed classes -/

/-- A class being read, how deep it is nested, and how many items went into it. -/
structure Items where
  cls : CharClass := .nothing
  depth : Nat := 0
  count : Nat := 0

namespace Items

def add (u : Items) (k : CharClass) (depth : Nat) : Items :=
  { cls := if u.count = 0 then k else .or u.cls k
    depth := max u.depth depth
    count := u.count + 1 }

/-- Several items side by side count as one more level. -/
def level (u : Items) : Nat := if u.count ≤ 1 then u.depth else u.depth + 1

end Items

inductive SetOperator where
  | intersection
  | difference
  | symmetricDifference

/-- What stands to the left of a set operator. -/
structure Operand where
  cls : CharClass
  depth : Nat
  operator : SetOperator

/-- Without Unicode a class may only have ASCII characters in it. -/
def checkedClass (k : CharClass) : Reader CharClass := do
  if (← flags).unicode then return k
  else if (List.range 128).any fun n => k.contains (Char.ofNat (n + 128)) then refuse .notUtf8
  else return k

def folded (k : CharClass) : Reader CharClass := do
  let f ← flags
  if !f.ignoreCase then return k
  else if f.unicode then return .anyCase k
  else
    let others := (List.range 128).filterMap fun n =>
      let c := Char.ofNat n
      if !k.contains c && (k.contains c.toLower || k.contains c.toUpper) then some c else none
    return .or k (.ofList others)

/-- The items so far, with what an operator before them makes of them. -/
def operate (left : Option Operand) (u : Items) : Reader (CharClass × Nat) := do
  match left with
  | none => return (u.cls, u.level)
  | some o =>
    let a ← folded o.cls
    let b ← folded u.cls
    let k := match o.operator with
      | .intersection => CharClass.and a b
      | .difference => CharClass.minus a b
      | .symmetricDifference => CharClass.xor a b
    return (k, max o.depth u.level + 1)

/-- One end of a range, or an item by itself. -/
def setPrimitive : Reader Primitive := do
  match ← peek with
  | none => refuse .unclosedClass
  | some '\\' => escape
  | some c =>
    skip
    return .literal c false

/-- The character that a primitive in a class stands for. -/
def setLiteral : Primitive → Reader Char
  | .literal c byte => do
    let f ← flags
    if !f.unicode && 0x7f < c.toNat then refuse (if byte then .notUtf8 else .notUnicode)
    else return c
  | _ => refuse .noRangeEnd

def setItem (p : Primitive) : Reader CharClass := do
  match p with
  | .cls k => return k
  | .look _ => refuse .noClassItem
  | .literal _ _ => return .one (← setLiteral p)

/-- The character after the next one, blanks and comments aside. -/
def peekAfterNext : Reader (Option Char) := fun s =>
  let rest := s.rest.tail
  .ok (if s.flags.verbose then pastSpaces rest false else rest).head? s

/-- An item of a class: a character, a range, or a class with a name of its own. -/
def setRange : Reader CharClass := do
  let first ← setPrimitive
  skipSpaces
  match ← peek with
  | none => refuse .unclosedClass
  | some c =>
    let after ← peekAfterNext
    if c != '-' || after = some ']' || after = some '-' then setItem first
    else
      skipOne
      match ← peek with
      | none => refuse .unclosedClass
      | some _ =>
        let last ← setPrimitive
        let low ← setLiteral first
        let high ← setLiteral last
        if low ≤ high then return .span low high else refuse .badClassRange

/-- A class between colons, which comes with its own brackets; nothing is taken if the
text is not one. -/
def posixClass? : Reader (Option CharClass) := fun s =>
  match s.rest with
  | '[' :: ':' :: rest =>
    let (negated, rest) := match rest with
      | '^' :: rest => (true, rest)
      | rest => (false, rest)
    match cutAt [':'] rest with
    | some (name, ']' :: after) =>
      match CharClass.posix.find? fun p => p.1.toList = name with
      | some p =>
        let read : Reader (Option CharClass) := do
          let k ← folded p.2
          let k ← checkedClass (.negatedIf negated k)
          return some k
        read { s with rest := after }
      | none => .ok none s
    | _ => .ok none s
  | _ => .ok none s

/-- What a class starts with after its bracket: a negation, then dashes or a closing
bracket that mean themselves. -/
def setOpening : Reader (Bool × Items) := do
  skipOne
  let negated ← do
    match ← peek with
    | none => refuse .unclosedClass
    | some '^' =>
      skipOne
      pure true
    | some _ => pure false
  let u ← fun s => dashes s.rest.length {} s
  match ← peek with
  | none => refuse .unclosedClass
  | some c =>
    if u.count = 0 && c = ']' then
      skipOne
      if (← peek).isNone then refuse .unclosedClass
      else return (negated, u.add (.one ']') 0)
    else return (negated, u)
where
  dashes : Nat → Items → Reader Items
    | 0, u => return u
    | fuel + 1, u => do
      match ← peek with
      | some '-' =>
        skipOne
        dashes fuel (u.add (.one '-') 0)
      | _ => return u

/-- A class, read from its opening bracket on, and how deep it is nested. Each round
takes a character. -/
def setFrom : Nat → Reader (CharClass × Nat)
  | 0 => refuse .unclosedClass
  | fuel + 1 => do
    let (negated, u) ← setOpening
    let (k, depth) ← items fuel none u
    let k ← folded k
    let k ← checkedClass (.negatedIf negated k)
    return (k, depth + 1)
where
  items : Nat → Option Operand → Items → Reader (CharClass × Nat)
    | 0, _, _ => refuse .unclosedClass
    | fuel + 1, left, u => do
      skipSpaces
      match ← peek with
      | none => refuse .unclosedClass
      | some ']' =>
        skip
        operate left u
      | some '[' =>
        match ← posixClass? with
        | some k => items fuel left (u.add k 0)
        | none =>
          let (k, depth) ← setFrom fuel
          items fuel left (u.add k depth)
      | some _ =>
        let operator ← setOperator?
        match operator with
        | some o =>
          let (k, depth) ← operate left u
          items fuel (some ⟨k, depth, o⟩) {}
        | none =>
          let k ← setRange
          items fuel left (u.add k 0)
  setOperator? : Reader (Option SetOperator) := do
    if ← takeIf ['&', '&'] then return some .intersection
    else if ← takeIf ['-', '-'] then return some .difference
    else if ← takeIf ['~', '~'] then return some .symmetricDifference
    else return none

/-! ## Parts -/

def leaf (e : Expr) (states : Nat) : Part := ⟨e, 0, states⟩

/-- A part, unless it is nested too deep or too large. -/
def bounded (p : Part) : Reader Part :=
  if Part.deepest < p.depth then refuse .tooDeep
  else if Part.mostStates < p.states then refuse .tooLarge
  else return p

/-- A primitive as a part of its own. -/
def partOf : Primitive → Reader Part
  | .literal c byte => do
    let k ← literalClass c byte
    return leaf (.chars k) c.utf8Size
  | .cls k => return leaf (.chars k) (1 + k.weight)
  | .look l => return leaf (.look l) 1

def dot : Reader Part := do
  let f ← flags
  if !f.unicode then refuse .notUtf8
  else
    let k :=
      if f.dotAll then CharClass.everything
      else if f.anyLineEnd then .not (.ofList ['\r', '\n'])
      else .not (.one '\n')
    return leaf (.chars k) 8

def lineEdge (start : Bool) : Reader Part := do
  let f ← flags
  let l := match start, f.multiLine, f.anyLineEnd with
    | true, false, _ => Look.textStart
    | true, true, false => .lineStart
    | true, true, true => .anyLineStart
    | false, false, _ => .textEnd
    | false, true, false => .lineEnd
    | false, true, true => .anyLineEnd
  return leaf (.look l) 1

/-- What is being repeated, in a sequence that is being read. A change of flags stands
in the sequence too, as nothing. -/
def repeated : List (Option Part) → Reader (Part × List (Option Part))
  | some p :: before => return (p, before)
  | _ => refuse .nothingToRepeat

/-- A repetition at least `low` times, and at most `high` times if there is a bound. A
part that describes no characters need not be repeated more than once. -/
def repetition (p : Part) (low : Nat) (high : Option Nat) : Reader Part := do
  let states := match high with
    | some h => p.states * low + (p.states + 1) * (h - low) + 1
    | none => p.states * max low 1 + 1
  if takesNoCharacter p.expr then
    let e := if low = 0 then Expr.alt p.expr .empty else p.expr
    bounded ⟨e, p.depth + 1, p.states + 1⟩
  else if Part.mostStates < states then refuse .tooLarge
  else bounded ⟨.times p.expr low (high.map (· - low)), p.depth + 1, states⟩
where
  takesNoCharacter : Expr → Bool
    | .empty => true
    | .look _ => true
    | .chars _ => false
    | .cat a b => takesNoCharacter a && takesNoCharacter b
    | .alt a b => takesNoCharacter a && takesNoCharacter b
    | .times a _ _ => takesNoCharacter a

/-- A mark after a repetition asks for the shortest piece, which does not matter to
whether one is found. -/
def skipLazyMark : Reader Unit := do
  if (← peek) = some '?' then skip else return ()

/-- The bounds of a counted repetition, read from its brace on. -/
def countedBounds : Reader (Nat × Option Nat) := do
  skipOne
  if (← peek).isNone then refuse .unclosedCount
  else
    let low ← decimal?
    let bounds ← do
      match ← peek with
      | none => refuse .unclosedCount
      | some ',' =>
        skipOne
        match ← peek with
        | none => refuse .unclosedCount
        | some '\x7d' => pure (low.map fun n => (n, none))
        | some _ =>
          match low with
          | none => refuse .emptyCount
          | some n =>
            match ← decimal? with
            | some m => pure (some (n, some m))
            | none => refuse .emptyCount
      | some _ => pure (low.map fun n => (n, some n))
    match bounds with
    | none => refuse .emptyCount
    | some (n, m) =>
      if (← peek) != some '\x7d' then refuse .unclosedCount
      else
        skipOne
        skipLazyMark
        if m.any (· < n) then refuse .countOrder else return (n, m)

/-- A sequence, given in reverse. -/
def sequenceOf (reversed : List (Option Part)) : Part :=
  let parts := reversed.filterMap id
  let depth := parts.foldl (fun d p => max d p.depth) 0
  { expr := match parts with
      | [] => .empty
      | last :: before => before.foldl (fun e p => p.expr.andThen e) last.expr
    depth := if reversed.length ≤ 1 then depth else depth + 1
    states := parts.foldl (fun n p => n + p.states) 0 }

/-- Alternatives, given in reverse. -/
def alternativesOf (reversed : List Part) : Part :=
  match reversed with
  | [] => leaf .empty 1
  | [p] => p
  | last :: before =>
    { expr := before.foldl (fun e p => .alt p.expr e) last.expr
      depth := reversed.foldl (fun d p => max d p.depth) 0 + 1
      states := reversed.foldl (fun n p => n + p.states) 2 }

/-! ## Groups and flags -/

def setFlag (f : Flags) (on : Bool) : Char → Option Flags
  | 'i' => some { f with ignoreCase := on }
  | 'm' => some { f with multiLine := on }
  | 's' => some { f with dotAll := on }
  | 'U' => some { f with swapGreed := on }
  | 'u' => some { f with unicode := on }
  | 'R' => some { f with anyLineEnd := on }
  | 'x' => some { f with verbose := on }
  | _ => none

/-- The flags up to the colon or the parenthesis after them, which is left; also whether
there were any. -/
def flagChange : Nat → Bool → List Char → Flags → Reader (Flags × Bool)
  | 0, _, _, _ => refuse .badFlag
  | fuel + 1, on, seen, f => do
    match ← peek with
    | none => refuse .badFlag
    | some c =>
      if c = ':' || c = ')' then
        if seen.head? = some '-' then refuse .danglingNegation else return (f, !seen.isEmpty)
      else if seen.contains c then
        refuse .repeatedFlag
      else if c = '-' then
        skip
        flagChange fuel false ('-' :: seen) f
      else
        match setFlag f on c with
        | none => refuse .badFlag
        | some f =>
          skip
          flagChange fuel on (c :: seen) f

def isGroupNameChar (first : Bool) (c : Char) : Bool :=
  let letter := (Unicode.propertyRanges "alphabetic").contains c
  if c = '_' then true
  else if first then letter
  else letter || ['.', '[', ']'].contains c
    || (Unicode.categoriesRanges ["nd", "nl", "no"]).contains c

/-- A group name up to its closing bracket, which is taken. -/
def groupName : Nat → Bool → Reader (List Char)
  | 0, _ => refuse .badGroupName
  | fuel + 1, first => do
    match ← peek with
    | none => refuse .badGroupName
    | some '>' =>
      skip
      if first then refuse .badGroupName else return []
    | some c =>
      if isGroupNameChar first c then
        skip
        return c :: (← groupName fuel false)
      else refuse .badGroupName

def newGroupName (name : List Char) : Reader Unit := fun s =>
  if s.groupNames.contains name then .error .repeatedGroupName s
  else .ok () { s with groupNames := name :: s.groupNames }

/-- What a parenthesis opens. -/
inductive Opening where
  /-- A group; one that captures costs two states more. -/
  | group (extra : Nat)
  /-- A change of flags for the rest of the group it stands in. -/
  | flags

/-- What comes after an opening parenthesis, up to the inside of the group. The flags
of the inside are in force afterwards. -/
def opening : Reader Opening := do
  skip
  skipSpaces
  if (← takeIf ['?', '=']) || (← takeIf ['?', '!']) || (← takeIf ['?', '<', '='])
      || (← takeIf ['?', '<', '!']) then refuse .lookAround
  else if (← takeIf ['?', 'P', '<']) || (← takeIf ['?', '<']) then
    let name ← fun s => groupName (s.rest.length + 1) true s
    newGroupName name
    return .group 2
  else if ← takeIf ['?'] then
    if (← peek).isNone then refuse .unclosedGroup
    else
      let f ← flags
      let (f, any) ← fun s => flagChange (s.rest.length + 1) true [] f s
      match ← peek with
      | some ')' =>
        skip
        if any then
          setFlags f
          return .flags
        else refuse .nothingToRepeat
      | _ =>
        skip
        setFlags f
        return .group 0
  else return .group 2

/-! ## Patterns -/

/-- The sequence with its last part repeated, read from the repetition mark on. -/
def markedRepetition (parts : List (Option Part)) (low : Nat) (high : Option Nat) :
    Reader (List (Option Part)) := do
  let (p, before) ← repeated parts
  skip
  skipLazyMark
  let p ← repetition p low high
  return some p :: before

/-- The sequence with its last part repeated, read from an opening brace on. -/
def countedRepetition (parts : List (Option Part)) : Reader (List (Option Part)) := do
  let (p, before) ← repeated parts
  let (low, high) ← countedBounds
  let p ← repetition p low high
  return some p :: before

/-- A part that is no group, class or repetition, starting with `c`. -/
def primitivePart (c : Char) : Reader Part := do
  if c = '\\' then
    let p ← escape
    partOf p
  else
    skip
    if c = '.' then dot
    else if c = '^' then lineEdge true
    else if c = '$' then lineEdge false
    else partOf (.literal c false)

/-- The alternatives up to the end of the group or of the pattern; the earlier
alternatives and the parts of the current one are given in reverse. Each round takes a
character. -/
def alternatives : Nat → List Part → List (Option Part) → Reader Part
  | 0, _, _ => refuse .unclosedGroup
  | fuel + 1, earlier, parts => do
    skipSpaces
    match ← peek with
    | none => bounded (alternativesOf (sequenceOf parts :: earlier))
    | some ')' => bounded (alternativesOf (sequenceOf parts :: earlier))
    | some '|' =>
      skip
      alternatives fuel (sequenceOf parts :: earlier) []
    | some '(' =>
      let outside ← flags
      match ← opening with
      | .flags => alternatives fuel earlier (none :: parts)
      | .group extra =>
        let inside ← alternatives fuel [] []
        if (← peek) != some ')' then refuse .unclosedGroup
        else
          skip
          setFlags outside
          let p ← bounded { inside with depth := inside.depth + 1, states := inside.states + extra }
          alternatives fuel earlier (some p :: parts)
    | some '[' =>
      let (k, depth) ← fun s => setFrom (s.rest.length + 1) s
      let p ← bounded ⟨.chars k, depth, 1 + k.weight⟩
      alternatives fuel earlier (some p :: parts)
    | some '?' => alternatives fuel earlier (← markedRepetition parts 0 (some 1))
    | some '*' => alternatives fuel earlier (← markedRepetition parts 0 none)
    | some '+' => alternatives fuel earlier (← markedRepetition parts 1 none)
    | some '\x7b' => alternatives fuel earlier (← countedRepetition parts)
    | some c =>
      let p ← primitivePart c
      alternatives fuel earlier (some p :: parts)

/-- The whole pattern. -/
def pattern : Reader Part := do
  let p ← fun s => alternatives (s.rest.length + 1) [] [] s
  if (← peek).isSome then refuse .unopenedGroup else return p

end Reader

/-- The expression that a pattern stands for. -/
def Expr.ofPattern (pattern : String) : Except Refusal Expr :=
  match Reader.pattern ⟨pattern.toList, {}, []⟩ with
  | .ok p _ => .ok p.expr
  | .error r _ => .error r

end SpecCatalog.Pattern
