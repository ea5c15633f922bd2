import SpecCatalog.Decimal.Shortest
import SpecCatalog.Text.Quoted

/-!
# What can be wrong with a JSON document

A fault is a cause, without the place it was met. Some causes concern the notation
(a comma that nothing follows), some the shape that a document is read into (a field
it does not have), and one the stream the document comes from. Each has one wording.
-/

namespace SpecCatalog.Json

/-- What stood where a value of another kind was wanted. -/
inductive Found where
  | null
  | boolean (b : Bool)
  | integer (n : Int)
  | real (x : Float)
  | text (s : String)
  | sequence
  | map

inductive Fault where
  -- the notation
  | endInValue
  | endInText
  | endInList
  | endInObject
  | expectedValue
  | expectedWord
  | expectedColon
  | expectedListCommaOrEnd
  | expectedObjectCommaOrEnd
  | keyNotText
  | trailingComma
  | trailingCharacters
  | badNumber
  | numberTooLarge
  | badEscape
  | loneSurrogate
  | unfinishedSurrogate
  | controlCharacter
  | notUtf8
  -- the shape
  | wrongType (found : Found) (wanted : String)
  | wrongValue (found : Found) (wanted : String)
  | tooShort (length : Nat) (wanted : String)
  | unknownField (name : String) (known : List String)
  | duplicateField (name : String)
  | missingField (name : String)
  -- the stream
  | readFailed (reason : String)

/-! ## Wording -/

/-- How a message writes a number with a fraction: in positions up to sixteen digits
before the point and four zeros after it, else with a signed exponent; always with a
fraction in positions, and with the fewest digits that read back. -/
def realText (x : Float) : String :=
  let (m, q, narrow) := Decimal.ofFloat x
  let d := Decimal.shortest m q narrow
  let digits := if d.digits = 0 then ['0'] else Nat.toDigits 10 d.digits
  let trimmed := (digits.reverse.dropWhile (· = '0')).reverse
  let exponent := d.exponent + (digits.length - trimmed.length : Nat)
  let zeros (n : Nat) := List.replicate n '0'
  let point := exponent + trimmed.length
  let body : List Char :=
    if m = 0 then ['0', '.', '0']
    else if 0 ≤ exponent && point ≤ 16 then trimmed ++ zeros exponent.toNat ++ ['.', '0']
    else if 0 < point && point ≤ 16 then
      trimmed.take point.toNat ++ ['.'] ++ trimmed.drop point.toNat
    else if -5 < point && point ≤ 0 then ['0', '.'] ++ zeros (-point).toNat ++ trimmed
    else
      let fraction := match trimmed.tail with
        | [] => []
        | rest => '.' :: rest
      let power := point - 1
      trimmed.take 1 ++ fraction ++ ['e', if power < 0 then '-' else '+']
        ++ Nat.toDigits 10 power.natAbs
  String.ofList (if Decimal.isNegative x then '-' :: body else body)

def Found.describe : Found → String
  | .null => "null"
  | .boolean b => s!"boolean `{b}`"
  | .integer n => s!"integer `{n}`"
  | .real x => s!"floating point `{realText x}`"
  | .text s => s!"string {Text.quoted s}"
  | .sequence => "sequence"
  | .map => "map"

/-- The fields a record knows, as a message lists them. -/
def alternatives : List String → String
  | [] => "there are no fields"
  | [a] => s!"expected `{a}`"
  | [a, b] => s!"expected `{a}` or `{b}`"
  | names => "expected one of " ++ String.intercalate ", " (names.map fun n => s!"`{n}`")

def Fault.message : Fault → String
  | .endInValue => "EOF while parsing a value"
  | .endInText => "EOF while parsing a string"
  | .endInList => "EOF while parsing a list"
  | .endInObject => "EOF while parsing an object"
  | .expectedValue => "expected value"
  | .expectedWord => "expected ident"
  | .expectedColon => "expected `:`"
  | .expectedListCommaOrEnd => "expected `,` or `]`"
  | .expectedObjectCommaOrEnd => "expected `,` or `\x7d`"
  | .keyNotText => "key must be a string"
  | .trailingComma => "trailing comma"
  | .trailingCharacters => "trailing characters"
  | .badNumber => "invalid number"
  | .numberTooLarge => "number out of range"
  | .badEscape => "invalid escape"
  | .loneSurrogate => "lone leading surrogate in hex escape"
  | .unfinishedSurrogate => "unexpected end of hex escape"
  | .controlCharacter => "control character (\\u0000-\\u001F) found while parsing a string"
  | .notUtf8 => "invalid unicode code point"
  | .wrongType found wanted => s!"invalid type: {found.describe}, expected {wanted}"
  | .wrongValue found wanted => s!"invalid value: {found.describe}, expected {wanted}"
  | .tooShort length wanted => s!"invalid length {length}, expected {wanted}"
  | .unknownField name known => s!"unknown field `{name}`, {alternatives known}"
  | .duplicateField name => s!"duplicate field `{name}`"
  | .missingField name => s!"missing field `{name}`"
  | .readFailed reason => reason

end SpecCatalog.Json
