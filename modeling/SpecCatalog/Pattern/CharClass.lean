import SpecCatalog.Unicode.Category
import SpecCatalog.Unicode.Property
import SpecCatalog.Unicode.CaseFolding

/-!
# Classes of characters

A class is built from ranges and from the tables of Unicode by the operations on sets.
It is kept as it was built and asked about one character at a time, so every operation
means what it says without any arithmetic on ranges.
-/

namespace SpecCatalog.Pattern

open Unicode

inductive CharClass where
  | nothing
  /-- From one character to another, both included. -/
  | span (low high : Char)
  | table (ranges : Ranges)
  | not (k : CharClass)
  | or (a b : CharClass)
  | and (a b : CharClass)
  /-- The class and all that differs from it in case only. -/
  | anyCase (k : CharClass)
  deriving DecidableEq, Repr, Inhabited

namespace CharClass

def contains : CharClass → Char → Bool
  | nothing, _ => false
  | span low high, c => low ≤ c && c ≤ high
  | table ranges, c => ranges.contains c
  | not k, c => !k.contains c
  | or a b, c => a.contains c || b.contains c
  | and a b, c => a.contains c && b.contains c
  | anyCase k, c => k.contains c || (caseVariants c).any k.contains

def one (c : Char) : CharClass := span c c

def everything : CharClass := not nothing

def ofList (cs : List Char) : CharClass := cs.foldr (fun c k => or (one c) k) nothing

def minus (a b : CharClass) : CharClass := and a (not b)

def xor (a b : CharClass) : CharClass := or (minus a b) (minus b a)

def negatedIf (negated : Bool) (k : CharClass) : CharClass := if negated then not k else k

/-- About how many ranges a matcher has to tell apart for this class. -/
def weight : CharClass → Nat
  | nothing => 0
  | span _ high => if high.toNat < 128 then 1 else 3
  | table ranges => ranges.size
  | not k => k.weight + 1
  | or a b => a.weight + b.weight
  | and a b => a.weight + b.weight
  | anyCase k => 2 * k.weight

/-! ## The classes that have names -/

/-- The decimal digits of all scripts. -/
def digit : CharClass := table (categoryRanges "nd")

def space : CharClass := table whiteSpace

def wordRanges : Ranges :=
  (propertyRanges "alphabetic").union
    ((categoriesRanges ["mn", "mc", "me", "nd", "pc"]).union (propertyRanges "joincontrol"))

/-- Letters, marks, digits and joiners of all scripts. -/
def word : CharClass := table wordRanges

def asciiDigit : CharClass := span '0' '9'

def asciiSpace : CharClass := ofList ['\t', '\n', '\x0b', '\x0c', '\r', ' ']

def asciiWord : CharClass := or (span 'A' 'Z') (or (span 'a' 'z') (or (span '0' '9') (one '_')))

/-- The classes written between colons, which are about ASCII only. -/
def posix : List (String × CharClass) := [
  ("alnum", or (span '0' '9') (or (span 'A' 'Z') (span 'a' 'z'))),
  ("alpha", or (span 'A' 'Z') (span 'a' 'z')),
  ("ascii", span '\x00' '\x7f'),
  ("blank", or (one '\t') (one ' ')),
  ("cntrl", or (span '\x00' '\x1f') (one '\x7f')),
  ("digit", asciiDigit),
  ("graph", span '!' '~'),
  ("lower", span 'a' 'z'),
  ("print", span ' ' '~'),
  ("punct", or (span '!' '/') (or (span ':' '@') (or (span '[' '\x60') (span '\x7b' '~')))),
  ("space", asciiSpace),
  ("upper", span 'A' 'Z'),
  ("word", asciiWord),
  ("xdigit", or (span '0' '9') (or (span 'A' 'F') (span 'a' 'f')))]

/-- Whether the character goes on a word, in all scripts or in ASCII only. -/
def isWord (ascii : Bool) (c : Char) : Bool :=
  if c.toNat < 128 then asciiWord.contains c else !ascii && wordRanges.contains c

end CharClass

end SpecCatalog.Pattern
