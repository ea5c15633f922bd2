import SpecCatalog.Unicode.Category
import SpecCatalog.Unicode.Property

/-!
# Quoted text in messages

A message quotes a text so that its ends and its odd characters can be seen: quotes
and backslashes are escaped, the four common control characters have letters, and a
character that leaves no mark of its own (a control, a format character, a blank other
than the space, an unassigned code point, a mark that joins the character before it)
is written by its code point.
-/

namespace SpecCatalog.Text

/-- The categories whose characters leave no mark. -/
def blankRanges : Unicode.Ranges :=
  Unicode.categoriesRanges ["cc", "cf", "cs", "co", "zl", "zp", "zs"]

def joiningRanges : Unicode.Ranges := Unicode.propertyRanges "graphemeextend"

/-- A character that can be shown as itself. -/
def isVisible (c : Char) : Bool :=
  if c.toNat < 128 then 32 ≤ c.toNat && c.toNat < 127
  else Unicode.assignedRanges.contains c && !blankRanges.contains c && !joiningRanges.contains c

/-- The number in hexadecimal, lower case and without leading zeros. -/
def hex (n : Nat) : List Char := Nat.toDigits 16 n

def quotedChar (c : Char) : List Char :=
  if c = '"' then ['\\', '"']
  else if c = '\\' then ['\\', '\\']
  else if c = '\n' then ['\\', 'n']
  else if c = '\r' then ['\\', 'r']
  else if c = '\t' then ['\\', 't']
  else if c = '\x00' then ['\\', '0']
  else if isVisible c then [c]
  else ['\\', 'u', '\x7b'] ++ hex c.toNat ++ ['\x7d']

/-- The text between quotes, as messages show it. -/
def quoted (s : String) : String :=
  String.ofList ('"' :: s.toList.flatMap quotedChar ++ ['"'])

end SpecCatalog.Text
