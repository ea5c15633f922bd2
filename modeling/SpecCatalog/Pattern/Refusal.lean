/-!
# Why a pattern is refused
-/

namespace SpecCatalog.Pattern

inductive Refusal where
  | unclosedGroup
  | unopenedGroup
  | unclosedClass
  | badClassRange
  | noClassItem
  | noRangeEnd
  | nothingToRepeat
  | unclosedCount
  | badCount
  | emptyCount
  | countOrder
  | lookAround
  | backreference
  | badEscape
  | unfinishedEscape
  | badHex
  | badWordEdge
  | badGroupName
  | repeatedGroupName
  | badFlag
  | repeatedFlag
  | danglingNegation
  | unknownProperty
  | notUnicode
  | notUtf8
  | tooDeep
  | tooLarge
  deriving DecidableEq, Repr

def Refusal.message : Refusal → String
  | unclosedGroup => "unclosed group"
  | unopenedGroup => "unopened group"
  | unclosedClass => "unclosed character class"
  | badClassRange => "invalid character class range, the start must be <= the end"
  | noClassItem => "invalid escape sequence found in character class"
  | noRangeEnd => "invalid range boundary, must be a literal"
  | nothingToRepeat => "repetition operator missing expression"
  | unclosedCount => "unclosed counted repetition"
  | badCount => "decimal literal invalid"
  | emptyCount => "repetition quantifier expects a valid decimal"
  | countOrder => "invalid repetition count range, the start must be <= the end"
  | lookAround => "look-around, including look-ahead and look-behind, is not supported"
  | backreference => "backreferences are not supported"
  | badEscape => "unrecognized escape sequence"
  | unfinishedEscape => "incomplete escape sequence, reached end of pattern prematurely"
  | badHex => "invalid hexadecimal digit"
  | badWordEdge => "special word boundary assertion is invalid"
  | badGroupName => "invalid capture group name"
  | repeatedGroupName => "duplicate capture group name"
  | badFlag => "unrecognized flag"
  | repeatedFlag => "duplicate flag"
  | danglingNegation => "dangling flag negation operator"
  | unknownProperty => "Unicode property not found"
  | notUnicode => "Unicode not allowed here"
  | notUtf8 => "pattern can match invalid UTF-8"
  | tooDeep => "exceeded the maximum number of nested parentheses/brackets (250)"
  | tooLarge => "Compiled regex exceeds size limit of 10485760 bytes."

end SpecCatalog.Pattern
