import SpecCatalog.Text.Bytes

/-!
# Printing documents

A document is printed over several lines, each deeper by a fixed number of spaces. The
printer gives the pieces in the order they are written, because a stream that fills up
keeps what was written before it did.

In a text the quote, the backslash and the control characters are escaped and all else
stands as it is, so the escaping works on the bytes of the text.
-/

namespace SpecCatalog.Json.Printer

def ascii (s : String) : Bytes := Text.toBytes s

/-- How one byte of a text is printed. -/
def escapedByte (b : UInt8) : Bytes :=
  if b = 0x22 then ascii "\\\""
  else if b = 0x5c then ascii "\\\\"
  else if b = 0x08 then ascii "\\b"
  else if b = 0x09 then ascii "\\t"
  else if b = 0x0a then ascii "\\n"
  else if b = 0x0c then ascii "\\f"
  else if b = 0x0d then ascii "\\r"
  else if b < 0x20 then ascii "\\u00" ++ [hexDigit (b / 16), hexDigit (b % 16)]
  else [b]
where
  hexDigit (n : UInt8) : UInt8 := if n < 10 then 0x30 + n else 0x61 + (n - 10)

/-- A text between its quotes. -/
def text (s : String) : List Bytes :=
  [ascii "\""] ++ (Text.toBytes s).map escapedByte ++ [ascii "\""]

/-- The end of a line and the spaces before the next one. -/
def newline (indent depth : Nat) : Bytes := 0x0a :: List.replicate (indent * depth) 0x20

/-- What goes before each of some things and after all of them. -/
def between (indent depth : Nat) (things : List (List Bytes)) : List Bytes :=
  match things with
  | [] => []
  | first :: rest =>
    newline indent (depth + 1) :: first
      ++ rest.flatMap (fun thing => [ascii ","] ++ newline indent (depth + 1) :: thing)
      ++ [newline indent depth]

/-- A list of printed items; an empty one stays on its line. -/
def list (indent depth : Nat) (items : List (List Bytes)) : List Bytes :=
  [ascii "["] ++ between indent depth items ++ [ascii "]"]

/-- An object of keys and printed values. -/
def object (indent depth : Nat) (members : List (String × List Bytes)) : List Bytes :=
  [ascii "\x7b"]
    ++ between indent depth (members.map fun m => text m.1 ++ [ascii ": "] ++ m.2)
    ++ [ascii "\x7d"]

end SpecCatalog.Json.Printer
