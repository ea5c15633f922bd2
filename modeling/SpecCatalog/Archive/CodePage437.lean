import SpecCatalog.Text.Bytes

/-!
# Code page 437

The character set of entry names that are not marked as UTF-8: ASCII, and 128 more
characters for the bytes above it.
-/

namespace SpecCatalog.Archive

/-- The characters for the bytes from 128 on. -/
def codePage437Upper : String :=
  "ÇüéâäàåçêëèïîìÄÅ" ++ "ÉæÆôöòûùÿÖÜ¢£¥₧ƒ" ++ "áíóúñÑªº¿⌐¬½¼¡«»" ++ "░▒▓│┤╡╢╖╕╣║╗╝╜╛┐"
    ++ "└┴┬├─┼╞╟╚╔╩╦╠═╬╧" ++ "╨╤╥╙╘╒╓╫╪┘┌█▄▌▐▀" ++ "αßΓπΣσµτΦΘΩδ∞φε∩" ++ "≡±≥≤⌠⌡÷≈°∙·√ⁿ²■\u00a0"

def codePage437Table : Array Char := codePage437Upper.toList.toArray

def codePage437Char (b : UInt8) : Char :=
  if b < 0x80 then Char.ofNat b.toNat else codePage437Table.getD (b.toNat - 128) '\ufffd'

def ofCodePage437 (bs : Bytes) : String := String.ofList (bs.map codePage437Char)

end SpecCatalog.Archive
