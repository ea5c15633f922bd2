import SpecCatalog.Text.Bytes

/-!
# Checksums of archive entries

The checksum of an entry is the remainder of its bytes, taken as a polynomial over two
elements with the lowest bit first, by the usual polynomial of degree 32. It starts from
all ones and is inverted at the end.
-/

namespace SpecCatalog.Archive

/-- One bit of the division. -/
def checksumShift (c : UInt32) : UInt32 :=
  if c &&& 1 = 1 then (c >>> 1) ^^^ 0xEDB88320 else c >>> 1

def checksumByte (c : UInt32) (b : UInt8) : UInt32 :=
  checksumShift <| checksumShift <| checksumShift <| checksumShift <|
    checksumShift <| checksumShift <| checksumShift <| checksumShift (c ^^^ b.toUInt32)

def checksum (bs : Bytes) : UInt32 := bs.foldl checksumByte 0xFFFFFFFF ^^^ 0xFFFFFFFF

end SpecCatalog.Archive
