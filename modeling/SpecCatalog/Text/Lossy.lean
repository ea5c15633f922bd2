import SpecCatalog.Text.Bytes

/-!
# Bytes that are no text

Where bytes stop being UTF-8 can be said exactly, and they can still be read as text if
what cannot be read is replaced: each longest beginning of a character that is not
finished, and each byte that begins none, becomes one replacement character.
-/

namespace SpecCatalog.Text

/-- The bytes that may follow a first byte, by its value: how many, and the range that
the first of them must be in. -/
def continuation (b : UInt8) : Option (Nat × UInt8 × UInt8) :=
  if 0xc2 ≤ b && b ≤ 0xdf then some (1, 0x80, 0xbf)
  else if b = 0xe0 then some (2, 0xa0, 0xbf)
  else if b = 0xed then some (2, 0x80, 0x9f)
  else if 0xe1 ≤ b && b ≤ 0xef then some (2, 0x80, 0xbf)
  else if b = 0xf0 then some (3, 0x90, 0xbf)
  else if b = 0xf4 then some (3, 0x80, 0x8f)
  else if 0xf1 ≤ b && b ≤ 0xf3 then some (3, 0x80, 0xbf)
  else none

/-- How many of the first `wanted` bytes go on with a character. -/
def continuing : Nat → UInt8 → UInt8 → Bytes → Nat
  | 0, _, _, _ => 0
  | _, _, _, [] => 0
  | wanted + 1, low, high, b :: bs =>
    if low ≤ b && b ≤ high then continuing wanted 0x80 0xbf bs + 1 else 0

/-- The bytes from the first character on that cannot be read; so many bytes belong to the
one before. -/
def unreadableFrom : Nat → Bytes → Bytes
  | _, [] => []
  | pending + 1, _ :: bs => unreadableFrom pending bs
  | 0, b :: bs =>
    if b < 0x80 then unreadableFrom 0 bs
    else
      match continuation b with
      | none => b :: bs
      | some (wanted, low, high) =>
        if continuing wanted low high bs = wanted then unreadableFrom wanted bs else b :: bs

def unreadable (bs : Bytes) : Bytes := unreadableFrom 0 bs

/-- The characters, with the number of bytes that still belong to the last one. -/
def lossyFrom : Nat → Bytes → List Char
  | _, [] => []
  | pending + 1, _ :: bs => lossyFrom pending bs
  | 0, b :: bs =>
    if b < 0x80 then Char.ofNat b.toNat :: lossyFrom 0 bs
    else
      match continuation b with
      | none => '\ufffd' :: lossyFrom 0 bs
      | some (wanted, low, high) =>
        let found := continuing wanted low high bs
        let c :=
          if found = wanted then
            let lead := b.toNat % Nat.pow 2 (6 - wanted)
            Char.ofNat ((bs.take wanted).foldl (fun n b => n * 64 + b.toNat % 64) lead)
          else '\ufffd'
        c :: lossyFrom found bs

def ofBytesLossy (bs : Bytes) : String := String.ofList (lossyFrom 0 bs)

end SpecCatalog.Text
