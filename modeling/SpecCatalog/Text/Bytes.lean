/-!
# Bytes and the text in them

Files, archive entries and streams hold bytes, and names and paths are text. The
two meet in UTF-8: `toBytes` writes a text, `ofBytes?` reads one back and refuses
bytes that are no UTF-8. The lemmas say that a text has one byte form.
-/

namespace SpecCatalog

/-- What a file, an archive entry or a stream holds. -/
abbrev Bytes := List UInt8

namespace Text

/-- The UTF-8 form of a text. -/
def toBytes (s : String) : Bytes := s.toByteArray.data.toList

/-- The text that the bytes are the UTF-8 form of. -/
def ofBytes? (bs : Bytes) : Option String := String.fromUTF8? ⟨bs.toArray⟩

theorem ofBytes?_toBytes (s : String) : ofBytes? (toBytes s) = some s := by
  have hs : (⟨(toBytes s).toArray⟩ : ByteArray) = s.toByteArray := by simp [toBytes]
  rw [ofBytes?, hs, String.fromUTF8?, dif_pos s.isValidUTF8]
  rfl

theorem eq_toBytes_of_ofBytes? {bs : Bytes} {s : String} (h : ofBytes? bs = some s) :
    bs = toBytes s := by
  unfold ofBytes? String.fromUTF8? at h
  split at h
  · injection h with h
    subst h
    simp [toBytes, String.fromUTF8]
  · contradiction

theorem ofBytes?_eq_some_iff {bs : Bytes} {s : String} :
    ofBytes? bs = some s ↔ bs = toBytes s :=
  ⟨eq_toBytes_of_ofBytes?, fun h => h ▸ ofBytes?_toBytes s⟩

end Text

end SpecCatalog
