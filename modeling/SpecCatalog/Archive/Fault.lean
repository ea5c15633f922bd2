import SpecCatalog.FileTree.IoError

/-!
# What can be wrong with an archive
-/

namespace SpecCatalog.Archive

/-- Why bytes are no archive, or an entry no part of one. -/
inductive Damage where
  | noEnd
  | endComment
  | directoryOffset
  | noDirectory
  | locatorOffset
  | manyDisks
  | noWideEnd
  | shortWideEnd
  | longWideEnd
  | wideEndDisk
  | wideEndLength
  | wideEndCount
  | directoryHeader
  | localHeader
  | wideSizes
  | encryptionMark
  | encryptionVendor
  | encryptionVersion
  | encryptionStrength
  | unicodeSize
  | unicodeChecksum
  | unicodeText
  | headerOffset
  | duplicate (name : String)
  | longName
  deriving DecidableEq, Repr

def Damage.message : Damage → String
  | .noEnd => "Could not find EOCD"
  | .endComment => "EOCD comment exceeds file boundary"
  | .directoryOffset => "Invalid CDFH offset in EOCD"
  | .noDirectory => "No CDFH found"
  | .locatorOffset => "Invalid EOCD64 Locator CD offset"
  | .manyDisks => "Multi-disk ZIP files are not supported"
  | .noWideEnd => "Could not find EOCD64"
  | .shortWideEnd => "Low EOCD64 record size"
  | .longWideEnd => "EOCD64 extends beyond EOCD64 locator"
  | .wideEndDisk => "Invalid EOCD64: inconsistency with Locator data"
  | .wideEndLength => "Invalid EOCD64: inconsistent length"
  | .wideEndCount => "Invalid EOCD64: inconsistent number of files"
  | .directoryHeader => "Invalid Central Directory header"
  | .localHeader => "Invalid local file header"
  | .wideSizes => "ZIP64 extra-data field is the wrong length"
  | .encryptionMark => "AES encryption without AES extra data field"
  | .encryptionVendor => "Invalid AES vendor"
  | .encryptionVersion => "Invalid AES vendor version"
  | .encryptionStrength => "Invalid AES encryption strength"
  | .unicodeSize => "Unicode extra field is too small"
  | .unicodeChecksum => "CRC32 checksum failed on Unicode extra field"
  | .unicodeText => "Invalid UTF-8"
  | .headerOffset => "Archive header is too large"
  | .duplicate name => s!"Duplicate filename: {name}"
  | .longName => "File name is too long"

/-- What an archive may hold and is not read. -/
inductive Unsupported where
  | password
  | method
  | encryptionField
  | timeField
  | timeAttribute
  | timeSize
  | stampLength
  | stampFlags
  deriving DecidableEq, Repr

def Unsupported.message : Unsupported → String
  | .password => "Password required to decrypt file"
  | .method => "Compression method not supported"
  | .encryptionField => "AES extra data field has an unsupported length"
  | .timeField => "NTFS extra field has an unsupported length"
  | .timeAttribute => "NTFS extra field has an unsupported attribute tag"
  | .timeSize => "NTFS extra field has an unsupported attribute size"
  | .stampLength => "flags and len don't match in extended timestamp field"
  | .stampFlags => "found unsupported timestamps in the extended timestamp header"

inductive Fault where
  | io (cause : IoError)
  | damaged (d : Damage)
  | unsupported (u : Unsupported)
  | noSuchEntry
  | wrongPassword
  deriving DecidableEq, Repr

def Fault.message : Fault → String
  | .io _ => "i/o error"
  | .damaged d => s!"invalid Zip archive: {d.message}"
  | .unsupported u => s!"unsupported Zip archive: {u.message}"
  | .noSuchEntry => "specified file not found in archive"
  | .wrongPassword => "provided password is incorrect"

end SpecCatalog.Archive
