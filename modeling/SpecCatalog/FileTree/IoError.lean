/-!
# Failures of reading and writing

Each cause has one wording. The causes that the system itself reports carry its number
for them.
-/

namespace SpecCatalog

/-- Why the system does not do what could be done. -/
inductive Refusal where
  | noSpace
  | quotaExceeded
  | inputOutput
  | permissionDenied
  | readOnly
  deriving DecidableEq, Repr

def Refusal.number : Refusal → Nat
  | .noSpace => 28
  | .quotaExceeded => 122
  | .inputOutput => 5
  | .permissionDenied => 13
  | .readOnly => 30

def Refusal.message : Refusal → String
  | .noSpace => "No space left on device"
  | .quotaExceeded => "Disk quota exceeded"
  | .inputOutput => "Input/output error"
  | .permissionDenied => "Permission denied"
  | .readOnly => "Read-only file system"

/-- What the system reports about a path. -/
inductive OsError where
  | notFound
  | alreadyExists
  | notDirectory
  | isDirectory
  | fileTooLarge
  | nameTooLong
  | tooManyLinks
  | refused (r : Refusal)
  deriving DecidableEq, Repr

def OsError.number : OsError → Nat
  | .notFound => 2
  | .alreadyExists => 17
  | .notDirectory => 20
  | .isDirectory => 21
  | .fileTooLarge => 27
  | .nameTooLong => 36
  | .tooManyLinks => 40
  | .refused r => r.number

def OsError.message : OsError → String
  | .notFound => "No such file or directory"
  | .alreadyExists => "File exists"
  | .notDirectory => "Not a directory"
  | .isDirectory => "Is a directory"
  | .fileTooLarge => "File too large"
  | .nameTooLong => "File name too long"
  | .tooManyLinks => "Too many levels of symbolic links"
  | .refused r => r.message

inductive IoError where
  | os (e : OsError)
  /-- No path holds the character that ends a text in the system's own form. -/
  | nulInPath
  /-- A file that was to hold a text holds other bytes. -/
  | notText
  | badChecksum
  | badCompression
  | endOfFile
  /-- The system took no byte of those that were to be written. -/
  | notTaken
  /-- The same, of bytes that had waited in front of the file. -/
  | notDrained
  /-- A cause known by its wording only. -/
  | custom (text : String)
  deriving DecidableEq, Repr

def IoError.message : IoError → String
  | .os e => s!"{e.message} (os error {e.number})"
  | .nulInPath => "file name contained an unexpected NUL byte"
  | .notText => "stream did not contain valid UTF-8"
  | .badChecksum => "Invalid checksum"
  | .badCompression => "corrupt deflate stream"
  | .endOfFile => "failed to fill whole buffer"
  | .notTaken => "failed to write whole buffer"
  | .notDrained => "failed to write the buffered data"
  | .custom text => text

end SpecCatalog
