import SpecCatalog.Archive.Inflate

/-!
# Compressors

A compressor takes contents in turns: more bytes, or the demand to let out what it has kept back.
What it lets out at a turn depends on the turns before. How it compresses is its own affair, but
whatever the turns were, inflating gives back the contents: a `Compressor` comes with the proof.
-/

namespace SpecCatalog.Archive

inductive Turn where
  | more (bs : Bytes)
  | flush
  deriving DecidableEq, Repr

/-- The contents that were given in these turns, of which the last comes first. -/
def given : List Turn → Bytes
  | [] => []
  | .more bs :: turns => given turns ++ bs
  | .flush :: turns => given turns

/-- What came out in these turns, if `out` says what comes out at a turn after others. -/
def cameOut (out : List Turn → Turn → Bytes) : List Turn → Bytes
  | [] => []
  | turn :: turns => cameOut out turns ++ out turns turn

structure Compressor where
  /-- What comes out at a turn. The turns before it are given, the last one first. -/
  out : List Turn → Turn → Bytes
  /-- What comes out when the contents end. -/
  last : List Turn → Bytes
  inflate_out : ∀ turns, inflate (cameOut out turns ++ last turns) = some (given turns)

/-- What the compressor has let out in these turns. -/
def Compressor.written (z : Compressor) (turns : List Turn) : Bytes := cameOut z.out turns

theorem Compressor.written_cons (z : Compressor) (turn : Turn) (turns : List Turn) :
    z.written (turn :: turns) = z.written turns ++ z.out turns turn := rfl

/-- The contents as they stand in an archive in the end. -/
def Compressor.packed (z : Compressor) (turns : List Turn) : Bytes := z.written turns ++ z.last turns

theorem Compressor.inflate_packed (z : Compressor) (turns : List Turn) :
    inflate (z.packed turns) = some (given turns) := z.inflate_out turns

end SpecCatalog.Archive
