import SpecCatalog.Text.Bytes

/-!
# Streams

A stream hands out its bytes over several reads, as many in each as it likes, and then it ends
or breaks. A read may also be interrupted before anything has come, and then it is made again.
A document is read from a stream by asking for one byte after the other (`Delivery.next`),
which gives the bytes of all reads in order, wherever the stream was cut.
-/

namespace SpecCatalog.Json

/-- What comes of one read: bytes, of which there is one at least, or nothing yet. -/
inductive Delivery where
  | bytes (first : UInt8) (others : Bytes)
  | interrupted
  deriving DecidableEq, Repr

/-- What comes after the last byte. -/
inductive Ending where
  | finished
  | broken (reason : String)
  deriving DecidableEq, Repr

structure Stream where
  deliveries : List Delivery
  ending : Ending
  deriving DecidableEq, Repr

namespace Delivery

def content : Delivery → Bytes
  | .bytes b bs => b :: bs
  | .interrupted => []

/-- The next byte and what is still to be delivered. -/
def next : List Delivery → Option (UInt8 × List Delivery)
  | [] => none
  | .interrupted :: ds => next ds
  | .bytes b [] :: ds => some (b, ds)
  | .bytes b (b' :: bs) :: ds => some (b, .bytes b' bs :: ds)

theorem content_of_next {ds ds' : List Delivery} {b : UInt8} (h : next ds = some (b, ds')) :
    ds.flatMap content = b :: ds'.flatMap content := by
  induction ds with
  | nil => cases h
  | cons d ds ih =>
    cases d with
    | interrupted => exact ih h
    | bytes first others =>
      cases others with
      | nil =>
        cases h
        rfl
      | cons second others =>
        cases h
        rfl

theorem content_of_next_eq_none {ds : List Delivery} (h : next ds = none) :
    ds.flatMap content = [] := by
  induction ds with
  | nil => rfl
  | cons d ds ih =>
    cases d with
    | interrupted => exact ih h
    | bytes first others => cases others <;> cases h

end Delivery

namespace Stream

/-- All bytes that the stream gives before it ends or breaks. -/
def bytes (s : Stream) : Bytes := s.deliveries.flatMap Delivery.content

/-- The stream of a file: what it holds, and then the end. -/
def ofFile : Bytes → Stream
  | [] => ⟨[], .finished⟩
  | b :: bs => ⟨[.bytes b bs], .finished⟩

/-- A stream that breaks at its first read. -/
def brokenAtOnce (reason : String) : Stream := ⟨[], .broken reason⟩

end Stream

end SpecCatalog.Json
