import SpecCatalog.Proofs.Codec.Grammar
import SpecCatalog.Proofs.Json.FrontEnds

/-!
# Descriptors from streams

A descriptor can be read as a whole or from a stream, by different readers. A stream that comes
to its end gives the same answer as its bytes do, wherever its reads were cut: the same
specification, the same refusal, or the same fault of the notation, which then may have another
place in the message. The two readers make the same steps (`Shape.read_agrees`), and what they
read is judged by the same rules.

A stream that breaks is never accepted. The reader of documents asks what comes after the last
bracket, so it cannot take a complete descriptor for all there is (`Shape.read_eq_ok_iff`); in
that case what it reports is the break itself (`read_broken_of_document`).
-/

namespace SpecCatalog

open Json Json.Scan

/-! ## Documents that break off -/

namespace Json.Shape

variable {ρ : Type} {s : Shape ρ} {V : Field ρ → ρ → Writing ρ}

/-- After a complete record it is the break that is reported. -/
theorem read_broken_of_document (hV : s.ReadsAs V) {c : Cursor} {r : ρ} {reason : String}
    (h : Document (s.Form V) c.rest r) (hc : c.ending = .broken reason) :
    s.read c = .error ⟨.readFailed reason, none⟩ := by
  obtain ⟨u, w, v, hu, hw, hv, hrest⟩ := h
  obtain ⟨c₁, hvalue, hleft, hending⟩ := takes_value hV hu hw v c hrest
  obtain ⟨c₂, hbreak⟩ := peekPastBlanks_broken (hleft ▸ hv) (hending.trans hc)
  have hdoc : s.document c = .error ⟨.readFailed reason, none⟩ c₂ := by
    unfold document
    rw [bind_of_eq_ok hvalue]
    exact bind_of_eq_error (bind_of_eq_error hbreak)
  rw [read, hdoc]

end Json.Shape

/-! ## Descriptors -/

namespace Codec

open Json.Shape

variable {c : Codec}

theorem agreeing_descriptorShape : descriptorShape.Agreeing := by
  intro f hf r
  simp only [descriptorShape, List.mem_cons, List.not_mem_nil, or_false] at hf
  obtain rfl | rfl := hf
  · exact .bind (.orNull .textValue) fun _ => .pure _
  · exact .bind (.orNull (.listValue (.orNull .textValue))) fun _ => .pure _

/-! ### Streams that end -/

/-- Two answers to one descriptor. They differ in the place of a fault of the notation at most. -/
inductive SameAnswer : Fallible Specification → Fallible Specification → Prop where
  | judged {answer : Fallible Specification} :
      (∀ cause, answer ≠ .error (.decode cause)) → SameAnswer answer answer
  | malformed {f f' : Failure} : f.Alike f' →
      SameAnswer (.error (.decode (.parsing f))) (.error (.decode (.parsing f')))

theorem decodeReader_sameAnswer (c : Codec) (stream : Json.Stream)
    (h : stream.ending = .finished) :
    SameAnswer (c.decodeReader stream) (c.decode stream.bytes) := by
  have halike : (Cursor.ofStream stream).Alike (.ofBytes stream.bytes) := ⟨rfl, h⟩
  unfold decodeReader decode parseStream parse
  obtain ⟨d, hread, hread'⟩ | ⟨f, f', hread, hread', hfaults⟩ :=
    read_agrees agreeing_descriptorShape halike
  · rw [hread, hread']
    exact .judged fun cause => Specification.ofOptions_ne_decode
  · rw [hread, hread']
    exact .malformed hfaults

namespace SameAnswer

variable {answer answer' : Fallible Specification}

/-- Beyond faults of the notation the answers are one answer. -/
theorem eq_iff (h : SameAnswer answer answer') {x : Fallible Specification}
    (hx : ∀ cause, x ≠ .error (.decode cause)) : answer = x ↔ answer' = x := by
  cases h with
  | judged => rfl
  | malformed =>
    constructor
    · intro heq
      exact absurd heq.symm (hx _)
    · intro heq
      exact absurd heq.symm (hx _)

theorem decode_iff (h : SameAnswer answer answer') :
    (∃ cause, answer = .error (.decode cause)) ↔ ∃ cause, answer' = .error (.decode cause) := by
  cases h with
  | judged => rfl
  | malformed => exact iff_of_true ⟨_, rfl⟩ ⟨_, rfl⟩

theorem fault (h : SameAnswer answer answer') {f' : Failure}
    (hf : answer' = .error (.decode (.parsing f'))) :
    ∃ f, answer = .error (.decode (.parsing f)) ∧ f.Alike f' := by
  cases h with
  | judged hne => exact absurd hf (hne _)
  | malformed hfaults =>
    cases hf
    exact ⟨_, rfl, hfaults⟩

end SameAnswer

/-! ### Streams that break -/

theorem decodeReader_broken (c : Codec) {stream : Json.Stream} {reason : String}
    (h : stream.ending = .broken reason) :
    ∃ cause, c.decodeReader stream = .error (.decode cause) := by
  unfold decodeReader
  cases hparse : descriptorShape.parseStream stream with
  | error f => exact ⟨_, rfl⟩
  | ok d =>
    have hfinished := ((parseStream_eq_ok_iff readsAs_descriptorShape).1 hparse).2
    rw [h] at hfinished
    cases hfinished

/-- A complete descriptor does not help a stream that breaks behind it, and the reason that is
given is the one of the stream, without a place. -/
theorem decodeReader_broken_of_descriptorText {stream : Json.Stream} {reason : String}
    {d : Descriptor} (c : Codec) (hd : DescriptorText stream.bytes d)
    (h : stream.ending = .broken reason) :
    c.decodeReader stream = .error (.decode (.parsing ⟨.readFailed reason, none⟩)) := by
  obtain ⟨u, w, v, hu, hw, hv, hbytes⟩ := hd
  have hdoc : Document (descriptorShape.Form ValueForm) stream.bytes d :=
    ⟨u, w, v, hu, form_of_descriptorForm hw, hv, hbytes⟩
  have hread := read_broken_of_document (c := .ofStream stream) readsAs_descriptorShape hdoc h
  rw [decodeReader, parseStream, hread, judge]

/-- **A descriptor from a stream is the descriptor in its bytes**, whatever the reads are.

A stream that ends is answered like its bytes: with the same specification, the same refused
name, the same refused dependencies, or the same fault of the notation. A stream that breaks is
always answered with a fault of the notation, and if its bytes are a complete descriptor, with
the one that it broke. -/
theorem decodeReader_agrees (c : Codec) (ds : List Delivery) :
    ((∀ s, c.decodeReader ⟨ds, .finished⟩ = .ok s
        ↔ c.decode (ds.flatMap Delivery.content) = .ok s) ∧
      (∀ name, c.decodeReader ⟨ds, .finished⟩ = .error (.invalidName name)
        ↔ c.decode (ds.flatMap Delivery.content) = .error (.invalidName name)) ∧
      (∀ invalid, c.decodeReader ⟨ds, .finished⟩ = .error (.invalidDependencies invalid)
        ↔ c.decode (ds.flatMap Delivery.content) = .error (.invalidDependencies invalid)) ∧
      ((∃ cause, c.decodeReader ⟨ds, .finished⟩ = .error (.decode cause))
        ↔ ∃ cause, c.decode (ds.flatMap Delivery.content) = .error (.decode cause)) ∧
      ∀ f', c.decode (ds.flatMap Delivery.content) = .error (.decode (.parsing f')) →
        ∃ f, c.decodeReader ⟨ds, .finished⟩ = .error (.decode (.parsing f)) ∧ f.Alike f') ∧
    ∀ reason, (∃ cause, c.decodeReader ⟨ds, .broken reason⟩ = .error (.decode cause)) ∧
      ∀ d, DescriptorText (ds.flatMap Delivery.content) d →
        c.decodeReader ⟨ds, .broken reason⟩
          = .error (.decode (.parsing ⟨.readFailed reason, none⟩)) := by
  have hsame : SameAnswer (c.decodeReader ⟨ds, .finished⟩)
      (c.decode (ds.flatMap Delivery.content)) :=
    decodeReader_sameAnswer c ⟨ds, .finished⟩ rfl
  refine ⟨⟨fun s => ?_, fun name => ?_, fun invalid => ?_, hsame.decode_iff, fun f' => hsame.fault⟩,
    fun reason => ⟨decodeReader_broken c rfl, fun d hd => ?_⟩⟩
  · exact hsame.eq_iff (by rintro cause ⟨⟩)
  · exact hsame.eq_iff (by rintro cause ⟨⟩)
  · exact hsame.eq_iff (by rintro cause ⟨⟩)
  · exact decodeReader_broken_of_descriptorText c hd rfl

/-- A descriptor whose reads are cut within an escape; the second of them is interrupted. -/
def cutDescriptor : List Delivery :=
  [.bytes Byte.openList (Text.toBytes "\"\\u0"), .interrupted,
    .bytes (Byte.ofChar '0') (Text.toBytes "6e\"]")]

/-- If the stream ends it is the descriptor of a specification, and if it breaks it is none. -/
theorem decodeReader_agrees_cut :
    DescriptorText (cutDescriptor.flatMap Delivery.content) ⟨some "n", none⟩ ∧
    Codec.standard.decodeReader ⟨cutDescriptor, .finished⟩ = .ok ⟨"n", .ofList []⟩ ∧
    Codec.standard.decodeReader ⟨cutDescriptor, .broken "read failed"⟩
      = .error (.decode (.parsing ⟨.readFailed "read failed", none⟩)) := by
  have htext : DescriptorText (cutDescriptor.flatMap Delivery.content) ⟨some "n", none⟩ :=
    parse_eq_ok_iff_descriptorText.1 (eq_ok_of_any_toOption (by decide +kernel))
  have hdecode : Codec.standard.decode (cutDescriptor.flatMap Delivery.content)
      = .ok ⟨"n", .ofList []⟩ := eq_ok_of_any_toOption (by decide +kernel)
  obtain ⟨⟨hmade, -⟩, hbroken⟩ := decodeReader_agrees Codec.standard cutDescriptor
  exact ⟨htext, (hmade _).2 hdecode, (hbroken "read failed").2 _ htext⟩

end Codec

end SpecCatalog
