import SpecCatalog.Proofs.Codec.RoundTrip
import SpecCatalog.Proofs.Sink.Entries

/-!
# Reading back what a sink took

A sink that stores what is written holds the descriptor of a specification that was
written to it, and a reader with the same codec finds the specification in it. That takes
more than the write having succeeded: a writer only has the name judged, which makes the
path, but a reader judges the dependencies too. So `read_back` tells two cases apart. The
codec may accept the dependencies, as it does those of a specification made under its own
rules, and else the reader reports the ones it refuses.
-/

namespace SpecCatalog

/-! ## Sinks that store what is written -/

namespace Sink

variable {σ η : Type} {sink : Sink σ η} {held : σ → String → Option Bytes}

/-- Where an entry could be made to hold some bytes, it holds them. What the state behind
the sink holds at a path is `held`. -/
def Stores (sink : Sink σ η) (held : σ → String → Option Bytes) : Prop :=
  ∀ {path : String} {bs : Bytes} {before after : σ},
    sink.put path bs before = .ok () after → held after path = some bs

theorem KeepsEntries.stores {isOpen : σ → η → String → Prop}
    (hsink : sink.KeepsEntries held isOpen) : sink.Stores held := by
  intro path bs before after h
  rw [hsink.of_put_eq_ok h, Function.update_self]

end Sink

theorem MemoryEntries.stores : MemoryEntries.sink.Stores fun m path => m.entries.get? path :=
  MemoryEntries.keepsEntries.stores

theorem MemoryEntries.exists_put (path : String) (bs : Bytes) :
    ∃ after, MemoryEntries.sink.put path bs {} = .ok () after := ⟨_, rfl⟩

/-- A sink in memory that was not told to fail takes what the codec names. -/
theorem MemoryEntries.exists_write {c : Codec} {s : Specification}
    (h : c.rules.isValid s.name = true) :
    ∃ path after, MemoryEntries.sink.writeSpecification c s {} = .ok path after := by
  obtain ⟨after, hput⟩ := MemoryEntries.exists_put (c.layout.pathOf s.name) (c.encode s)
  exact ⟨_, after, Sink.writeSpecification_eq_ok_iff.2 ⟨h, rfl, hput⟩⟩

/-! ## What the reader finds -/

namespace Sink

variable {σ η : Type} {sink : Sink σ η} {held : σ → String → Option Bytes}

/-- **What was written is read back exactly if the codec accepts the dependencies.**

They are accepted in particular if the specification was made under the codec's own rules.
If some are not, the entry was written all the same and a reader reports them. -/
theorem read_back (c : Codec) (s : Specification) (before after : σ) (path : String)
    (hstores : sink.Stores held)
    (h : sink.writeSpecification c s before = .ok path after) :
    ∃ body, held after path = some body
      ∧ (c.decode body = .ok s ↔ ∀ d ∈ s.dependencies, c.rules.isValid d = true)
      ∧ ((∃ d ∈ s.dependencies, c.rules.isValid d = false) →
          c.decode body
            = .error (.invalidDependencies ((s.refusedDependencies c.rules).map some)))
      ∧ ((∃ name deps, Specification.ofOptions c.rules name deps = .ok s) →
          c.decode body = .ok s) := by
  obtain ⟨hname, -, hput⟩ := writeSpecification_eq_ok_iff.1 h
  have hdecode := Codec.decode_encode c c s
  rw [if_pos hname] at hdecode
  have hiff : c.decode (c.encode s) = .ok s ↔ ∀ d ∈ s.dependencies, c.rules.isValid d = true := by
    rw [hdecode, ← Specification.refusedDependencies_eq_nil_iff]
    split
    · rename_i hnone
      exact ⟨fun _ => hnone, fun _ => rfl⟩
    · rename_i hsome
      exact ⟨nofun, fun hnone => absurd hnone hsome⟩
  refine ⟨c.encode s, hstores hput, hiff, fun ⟨d, hd, hv⟩ => ?_, fun ⟨_, _, hmade⟩ => ?_⟩
  · rw [hdecode, if_neg]
    intro hnil
    have hmem := Specification.mem_refusedDependencies.2 ⟨hd, hv⟩
    rw [hnil] at hmem
    exact absurd hmem List.not_mem_nil
  · exact hiff.2 (Specification.isValid_of_ofOptions hmade)

end Sink

/-- A specification that the standard rules admit. -/
def plain : Specification := ⟨"a", .ofList ["b"]⟩

/-- In memory it is read back. -/
theorem read_back_plain :
    ∃ path after body,
      MemoryEntries.sink.writeSpecification .standard plain {} = .ok path after
        ∧ after.entries.get? path = some body
        ∧ Codec.standard.decode body = .ok plain := by
  have hname : Codec.standard.rules.isValid plain.name = true := by decide +kernel
  have hdeps : ∀ d ∈ plain.dependencies.toList, Codec.standard.rules.isValid d = true := by
    decide +kernel
  obtain ⟨path, after, hwrite⟩ := MemoryEntries.exists_write hname
  obtain ⟨body, hheld, hiff, -⟩ := Sink.read_back _ _ _ _ _ MemoryEntries.stores hwrite
  exact ⟨path, after, body, hwrite, hheld, hiff.2 hdeps⟩

/-- A specification whose dependency only wider rules admit. -/
def spaced : Specification := ⟨"a", .ofList ["b c"]⟩

/-- The standard codec writes what was made under wider rules and then does not read it. -/
theorem spaced_not_read_back :
    (∃ rules, NameRules.ofPattern "^.+$" = .ok rules
        ∧ Specification.ofRules rules "a" ["b c"] = .ok spaced)
      ∧ (MemoryEntries.sink.Stores fun m path => m.entries.get? path)
      ∧ ∃ path after body,
          MemoryEntries.sink.writeSpecification .standard spaced {} = .ok path after
            ∧ after.entries.get? path = some body
            ∧ Codec.standard.decode body = .error (.invalidDependencies [some "b c"]) := by
  refine ⟨?_, MemoryEntries.stores, ?_⟩
  · have hmade : (NameRules.ofPattern "^.+$").toOption.any (fun rules =>
        (Specification.ofRules rules "a" ["b c"]).toOption.any (· = spaced)) = true := by
      decide +kernel
    obtain ⟨rules, hrules, hmade⟩ := exists_of_any_toOption hmade
    obtain ⟨s, hs, heq⟩ := exists_of_any_toOption hmade
    exact ⟨rules, hrules, of_decide_eq_true heq ▸ hs⟩
  · have hname : Codec.standard.rules.isValid spaced.name = true := by decide +kernel
    have hrefused : spaced.refusedDependencies Codec.standard.rules = ["b c"] := by
      decide +kernel
    obtain ⟨path, after, hwrite⟩ := MemoryEntries.exists_write hname
    have hheld := MemoryEntries.stores (Sink.writeSpecification_eq_ok_iff.1 hwrite).2.2
    refine ⟨path, after, _, hwrite, hheld, ?_⟩
    rw [Codec.decode_encode, hrefused]
    rfl

end SpecCatalog
