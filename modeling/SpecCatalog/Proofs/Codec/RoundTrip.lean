import SpecCatalog.Codec
import SpecCatalog.Proofs.Json.Acceptance
import SpecCatalog.Proofs.Json.Printing
import SpecCatalog.Proofs.Specification.Judging
import SpecCatalog.Sink.Limited

/-!
# Reading what was written

A descriptor says exactly what the specification it was written from is
(`parse_encode`), whoever wrote it: names are escaped and laid out by the printer, and the
reader undoes both. The reader then judges the name and the dependencies under its own
rules, which need not be the writer's, so `decode_encode` names the three answers it can
give. Since no rules come between the bytes and what they say, the bytes also determine
the specification.
-/

namespace SpecCatalog

namespace Codec

open Json Json.Scan

variable {c c' : Codec} {s s' : Specification}

/-! ## Writing into a store without a limit -/

theorem writePieces_store (pieces : List Bytes) (held : Bytes) :
    writePieces LimitedStore.write pieces { written := held }
      = .ok () { written := held ++ pieces.flatten } := by
  induction pieces generalizing held with
  | nil =>
    rw [List.flatten_nil, List.append_nil]
    rfl
  | cons p ps ih =>
    rw [List.flatten_cons, ← List.append_assoc, ← ih]
    rfl

theorem encodeTo_store (c : Codec) (s : Specification) (held : Bytes) :
    c.encodeTo s LimitedStore.write { written := held }
      = .ok () { written := held ++ c.encode s } := by
  rw [encodeTo, writePieces_store]
  rfl

/-! ## The descriptor that was written -/

theorem takes_name : Takes (orNull textValue) (OrNull TextForm) :=
  Takes.orNull takes_textValue textForm_beginsIn (List.forall_mem_singleton.2 (by decide))

theorem takes_dependencies :
    Takes (orNull (listValue (orNull textValue))) (OrNull (ListForm (OrNull TextForm))) :=
  Takes.orNull
    (Takes.listValue takes_name textForm_beginsIn.orNull
      (List.forall_mem_cons.2 ⟨by decide, List.forall_mem_singleton.2 (by decide)⟩))
    (listForm_beginsIn _) (List.forall_mem_singleton.2 (by decide))

/-- The dependencies as they are written. -/
theorem dependencies_form (c : Codec) (s : Specification) :
    OrNull (ListForm (OrNull TextForm))
      (Printer.list c.indent 1 (s.dependencies.toList.map Printer.text)).flatten
      (some (s.dependencies.toList.map some)) :=
  .value (Printer.listForm_list (fun d => .value (Printer.textForm_text d)) c.indent 1 _)

theorem encode_eq (c : Codec) (s : Specification) :
    c.encode s = Byte.openMap :: (Printer.newline c.indent 1 ++
      ((Printer.text "dependencies").flatten ++ ([] ++ Byte.colon :: ([0x20] ++
        ((Printer.list c.indent 1 (s.dependencies.toList.map Printer.text)).flatten ++
      ((Byte.comma :: Printer.newline c.indent 1) ++
      ((Printer.text "name").flatten ++ ([] ++ Byte.colon :: ([0x20] ++
        ((Printer.text s.name).flatten ++
      (Printer.newline c.indent 0 ++ [Byte.closeMap]))))))))))) := by
  simp [encode, pieces, Printer.object, Printer.between, List.append_assoc]

theorem parse_encode (c : Codec) (s : Specification) :
    descriptorShape.parse (c.encode s)
      = .ok ⟨some s.name, some (s.dependencies.toList.map some)⟩ := by
  have hspace : Blanks [0x20] := List.forall_mem_singleton.2 (by decide)
  have hline := Printer.blanks_newline c.indent
  rw [encode_eq]
  refine Shape.read_of_gives (c := .ofBytes _) (u := [])
    (Shape.gives_value_object (u := []) blanks_nil ?_) blanks_nil rfl
  -- the two members, in the order in which they are written, and the end of the object
  refine Shape.gives_members_cons (.first (hline 1)) (Printer.textForm_text _) rfl
    List.not_mem_nil blanks_nil
    ((takes_dependencies hspace (dependencies_form c s) _).bind (.pure _ _)) ?_
  refine Shape.gives_members_cons (.later blanks_nil (hline 1)) (Printer.textForm_text _) rfl
    (by decide) blanks_nil
    ((takes_name hspace (.value (Printer.textForm_text s.name)) _).bind (.pure _ _)) ?_
  exact Shape.gives_members_nil 0 _ (by decide) (hline 0) []

/-! ## The three answers of a reader -/

theorem decode_encode (c c' : Codec) (s : Specification) :
    c'.decode (c.encode s) =
      if s.refusedDependencies c'.rules = [] then
        if c'.rules.isValid s.name then .ok s else .error (.invalidName (some s.name))
      else .error (.invalidDependencies ((s.refusedDependencies c'.rules).map some)) := by
  rw [decode, parse_encode]
  exact Specification.ofOptions_self c'.rules s

/-- What a descriptor says determines the specification, whatever the indents. -/
theorem eq_of_encode_eq (h : c.encode s = c'.encode s') : s = s' := by
  have hparse := parse_encode c s
  rw [h, parse_encode c' s'] at hparse
  injection hparse with hsays
  injection hsays with hname hdeps
  injection hname with hname
  injection hdeps with hdeps
  have hlists : s'.dependencies.toList = s.dependencies.toList :=
    (List.map_inj_right fun _ _ => Option.some.inj).1 hdeps
  have hsets : s'.dependencies = s.dependencies := by
    refine NameSet.ext fun x => ?_
    rw [← NameSet.mem_toList, hlists, NameSet.mem_toList]
  exact congr (congrArg Specification.mk hname.symm) hsets.symm

/-- **Decoding undoes encoding.**

Encoding never fails. A second codec, whatever its rules and indent, reads the bytes as
follows: if its rules refuse dependencies, exactly those are reported, in order; else the
name, if they refuse it; else the specification comes back. And no other specification is
written as these bytes by any codec. -/
theorem decode_undoes_encode (c c' : Codec) (s : Specification) :
    (∀ held, c.encodeTo s LimitedStore.write { written := held }
      = .ok () { written := held ++ c.encode s }) ∧
    (∃ rejected : List String, rejected.Pairwise (· < ·) ∧
      (∀ d, d ∈ rejected ↔ d ∈ s.dependencies ∧ c'.rules.isValid d = false) ∧
      c'.decode (c.encode s) =
        if rejected ≠ [] then .error (.invalidDependencies (rejected.map some))
        else if c'.rules.isValid s.name = false then .error (.invalidName (some s.name))
        else .ok s) ∧
    ∀ s', (∃ writer : Codec, writer.encode s' = c.encode s) ↔ s' = s := by
  refine ⟨encodeTo_store c s, ⟨s.refusedDependencies c'.rules,
    Specification.refusedDependencies_increasing,
    fun _ => Specification.mem_refusedDependencies, ?_⟩, fun s' => ⟨?_, ?_⟩⟩
  · rw [decode_encode, ite_not]
    cases c'.rules.isValid s.name <;> rfl
  · rintro ⟨writer, h⟩
    exact eq_of_encode_eq h
  · rintro rfl
    exact ⟨c, rfl⟩

end Codec

end SpecCatalog
