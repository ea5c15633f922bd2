import SpecCatalog.Proofs.Codec.RoundTrip
import SpecCatalog.Proofs.Json.Records

/-!
# The grammar of descriptors

`DescriptorForm` lists the ways to write a descriptor: an object with a name and, before or
after it or not at all, dependencies, or a list of a name and perhaps dependencies. Where a
value is absent, `null` may stand. `decode_grammar` says that these texts, with blanks around
them, are what can be decoded, and that nothing but the name and the set of the dependencies
matters for the answer.
-/

namespace SpecCatalog

namespace Codec

open Json Json.Scan Json.Shape

/-! ## The grammar -/

def NameForm : Writing (Option String) := OrNull TextForm

def DependenciesForm : Writing (Option (List (Option String))) :=
  OrNull (ListForm (OrNull TextForm))

/-- A member of an object, with what stands before it and a value of these forms. -/
inductive Member {α : Type} (key : String) (W : Writing α) : Bool → Writing α where
  | mk {first : Bool} {lead k u v w : Bytes} {a : α} :
      Lead first lead → TextForm k key → Blanks u → Blanks v → W w a →
      Member key W first (lead ++ (k ++ (u ++ Byte.colon :: (v ++ w)))) a

/-- An element of a list, with what stands before it and a value of these forms. -/
inductive Element {α : Type} (W : Writing α) : Bool → Writing α where
  | mk {first : Bool} {lead w : Bytes} {a : α} :
      Lead first lead → W w a → Element W first (lead ++ w) a

/-- A descriptor without the blanks around it. -/
inductive DescriptorForm : Writing Descriptor where
  | nameOnly {m u : Bytes} {n : Option String} :
      Member "name" NameForm true m n → Blanks u →
      DescriptorForm (Byte.openMap :: (m ++ u) ++ [Byte.closeMap]) ⟨n, none⟩
  | nameFirst {m m' u : Bytes} {n : Option String} {d : Option (List (Option String))} :
      Member "name" NameForm true m n → Member "dependencies" DependenciesForm false m' d →
      Blanks u → DescriptorForm (Byte.openMap :: (m ++ (m' ++ u)) ++ [Byte.closeMap]) ⟨n, d⟩
  | dependenciesFirst {m m' u : Bytes} {n : Option String} {d : Option (List (Option String))} :
      Member "dependencies" DependenciesForm true m d → Member "name" NameForm false m' n →
      Blanks u → DescriptorForm (Byte.openMap :: (m ++ (m' ++ u)) ++ [Byte.closeMap]) ⟨n, d⟩
  | listOfName {e u : Bytes} {n : Option String} :
      Element NameForm true e n → Blanks u →
      DescriptorForm (Byte.openList :: (e ++ u) ++ [Byte.closeList]) ⟨n, none⟩
  | listOfBoth {e e' u : Bytes} {n : Option String} {d : Option (List (Option String))} :
      Element NameForm true e n → Element DependenciesForm false e' d → Blanks u →
      DescriptorForm (Byte.openList :: (e ++ (e' ++ u)) ++ [Byte.closeList]) ⟨n, d⟩

/-- A text that is a descriptor and nothing else. -/
def DescriptorText : Writing Descriptor := Document DescriptorForm

/-! ## The shape of a descriptor

The reader is driven by the shape, so its grammar is the one of records with the two fields. -/

def nameField : Json.Field Descriptor :=
  ⟨"name", true, fun d => do return { d with name := ← orNull textValue }⟩

def dependenciesField : Json.Field Descriptor :=
  ⟨"dependencies", false,
    fun d => do return { d with dependencies := ← orNull (listValue (orNull textValue)) }⟩

theorem fields_descriptorShape : descriptorShape.fields = [nameField, dependenciesField] := rfl

theorem mem_fields {f : Json.Field Descriptor} (hf : f ∈ descriptorShape.fields) :
    f = nameField ∨ f = dependenciesField := by
  rw [fields_descriptorShape] at hf
  simpa only [List.mem_cons, List.not_mem_nil, or_false] using hf

/-- How the value of a field is written and where it goes. -/
def ValueForm (f : Json.Field Descriptor) (d : Descriptor) : Writing Descriptor := fun w d' =>
  (f.name = "name" ∧ ∃ n, NameForm w n ∧ d' = { d with name := n }) ∨
  (f.name = "dependencies" ∧ ∃ l, DependenciesForm w l ∧ d' = { d with dependencies := l })

theorem nameForm_beginsIn : NameForm.BeginsIn [Byte.ofChar 'n', Byte.quote] :=
  textForm_beginsIn.orNull

theorem dependenciesForm_beginsIn :
    DependenciesForm.BeginsIn [Byte.ofChar 'n', Byte.openList] :=
  (listForm_beginsIn _).orNull

theorem derived_name : Derived (orNull textValue) NameForm := derived_textValue.orNull

theorem derived_dependencies :
    Derived (orNull (listValue (orNull textValue))) DependenciesForm :=
  Derived.orNull (Derived.listValue derived_name)

/-- The bytes a value may begin with are not blank and end no list. -/
theorem starts_of_mem {b : UInt8}
    (hb : b ∈ [Byte.ofChar 'n', Byte.quote, Byte.openList]) :
    isBlank b = false ∧ b ≠ Byte.closeList := by
  simp only [List.mem_cons, List.not_mem_nil, or_false] at hb
  rcases hb with rfl | rfl | rfl
  · decide
  · decide
  · decide

theorem readsAs_descriptorShape : descriptorShape.ReadsAs ValueForm where
  distinct := by decide
  takes := by
    intro f hf d u w d' hu hw t _
    obtain rfl | rfl := mem_fields hf
    · obtain ⟨_, n, hn, rfl⟩ | ⟨hf, _⟩ := hw
      · exact (takes_name hu hn t).bind (.pure _ t)
      · exact absurd hf (by decide)
    · obtain ⟨hf, _⟩ | ⟨_, l, hl, rfl⟩ := hw
      · exact absurd hf (by decide)
      · exact (takes_dependencies hu hl t).bind (.pure _ t)
  derived := by
    intro f hf d c c' d' h
    obtain rfl | rfl := mem_fields hf
    · obtain ⟨n, c₁, hread, h⟩ := exists_of_bind_eq_ok h
      cases h
      obtain ⟨u, w, hu, hw, htaken⟩ := derived_name hread
      exact ⟨u, w, hu, .inl ⟨rfl, n, hw, rfl⟩, htaken⟩
    · obtain ⟨l, c₁, hread, h⟩ := exists_of_bind_eq_ok h
      cases h
      obtain ⟨u, w, hu, hw, htaken⟩ := derived_dependencies hread
      exact ⟨u, w, hu, .inr ⟨rfl, l, hw, rfl⟩, htaken⟩
  begins := by
    rintro f - d w d' (⟨_, n, hn, rfl⟩ | ⟨_, l, hl, rfl⟩)
    · obtain ⟨b, hb, rest, rfl⟩ := nameForm_beginsIn _ _ hn
      exact ⟨b, rest, rfl, starts_of_mem (by grind)⟩
    · obtain ⟨b, hb, rest, rfl⟩ := dependenciesForm_beginsIn _ _ hl
      exact ⟨b, rest, rfl, starts_of_mem (by grind)⟩

/-! ## One grammar -/

theorem members_nil {seen : List String} {first : Bool} {d : Descriptor} {u : Bytes}
    (hs : "name" ∈ seen) (hu : Blanks u) :
    Members descriptorShape ValueForm first seen d u d := by
  refine .nil (fun f hf hr => ?_) hu
  obtain rfl | rfl := mem_fields hf
  · exact hs
  · cases hr

theorem members_name {seen : List String} {first : Bool} {d d' : Descriptor} {m w : Bytes}
    {n : Option String} (hs : "name" ∉ seen) (hm : Member "name" NameForm first m n)
    (hw : Members descriptorShape ValueForm false ("name" :: seen) { d with name := n } w d') :
    Members descriptorShape ValueForm first seen d (m ++ w) d' := by
  cases hm with
  | mk hl hk hu hv hn =>
    simp only [List.append_assoc, List.cons_append]
    exact .cons (f := nameField) List.mem_cons_self hs hl hk hu hv
      (.inl ⟨rfl, _, hn, rfl⟩) hw

theorem members_dependencies {seen : List String} {first : Bool} {d d' : Descriptor}
    {m w : Bytes} {l : Option (List (Option String))} (hs : "dependencies" ∉ seen)
    (hm : Member "dependencies" DependenciesForm first m l)
    (hw : Members descriptorShape ValueForm false ("dependencies" :: seen)
      { d with dependencies := l } w d') :
    Members descriptorShape ValueForm first seen d (m ++ w) d' := by
  cases hm with
  | mk hl hk hu hv hn =>
    simp only [List.append_assoc, List.cons_append]
    exact .cons (f := dependenciesField) (List.mem_cons_of_mem _ List.mem_cons_self) hs hl hk hu
      hv (.inr ⟨rfl, _, hn, rfl⟩) hw

theorem form_of_descriptorForm {w : Bytes} {d : Descriptor} (h : DescriptorForm w d) :
    descriptorShape.Form ValueForm w d := by
  cases h with
  | nameOnly hm hu =>
    exact .object (members_name List.not_mem_nil hm (members_nil List.mem_cons_self hu))
  | nameFirst hm hm' hu =>
    exact .object (members_name List.not_mem_nil hm
      (members_dependencies (by decide) hm' (members_nil (by decide) hu)))
  | dependenciesFirst hm hm' hu =>
    exact .object (members_dependencies List.not_mem_nil hm
      (members_name (by decide) hm' (members_nil (by decide) hu)))
  | listOfName he hu =>
    cases he with
    | mk hl hn =>
      rw [List.append_assoc]
      refine .list (.cons hl (.inl ⟨rfl, _, hn, rfl⟩) (.nil ?_ hu))
      intro f hf
      obtain rfl := List.mem_singleton.1 hf
      rfl
  | listOfBoth he he' hu =>
    cases he with
    | mk hl hn =>
      cases he' with
      | mk hl' hd =>
        rw [List.append_assoc, List.append_assoc]
        exact .list (.cons hl (.inl ⟨rfl, _, hn, rfl⟩) (.cons hl' (.inr ⟨rfl, _, hd, rfl⟩)
          (.nil (fun f hf => absurd hf List.not_mem_nil) hu)))

/-- The first member of some: the one of the one field or of the other, or none. -/
theorem Members.uncons {first : Bool} {seen : List String} {d d' : Descriptor} {w : Bytes}
    (h : Members descriptorShape ValueForm first seen d w d') :
    ("name" ∈ seen ∧ Blanks w ∧ d' = d) ∨
    (∃ m n more, "name" ∉ seen ∧ w = m ++ more ∧ Member "name" NameForm first m n ∧
      Members descriptorShape ValueForm false ("name" :: seen) { d with name := n } more d') ∨
    (∃ m l more, "dependencies" ∉ seen ∧ w = m ++ more ∧
      Member "dependencies" DependenciesForm first m l ∧
      Members descriptorShape ValueForm false ("dependencies" :: seen)
        { d with dependencies := l } more d') := by
  cases h with
  | nil hr hu => exact .inl ⟨hr nameField List.mem_cons_self rfl, hu, rfl⟩
  | cons hf hs hl hk hu hv hw hmore =>
    obtain ⟨hname, n, hn, rfl⟩ | ⟨hname, l, hd, rfl⟩ := hw
    · rw [hname] at hs hk hmore
      refine .inr (.inl ⟨_, n, _, hs, ?_, .mk hl hk hu hv hn, hmore⟩)
      simp only [List.append_assoc, List.cons_append]
    · rw [hname] at hs hk hmore
      refine .inr (.inr ⟨_, l, _, hs, ?_, .mk hl hk hu hv hd, hmore⟩)
      simp only [List.append_assoc, List.cons_append]

theorem descriptorForm_of_form {w : Bytes} {d : Descriptor}
    (h : descriptorShape.Form ValueForm w d) : DescriptorForm w d := by
  cases h with
  | object hm =>
    obtain ⟨hs, _, _⟩ | ⟨m, n, w₁, _, rfl, hname, h₁⟩ | ⟨m, l, w₁, _, rfl, hdeps, h₁⟩ :=
      Members.uncons hm
    · exact absurd hs List.not_mem_nil
    · obtain ⟨_, hu, rfl⟩ | ⟨_, _, _, hs, _⟩ | ⟨m', l, w₂, _, rfl, hdeps, h₂⟩ :=
        Members.uncons h₁
      · exact .nameOnly hname hu
      · exact absurd List.mem_cons_self hs
      · obtain ⟨_, hu, rfl⟩ | ⟨_, _, _, hs, _⟩ | ⟨_, _, _, hs, _⟩ := Members.uncons h₂
        · exact .nameFirst hname hdeps hu
        · exact absurd (List.mem_cons_of_mem _ List.mem_cons_self) hs
        · exact absurd List.mem_cons_self hs
    · obtain ⟨hs, _, _⟩ | ⟨m', n, w₂, _, rfl, hname, h₂⟩ | ⟨_, _, _, hs, _⟩ :=
        Members.uncons h₁
      · exact absurd hs (by decide)
      · obtain ⟨_, hu, rfl⟩ | ⟨_, _, _, hs, _⟩ | ⟨_, _, _, hs, _⟩ := Members.uncons h₂
        · exact .dependenciesFirst hdeps hname hu
        · exact absurd List.mem_cons_self hs
        · exact absurd (List.mem_cons_of_mem _ List.mem_cons_self) hs
      · exact absurd List.mem_cons_self hs
  | list he =>
    cases he with
    | nil hr _ => exact absurd (hr nameField List.mem_cons_self) (by decide)
    | cons hl hv he' =>
      obtain ⟨_, n, hn, rfl⟩ | ⟨hf, _⟩ := hv
      · cases he' with
        | nil _ hu =>
          rw [← List.append_assoc]
          exact .listOfName (.mk hl hn) hu
        | cons hl' hv' he'' =>
          obtain ⟨hf, _⟩ | ⟨_, l, hd, rfl⟩ := hv'
          · exact absurd hf (by decide)
          · cases he'' with
            | nil _ hu =>
              have hform := DescriptorForm.listOfBoth (.mk hl hn) (.mk hl' hd) hu
              simpa only [List.append_assoc] using hform
      · exact absurd hf (by decide)

theorem parse_eq_ok_iff_descriptorText {bs : Bytes} {d : Descriptor} :
    descriptorShape.parse bs = .ok d ↔ DescriptorText bs d := by
  have hforms : ∀ w d, descriptorShape.Form ValueForm w d ↔ DescriptorForm w d :=
    fun w d => ⟨descriptorForm_of_form, form_of_descriptorForm⟩
  rw [parse_eq_ok_iff readsAs_descriptorShape]
  unfold DescriptorText Document
  simp only [hforms]

/-! ## Decoding -/

theorem decode_of_descriptorText (c : Codec) {bs : Bytes} {d : Descriptor}
    (h : DescriptorText bs d) :
    c.decode bs = Specification.ofOptions c.rules d.name d.dependencies := by
  rw [decode, parse_eq_ok_iff_descriptorText.2 h]
  rfl

/-- **Exactly the texts of the grammar can be decoded.**

Bytes are refused for their notation exactly if they are no descriptor of the grammar. If they
are one, the answer is what the rules make of the name and the dependencies, so two texts with
the same name and the same set of dependencies have the same answer. -/
theorem decode_grammar (c : Codec) (bs : Bytes) :
    ((∀ cause, c.decode bs ≠ .error (.decode cause)) ↔ ∃ d, DescriptorText bs d) ∧
    (∀ d, DescriptorText bs d →
      c.decode bs = Specification.ofOptions c.rules d.name d.dependencies ∧
      ∀ bs' d', DescriptorText bs' d' → d'.name = d.name →
        (∀ e, e ∈ d'.dependencies.getD [] ↔ e ∈ d.dependencies.getD []) →
        c.decode bs' = c.decode bs) := by
  refine ⟨⟨fun h => ?_, ?_⟩, fun d hd => ⟨decode_of_descriptorText c hd, ?_⟩⟩
  · cases hparse : descriptorShape.parse bs with
    | ok d => exact ⟨d, parse_eq_ok_iff_descriptorText.1 hparse⟩
    | error e =>
      refine absurd ?_ (h (.parsing e))
      rw [decode, hparse]
      rfl
  · rintro ⟨d, hd⟩ cause
    rw [decode_of_descriptorText c hd]
    exact Specification.ofOptions_ne_decode
  · intro bs' d' hd' hname hdeps
    rw [decode_of_descriptorText c hd, decode_of_descriptorText c hd', hname]
    exact Specification.ofOptions_congr hdeps

/-- A list with an escaped name and a repeated dependency, and an object with the parts the
other way round. -/
theorem decode_grammar_spellings :
    DescriptorText (Text.toBytes "[\"\\u006e\", [\"b\", \"a\", \"b\"]]\n")
      ⟨some "n", some [some "b", some "a", some "b"]⟩ ∧
    DescriptorText (Text.toBytes "\x7b\"dependencies\":[\"a\",\"b\"], \"name\" :\"n\"\x7d")
      ⟨some "n", some [some "a", some "b"]⟩ ∧
    Codec.standard.decode (Text.toBytes "[\"\\u006e\", [\"b\", \"a\", \"b\"]]\n")
      = .ok ⟨"n", .ofList ["a", "b"]⟩ ∧
    Codec.standard.decode
        (Text.toBytes "\x7b\"dependencies\":[\"a\",\"b\"], \"name\" :\"n\"\x7d")
      = .ok ⟨"n", .ofList ["a", "b"]⟩ := by
  have hlist := parse_eq_ok_iff_descriptorText.1 (eq_ok_of_any_toOption
    (x := descriptorShape.parse (Text.toBytes "[\"\\u006e\", [\"b\", \"a\", \"b\"]]\n"))
    (a := ⟨some "n", some [some "b", some "a", some "b"]⟩) (by decide +kernel))
  have hobject := parse_eq_ok_iff_descriptorText.1 (eq_ok_of_any_toOption
    (x := descriptorShape.parse
      (Text.toBytes "\x7b\"dependencies\":[\"a\",\"b\"], \"name\" :\"n\"\x7d"))
    (a := ⟨some "n", some [some "a", some "b"]⟩) (by decide +kernel))
  have hmade : Specification.ofOptions NameRules.standard (some "n")
      (some [some "b", some "a", some "b"]) = .ok ⟨"n", .ofList ["a", "b"]⟩ :=
    eq_ok_of_any_toOption (by decide +kernel)
  obtain ⟨hanswer, hsame⟩ := (decode_grammar Codec.standard _).2 _ hlist
  refine ⟨hlist, hobject, hanswer.trans hmade, ?_⟩
  rw [hsame _ _ hobject rfl (by simp)]
  exact hanswer.trans hmade

end Codec

end SpecCatalog
