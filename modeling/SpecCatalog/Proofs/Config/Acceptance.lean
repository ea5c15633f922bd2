import Mathlib.Data.List.TakeWhile
import SpecCatalog.Proofs.Config.Reading
import SpecCatalog.Proofs.Layout.Paths

/-!
# What is accepted as a configuration

A file is read as a configuration if its bytes are a text of the grammar, and the text says which
one. A codec is made from a configuration if the check finds nothing to object to and the pattern
is one (`usable_iff`). The check looks at the directory without the slashes at both ends, and so
does the layout that the codec gets.
-/

namespace SpecCatalog

/-! ## Directories without the slashes around them -/

theorem trimSlashes_eq_empty_iff {s : String} :
    Layout.trimSlashes s = "" ↔ ∀ ch ∈ s.toList, ch = '/' := by
  unfold Layout.trimSlashes
  rw [String.ofList_eq_empty_iff, List.reverse_eq_nil_iff, List.dropWhile_eq_nil_iff]
  simp only [List.mem_reverse, decide_eq_true_eq]
  constructor
  · intro h ch hch
    rw [← List.takeWhile_append_dropWhile (p := (· = '/')) (l := s.toList)] at hch
    rcases List.mem_append.1 hch with hcut | hleft
    · simpa only [decide_eq_true_eq] using List.mem_takeWhile_imp hcut
    · exact h ch hleft
  · intro h ch hch
    exact h ch ((List.dropWhile_sublist _).mem hch)

theorem getLast?_trimSlashes (s : String) :
    (Layout.trimSlashes s).toList.getLast? ≠ some '/' := by
  unfold Layout.trimSlashes
  rw [String.toList_ofList, List.getLast?_reverse]
  intro hhead
  have hnot := List.head?_dropWhile_not (· = '/') (s.toList.dropWhile (· = '/')).reverse
  rw [hhead] at hnot
  simp at hnot

namespace Config

variable {c : Config}

/-! ## Codecs -/

/-- What is asked of a configuration before there is a codec for it. -/
structure Usable (c : Config) : Prop where
  directory : ∃ ch ∈ c.specsDirectory.toList, ch ≠ '/'
  extension_ne : c.extension ≠ ""
  no_slash : '/' ∉ c.extension.toList
  indent : 1 ≤ c.indent
  pattern : ∃ e, Pattern.Expr.ofPattern c.namePattern = .ok e

theorem usable_iff : (∃ codec, Codec.ofConfig c = .ok codec) ↔ c.Usable := by
  have hrules : (∃ rules, NameRules.ofPattern c.namePattern = .ok rules)
      ↔ ∃ e, Pattern.Expr.ofPattern c.namePattern = .ok e := by
    unfold NameRules.ofPattern
    cases Pattern.Expr.ofPattern c.namePattern with
    | ok e => exact ⟨fun _ => ⟨e, rfl⟩, fun _ => ⟨⟨e⟩, rfl⟩⟩
    | error refusal => exact ⟨nofun, nofun⟩
  have hdirectory : Layout.trimSlashes c.specsDirectory ≠ ""
      ↔ ∃ ch ∈ c.specsDirectory.toList, ch ≠ '/' := by
    rw [Ne, trimSlashes_eq_empty_iff]
    push Not
    rfl
  -- the check comes first, and the pattern is read only of what passes it
  unfold Codec.ofConfig
  cases hcheck : c.check with
  | error e =>
    refine ⟨nofun, fun h => ?_⟩
    have hfine := check_eq_ok_iff.2
      ⟨hdirectory.2 h.directory, h.extension_ne, h.no_slash, h.indent⟩
    rw [hfine] at hcheck
    cases hcheck
  | ok u =>
    obtain ⟨hsome, hextension, hslash, hindent⟩ := check_eq_ok_iff.1 hcheck
    constructor
    · rintro ⟨codec, h⟩
      obtain ⟨rules, hpattern, -⟩ := bind_eq_ok_iff.1 h
      exact ⟨hdirectory.1 hsome, hextension, hslash, hindent, hrules.1 ⟨rules, hpattern⟩⟩
    · intro h
      obtain ⟨rules, hpattern⟩ := hrules.2 h.pattern
      exact ⟨_, bind_eq_ok_iff.2 ⟨rules, hpattern, rfl⟩⟩

/-- The directory of a codec is not empty and has no slash at either end. -/
theorem directory_of_ofConfig {codec : Codec} (h : Codec.ofConfig c = .ok codec) :
    codec.layout.directory ≠ "" ∧ codec.layout.directory.toList.head? ≠ some '/'
      ∧ codec.layout.directory.toList.getLast? ≠ some '/' := by
  have hproper := Codec.proper_of_ofConfig h
  refine ⟨hproper.directory_ne, of_decide_eq_false hproper.relative, ?_⟩
  unfold Codec.ofConfig at h
  split at h
  · cases h
  · obtain ⟨rules, -, h⟩ := bind_eq_ok_iff.1 h
    cases h
    exact getLast?_trimSlashes _

/-! ## Files -/

variable {t : FileTree} {path : String} {body : Bytes}

theorem ofFile_notText (hbody : t.contents path = .ok body)
    (h : ∀ s, body ≠ Text.toBytes s) : ofFile t path = .error (.io path .notText) := by
  have hnone : Text.ofBytes? body = none :=
    Option.eq_none_iff_forall_ne_some.2 fun s hs => h s (Text.ofBytes?_eq_some_iff.1 hs)
  unfold ofFile
  simp only [hbody, hnone]

theorem ofFile_eq_ok_iff {s : String} (hbody : t.contents path = .ok (Text.toBytes s)) :
    ofFile t path = .ok c ↔ ConfigText (Text.toBytes s) c := by
  rw [← parse_eq_ok_iff_configText]
  unfold ofFile
  simp only [hbody, Text.ofBytes?_toBytes]
  cases shape.parse (Text.toBytes s) with
  | ok c' =>
    constructor
    · intro h
      cases h
      rfl
    · intro h
      cases h
      rfl
  | error fault => exact ⟨nofun, nofun⟩

theorem ofFile_unreadable {s : String} (hbody : t.contents path = .ok (Text.toBytes s))
    (h : ∀ c, ¬ ConfigText (Text.toBytes s) c) :
    ∃ fault, ofFile t path = .error (.badConfig (.unreadable path fault)) := by
  cases hparse : shape.parse (Text.toBytes s) with
  | ok c => exact absurd (parse_eq_ok_iff_configText.1 hparse) (h c)
  | error fault =>
    refine ⟨.parsing fault, ?_⟩
    unfold ofFile
    simp only [hbody, Text.ofBytes?_toBytes, hparse]

/-- **Configurations are accepted exactly.**

A file that is no text is an input error. A file that is one is read as a configuration if the
grammar says so, and as the configuration that the grammar says; every other text is a bad
configuration. There is a codec for a configuration exactly if it is usable, and the directory of
the codec is not empty and has no slash at either end. -/
theorem accepted_exactly (hbody : t.contents path = .ok body) :
    ((∀ s, body ≠ Text.toBytes s) → ofFile t path = .error (.io path .notText)) ∧
    (∀ s, body = Text.toBytes s →
      (∀ c, ofFile t path = .ok c ↔ ConfigText body c) ∧
      ((∀ c, ¬ ConfigText body c) →
        ∃ fault, ofFile t path = .error (.badConfig (.unreadable path fault)))) ∧
    ∀ c : Config,
      ((∃ codec, Codec.ofConfig c = .ok codec) ↔ c.Usable) ∧
      ∀ codec, Codec.ofConfig c = .ok codec → codec.layout.directory ≠ "" ∧
        codec.layout.directory.toList.head? ≠ some '/' ∧
        codec.layout.directory.toList.getLast? ≠ some '/' := by
  refine ⟨ofFile_notText hbody, ?_, fun c => ⟨usable_iff, fun codec => directory_of_ofConfig⟩⟩
  rintro s rfl
  exact ⟨fun c => ofFile_eq_ok_iff hbody, ofFile_unreadable hbody⟩

/-- A key with an escape, a file that is no text, and directories with slashes around them. -/
theorem accepted_exactly_escaped :
    (FileTree.empty.put [] "c" (.file (Text.toBytes
        "\x7b\"\\u0065xtension\": \".spec\", \"indent\" :4\x7d"))).contents "c"
      = .ok (Text.toBytes "\x7b\"\\u0065xtension\": \".spec\", \"indent\" :4\x7d") ∧
    ConfigText (Text.toBytes "\x7b\"\\u0065xtension\": \".spec\", \"indent\" :4\x7d")
      { extension := ".spec", indent := 4 } ∧
    (FileTree.empty.put [] "c" (.file [0xff])).contents "c" = .ok [0xff] ∧
    ofFile (FileTree.empty.put [] "c" (.file [0xff])) "c" = .error (.io "c" .notText) ∧
    Usable { specsDirectory := "/a//b/" } ∧ ¬ Usable { specsDirectory := "//" } := by
  have hbody : (FileTree.empty.put [] "c" (.file (Text.toBytes
        "\x7b\"\\u0065xtension\": \".spec\", \"indent\" :4\x7d"))).contents "c"
      = .ok (Text.toBytes "\x7b\"\\u0065xtension\": \".spec\", \"indent\" :4\x7d") :=
    eq_ok_of_any_toOption (by decide +kernel)
  have hbytes : (FileTree.empty.put [] "c" (.file [0xff])).contents "c" = .ok [0xff] :=
    eq_ok_of_any_toOption (by decide +kernel)
  have hread := accepted_exactly hbody
  have hrefused := accepted_exactly hbytes
  refine ⟨hbody, (hread.2.1 _ rfl).1 _ |>.1 (eq_ok_of_any_toOption (by decide +kernel)), hbytes,
    hrefused.1 fun s hs => ?_, ?_, ?_⟩
  · have hsome := Text.ofBytes?_eq_some_iff.2 hs
    have hnone : (Text.ofBytes? [0xff]).isSome = false := by decide +kernel
    rw [hsome] at hnone
    cases hnone
  · obtain ⟨codec, hcodec, -⟩ := exists_of_any_toOption (p := fun _ => true)
      (x := Codec.ofConfig { specsDirectory := "/a//b/" }) (by decide +kernel)
    exact (hread.2.2 _).1.1 ⟨codec, hcodec⟩
  · rintro ⟨⟨ch, hch, hne⟩, -⟩
    have hslash : ch ∈ ['/', '/'] := hch
    exact hne (by simpa using hslash)

end Config

end SpecCatalog
