import SpecCatalog.Config
import SpecCatalog.Proofs.Json.Counts

/-!
# The grammar of configurations

A configuration is written as settings: an object of some of them, in any order and each at most
once, or a list of the first ones in their order. What is not set has its standard value. So the
text says which settings there are, and they are put into the standard configuration one after
the other (`ConfigForm`). Exactly the texts of this grammar can be read
(`parse_eq_ok_iff_configText`).
-/

namespace SpecCatalog

namespace Config

open Json Json.Scan Json.Shape

/-! ## The grammar -/

/-- A part of a configuration with the value it is to have. -/
inductive Setting where
  | specsDirectory (s : String)
  | extension (s : String)
  | namePattern (s : String)
  | indent (n : Nat)

def Setting.key : Setting → String
  | .specsDirectory _ => "specs_directory"
  | .extension _ => "extension"
  | .namePattern _ => "name_pattern"
  | .indent _ => "indent"

/-- The keys in the order of a list. -/
def keys : List String := ["specs_directory", "extension", "name_pattern", "indent"]

def set (c : Config) : Setting → Config
  | .specsDirectory s => { c with specsDirectory := s }
  | .extension s => { c with extension := s }
  | .namePattern s => { c with namePattern := s }
  | .indent n => { c with indent := n }

/-- The value of a setting: a text, or a count that fits into 64 bits. -/
inductive ValueForm : Writing Setting where
  | specsDirectory {w : Bytes} {s : String} : TextForm w s → ValueForm w (.specsDirectory s)
  | extension {w : Bytes} {s : String} : TextForm w s → ValueForm w (.extension s)
  | namePattern {w : Bytes} {s : String} : TextForm w s → ValueForm w (.namePattern s)
  | indent {w : Bytes} {n : Nat} : CountForm w n → n < countLimit → ValueForm w (.indent n)

/-- A setting as a member of an object. -/
inductive MemberForm : Writing Setting where
  | mk {k u v w : Bytes} {s : Setting} :
      TextForm k s.key → Blanks u → Blanks v → ValueForm w s →
      MemberForm (k ++ (u ++ Byte.colon :: (v ++ w))) s

/-- A configuration without the blanks around it. -/
inductive ConfigForm : Writing Config where
  | object {w : Bytes} {settings : List Setting} :
      Items MemberForm true w settings → (settings.map Setting.key).Nodup →
      ConfigForm (Byte.openMap :: w ++ [Byte.closeMap]) (settings.foldl set {})
  | list {w : Bytes} {settings : List Setting} :
      Items ValueForm true w settings → settings.map Setting.key <+: keys →
      ConfigForm (Byte.openList :: w ++ [Byte.closeList]) (settings.foldl set {})

/-- A text that is a configuration and nothing else. -/
def ConfigText : Writing Config := Document ConfigForm

/-! ## The shape of a configuration

The reader is driven by the shape, so its grammar is the one of records with these fields. -/

def textField (key : String) (setting : String → Setting) : Json.Field Config :=
  ⟨key, false, fun c => do return c.set (setting (← textValue))⟩

def indentField : Json.Field Config :=
  ⟨"indent", false, fun c => do return c.set (.indent (← countValue))⟩

theorem fields_shape : shape.fields = [textField "specs_directory" .specsDirectory,
    textField "extension" .extension, textField "name_pattern" .namePattern, indentField] := rfl

theorem names_shape : shape.fields.map (·.name) = keys := rfl

variable {f g : Json.Field Config} {c c' : Config} {w : Bytes} {first : Bool}

theorem mem_fields (hf : f ∈ shape.fields) : f = textField "specs_directory" .specsDirectory
    ∨ f = textField "extension" .extension ∨ f = textField "name_pattern" .namePattern
    ∨ f = indentField := by
  rw [fields_shape] at hf
  simpa only [List.mem_cons, List.not_mem_nil, or_false] using hf

theorem not_required (hf : f ∈ shape.fields) : f.required = false := by
  rcases mem_fields hf with rfl | rfl | rfl | rfl
  · rfl
  · rfl
  · rfl
  · rfl

theorem nodup_keys : keys.Nodup := by decide

theorem eq_of_name (hf : f ∈ shape.fields) (hg : g ∈ shape.fields) (h : f.name = g.name) :
    f = g :=
  List.inj_on_of_nodup_map (names_shape ▸ nodup_keys) hf hg h

theorem key_mem_keys (s : Setting) : s.key ∈ keys := by
  cases s <;> simp [Setting.key, keys]

/-- Each setting is one of a field. -/
theorem exists_field (s : Setting) : ∃ f ∈ shape.fields, f.name = s.key := by
  have hkey := key_mem_keys s
  rw [← names_shape] at hkey
  obtain ⟨f, hf, hname⟩ := List.mem_map.1 hkey
  exact ⟨f, hf, hname⟩

/-- What the value of a field makes of a configuration. -/
def FieldForm (f : Json.Field Config) (c : Config) : Writing Config := fun w c' =>
  ∃ s : Setting, s.key = f.name ∧ ValueForm w s ∧ c' = c.set s

theorem valueForm_begins {s : Setting} (h : ValueForm w s) :
    ∃ b rest, w = b :: rest ∧ isBlank b = false ∧ b ≠ Byte.closeList := by
  have htext : ∀ {t : String}, TextForm w t →
      ∃ b rest, w = b :: rest ∧ isBlank b = false ∧ b ≠ Byte.closeList := by
    intro t ht
    obtain ⟨b, hb, rest, rfl⟩ := textForm_beginsIn _ _ ht
    rw [List.mem_singleton.1 hb]
    exact ⟨Byte.quote, rest, rfl, by decide, by decide⟩
  cases h with
  | specsDirectory ht => exact htext ht
  | extension ht => exact htext ht
  | namePattern ht => exact htext ht
  | indent hn _ =>
    obtain ⟨b, rest, rfl, hb⟩ := countForm_head hn
    exact ⟨b, rest, rfl, (isDigit_not_blank hb).1, (isDigit_not_blank hb).2.2⟩

theorem takes_textField {key : String} {setting : String → Setting} {u : Bytes} {s : String}
    (hu : Blanks u) (hw : TextForm w s) (t : Bytes) :
    Gives ((textField key setting).read c) (u ++ (w ++ t)) (c.set (setting s)) t :=
  (takes_textValue hu hw t).bind (.pure _ t)

theorem derived_textField {key : String} (setting : String → Setting)
    (hkey : ∀ s, (setting s).key = key) (hform : ∀ w s, TextForm w s → ValueForm w (setting s)) :
    Derived ((textField key setting).read c) (FieldForm (textField key setting) c) := by
  intro cur cur' c' h
  obtain ⟨s, cur₁, hread, h⟩ := exists_of_bind_eq_ok h
  cases h
  obtain ⟨u, w, hu, hw, htaken⟩ := derived_textValue hread
  exact ⟨u, w, hu, ⟨setting s, hkey s, hform w s hw, rfl⟩, htaken⟩

theorem derived_indentField : Derived (indentField.read c) (FieldForm indentField c) := by
  intro cur cur' c' h
  obtain ⟨n, cur₁, hread, h⟩ := exists_of_bind_eq_ok h
  cases h
  obtain ⟨u, w, hu, ⟨hw, hn⟩, htaken⟩ := derived_countValue hread
  exact ⟨u, w, hu, ⟨.indent n, rfl, .indent hw hn, rfl⟩, htaken⟩

theorem readsAs_shape : shape.ReadsAs FieldForm where
  distinct := nodup_keys
  takes := by
    rintro f hf c u w c' hu ⟨s, hkey, hw, rfl⟩ t ht
    -- the key of the setting says which field this is
    have hfield : ∀ g ∈ shape.fields, g.name = s.key → f = g :=
      fun g hg hname => eq_of_name hf hg (hkey.symm.trans hname.symm)
    rw [fields_shape] at hfield
    cases hw with
    | specsDirectory hw =>
      rw [hfield _ List.mem_cons_self rfl]
      exact takes_textField hu hw t
    | extension hw =>
      rw [hfield _ (List.mem_cons_of_mem _ List.mem_cons_self) rfl]
      exact takes_textField hu hw t
    | namePattern hw =>
      rw [hfield _ (List.mem_cons_of_mem _ (List.mem_cons_of_mem _ List.mem_cons_self)) rfl]
      exact takes_textField hu hw t
    | indent hw hn =>
      rw [hfield indentField (by simp) rfl]
      exact (takesInside_countValue hu ⟨hw, hn⟩ t ht).bind (.pure _ t)
  derived := by
    intro f hf c
    rcases mem_fields hf with rfl | rfl | rfl | rfl
    · exact derived_textField .specsDirectory (fun _ => rfl) fun _ _ => .specsDirectory
    · exact derived_textField .extension (fun _ => rfl) fun _ _ => .extension
    · exact derived_textField .namePattern (fun _ => rfl) fun _ _ => .namePattern
    · exact derived_indentField
  begins := by
    rintro f - c w c' ⟨s, -, hw, -⟩
    exact valueForm_begins hw

/-! ## One grammar -/

theorem members_of_items {seen : List String} {settings : List Setting}
    (h : Items MemberForm first w settings) (hnew : ∀ s ∈ settings, s.key ∉ seen)
    (hdistinct : (settings.map Setting.key).Nodup) (c : Config) :
    Members shape FieldForm first seen c w (settings.foldl set c) := by
  induction h generalizing seen c with
  | nil hu =>
    refine .nil (fun f hf hrequired => ?_) hu
    rw [not_required hf] at hrequired
    cases hrequired
  | @cons first lead w more s settings hl hm _ ih =>
    rw [List.forall_mem_cons] at hnew
    rw [List.map_cons, List.nodup_cons] at hdistinct
    obtain ⟨f, hf, hname⟩ := exists_field s
    have hlater : ∀ s' ∈ settings, s'.key ∉ f.name :: seen := by
      intro s' hs' hin
      rcases List.mem_cons.1 hin with he | hin
      · exact hdistinct.1 (List.mem_map.2 ⟨s', hs', he.trans hname⟩)
      · exact hnew.2 s' hs' hin
    have hmore := ih hlater hdistinct.2 (c.set s)
    cases hm with
    | mk hk hu hv hw =>
      simp only [List.append_assoc, List.cons_append]
      exact .cons hf (hname ▸ hnew.1) hl (hname ▸ hk) hu hv ⟨s, hname.symm, hw, rfl⟩ hmore

theorem exists_items_of_members {seen : List String}
    (h : Members shape FieldForm first seen c w c') :
    ∃ settings, Items MemberForm first w settings ∧ (∀ s ∈ settings, s.key ∉ seen)
      ∧ (settings.map Setting.key).Nodup ∧ c' = settings.foldl set c := by
  induction h with
  | nil _ hu => exact ⟨[], .nil hu, nofun, .nil, rfl⟩
  | @cons first seen f c c' c'' lead k u v w more hf hs hl hk hu hv hw _ ih =>
    obtain ⟨s, hkey, hw, rfl⟩ := hw
    obtain ⟨settings, hitems, hnew, hdistinct, rfl⟩ := ih
    refine ⟨s :: settings, ?_, ?_, ?_, rfl⟩
    · have hall := Items.cons hl (.mk (hkey ▸ hk) hu hv hw) hitems
      simpa only [List.append_assoc, List.cons_append] using hall
    · refine List.forall_mem_cons.2 ⟨hkey ▸ hs, fun s' hs' hin => ?_⟩
      exact hnew s' hs' (List.mem_cons_of_mem _ hin)
    · rw [List.map_cons, List.nodup_cons]
      refine ⟨fun hin => ?_, hdistinct⟩
      obtain ⟨s', hs', he⟩ := List.mem_map.1 hin
      exact hnew s' hs' (he ▸ hkey ▸ List.mem_cons_self)

theorem elements_of_items {fs : List (Json.Field Config)} {settings : List Setting}
    (h : Items ValueForm first w settings) (hfs : fs ⊆ shape.fields)
    (hkeys : settings.map Setting.key <+: fs.map (·.name)) (c : Config) :
    Elements FieldForm first fs c w (settings.foldl set c) := by
  induction h generalizing fs c with
  | nil hu => exact .nil (fun f hf => not_required (hfs hf)) hu
  | @cons first lead w more s settings hl hw _ ih =>
    cases fs with
    | nil => exact absurd (List.prefix_nil.1 hkeys) (List.cons_ne_nil _ _)
    | cons f fs =>
      obtain ⟨hkey, hrest⟩ := List.cons_prefix_cons.1 hkeys
      have hmore := ih (fun g hg => hfs (List.mem_cons_of_mem f hg)) hrest (c.set s)
      rw [List.append_assoc]
      exact .cons hl ⟨s, hkey, hw, rfl⟩ hmore

theorem exists_items_of_elements {fs : List (Json.Field Config)}
    (h : Elements FieldForm first fs c w c') :
    ∃ settings, Items ValueForm first w settings
      ∧ settings.map Setting.key <+: fs.map (·.name) ∧ c' = settings.foldl set c := by
  induction h with
  | nil _ hu => exact ⟨[], .nil hu, List.nil_prefix, rfl⟩
  | @cons first f fs c c' c'' lead w more hl hw _ ih =>
    obtain ⟨s, hkey, hw, rfl⟩ := hw
    obtain ⟨settings, hitems, hkeys, rfl⟩ := ih
    refine ⟨s :: settings, ?_, List.cons_prefix_cons.2 ⟨hkey, hkeys⟩, rfl⟩
    rw [← List.append_assoc]
    exact .cons hl hw hitems

theorem configForm_iff : ConfigForm w c ↔ shape.Form FieldForm w c := by
  constructor
  · intro h
    cases h with
    | object hitems hdistinct => exact .object (members_of_items hitems (by simp) hdistinct {})
    | list hitems hkeys => exact .list (elements_of_items hitems (List.Subset.refl _) hkeys {})
  · intro h
    cases h with
    | object hmembers =>
      obtain ⟨settings, hitems, -, hdistinct, rfl⟩ := exists_items_of_members hmembers
      exact .object hitems hdistinct
    | list helements =>
      obtain ⟨settings, hitems, hkeys, rfl⟩ := exists_items_of_elements helements
      exact .list hitems hkeys

/-- **Exactly the texts of the grammar can be read.** -/
theorem parse_eq_ok_iff_configText {bs : Bytes} :
    shape.parse bs = .ok c ↔ ConfigText bs c := by
  rw [parse_eq_ok_iff readsAs_shape]
  unfold ConfigText Document
  simp only [configForm_iff]

end Config

end SpecCatalog
