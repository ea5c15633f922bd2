import SpecCatalog.Codec

/-!
# Names, file names and paths

A descriptor's path is made from its name alone, and the name can be read off the file name
again (`nameOfFileName?_eq_some_iff`) and off the path (`isSpecPath_pathOf`). Below one root
all descriptors' paths begin alike, with the path of their directory (`join_pathOf`).

A configuration that passes its check gives a layout whose directory has a path of its own and
whose extension makes no part of a path by itself (`Layout.Proper`). Then names and the paths
that are taken for descriptors' correspond one to one (`Codec.specPath_correspondence`).
-/

namespace SpecCatalog

variable {c : Codec} {rules : NameRules} {name : String}

/-! ## Valid names -/

theorem toList_ne_nil_of_isValid (h : rules.isValid name = true) :
    name.toList ≠ [] := by
  intro hn
  have he : name = "" := String.toList_injective hn
  subst he
  simp [NameRules.isValid] at h

theorem slash_not_mem_of_isValid (h : rules.isValid name = true) :
    '/' ∉ name.toList := by
  intro hm
  unfold NameRules.isValid at h
  simp only [Bool.and_eq_true, List.all_eq_true] at h
  have := h.1.2 _ hm
  simp at this

/-! ## Paths of names -/

theorem pathOf_eq (l : Layout) (name : String) :
    l.pathOf name = l.directory ++ "/" ++ (name ++ l.extension) := by
  simp only [Layout.pathOf, String.append_assoc]

theorem specPath_of_valid (h : c.rules.isValid name = true) :
    c.specPath name = .ok (c.layout.pathOf name) := by
  unfold Codec.specPath Layout.specPath NameRules.validate
  rw [if_pos h]
  rfl

theorem specPath_of_invalid (h : c.rules.isValid name = false) :
    c.specPath name = .error (.invalidName (some name)) := by
  unfold Codec.specPath Layout.specPath NameRules.validate
  rw [if_neg (by rw [h]; decide)]
  rfl

/-- A name has a path exactly if it is valid. -/
theorem specPath_eq_ok_iff {path : String} :
    c.specPath name = .ok path ↔ c.rules.isValid name = true ∧ path = c.layout.pathOf name := by
  cases hname : c.rules.isValid name with
  | false =>
    rw [specPath_of_invalid hname]
    exact ⟨nofun, nofun⟩
  | true =>
    rw [specPath_of_valid hname]
    refine ⟨fun h => ⟨rfl, (Except.ok.inj h).symm⟩, ?_⟩
    rintro ⟨-, rfl⟩
    rfl

theorem pathOf_injective (l : Layout) {n m : String} (h : l.pathOf n = l.pathOf m) : n = m := by
  have hl := congrArg String.toList h
  simp only [Layout.pathOf, String.toList_append, List.append_assoc, List.append_cancel_left_eq,
    List.append_cancel_right_eq] at hl
  exact String.toList_injective hl

theorem pathOf_ne (l : Layout) (name : String) : l.pathOf name ≠ "" := by
  intro h
  have hlist := congrArg String.toList h
  simp [Layout.pathOf, String.toList_append] at hlist

/-- Below one root the paths of all names begin alike. -/
theorem join_pathOf (l : Layout) (root : String) :
    ∃ front, ∀ n, PathText.join root (l.pathOf n) = front ++ "/" ++ n ++ l.extension := by
  have habs : ∀ n, PathText.isAbsolute (l.pathOf n) = PathText.isAbsolute (l.directory ++ "/") := by
    intro n
    unfold Layout.pathOf
    rw [String.append_assoc, PathText.isAbsolute_append_slash]
  by_cases h : (PathText.isAbsolute (l.directory ++ "/") || root.isEmpty) = true
  · refine ⟨l.directory, fun n => ?_⟩
    unfold PathText.join
    rw [habs, if_pos h]
    rfl
  · by_cases hlast : root.toList.getLast? = some '/'
    · refine ⟨root ++ l.directory, fun n => ?_⟩
      unfold PathText.join
      rw [habs, if_neg h, if_pos hlast]
      simp only [Layout.pathOf, String.append_assoc]
    · refine ⟨root ++ "/" ++ l.directory, fun n => ?_⟩
      unfold PathText.join
      rw [habs, if_neg h, if_neg hlast]
      simp only [Layout.pathOf, String.append_assoc]

/-- The parts of such a path: those of the beginning, then one that the name begins. -/
theorem parts_pathOf {front ext : String} {first : List Char} {rest : List (List Char)}
    (hext : PathText.segments ext.toList = first :: rest) (h : '/' ∉ name.toList) :
    PathText.parts (front ++ "/" ++ name ++ ext)
      = PathText.parts front ++ String.ofList (name.toList ++ first) :: rest.map String.ofList := by
  unfold PathText.parts
  have hlist : (front ++ "/" ++ name ++ ext).toList
      = front.toList ++ '/' :: (name.toList ++ ext.toList) := by
    simp [String.toList_append]
  rw [hlist, PathText.segments_append_slash, PathText.segments_append_of_no_slash h hext,
    List.map_append, List.map_cons]

/-! ## Names of file names -/

theorem beforeEnding_eq_some_iff {ending cs stem : List Char} :
    Layout.beforeEnding ending cs = some stem ↔ cs = stem ++ ending := by
  unfold Layout.beforeEnding
  dsimp only
  constructor
  · intro h
    split at h
    · rename_i hend
      cases h
      have hall := List.take_append_drop (cs.length - ending.length) cs
      rw [hend] at hall
      exact hall.symm
    · cases h
  · rintro rfl
    rw [List.length_append, Nat.add_sub_cancel]
    simp

theorem nameOfFileName?_eq_some_iff {l : Layout} {fileName : String} :
    l.nameOfFileName? rules fileName = some name
      ↔ fileName = name ++ l.extension ∧ rules.isValid name = true := by
  unfold Layout.nameOfFileName?
  constructor
  · intro h
    split at h
    · rename_i stem hstem
      split at h
      · rename_i hvalid
        cases h
        refine ⟨String.toList_injective ?_, hvalid⟩
        rw [beforeEnding_eq_some_iff.1 hstem, String.toList_append, String.toList_ofList]
      · cases h
    · cases h
  · rintro ⟨rfl, hvalid⟩
    rw [beforeEnding_eq_some_iff.2 String.toList_append]
    dsimp only
    rw [String.ofList_toList, if_pos hvalid]

theorem isSpecFileName_iff {l : Layout} {fileName : String} :
    l.isSpecFileName rules fileName = true
      ↔ ∃ name, rules.isValid name = true ∧ fileName = name ++ l.extension := by
  unfold Layout.isSpecFileName
  simp only [Option.isSome_iff_exists, nameOfFileName?_eq_some_iff, and_comm]

theorem splitLast_append {directory file : List Char} (h : '/' ∉ file) :
    Layout.splitLast (directory ++ '/' :: file) = some (directory, file) := by
  have hreversed : (directory ++ '/' :: file).reverse
      = file.reverse ++ '/' :: directory.reverse := by simp
  have hall : ∀ ch ∈ file.reverse, decide (ch ≠ '/') = true := by
    intro ch hch
    refine decide_eq_true fun he => h ?_
    rw [← he]
    exact List.mem_reverse.1 hch
  unfold Layout.splitLast
  rw [hreversed, List.dropWhile_append_of_pos hall, List.takeWhile_append_of_pos hall,
    List.dropWhile_cons_of_neg (by simp), List.takeWhile_cons_of_neg (by simp)]
  simp

/-- What is split at its last slash was put together there. -/
theorem of_splitLast_eq_some {path directory file : List Char}
    (h : Layout.splitLast path = some (directory, file)) : path = directory ++ '/' :: file := by
  have hall := List.takeWhile_append_dropWhile (p := (· ≠ '/')) (l := path.reverse)
  unfold Layout.splitLast at h
  split at h
  · cases h
  · rename_i last before hdrop
    cases h
    have hlast : last = '/' := by
      have hnot := List.head?_dropWhile_not (· ≠ '/') path.reverse
      rw [hdrop] at hnot
      simpa using hnot
    rw [hdrop, hlast] at hall
    have hback := congrArg List.reverse hall
    rw [List.reverse_append, List.reverse_cons, List.reverse_reverse, List.append_assoc] at hback
    exact hback.symm

/-! ## Layouts from configurations -/

/-- What a configuration's check makes sure of. -/
structure Layout.Proper (l : Layout) : Prop where
  directory_ne : l.directory ≠ ""
  relative : PathText.isAbsolute l.directory = false
  extension_ne : l.extension ≠ ""
  no_slash : '/' ∉ l.extension.toList

theorem isAbsolute_trimSlashes (s : String) :
    PathText.isAbsolute (Layout.trimSlashes s) = false := by
  unfold PathText.isAbsolute Layout.trimSlashes
  rw [String.toList_ofList]
  refine decide_eq_false fun hhead => ?_
  -- cutting at the end leaves the first character, which is none of those cut at the start
  have hprefix := List.reverse_prefix.2
    (List.dropWhile_suffix (l := (s.toList.dropWhile (· = '/')).reverse) (· = '/'))
  rw [List.reverse_reverse] at hprefix
  obtain ⟨rest, hrest⟩ := List.head?_eq_some_iff.1 hhead
  obtain ⟨after, hafter⟩ := hprefix
  rw [hrest, List.cons_append] at hafter
  have hnot := List.head?_dropWhile_not (· = '/') s.toList
  rw [← hafter] at hnot
  simp at hnot

theorem Config.check_eq_ok_iff {config : Config} : config.check = .ok () ↔
    Layout.trimSlashes config.specsDirectory ≠ "" ∧ config.extension ≠ ""
      ∧ '/' ∉ config.extension.toList ∧ 1 ≤ config.indent := by
  unfold Config.check
  split
  · rename_i hempty
    exact ⟨nofun, fun h => absurd hempty h.1⟩
  · rename_i hsome
    split
    · rename_i hbad
      rw [List.contains_iff_mem] at hbad
      exact ⟨nofun, fun h => hbad.elim (fun he => absurd he h.2.1) (fun hm => absurd hm h.2.2.1)⟩
    · rename_i hgood
      rw [not_or, List.contains_iff_mem] at hgood
      split
      · rename_i hnone
        exact ⟨nofun, fun h => absurd hnone (Nat.ne_of_gt h.2.2.2)⟩
      · rename_i hindent
        exact ⟨fun _ => ⟨hsome, hgood.1, hgood.2, Nat.pos_of_ne_zero hindent⟩, fun _ => rfl⟩

theorem Codec.proper_of_ofConfig {config : Config} (h : Codec.ofConfig config = .ok c) :
    c.layout.Proper := by
  unfold Codec.ofConfig at h
  split at h
  · cases h
  · rename_i hcheck
    obtain ⟨rules, _, h⟩ := bind_eq_ok_iff.1 h
    cases h
    obtain ⟨hdirectory, hextension, hslash, -⟩ := Config.check_eq_ok_iff.1 hcheck
    exact
      { directory_ne := hdirectory
        relative := isAbsolute_trimSlashes _
        extension_ne := hextension
        no_slash := hslash }

theorem ofPattern_standardPattern :
    NameRules.ofPattern NameRules.standardPattern = .ok .standard := by
  have hreads : (Pattern.Expr.ofPattern NameRules.standardPattern).toOption.isSome = true := by
    decide +kernel
  unfold NameRules.ofPattern NameRules.standard
  cases h : Pattern.Expr.ofPattern NameRules.standardPattern with
  | ok e => rfl
  | error refusal =>
    rw [h] at hreads
    cases hreads

/-- The standard codec is the one of a configuration that leaves everything out. -/
theorem Codec.ofConfig_default : Codec.ofConfig {} = .ok .standard := by
  have hcheck : Config.check {} = .ok () := by rfl
  unfold Codec.ofConfig
  rw [hcheck]
  dsimp only
  rw [ofPattern_standardPattern]
  rfl

theorem Codec.proper_of_standard (h : c.layout = .standard) : c.layout.Proper := by
  rw [h]
  exact Codec.proper_of_ofConfig Codec.ofConfig_default

theorem isAbsolute_pathOf {l : Layout} (hl : l.Proper) (name : String) :
    PathText.isAbsolute (l.pathOf name) = false := by
  rw [pathOf_eq, PathText.isAbsolute_append_slash, ← hl.relative]
  unfold PathText.isAbsolute
  rw [String.toList_append]
  cases hlist : l.directory.toList with
  | nil => exact absurd (String.toList_injective hlist) hl.directory_ne
  | cons ch cs => rfl

/-- Below a root, descriptors stand in the directory that the layout has there. -/
theorem join_pathOf_eq {l : Layout} (hl : l.Proper) (root name : String) :
    PathText.join root (l.pathOf name)
      = PathText.join root l.directory ++ "/" ++ (name ++ l.extension) := by
  unfold PathText.join
  rw [isAbsolute_pathOf hl, hl.relative, Bool.false_or]
  split
  · simp only [Layout.pathOf, String.append_assoc]
  split
  · simp only [Layout.pathOf, String.append_assoc]
  · simp only [Layout.pathOf, String.append_assoc]

theorem join_directory_ne {l : Layout} (hl : l.Proper) (root : String) :
    PathText.join root l.directory ≠ "" := by
  intro h
  have hlist := congrArg String.toList h
  unfold PathText.join at hlist
  rw [hl.relative, Bool.false_or] at hlist
  split at hlist
  · exact hl.directory_ne (String.toList_injective hlist)
  split at hlist
  · rw [String.toList_append] at hlist
    exact hl.directory_ne (String.toList_injective (List.append_eq_nil_iff.1 hlist).2)
  · simp [String.toList_append] at hlist

/-- The file name of a valid name is one part of a path. -/
theorem slash_not_mem_fileName {l : Layout} (hl : l.Proper) (h : rules.isValid name = true) :
    '/' ∉ (name ++ l.extension).toList := by
  rw [String.toList_append, List.mem_append, not_or]
  exact ⟨slash_not_mem_of_isValid h, hl.no_slash⟩

theorem fileName_ne {l : Layout} (hl : l.Proper) (name : String) : name ++ l.extension ≠ "" := by
  intro h
  have hlist := congrArg String.toList h
  rw [String.toList_append] at hlist
  exact hl.extension_ne (String.toList_injective (List.append_eq_nil_iff.1 hlist).2)

/-- The path of a valid name is one of a descriptor. -/
theorem isSpecPath_pathOf {l : Layout} (hl : l.Proper) (hname : rules.isValid name = true) :
    l.isSpecPath rules (l.pathOf name) = true := by
  have hpath : (l.pathOf name).toList
      = l.directory.toList ++ '/' :: (name ++ l.extension).toList := by
    simp [Layout.pathOf, String.toList_append]
  unfold Layout.isSpecPath
  rw [hpath, splitLast_append (slash_not_mem_fileName hl hname)]
  dsimp only
  rw [String.ofList_toList, isSpecFileName_iff.2 ⟨name, hname, rfl⟩]
  simp

/-- The paths of descriptors are those of valid names. -/
theorem isSpecPath_iff {l : Layout} (hl : l.Proper) {path : String} :
    l.isSpecPath rules path = true ↔ ∃ name, rules.isValid name = true ∧ path = l.pathOf name := by
  constructor
  · intro h
    unfold Layout.isSpecPath at h
    split at h
    · rename_i directory file hsplit
      rw [Bool.and_eq_true, decide_eq_true_eq] at h
      obtain ⟨hdirectory, hfile⟩ := h
      obtain ⟨name, hname, hfile⟩ := isSpecFileName_iff.1 hfile
      have hlist : file = (name ++ l.extension).toList := by
        rw [← hfile, String.toList_ofList]
      refine ⟨name, hname, String.toList_injective ?_⟩
      rw [of_splitLast_eq_some hsplit, hdirectory, hlist]
      simp [Layout.pathOf, String.toList_append]
    · cases h
  · rintro ⟨name, hname, rfl⟩
    exact isSpecPath_pathOf hl hname

/-! ## One path for each name -/

/-- **Names and the paths of descriptors correspond one to one.** A name has a path exactly if
it is valid, and the path is relative, ends in a file name that gives the name back, and is no
other name's; and the paths of names are all the paths that are taken for descriptors'. -/
theorem Codec.specPath_correspondence {config : Config} (h : Codec.ofConfig config = .ok c) :
    (∀ name, (∃ path, c.specPath name = .ok path) ↔ c.rules.isValid name = true)
      ∧ (∀ name path, c.specPath name = .ok path →
          path.toList.head? ≠ some '/'
            ∧ ∃ directory fileName, path = directory ++ "/" ++ fileName
              ∧ '/' ∉ fileName.toList
              ∧ c.layout.isSpecFileName c.rules fileName = true
              ∧ c.layout.nameOfFileName? c.rules fileName = some name)
      ∧ (∀ name name' path, c.specPath name = .ok path → c.specPath name' = .ok path →
          name = name')
      ∧ ∀ path, c.layout.isSpecPath c.rules path = true ↔ ∃ name, c.specPath name = .ok path := by
  have hl := Codec.proper_of_ofConfig h
  refine ⟨fun name => ?_, fun name path hpath => ?_, fun name name' path hpath hpath' => ?_,
    fun path => ?_⟩
  · simp only [specPath_eq_ok_iff, exists_and_left, exists_eq, and_true]
  · obtain ⟨hname, rfl⟩ := specPath_eq_ok_iff.1 hpath
    have hrelative : PathText.isAbsolute (c.layout.pathOf name) = false :=
      isAbsolute_pathOf hl name
    refine ⟨of_decide_eq_false hrelative, c.layout.directory, name ++ c.layout.extension,
      pathOf_eq _ _, slash_not_mem_fileName hl hname, isSpecFileName_iff.2 ⟨name, hname, rfl⟩, ?_⟩
    exact nameOfFileName?_eq_some_iff.2 ⟨rfl, hname⟩
  · obtain ⟨-, rfl⟩ := specPath_eq_ok_iff.1 hpath
    obtain ⟨-, hsame⟩ := specPath_eq_ok_iff.1 hpath'
    exact pathOf_injective c.layout hsame
  · rw [isSpecPath_iff hl]
    simp only [specPath_eq_ok_iff]

/-- The extension comes again in names, and the directory has dots and slashes in it. -/
def dotted : Config where
  specsDirectory := "/x/./y//"
  extension := ".json"
  namePattern := "^.+$"

/-- A name that ends like a file name is given back whole, and it is the only one with its
path. -/
theorem specPath_correspondence_dotted :
    ∃ c, Codec.ofConfig dotted = .ok c
      ∧ c.specPath "a.json" = .ok "x/./y/a.json.json"
      ∧ c.layout.isSpecPath c.rules "x/./y/a.json.json" = true
      ∧ (∃ directory fileName, "x/./y/a.json.json" = directory ++ "/" ++ fileName
          ∧ '/' ∉ fileName.toList
          ∧ c.layout.nameOfFileName? c.rules fileName = some "a.json")
      ∧ ∀ name, c.specPath name = .ok "x/./y/a.json.json" → name = "a.json" := by
  have hmade : (Codec.ofConfig dotted).toOption.any (fun c =>
      (c.specPath "a.json").toOption.any (· = "x/./y/a.json.json")) = true := by decide +kernel
  obtain ⟨c, hc, hmade⟩ := exists_of_any_toOption hmade
  have hpath := eq_ok_of_any_toOption hmade
  obtain ⟨-, hgiven, honly, htaken⟩ := Codec.specPath_correspondence hc
  obtain ⟨-, directory, fileName, hparts, hslash, -, hname⟩ := hgiven _ _ hpath
  exact ⟨c, hc, hpath, (htaken _).2 ⟨_, hpath⟩, ⟨directory, fileName, hparts, hslash, hname⟩,
    fun name h => honly _ _ _ h hpath⟩

end SpecCatalog
