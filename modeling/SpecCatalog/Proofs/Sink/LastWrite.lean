import SpecCatalog.Discovery
import SpecCatalog.Lookup
import SpecCatalog.Proofs.Codec.RoundTrip
import SpecCatalog.Proofs.SearchPath.Shelf
import SpecCatalog.Proofs.Sink.Directory

/-!
# A directory as a map

A run of writes below one root, of which any may fail, leaves behind a map from names: what
was written last under each name. Discovering the directory afterwards gives exactly this map,
and looking up a name gives its entry (`latest_discovered`).

A write that fails once its file is open leaves the file emptied or half written. Its name is
broken then, until it is written again. As long as a name is broken, its entry of the map is not
what its file holds. On a disk that never fails no name is ever broken.

All this takes a directory of descriptors that was not there before the run. That nothing was
found under its path is not enough: a path with `..` behind a directory that is still missing can
lead to an old place once the run has made that directory (`old_discovered`).
-/

namespace SpecCatalog

open FileTree

variable {t : FileTree} {c : Codec} {root name : String} {s : Specification}

theorem NameMap.mem_values {α : Type} {m : NameMap α} {a : α} :
    a ∈ m.values ↔ ∃ name, m.get? name = some a := by
  unfold NameMap.values
  rw [List.mem_map]
  constructor
  · rintro ⟨e, he, rfl⟩
    exact ⟨e.1, NameMap.mem_entries_iff.1 he⟩
  · rintro ⟨name, h⟩
    exact ⟨(name, a), NameMap.mem_entries_iff.2 h, rfl⟩

/-- Wherever the path leads to in the later tree, the earlier one had nothing. -/
def FileTree.NewAt (t t' : FileTree) (path : String) : Prop :=
  ∀ r i, t'.resolve .look path = .ok (.item r i) → t.item? r = none

/-- What a run of writes leaves: what was written last under each name, and the tree. -/
structure Written where
  latest : NameMap Specification
  /-- The names whose files were opened last by a write that failed. -/
  broken : List String
  tree : FileTree

namespace Written

/-- One more write. A failed one does not count, but it may have opened the file, and it may have
changed the tree. -/
def write (c : Codec) (root : String) (w : Written) (s : Specification) : Written :=
  match Buffered.onTree ((directorySink root).writeSpecification c s) w.tree with
  | .ok _ tree => ⟨w.latest.insert s.name s, w.broken.filter (· ≠ s.name), tree⟩
  | .error _ tree =>
    if (directorySink root).opens c s ⟨w.tree, []⟩ then ⟨w.latest, s.name :: w.broken, tree⟩
    else ⟨w.latest, w.broken, tree⟩

/-- Writes in order below a root. -/
def run (c : Codec) (root : String) (t : FileTree) (specs : List Specification) : Written :=
  specs.foldl (write c root) ⟨{}, [], t⟩

/-- What is still as it was written. -/
def standing (w : Written) : List Specification := w.latest.values.filter (·.name ∉ w.broken)

variable {w : Written}

/-! ## What was written -/

/-- Each specification is kept under its own name and can be read again. -/
def Named (c : Codec) (m : NameMap Specification) : Prop :=
  ∀ name s, m.get? name = some s → s.name = name ∧ c.decode (c.encode s) = .ok s

theorem named_empty (c : Codec) : Named c {} := nofun

theorem Named.insert {m : NameMap Specification} (h : Named c m)
    (hs : c.decode (c.encode s) = .ok s) : Named c (m.insert s.name s) := by
  intro name s' hget
  rw [NameMap.get?_insert] at hget
  split at hget
  · rename_i hname
    cases hget
    exact ⟨hname.symm, hs⟩
  · exact h name s' hget

theorem Named.mem_values {m : NameMap Specification} (h : Named c m) :
    s ∈ m.values ↔ m.get? s.name = some s := by
  rw [NameMap.mem_values]
  refine ⟨fun ⟨name, hget⟩ => ?_, fun hget => ⟨_, hget⟩⟩
  obtain ⟨rfl, _⟩ := h name s hget
  exact hget

theorem Named.mem_values_insert {m : NameMap Specification} (h : Named c m)
    (hs : c.decode (c.encode s) = .ok s) (s' : Specification) :
    s' ∈ (m.insert s.name s).values ↔ s' = s ∨ s' ∈ m.values ∧ s'.name ≠ s.name := by
  rw [(h.insert hs).mem_values, NameMap.get?_insert, h.mem_values]
  split
  · rename_i hname
    refine ⟨fun he => .inl (Option.some.inj he).symm, ?_⟩
    rintro (rfl | ⟨_, hne⟩)
    · rfl
    · exact absurd hname hne
  · rename_i hname
    refine ⟨fun hget => .inr ⟨hget, hname⟩, ?_⟩
    rintro (rfl | ⟨hget, _⟩)
    · exact absurd rfl hname
    · exact hget

theorem mem_standing : s ∈ w.standing ↔ s ∈ w.latest.values ∧ s.name ∉ w.broken := by
  unfold standing
  rw [List.mem_filter, decide_eq_true_iff]

/-- What was just written stands, and so does what stood under another name. -/
theorem Named.mem_standing_insert (h : Named c w.latest) (hs : c.decode (c.encode s) = .ok s)
    (tree : FileTree) (s' : Specification) :
    s' ∈ standing ⟨w.latest.insert s.name s, w.broken.filter (· ≠ s.name), tree⟩
      ↔ s' = s ∨ s' ∈ w.standing ∧ s'.name ≠ s.name := by
  rw [mem_standing, mem_standing, h.mem_values_insert hs, List.mem_filter, decide_eq_true_iff]
  constructor
  · rintro ⟨rfl | ⟨hin, hne⟩, hsound⟩
    · exact .inl rfl
    · exact .inr ⟨⟨hin, fun hbroken => hsound ⟨hbroken, hne⟩⟩, hne⟩
  · rintro (rfl | ⟨⟨hin, hsound⟩, hne⟩)
    · exact ⟨.inl rfl, fun hbroken => hbroken.2 rfl⟩
    · exact ⟨.inr ⟨hin, hne⟩, fun hbroken => hsound hbroken.1⟩

theorem mem_standing_broken (name : String) (tree : FileTree) (s' : Specification) :
    s' ∈ standing ⟨w.latest, name :: w.broken, tree⟩ ↔ s' ∈ w.standing ∧ s'.name ≠ name := by
  rw [mem_standing, mem_standing, List.mem_cons, not_or]
  exact ⟨fun ⟨hin, hne, hsound⟩ => ⟨⟨hin, hsound⟩, hne⟩,
    fun ⟨⟨hin, hsound⟩, hne⟩ => ⟨hin, hne, hsound⟩⟩

theorem standing_of_unbroken (h : w.broken = []) : w.standing = w.latest.values := by
  unfold standing
  rw [List.filter_eq_self]
  intro s _
  rw [h, decide_eq_true_iff]
  exact List.not_mem_nil

/-! ## Where it was written -/

/-- Before a file was opened there are more directories at most. After that the descriptors have
a folder, and if that is new, they fill it as a shelf and nothing else has changed. -/
def Placed (t : FileTree) (c : Codec) (root : String) (w : Written) : Prop :=
  w.latest = {} ∧ Adds t w.tree ∨
  ∃ folder, w.tree.resolve .look (PathText.join root c.layout.directory)
      = .ok (.item folder .directory)
    ∧ (t.item? folder = none →
        Shelf w.tree c root w.standing w.broken folder ∧ Extends t w.tree (Inside folder))

/-- When a folder is there to write into, it is the one that was written into before. -/
theorem Placed.before {t₁ : FileTree} {here : Route} (h : Placed t c root w)
    (ha : Adds w.tree t₁)
    (hd : t₁.resolve .look (PathText.join root c.layout.directory) = .ok (.item here .directory))
    (hnew : t.item? here = none) :
    Shelf t₁ c root w.standing w.broken here ∧ Extends t t₁ (Inside here) := by
  rcases h with ⟨hlatest, ha'⟩ | ⟨folder, hfolder, hshelf⟩
  · -- the folder was made by this write or by one that failed, so there is nothing in it yet
    have hnothing : w.standing = [] := by
      unfold standing
      rw [hlatest]
      rfl
    rw [hnothing]
    exact ⟨shelf_of_new (ha'.trans ha) hnew hd, (ha'.trans ha).extends _⟩
  · rw [resolve_grows_directory ha.grows hfolder] at hd
    cases hd
    exact ⟨(hshelf hnew).1.adds ha, (hshelf hnew).2.adds ha⟩

/-- More directories are no harm. -/
theorem Placed.adds {t' : FileTree} (h : Placed t c root w) (ha : Adds w.tree t') :
    Placed t c root ⟨w.latest, w.broken, t'⟩ := by
  rcases h with ⟨hlatest, ha'⟩ | ⟨folder, hfolder, hshelf⟩
  · exact .inl ⟨hlatest, ha'.trans ha⟩
  · exact .inr ⟨folder, resolve_grows_directory ha.grows hfolder,
      fun hnew => ⟨(hshelf hnew).1.adds ha, (hshelf hnew).2.adds ha⟩⟩

theorem Placed.write (h : Placed t c root w) (hl : c.layout.Proper) (hn : Named c w.latest)
    (hs : c.decode (c.encode s) = .ok s) : Placed t c root (write c root w s) := by
  unfold Written.write
  cases hrun : Buffered.onTree ((directorySink root).writeSpecification c s) w.tree with
  | error e t' =>
    obtain ⟨b, hwrite, rfl⟩ := Buffered.onTree_eq_error hrun
    rcases exists_of_write_eq_error hl hwrite with
      ⟨hclosed, ha⟩ | ⟨hopen, -, -, t₁, here, ha, hgrows, hd, hplace⟩
    · dsimp only
      rw [if_neg (ne_true_of_eq_false hclosed)]
      exact h.adds ha
    · dsimp only
      rw [if_pos hopen]
      refine .inr ⟨here, resolve_grows_directory hgrows hd, fun hnew => ?_⟩
      obtain ⟨hshelf, hextends⟩ := h.before ha hd hnew
      rcases hplace with ⟨target, hlink⟩ | ⟨kept, -, hfile⟩
      · exact absurd hlink (hshelf.ne_link _ target)
      · exact ⟨hshelf.withBroken hfile (mem_standing_broken s.name b.tree),
          hextends.withFile hfile (item?_below_eq_none hnew) ⟨_, rfl⟩⟩
  | ok path t' =>
    obtain ⟨b, hwrite, rfl⟩ := Buffered.onTree_eq_ok hrun
    obtain ⟨hname, -, -, hwalkable, t₁, here, ha, hgrows, hd, hplace⟩ :=
      exists_of_write_eq_ok hl hwrite
    refine .inr ⟨here, resolve_grows_directory hgrows hd, fun hnew => ?_⟩
    obtain ⟨hshelf, hextends⟩ := h.before ha hd hnew
    rcases hplace with ⟨target, hlink⟩ | hfile
    · exact absurd hlink (hshelf.ne_link _ target)
    · refine ⟨hshelf.withFile hfile hname hwalkable (hn.mem_standing_insert hs b.tree) ?_,
        hextends.withFile hfile (item?_below_eq_none hnew) ⟨_, rfl⟩⟩
      exact fun n hn hne => List.mem_filter.2 ⟨hn, decide_eq_true hne⟩

theorem Named.write (h : Named c w.latest) (root : String) (hs : c.decode (c.encode s) = .ok s) :
    Named c (Written.write c root w s).latest := by
  unfold Written.write
  cases Buffered.onTree ((directorySink root).writeSpecification c s) w.tree with
  | error e t' =>
    dsimp only
    split
    · exact h
    · exact h
  | ok path t' => exact h.insert hs

theorem placed_run (hl : c.layout.Proper) {specs : List Specification}
    (hspecs : ∀ s ∈ specs, c.decode (c.encode s) = .ok s) :
    Named c (run c root t specs).latest ∧ Placed t c root (run c root t specs) := by
  -- the run starts from any writes before it, so that the induction can go on from each of them
  suffices ∀ w : Written, Named c w.latest → Placed t c root w →
      Named c (specs.foldl (Written.write c root) w).latest
        ∧ Placed t c root (specs.foldl (Written.write c root) w) from
    this ⟨{}, [], t⟩ (named_empty c) (.inl ⟨rfl, .refl t⟩)
  induction specs with
  | nil => exact fun w hn hw => ⟨hn, hw⟩
  | cons s specs ih =>
    intro w hn hw
    rw [List.forall_mem_cons] at hspecs
    exact ih hspecs.2 _ (hn.write root hspecs.1) (hw.write hl hn hspecs.1)

/-- The codec reads what it writes of a specification that was made under its rules. -/
theorem decode_encode_of_made
    (h : ∃ name deps, Specification.ofOptions c.rules name deps = .ok s) :
    c.decode (c.encode s) = .ok s := by
  obtain ⟨_, _, hmade⟩ := h
  have hnone := Specification.refusedDependencies_eq_nil_iff.2
    (Specification.isValid_of_ofOptions hmade)
  rw [Codec.decode_encode, if_pos hnone, if_pos (Specification.isValid_name_of_ofOptions hmade)]

theorem shelf_run {specs : List Specification} (hl : c.layout.Proper)
    (hspecs : ∀ s ∈ specs, c.decode (c.encode s) = .ok s)
    (hnew : NewAt t (run c root t specs).tree (PathText.join root c.layout.directory))
    (hsome : (run c root t specs).latest ≠ {}) :
    ∃ folder, t.item? folder = none
      ∧ Shelf (run c root t specs).tree c root (run c root t specs).standing
          (run c root t specs).broken folder
      ∧ Extends t (run c root t specs).tree (Inside folder) := by
  rcases (placed_run hl hspecs).2 with ⟨hlatest, _⟩ | ⟨folder, hfolder, hshelf⟩
  · exact absurd hlatest hsome
  · exact ⟨folder, hnew folder _ hfolder, hshelf (hnew folder _ hfolder)⟩

/-- One descriptor is there before the run. -/
def withOld : FileTree :=
  [([], "metadata", Item.directory), (["metadata"], "specs", .directory),
    (["metadata", "specs"], "old.json", .file (Text.toBytes "\x7b\"name\":\"old\"\x7d"))].foldl
      (fun t (folder, name, i) => t.put folder name i) FileTree.empty

end Written

end SpecCatalog
