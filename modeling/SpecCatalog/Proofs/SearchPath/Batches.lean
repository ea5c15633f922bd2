import SpecCatalog.Archive.Storing
import SpecCatalog.Proofs.FileTree.Dots
import SpecCatalog.Proofs.Name.Standard
import SpecCatalog.Proofs.SearchPath.Packed
import SpecCatalog.Proofs.Sink.Batch

/-!
# Reading batches together

Once a row of batches was written, each to a new place of its own, their sources in this order
are a search path on which exactly the batches are found (`read_exactly`): a name is not found
if no batch has it, comes to its specification if all batches that have it agree, and else is a
conflict of what these batches have. This holds for names whose paths below the roots are not
too long to be walked.

That nothing was found at a place before is not enough, for the same reason as with one
directory, and a name whose path is too long cannot be told to be missing
(`not_read_exactly`).
-/

namespace SpecCatalog

open FileTree

namespace Batch

variable {t : FileTree} {c : Codec} {b : Batch} {here : Route} {name : String}

theorem Stands.holds (h : Stands t c b here) (hl : c.layout.Proper)
    (hext : c.layout.extension.toList.getLast? ≠ some '\\')
    (hdistinct : (b.specs.map (·.name)).Nodup) : b.source.Holds t c b.specs := by
  cases h with
  | shelf hshelf => exact hshelf.holds hl
  | packed hleads hpacks hvalid =>
    exact holds_of_packs hl hext hvalid hdistinct (status_of_resolve hleads) hpacks

/-- A name that a path can spell is told apart from those of the batch. -/
theorem Stands.tells (h : Stands t c b here) (hl : c.layout.Proper) (hb : Readable c b)
    (hname : c.rules.isValid name = true) (hnul : '\x00' ∉ name.toList)
    (hshort : (name ++ c.layout.extension).utf8ByteSize ≤ nameLimit)
    (hpath : b.source.kind = .directory →
      (PathText.join b.source.path (c.layout.pathOf name)).utf8ByteSize < pathLimit) :
    b.source.Tells t c b.specs name := by
  cases h with
  | @shelf root specs folder hshelf =>
    obtain ⟨s, hs⟩ := List.exists_mem_of_ne_nil _ hb.specs_ne
    have hwritten := (hshelf.walkable s hs).no_nul
    simp only [String.toList_append, List.mem_append, not_or] at hwritten
    refine hshelf.tells hl hname (walkable_below hwritten.1.1 ?_ ?_) hshort
    · -- what is around the name was walked for the batch
      rw [String.toList_append, List.mem_append, not_or]
      exact ⟨hnul, hwritten.2.2⟩
    · rw [← join_pathOf_eq hl]
      exact hpath rfl
  | packed hleads hpacks _ => exact tells_of_packs (status_of_resolve hleads) hpacks

end Batch

/-- The standard codec with an indent of its own. -/
def Codec.indented (indent : Nat) : Codec := .ofParts .standard .standard indent

theorem Codec.proper_indented (indent : Nat) : (Codec.indented indent).layout.Proper :=
  Codec.proper_of_standard rfl

namespace Stock

open Batch

variable {t t' : FileTree} {c : Codec} {stock : Stock}

theorem sound_of_stands (hl : c.layout.Proper)
    (hext : c.layout.extension.toList.getLast? ≠ some '\\')
    (hstock : ∀ b ∈ stock, Readable c b) (h : ∀ b ∈ stock, ∃ here, Stands t c b here) :
    stock.Sound t c where
  holds b hb := by
    obtain ⟨here, hstands⟩ := h b hb
    exact hstands.holds hl hext (hstock b hb).distinct
  decodes b hb := (hstock b hb).decodes
  distinct b hb := (hstock b hb).distinct

/-- **What is read from the sources together is exactly what was written to each of them**, if
each place was new and the path of the name is short enough to be walked. -/
theorem read_exactly {z : Archive.Compressor} {indent : Nat} (hlinks : t.NoLinks)
    (hmade : ∀ b ∈ stock, ∀ s ∈ b.specs,
      ∃ name deps, Specification.ofOptions .standard name deps = .ok s)
    (hspecs : ∀ b ∈ stock, b.specs ≠ [] ∧ (b.specs.map (·.name)).Nodup)
    (hwrites : Writes z (.indented indent) t stock t') (hapart : stock.Apart t' (.indented indent)) :
    (∀ name, NameRules.standard.isValid name = true → name.utf8ByteSize ≤ 250 →
      (∀ b ∈ stock, b.source.kind = .directory →
        (PathText.join b.source.path (Layout.standard.pathOf name)).utf8ByteSize < pathLimit) →
      ((∀ b ∈ stock, ∀ s ∈ b.specs, s.name ≠ name) →
        stock.sources.lookup t' (.indented indent) name
          = .error (.notFound name (Layout.standard.pathOf name))) ∧
      (∀ s, (∃ b ∈ stock, s ∈ b.specs) → s.name = name →
        (∀ b ∈ stock, ∀ s' ∈ b.specs, s'.name = name → s' = s) →
        stock.sources.lookup t' (.indented indent) name = .ok s) ∧
      ((∃ b ∈ stock, ∃ b' ∈ stock, ∃ s ∈ b.specs, ∃ s' ∈ b'.specs,
          s.name = name ∧ s'.name = name ∧ s ≠ s') →
        stock.sources.lookup t' (.indented indent) name
          = .error (.conflict name (stock.definitions (.indented indent) name)))) ∧
    (stock.Agrees → ∃ m, stock.sources.discover t' (.indented indent) = .ok m ∧
      ∀ name s, m.get? name = some s ↔ s.name = name ∧ ∃ b ∈ stock, s ∈ b.specs) ∧
    (¬ stock.Agrees → ∃ first second, stock.sources.discover t' (.indented indent)
        = .error (.conflict second.2.name [first, second])
      ∧ first.2.name = second.2.name ∧ first.2 ≠ second.2
      ∧ (∃ b ∈ stock, first.2 ∈ b.specs ∧ first.1 = b.source.place (.indented indent) first.2.name)
      ∧ ∃ b ∈ stock, second.2 ∈ b.specs
        ∧ second.1 = b.source.place (.indented indent) second.2.name) := by
  have hl := Codec.proper_indented indent
  have hext : (Codec.indented indent).layout.extension.toList.getLast? ≠ some '\\' := by
    change Layout.standardExtension.toList.getLast? ≠ some '\\'
    decide
  have hstock : ∀ b ∈ stock, Readable (.indented indent) b := fun b hb =>
    { specs_ne := (hspecs b hb).1
      decodes := fun s hs => Written.decode_encode_of_made (hmade b hb s hs)
      distinct := (hspecs b hb).2 }
  have hstands : ∀ b ∈ stock, ∃ here, Stands t' (.indented indent) b here := by
    intro b hb
    obtain ⟨here, hsettles⟩ := (hwrites.settle hl hlinks hstock hapart).1 b hb
    exact ⟨here, hsettles.2⟩
  have hsound := sound_of_stands hl hext hstock hstands
  refine ⟨fun name hname hsize hpaths => ?_, hsound.discover⟩
  refine hsound.lookup hname fun b hb => ?_
  obtain ⟨here, hb'⟩ := hstands b hb
  refine hb'.tells hl (hstock b hb) hname (NameRules.nul_not_mem_of_isValid hname) ?_ (hpaths b hb)
  have hsum : (name ++ Layout.standardExtension).utf8ByteSize = name.utf8ByteSize + 5 :=
    String.utf8ByteSize_append
  change (name ++ Layout.standardExtension).utf8ByteSize ≤ 255
  omega

/-! ## Two batches that overlap -/

theorem eq_of_route {path : String} {r r' : Route} {i : Item}
    (hroute : (t.resolve .look path).map Spot.route = .ok r)
    (hleads : t.resolve .look path = .ok (.item r' i)) : r' = r := by
  rw [hleads] at hroute
  cases hroute
  rfl

/-- Two specifications in a directory. -/
def loose : Batch := ⟨⟨.directory, "out"⟩, [⟨"a", .ofList ["b"]⟩, ⟨"b", .ofList []⟩]⟩

/-- The same names in an archive, one of them with other dependencies. -/
def zipped : Batch := ⟨⟨.archive, "more.zip"⟩, [⟨"a", .ofList ["b"]⟩, ⟨"b", .ofList ["a"]⟩]⟩

def looseWritten : FileTree :=
  stateAfter (loose.write Archive.storing (.indented 2) FileTree.empty)

def bothWritten : FileTree :=
  stateAfter (zipped.write Archive.storing (.indented 2) looseWritten)

theorem writes_both :
    Writes Archive.storing (.indented 2) FileTree.empty [loose, zipped] bothWritten := by
  have hout : (looseWritten.resolve .look (loose.source.base (.indented 2))).map Spot.route
      = .ok ["out", "metadata", "specs"] := by decide +kernel
  have hzip : (bothWritten.resolve .look (zipped.source.base (.indented 2))).map Spot.route
      = .ok ["more.zip"] := by decide +kernel
  refine .cons (eq_ok_of_succeeded (by decide +kernel)) (fun r i hleads => ?_)
    (.cons (eq_ok_of_succeeded (by decide +kernel)) (fun r i hleads => ?_) (.nil _))
  · rw [eq_of_route hout hleads]
    rfl
  · rw [eq_of_route hzip hleads]
    decide +kernel

theorem apart_both : Apart bothWritten (.indented 2) [loose, zipped] := by
  have hout : (bothWritten.resolve .look (loose.source.base (.indented 2))).map Spot.route
      = .ok ["out", "metadata", "specs"] := by decide +kernel
  have hzip : (bothWritten.resolve .look (zipped.source.base (.indented 2))).map Spot.route
      = .ok ["more.zip"] := by decide +kernel
  intro b hb b' hb' hdirectory harchive folder r i i' hfolder hr
  rcases List.mem_pair.1 hb with rfl | rfl
  · rcases List.mem_pair.1 hb' with rfl | rfl
    · cases harchive
    · rw [eq_of_route hout hfolder, eq_of_route hzip hr]
      rintro ⟨name, he⟩
      exact absurd (congrArg List.length he) (by simp)
  · cases hdirectory

theorem made_both : ∀ b ∈ [loose, zipped], ∀ s ∈ b.specs,
    ∃ name deps, Specification.ofOptions .standard name deps = .ok s := by
  have hmade : ∀ b ∈ [loose, zipped], ∀ s ∈ b.specs,
      (Specification.ofOptions .standard (some s.name)
        (some (s.dependencies.toList.map some))).toOption.any (· = s) = true := by
    decide +kernel
  exact fun b hb s hs => ⟨_, _, eq_ok_of_any_toOption (hmade b hb s hs)⟩

/-- Both are written to an empty tree and read as they are. -/
theorem read_exactly_both :
    SearchPath.lookup bothWritten (.indented 2) [⟨.directory, "out"⟩, ⟨.archive, "more.zip"⟩] "a"
        = .ok ⟨"a", .ofList ["b"]⟩
      ∧ SearchPath.lookup bothWritten (.indented 2)
          [⟨.directory, "out"⟩, ⟨.archive, "more.zip"⟩] "c"
        = .error (.notFound "c" (Layout.standard.pathOf "c"))
      ∧ SearchPath.lookup bothWritten (.indented 2)
          [⟨.directory, "out"⟩, ⟨.archive, "more.zip"⟩] "b"
        = .error (.conflict "b"
            [(⟨⟨.directory, "out"⟩, Layout.standard.pathOf "b"⟩, ⟨"b", .ofList []⟩),
              (⟨⟨.archive, "more.zip"⟩, Layout.standard.pathOf "b"⟩, ⟨"b", .ofList ["a"]⟩)])
      ∧ ∃ first second, SearchPath.discover bothWritten (.indented 2)
          [⟨.directory, "out"⟩, ⟨.archive, "more.zip"⟩]
        = .error (.conflict second.2.name [first, second]) := by
  have hlinks : FileTree.empty.NoLinks :=
    noLinks_of_entries fun _ he => absurd he List.not_mem_nil
  obtain ⟨hlookup, _, hdiscover⟩ :=
    read_exactly hlinks made_both (by decide +kernel) writes_both apart_both
  have hloose : loose ∈ [loose, zipped] := List.mem_cons_self
  have hzipped : zipped ∈ [loose, zipped] := List.mem_cons_of_mem _ List.mem_cons_self
  have hin : ⟨"b", .ofList []⟩ ∈ loose.specs := by decide +kernel
  have hin' : ⟨"b", .ofList ["a"]⟩ ∈ zipped.specs := by decide +kernel
  have hne : (⟨"b", .ofList []⟩ : Specification) ≠ ⟨"b", .ofList ["a"]⟩ := by decide +kernel
  refine ⟨?_, ?_, ?_, ?_⟩
  · exact (hlookup "a" (by decide +kernel) (by decide +kernel) (by decide +kernel)).2.1 _
      ⟨loose, hloose, List.mem_cons_self⟩ rfl (by decide +kernel)
  · exact (hlookup "c" (by decide +kernel) (by decide +kernel) (by decide +kernel)).1
      (by decide +kernel)
  · exact (hlookup "b" (by decide +kernel) (by decide +kernel) (by decide +kernel)).2.2
      ⟨loose, hloose, zipped, hzipped, _, hin, _, hin', rfl, rfl, hne⟩
  · obtain ⟨first, second, herror, _⟩ := hdiscover fun hagrees => hne
      (hagrees loose hloose zipped hzipped _ hin _ hin' rfl)
    exact ⟨first, second, herror⟩

/-! ## Why the places must be new and the paths short -/

/-- The directory of descriptors below a root. -/
def farFolder : String := "r" ++ "/" ++ "metadata" ++ "/" ++ "specs"

def madeBelow : FileTree :=
  ((FileTree.empty.put [] "r" .directory).put ["r"] "metadata" .directory).put ["r", "metadata"]
    "specs" .directory

section Dotted

variable {n : Nat}

theorem createDirectories_far (hshort : 2 * n + 25 < pathLimit) :
    createDirectories (PathText.dotted (n + 1) farFolder) FileTree.empty = .ok () madeBelow := by
  obtain ⟨rest, hcomponents⟩ := PathText.exists_components_dotted n farFolder
  unfold createDirectories
  rw [hcomponents]
  have hsize : "r".utf8ByteSize = 1 := by decide +kernel
  have hsize' : ("r" ++ "/" ++ "metadata").utf8ByteSize = 10 := by decide +kernel
  have hsize'' : farFolder.utf8ByteSize = 16 := by decide +kernel
  have hr : createDirectoriesWithin (rest.length + 1) (PathText.dotted (n + 1) "r") FileTree.empty
      = .ok () (FileTree.empty.put [] "r" .directory) := by
    refine createDirectoriesWithin_of_vacant _ rfl ?_
    have hwalkable : Walkable "r" := ⟨by decide +kernel, by decide, by decide⟩
    rw [resolve_dotted hwalkable (by decide +kernel) (by omega)]
    decide +kernel
  have hmetadata : createDirectoriesWithin (rest.length + 2)
      (PathText.dotted (n + 1) ("r" ++ "/" ++ "metadata")) FileTree.empty
        = .ok () ((FileTree.empty.put [] "r" .directory).put ["r"] "metadata" .directory) := by
    refine createDirectoriesWithin_dotted ⟨['r'], ?_⟩ ?_ ?_ ?_ hr rfl ?_ ?_ (by omega)
    all_goals decide +kernel
  unfold farFolder at hsize'' ⊢
  refine createDirectoriesWithin_dotted ⟨"metadata".toList, ?_⟩ ?_ ?_ ?_ hmetadata rfl ?_ ?_
    (by omega)
  all_goals decide +kernel

theorem openFile_far (hshort : 2 * n + 25 < pathLimit) :
    openFile (PathText.join (PathText.dotted (n + 1) "r") (Layout.standard.pathOf "a"))
      FileTree.empty = .ok ["r", "metadata", "specs", "a.json"]
        (madeBelow.put ["r", "metadata", "specs"] "a.json" (.file [])) := by
  have hjoin : PathText.join (PathText.dotted (n + 1) "r") (Layout.standard.pathOf "a")
      = PathText.dotted (n + 1) (farFolder ++ "/" ++ "a.json") := by
    rw [PathText.join_dotted (n + 1) (by decide) (by decide +kernel)]
    exact congrArg _ (by decide +kernel)
  have habove : makeAbove (PathText.dotted (n + 1) (farFolder ++ "/" ++ "a.json")) FileTree.empty
      = .ok () madeBelow := by
    unfold makeAbove
    rw [PathText.parent?_dotted (n + 1) ⟨"specs".toList, by decide +kernel⟩ (by decide +kernel)
      (by decide +kernel)]
    dsimp only
    unfold Change.at
    rw [createDirectories_far hshort]
  have hfile : madeBelow.resolve .newFile (PathText.dotted (n + 1) (farFolder ++ "/" ++ "a.json"))
      = .ok (.vacant ["r", "metadata", "specs"] "a.json") := by
    have hsize : (farFolder ++ "/" ++ "a.json").utf8ByteSize = 23 := by decide +kernel
    have hwalkable : Walkable (farFolder ++ "/" ++ "a.json") :=
      ⟨by decide +kernel, by decide +kernel, by decide +kernel⟩
    rw [resolve_dotted hwalkable (by decide +kernel) (by omega)]
    decide +kernel
  unfold openFile
  rw [hjoin, bind_of_eq_ok habove]
  unfold Change.at
  rw [createFile_of_vacant rfl hfile]
  rfl

/-- Dots in front of a root make no difference to what is written below it, as long as the paths
are short enough. -/
theorem write_far (z : Archive.Compressor) (hshort : 2 * n + 25 < pathLimit) :
    ∃ t', Batch.write z (.indented 2) ⟨⟨.directory, PathText.dotted (n + 1) "r"⟩, [⟨"a", {}⟩]⟩
      FileTree.empty = .ok () t' := by
  have hput : ∃ b', (directorySink (PathText.dotted (n + 1) "r")).put
      (Layout.standard.pathOf "a") ((Codec.indented 2).encode ⟨"a", {}⟩) ⟨FileTree.empty, []⟩
        = .ok () b' := by
    cases hrun : (directorySink (PathText.dotted (n + 1) "r")).put (Layout.standard.pathOf "a")
        ((Codec.indented 2).encode ⟨"a", {}⟩) ⟨FileTree.empty, []⟩ with
    | ok _ b' => exact ⟨b', rfl⟩
    | error e b' =>
      -- the disk refuses nothing, so only opening the file can fail
      have hopen := (put_granting _ _ _ rfl).2 e b' hrun
      rw [openFile_far hshort] at hopen
      cases hopen
  obtain ⟨b', hput⟩ := hput
  have hname : (Codec.indented 2).rules.isValid "a" = true := by decide +kernel
  have hwritten : (directorySink (PathText.dotted (n + 1) "r")).writeSpecification (.indented 2)
      ⟨"a", {}⟩ ⟨FileTree.empty, []⟩ = .ok (Layout.standard.pathOf "a") b' :=
    Sink.writeSpecification_eq_ok_iff.2 ⟨hname, rfl, hput⟩
  have hall : (directorySink (PathText.dotted (n + 1) "r")).writeSpecifications (.indented 2)
      [⟨"a", {}⟩] ⟨FileTree.empty, []⟩ = .ok [Layout.standard.pathOf "a"] b' := by
    unfold Sink.writeSpecifications
    rw [bind_of_eq_ok hwritten]
    rfl
  refine ⟨b'.tree, ?_⟩
  unfold Batch.write Buffered.onTree
  dsimp only
  rw [bind_of_eq_ok hall]
  rfl

theorem status_far (hshort : 2 * n + 25 < pathLimit) :
    FileTree.empty.status (PathText.dotted (n + 1) "r") = .error (.os .notFound) := by
  have hwalkable : Walkable "r" := ⟨by decide +kernel, by decide, by decide⟩
  have hsize : "r".utf8ByteSize = 1 := by decide +kernel
  unfold status
  rw [resolve_dotted hwalkable (by decide +kernel) (by omega)]
  rfl

end Dotted

/-- What has a path that is too long cannot be told to be missing. -/
theorem locate_ne_none_of_long (t : FileTree) {src : Source} {resource : String}
    (hkind : src.kind = .directory)
    (hlong : pathLimit ≤ (PathText.join src.path resource).utf8ByteSize) :
    src.locate t resource ≠ .ok none := by
  have hempty : (PathText.join src.path resource).isEmpty = false := by
    have hsize : 0 < (PathText.join src.path resource).utf8ByteSize :=
      Nat.lt_of_lt_of_le (by decide) hlong
    simpa using fun he => absurd hsize (by rw [he]; decide)
  have hstatus : t.status (PathText.join src.path resource) = .error .nulInPath
      ∨ t.status (PathText.join src.path resource) = .error (.os .nameTooLong) := by
    unfold status resolve
    rw [hempty, if_neg Bool.false_ne_true, if_pos hlong]
    split
    · exact .inl rfl
    · exact .inr rfl
  unfold Source.locate
  rw [hkind]
  dsimp only
  rcases hstatus with he | he
  · rw [he]
    nofun
  · rw [he]
    nofun

/-- The batch was written to a tree without links where nothing was found at its path. -/
structure WritesFirst (t : FileTree) (b : Batch) (t' : FileTree) : Prop where
  written : b.write Archive.storing (.indented 2) t = .ok () t'
  links : t.NoLinks
  missing : t.status b.source.path = .error (.os .notFound)
  made : ∀ s ∈ b.specs, ∃ name deps, Specification.ofOptions .standard name deps = .ok s

theorem noLinks_withOld : Written.withOld.NoLinks := by
  refine noLinks_of_entries fun e he target => ?_
  have hitems : Written.withOld.entries.map (·.2)
      = [.directory, .directory, .file (Text.toBytes "\x7b\"name\":\"old\"\x7d")] := by
    decide +kernel
  have hin := List.mem_map_of_mem (f := (·.2)) he
  rw [hitems] at hin
  intro hlink
  rw [hlink] at hin
  simp at hin

/-- One batch is enough: behind a root that leads back to an old place a name is found that was
not written, and below a root with a long path a name cannot be told to be missing. -/
theorem not_read_exactly :
    (∃ t', WritesFirst Written.withOld ⟨⟨.directory, "x/.."⟩, [⟨"new", {}⟩]⟩ t'
      ∧ NameRules.standard.isValid "old" = true
      ∧ SearchPath.lookup t' (.indented 2) [⟨.directory, "x/.."⟩] "old" = .ok ⟨"old", {}⟩)
    ∧ ∃ t', WritesFirst FileTree.empty
          ⟨⟨.directory, PathText.dotted 2036 "r"⟩, [⟨"a", {}⟩]⟩ t'
      ∧ NameRules.standard.isValid "bb" = true
      ∧ SearchPath.lookup t' (.indented 2) [⟨.directory, PathText.dotted 2036 "r"⟩] "bb"
          ≠ .error (.notFound "bb" (Layout.standard.pathOf "bb")) := by
  have hmade : ∀ name, name ∈ ["new", "a"] →
      (Specification.ofOptions .standard (some name) none).toOption.any (· = ⟨name, {}⟩)
        = true := by
    decide +kernel
  constructor
  · refine ⟨_, ⟨eq_ok_of_succeeded (by decide +kernel), noLinks_withOld, by decide +kernel, ?_⟩,
      by decide +kernel, eq_ok_of_any_toOption (by decide +kernel)⟩
    exact List.forall_mem_singleton.2 ⟨_, _, eq_ok_of_any_toOption (hmade "new" (by decide))⟩
  · have hshort : 2 * 2035 + 25 < pathLimit := by decide
    obtain ⟨t', hwrite⟩ := write_far Archive.storing hshort
    refine ⟨t', ⟨hwrite, noLinks_of_entries (fun _ he => absurd he List.not_mem_nil),
      status_far hshort, ?_⟩, by decide +kernel, fun hmissing => ?_⟩
    · exact List.forall_mem_singleton.2 ⟨_, _, eq_ok_of_any_toOption (hmade "a" (by decide))⟩
    · obtain ⟨_, htells, _⟩ := lookup_eq_notFound_iff.1 hmissing
      refine locate_ne_none_of_long t' rfl ?_ (htells _ List.mem_cons_self)
      have hsize : (PathText.join "r" (Layout.standard.pathOf "bb")).utf8ByteSize = 24 := by
        decide +kernel
      change pathLimit ≤ (PathText.join (PathText.dotted 2036 "r")
        (Layout.standard.pathOf "bb")).utf8ByteSize
      rw [PathText.join_dotted 2036 (by decide) (by decide +kernel), PathText.utf8ByteSize_dotted,
        hsize]
      decide

end Stock

end SpecCatalog
