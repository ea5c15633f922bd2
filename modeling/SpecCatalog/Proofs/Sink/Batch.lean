import SpecCatalog.Proofs.FileTree.NewFile
import SpecCatalog.Proofs.Sink.Archiving
import SpecCatalog.Proofs.Sink.LastWrite

/-!
# Writing batches

A batch of specifications is written as a whole: below a root, or into an archive of its own
that is completed in the end. If the place was new, the descriptors of the batch `Stand` there
afterwards, and nothing else has changed in the tree but for directories that were missing
(`write_stands`).

They keep standing when the tree is extended elsewhere (`Stands.kept`). So after a row of
batches all of them stand, each in its own place (`Writes.stand`).
-/

namespace SpecCatalog

open FileTree ArchiveInProgress

/-- Where the descriptors of the source stand: in this directory, or in this file. -/
def Source.base (c : Codec) (src : Source) : String :=
  match src.kind with
  | .directory => PathText.join src.path c.layout.directory
  | .archive => src.path

namespace Batch

/-- Makes a new archive at the path with the descriptors of the specifications. -/
def pack (z : Archive.Compressor) (c : Codec) (path : String) (specs : List Specification) :
    EStateM CatalogError FileTree Unit := do
  let route ← createArchive path
  fun t =>
    let outlet := FileTree.outlet route
    match (ArchiveInProgress.sink z path outlet).writeSpecifications c specs { state := t } with
    | .ok _ a => a.finish z path outlet
    | .error e a => .error e a.state

def write (z : Archive.Compressor) (c : Codec) (b : Batch) : EStateM CatalogError FileTree Unit :=
  match b.source.kind with
  | .directory => Buffered.onTree do
    let _ ← (directorySink b.source.path).writeSpecifications c b.specs
  | .archive => pack z c b.source.path b.specs

/-- The files of a batch that stands here. -/
def Fills (b : Batch) (here r : Route) : Prop :=
  match b.source.kind with
  | .directory => Inside here r
  | .archive => r = here

/-- Some specifications, one of each name, that the codec reads as it writes them. -/
structure Readable (c : Codec) (b : Batch) : Prop where
  specs_ne : b.specs ≠ []
  decodes : ∀ s ∈ b.specs, c.decode (c.encode s) = .ok s
  distinct : (b.specs.map (·.name)).Nodup

/-- The batch is what its source has. -/
inductive Stands (t : FileTree) (c : Codec) : Batch → Route → Prop
  | shelf {root : String} {specs : List Specification} {folder : Route} :
      Shelf t c root specs [] folder → Stands t c ⟨⟨.directory, root⟩, specs⟩ folder
  | packed {path : String} {specs : List Specification} {r : Route} {file : Bytes} :
      t.resolve .look path = .ok (.item r (.file file)) →
      Archive.Packs file (specs.map (packed c)) →
      (∀ s ∈ specs, c.rules.isValid s.name = true) → Stands t c ⟨⟨.archive, path⟩, specs⟩ r

variable {t t' : FileTree} {z : Archive.Compressor} {c : Codec} {b : Batch} {here : Route}
  {root path : String} {specs : List Specification} {place : Route → Prop}

theorem Stands.resolve (h : Stands t c b here) :
    ∃ i, t.resolve .look (b.source.base c) = .ok (.item here i) := by
  cases h with
  | shelf hshelf => exact ⟨_, hshelf.leads⟩
  | packed hleads _ _ => exact ⟨_, hleads⟩

/-- What is new elsewhere leaves a batch alone. -/
theorem Stands.kept (h : Stands t c b here) (he : Extends t t' place)
    (hfree : ∀ r, b.Fills here r → ¬ place r) : Stands t' c b here := by
  cases h with
  | shelf hshelf => exact .shelf (hshelf.kept he fun fileName => hfree _ ⟨fileName, rfl⟩)
  | packed hleads hpacks hvalid =>
    -- the path leads to the same file, and the file holds what it held
    obtain ⟨i, hi, _⟩ := resolve_grows he.grows hleads (by decide)
    have hkept := he.kept _ _ (item?_of_resolve hleads)
    rw [item?_of_resolve hi] at hkept
    cases hkept
    exact .packed hi hpacks hvalid

/-! ## Directories -/

/-- A batch that was written below a root is a run of writes that all succeeded. -/
theorem foldl_write_of_writeSpecifications {w : Written} {paths : List String} {b' : Buffered}
    (hl : c.layout.Proper) (hunbroken : w.broken = [])
    (h : (directorySink root).writeSpecifications c specs ⟨w.tree, []⟩ = .ok paths b') :
    specs.foldl (Written.write c root) w
      = ⟨specs.foldl (fun m s => m.insert s.name s) w.latest, [], b'.tree⟩ := by
  induction specs generalizing w paths with
  | nil =>
    cases h
    rw [← hunbroken]
    rfl
  | cons s specs ih =>
    obtain ⟨_, b₁, _, rfl, hfirst, hrest⟩ := Sink.writeSpecifications_cons_eq_ok_iff.1 h
    -- nothing waits after a write, so the next one starts as if it were the first
    obtain ⟨-, -, hwaiting, -⟩ := exists_of_write_eq_ok hl hfirst
    have hstep : Written.write c root w s = ⟨w.latest.insert s.name s, [], b₁.tree⟩ := by
      unfold Written.write Buffered.onTree
      rw [hfirst, hunbroken]
      rfl
    have hnext : b₁ = ⟨(Written.write c root w s).tree, []⟩ := by
      rw [hstep, ← hwaiting]
    rw [hnext] at hrest
    rw [List.foldl_cons, List.foldl_cons, ih (by rw [hstep]) hrest, hstep]

/-- With one specification of each name the last write of a name is the only one. -/
theorem mem_values_foldl_insert {m : NameMap Specification} (hm : Written.Named c m)
    (hdecodes : ∀ s ∈ specs, c.decode (c.encode s) = .ok s)
    (hdistinct : (specs.map (·.name)).Nodup)
    (hnew : ∀ s ∈ specs, ∀ s' ∈ m.values, s'.name ≠ s.name) (s' : Specification) :
    s' ∈ (specs.foldl (fun m s => m.insert s.name s) m).values ↔ s' ∈ specs ∨ s' ∈ m.values := by
  induction specs generalizing m with
  | nil => simp
  | cons s specs ih =>
    rw [List.forall_mem_cons] at hdecodes hnew
    rw [List.map_cons, List.nodup_cons] at hdistinct
    have hmem := hm.mem_values_insert hdecodes.1
    rw [List.foldl_cons, ih (hm.insert hdecodes.1) hdecodes.2 hdistinct.2 ?_, hmem, List.mem_cons]
    · constructor
      · rintro (hin | rfl | ⟨hin, _⟩)
        · exact .inl (.inr hin)
        · exact .inl (.inl rfl)
        · exact .inr hin
      · rintro ((rfl | hin) | hin)
        · exact .inr (.inl rfl)
        · exact .inl hin
        · exact .inr (.inr ⟨hin, hnew.1 s' hin⟩)
    · -- the one that is written now has another name than all that come after it
      intro s₁ hs₁ s₂ hs₂ hname
      rcases (hmem s₂).1 hs₂ with rfl | ⟨hin, _⟩
      · exact hdistinct.1 (hname ▸ List.mem_map_of_mem hs₁)
      · exact hnew.2 s₁ hs₁ s₂ hin hname

theorem write_stands_directory (hl : c.layout.Proper)
    (hb : Readable c ⟨⟨.directory, root⟩, specs⟩)
    (hwrite : write z c ⟨⟨.directory, root⟩, specs⟩ t = .ok () t')
    (hnew : NewAt t t' (PathText.join root c.layout.directory)) :
    ∃ folder, t.item? folder = none ∧ Shelf t' c root specs [] folder
      ∧ Extends t t' (Inside folder) := by
  obtain ⟨b, hdone, rfl⟩ := Buffered.onTree_eq_ok hwrite
  obtain ⟨paths, b₁, hspecs, hpure⟩ := exists_of_bind_eq_ok hdone
  obtain rfl : b₁ = b := by
    cases hpure
    rfl
  have hrun : Written.run c root t specs = _ :=
    foldl_write_of_writeSpecifications (w := ⟨{}, [], t⟩) hl rfl hspecs
  have hmem : ∀ s, s ∈ specs ↔ s ∈ (Written.run c root t specs).latest.values := by
    intro s
    rw [hrun, mem_values_foldl_insert (Written.named_empty c) hb.decodes hb.distinct (by nofun)]
    exact ⟨.inl, fun h => h.resolve_right List.not_mem_nil⟩
  have hlatest : (Written.run c root t specs).latest ≠ {} := by
    intro hempty
    obtain ⟨s, hs⟩ := List.exists_mem_of_ne_nil specs hb.specs_ne
    have hin := (hmem s).1 hs
    rw [hempty] at hin
    exact absurd hin List.not_mem_nil
  have htree : (Written.run c root t specs).tree = b₁.tree := by rw [hrun]
  have hunbroken : (Written.run c root t specs).broken = [] := by rw [hrun]
  rw [← htree] at hnew ⊢
  obtain ⟨folder, hnone, hshelf, hextends⟩ := Written.shelf_run hl hb.decodes hnew hlatest
  rw [Written.standing_of_unbroken hunbroken, hunbroken] at hshelf
  exact ⟨folder, hnone, hshelf.of_mem_iff hmem, hextends⟩

/-! ## Archives -/

/-- A file keeps what is written to it, where it is written. -/
theorem keeps_outlet (t : FileTree) (r : Route) :
    (FileTree.outlet r).Keeps fun out t' => WithFile t r out t' where
  write := by
    intro out bs place t₁ t₂ hfile _ hwrite
    rcases withFile_write hfile.item? (fun body taken => Archive.overwrite body place taken) bs with
      ⟨t₃, hwrite', hmore⟩ | ⟨e, t₃, kept, hwrite', -, -⟩
    · cases hwrite'.symm.trans hwrite
      exact hfile.trans hmore
    · cases hwrite'.symm.trans hwrite
  length := by
    intro out t' hfile
    unfold FileTree.outlet
    dsimp only
    rw [hfile.item?]

theorem write_stands_archive (hlinks : t.NoLinks)
    (hwrite : write z c ⟨⟨.archive, path⟩, specs⟩ t = .ok () t') (hnew : NewAt t t' path) :
    ∃ r, t.item? r = none ∧ Stands t' c ⟨⟨.archive, path⟩, specs⟩ r ∧ Extends t t' (· = r) := by
  obtain ⟨r, t₁, hcreate, hwrite⟩ := exists_of_bind_eq_ok hwrite
  obtain ⟨hempty, hleads⟩ := resolve_of_createFile hlinks.linksSpelled (at_eq_ok hcreate)
  have hkeeps := keeps_outlet t r
  dsimp only at hwrite
  cases hspecs : (ArchiveInProgress.sink z path (FileTree.outlet r)).writeSpecifications c specs
      { state := t₁ } with
  | error e a =>
    rw [hspecs] at hwrite
    cases hwrite
  | ok paths a =>
    rw [hspecs] at hwrite
    -- what the outlet has is always the contents of the one new file
    obtain ⟨hholds, hvalid⟩ := (holds_start z hempty).writeSpecifications hkeeps hspecs
    obtain ⟨file, hfile, hpacks⟩ := hholds.finish hkeeps hwrite
    have hresolve := hleads t' file hfile.grows hfile.item?
    have hnone := hnew r _ hresolve
    exact ⟨r, hnone, .packed hresolve hpacks hvalid, (Extends.refl t _).withFile hfile hnone rfl⟩

/-! ## One batch and many -/

/-- **A batch that was written to a new place stands there**, and its files are all that is
new. -/
theorem write_stands (hl : c.layout.Proper) (hlinks : t.NoLinks) (hb : Readable c b)
    (hwrite : b.write z c t = .ok () t') (hnew : NewAt t t' (b.source.base c)) :
    ∃ here, t.item? here = none ∧ Stands t' c b here ∧ Extends t t' (b.Fills here) := by
  obtain ⟨⟨kind, root⟩, specs⟩ := b
  cases kind with
  | directory =>
    obtain ⟨folder, hnone, hshelf, hextends⟩ := write_stands_directory hl hb hwrite hnew
    exact ⟨folder, hnone, .shelf hshelf, hextends⟩
  | archive => exact write_stands_archive hlinks hwrite hnew

end Batch

namespace Stock

open Batch

/-- The batches were written in turn, each to a place that was new. -/
inductive Writes (z : Archive.Compressor) (c : Codec) : FileTree → Stock → FileTree → Prop
  | nil (t : FileTree) : Writes z c t [] t
  | cons {t t₁ t' : FileTree} {b : Batch} {stock : Stock} :
      b.write z c t = .ok () t₁ → NewAt t t₁ (b.source.base c) → Writes z c t₁ stock t' →
      Writes z c t (b :: stock) t'

/-- No archive stands right among the descriptors of a directory. -/
def Apart (t : FileTree) (c : Codec) (stock : Stock) : Prop :=
  ∀ b ∈ stock, ∀ b' ∈ stock, b.source.kind = .directory → b'.source.kind = .archive →
    ∀ folder r i i', t.resolve .look (b.source.base c) = .ok (.item folder i) →
      t.resolve .look (b'.source.base c) = .ok (.item r i') → ¬ Inside folder r

variable {stock : Stock}

/-- The batch stands at a place that was new. -/
def Settles (t t' : FileTree) (c : Codec) (b : Batch) (here : Route) : Prop :=
  t.item? here = none ∧ Stands t' c b here

theorem Settles.before {t₁ : FileTree} (h : Settles t₁ t' c b here) (he : Extends t t₁ place) :
    Settles t t' c b here := by
  refine ⟨?_, h.2⟩
  cases hi : t.item? here with
  | none => rfl
  | some i =>
    have hkept := he.kept here i hi
    rw [h.1] at hkept
    cases hkept

/-- Batches that are apart and not in one place have no file in common. -/
theorem not_fills {b b' : Batch} {here here' r : Route} {i i' : Item}
    (hapart : stock.Apart t c) (hb : b ∈ stock) (hb' : b' ∈ stock)
    (hleads : t.resolve .look (b.source.base c) = .ok (.item here i))
    (hleads' : t.resolve .look (b'.source.base c) = .ok (.item here' i'))
    (hne : here ≠ here') (hr : b.Fills here r) : ¬ b'.Fills here' r := by
  intro hr'
  unfold Batch.Fills at hr hr'
  cases hkind : b.source.kind with
  | directory =>
    rw [hkind] at hr
    cases hkind' : b'.source.kind with
    | directory =>
      rw [hkind'] at hr'
      obtain ⟨name, rfl⟩ := hr
      obtain ⟨name', he⟩ := hr'
      exact hne (List.append_inj' he rfl).1
    | archive =>
      -- one in the directory of the other is what being apart rules out
      rw [hkind'] at hr'
      obtain rfl := hr'
      exact hapart b hb b' hb' hkind hkind' _ _ _ _ hleads hleads' hr
  | archive =>
    rw [hkind] at hr
    obtain rfl := hr
    cases hkind' : b'.source.kind with
    | directory =>
      rw [hkind'] at hr'
      exact hapart b' hb' b hb hkind' hkind _ _ _ _ hleads' hleads hr'
    | archive =>
      rw [hkind'] at hr'
      exact hne hr'

/-- **After a row of batches each of them stands in its own place**, and their files are all
that is new. -/
theorem Writes.settle (h : Writes z c t stock t') (hl : c.layout.Proper) (hlinks : t.NoLinks)
    (hstock : ∀ b ∈ stock, Readable c b) (hapart : stock.Apart t' c) :
    (∀ b ∈ stock, ∃ here, Settles t t' c b here)
      ∧ Extends t t' fun r => ∃ b ∈ stock, ∃ here, Settles t t' c b here ∧ b.Fills here r := by
  induction h with
  | nil t => exact ⟨nofun, .refl t _⟩
  | @cons t t₁ t' b stock hwrite hnew hrest ih =>
    rw [List.forall_mem_cons] at hstock
    obtain ⟨here, hnone, hstands, hextends⟩ := write_stands hl hlinks hstock.1 hwrite hnew
    obtain ⟨hall, hmore⟩ := ih (hlinks.extends hextends) hstock.2 fun b hb b' hb' =>
      hapart b (List.mem_cons_of_mem _ hb) b' (List.mem_cons_of_mem _ hb')
    -- the later batches stand where this one was not, so they leave its files alone
    obtain ⟨i, hleads⟩ := hstands.resolve
    obtain ⟨i', hleads', _⟩ := resolve_grows hmore.grows hleads (by decide)
    have hsettles : Settles t t' c b here := by
      refine ⟨hnone, hstands.kept hmore fun r hr => ?_⟩
      rintro ⟨b', hb', here', ⟨hnone', hstands'⟩, hr'⟩
      obtain ⟨_, hleads''⟩ := hstands'.resolve
      refine not_fills hapart List.mem_cons_self (List.mem_cons_of_mem _ hb') hleads' hleads''
        ?_ hr hr'
      rintro rfl
      rw [item?_of_resolve hleads] at hnone'
      cases hnone'
    refine ⟨List.forall_mem_cons.2 ⟨⟨here, hsettles⟩, fun b' hb' => ?_⟩, hextends.trans hmore ?_ ?_⟩
    · obtain ⟨here', hsettles'⟩ := hall b' hb'
      exact ⟨here', hsettles'.before hextends⟩
    · exact fun r hr => ⟨b, List.mem_cons_self, here, hsettles, hr⟩
    · rintro r ⟨b', hb', here', hsettles', hr⟩
      exact ⟨b', List.mem_cons_of_mem _ hb', here', hsettles'.before hextends, hr⟩

end Stock

end SpecCatalog
