import SpecCatalog.Proofs.CommandLine.Options
import SpecCatalog.Proofs.CommandLine.Running
import SpecCatalog.Proofs.FileTree.Roots
import SpecCatalog.Proofs.SearchPath.Packed
import SpecCatalog.Proofs.Sink.Batch

/-!
# What the command line writes it can load

The extension of a path decides whether an archive is written there, and what stands at the
path decides how it is read. The two agree after every write that succeeds: an archive that was
made is a file (`exists_packs_of_writeArchive`), and a path below which something was written
leads to a directory (`ofPath_of_write`). What stood there before does not matter, and links are
followed by both.

Then there is one source, and it has the descriptor of what was written: `loads_of_write` for a
directory, `loads_of_writeArchive` for an archive.
-/

namespace SpecCatalog

open FileTree ArchiveInProgress

variable {t t' : FileTree} {z : Archive.Compressor} {c : Codec} {s : Specification}
  {root out path : String}

/-! ## One source -/

theorem ofPaths_singleton {src : Source} (h : Source.ofPath t path = .ok src) :
    SearchPath.ofPaths t [path] = .ok [src] := by
  unfold SearchPath.ofPaths
  rw [List.mapM_cons, h]
  rfl

theorem ofPath_of_directory {r : Route} (h : t.resolve .look path = .ok (.item r .directory)) :
    Source.ofPath t path = .ok ⟨.directory, path⟩ := by
  unfold Source.ofPath
  rw [status_of_resolve h]

theorem ofPath_of_file {r : Route} {file : Bytes}
    (h : t.resolve .look path = .ok (.item r (.file file))) :
    Source.ofPath t path = .ok ⟨.archive, path⟩ := by
  unfold Source.ofPath
  rw [status_of_resolve h]

/-- A name is found in the only source there is, if that has its descriptor. -/
theorem lookup_of_place {src : Source} (hname : c.rules.isValid s.name = true)
    (hplace : src.locate t (c.layout.pathOf s.name) = .ok (some (src.place c s.name)))
    (hread : (src.place c s.name).read t = .ok (c.encode s))
    (hdecodes : c.decode (c.encode s) = .ok s) : SearchPath.lookup t c [src] s.name = .ok s := by
  refine Outcome.lookup_eq (.agreed hname (.found hplace .nil) (List.cons_ne_nil _ _) ?_)
  intro l hl
  rw [List.mem_singleton.1 hl]
  exact ⟨c.encode s, hread, hdecodes⟩

/-! ## Directories -/

/-- The path of a descriptor that was written leads to it. -/
theorem resolve_of_write (hlinks : t.LinksSpelled)
    (h : Buffered.onTree ((directorySink root).writeSpecification c s) t = .ok path t') :
    c.rules.isValid s.name = true
      ∧ ∃ r, t'.resolve .look (PathText.join root (c.layout.pathOf s.name))
        = .ok (.item r (.file (c.encode s))) := by
  obtain ⟨b, hwrite, rfl⟩ := Buffered.onTree_eq_ok h
  obtain ⟨hname, rfl, t₁, r, -, -, hleads⟩ := exists_withFile_of_write hlinks hwrite
  exact ⟨hname, r, hleads⟩

/-- **A directory that was written to loads what was written.** -/
theorem loads_of_write (hl : c.layout.Proper) (hlinks : t.LinksSpelled) (hroot : root ≠ "")
    (hdecodes : c.decode (c.encode s) = .ok s)
    (h : Buffered.onTree ((directorySink root).writeSpecification c s) t = .ok path t') :
    SearchPath.ofPaths t' [root] = .ok [⟨.directory, root⟩]
      ∧ SearchPath.lookup t' c [⟨.directory, root⟩] s.name = .ok s := by
  obtain ⟨hname, r, hleads⟩ := resolve_of_write hlinks h
  obtain ⟨top, htop⟩ := resolve_root hroot (pathOf_ne c.layout s.name) (isAbsolute_pathOf hl s.name)
    hleads
  refine ⟨ofPaths_singleton (ofPath_of_directory htop), ?_⟩
  have hstatus := status_of_resolve hleads
  refine lookup_of_place hname ?_ ?_ hdecodes
  · exact Source.locate_of_status rfl hstatus
  · exact (Location.read_directory_iff rfl).2 hstatus

/-! ## Archives -/

/-- An archive of one specification that was made is a file with its descriptor. -/
theorem exists_packs_of_writeArchive (hlinks : t.LinksSpelled)
    (h : CommandLine.writeArchive z c out s t = .ok path t') :
    c.rules.isValid s.name = true
      ∧ ∃ r file, t'.resolve .look out = .ok (.item r (.file file))
        ∧ Archive.Packs file [packed c s] := by
  obtain ⟨r, t₁, hcreate, hwrite⟩ := exists_of_bind_eq_ok h
  obtain ⟨hempty, hleads⟩ := resolve_of_createFile hlinks (at_eq_ok hcreate)
  have hkeeps := Batch.keeps_outlet t r
  dsimp only at hwrite
  split at hwrite
  · rename_i hone
    obtain ⟨hname, rfl, hput⟩ := Sink.writeSpecification_eq_ok_iff.1 hone
    split at hwrite
    · rename_i hfinish
      cases hwrite
      have hholds := (holds_start z hempty).put hkeeps hput
      obtain ⟨file, hfile, hpacks⟩ := hholds.finish hkeeps hfinish
      exact ⟨hname, r, file, hleads _ file hfile.grows hfile.item?, hpacks⟩
    · cases hwrite
  · -- an archive without the specification is no success
    split at hwrite
    · cases hwrite
    · cases hwrite

/-- **An archive that was made loads what was written.** -/
theorem loads_of_writeArchive (hlinks : t.LinksSpelled) (hdecodes : c.decode (c.encode s) = .ok s)
    (h : CommandLine.writeArchive z c out s t = .ok path t') :
    SearchPath.ofPaths t' [out] = .ok [⟨.archive, out⟩]
      ∧ SearchPath.lookup t' c [⟨.archive, out⟩] s.name = .ok s := by
  obtain ⟨hname, r, file, hleads, hpacks⟩ := exists_packs_of_writeArchive hlinks h
  refine ⟨ofPaths_singleton (ofPath_of_file hleads), ?_⟩
  have hpacks' : Archive.Packs file ([s].map (packed c)) := hpacks
  obtain ⟨xs, hopens⟩ := exists_opens (status_of_resolve hleads) hpacks'
  have hdistinct : ([s].map (·.name)).Nodup := List.nodup_singleton _
  have hread := hopens.read_place hdistinct List.mem_cons_self
  obtain ⟨x, _, hfind, _⟩ := hopens.exists_find? hdistinct List.mem_cons_self
  refine lookup_of_place hname ?_ hread hdecodes
  have hkind : (⟨.archive, out⟩ : Source).kind = .archive := rfl
  rw [Source.locate_of_archive hkind hopens.archive, hfind]
  rfl

/-! ## Commands that write -/

namespace CommandLine

variable {host : Host} {w w' : World}

theorem ofFallible_eq_ok {α : Type} {x : Fallible α} {attempt : Option String} {a : α}
    (h : ofFallible x attempt w = .ok a w') : x = .ok a ∧ w' = w := by
  cases x with
  | error e => cases h
  | ok b =>
    cases h
    exact ⟨rfl, rfl⟩

theorem ofChange_eq_ok {α : Type} {x : EStateM CatalogError FileTree α} {a : α}
    (h : ofChange x w = .ok a w') : x w.tree = .ok a w'.tree := by
  unfold ofChange at h
  split at h
  · rename_i hx
    cases h
    exact hx
  · cases h

/-- Printing leaves the files alone. -/
theorem printLines_eq_ok {lines : List String} (h : printLines lines w = .ok () w') :
    w'.tree = w.tree := by
  unfold printLines at h
  dsimp only at h
  split at h
  · cases h
    rfl
  · cases h

variable {i : Invocation} {args dependencies : List String} {name : String}

/-- Only a run that got to its end has the code 0. -/
theorem runInvocation_of_run {outcome : Outcome} (hargs : Invocation.ofArguments args = .ok i)
    (hrun : run host args t = (outcome, t')) (hcode : outcome.code = 0) :
    ∃ w, runInvocation host i ⟨t, { room := host.room }⟩ = .ok () w ∧ w.tree = t' := by
  cases h : runInvocation host i ⟨t, { room := host.room }⟩ with
  | ok _ w =>
    rw [run_of_ok hargs h] at hrun
    cases hrun
    exact ⟨w, rfl, rfl⟩
  | error stop w =>
    cases stop with
    | failed f =>
      rw [run_of_failed hargs h] at hrun
      cases hrun
      cases hcode
    | crashed crash =>
      rw [run_of_crashed hargs h] at hrun
      cases hrun
      cases crash with
      | panic => cases hcode
      | abort => cases hcode

/-- What a write that succeeded has done: the name and the dependencies were accepted, and the
specification was written as the path says. -/
theorem exists_of_write (hcommand : i.command = .write out name dependencies)
    (h : runInvocation host i w = .ok () w') :
    ∃ c path, i.codec w.tree = .ok c
      ∧ Specification.ofRules c.rules name dependencies = .ok ⟨name, .ofList dependencies⟩
      ∧ if isArchivePath out then
          writeArchive host.compressor c out ⟨name, .ofList dependencies⟩ w.tree
            = .ok path w'.tree
        else
          Buffered.onTree ((directorySink out).writeSpecification c ⟨name, .ofList dependencies⟩)
            w.tree = .ok path w'.tree := by
  cases hcrash : host.crash? (i.codec w.tree) with
  | some crash =>
    rw [runInvocation_of_crash hcrash] at h
    cases h
  | none =>
    rw [runInvocation_of_memory hcrash, hcommand] at h
    obtain ⟨c, w₁, hcodec, hcommand⟩ := exists_of_bind_eq_ok h
    obtain ⟨hc, rfl⟩ := ofFallible_eq_ok hcodec
    obtain ⟨s, w₂, hspec, hchange⟩ := exists_of_bind_eq_ok hcommand
    obtain ⟨hs, rfl⟩ := ofFallible_eq_ok hspec
    obtain ⟨path, w₃, hwritten, hlast⟩ := exists_of_bind_eq_ok hchange
    have hwrite := ofChange_eq_ok hwritten
    rw [← printLines_eq_ok hlast] at hwrite
    obtain ⟨_, _, rfl⟩ := Specification.ofRules_eq_ok_iff.1 hs
    refine ⟨c, path, hc, hs, ?_⟩
    split
    · rename_i harchive
      rw [if_pos harchive] at hwrite
      exact hwrite
    · rename_i hdirectory
      rw [if_neg hdirectory] at hwrite
      exact hwrite

/--
**What the command line writes it can load.**

After a write that ended well, the path that was written to is a search path, of an archive if
its extension says so and else of a directory. Looking up the name there, with the codec that the
write was configured for, gives the specification of this name with these dependencies. What
stood at the path before is arbitrary, links included; of these it is only used that no target
has a null character, which no system lets a link have.
-/
theorem run_write_loads {outcome : Outcome} (hargs : Invocation.ofArguments args = .ok i)
    (hcommand : i.command = .write out name dependencies) (hlinks : t.LinksSpelled)
    (hrun : run host args t = (outcome, t')) (hcode : outcome.code = 0) :
    ∃ (c : Codec) (sources : SearchPath), i.codec t = .ok c
      ∧ sources = [⟨if isArchivePath out then .archive else .directory, out⟩]
      ∧ SearchPath.ofPaths t' [out] = .ok sources
      ∧ sources.lookup t' c name = .ok ⟨name, .ofList dependencies⟩ := by
  obtain ⟨w, h, rfl⟩ := runInvocation_of_run hargs hrun hcode
  obtain ⟨c, path, hc, hmade, hwrite⟩ := exists_of_write hcommand h
  have hdecodes : c.decode (c.encode ⟨name, .ofList dependencies⟩)
      = .ok ⟨name, .ofList dependencies⟩ := Written.decode_encode_of_made ⟨_, _, hmade⟩
  refine ⟨c, _, hc, rfl, ?_⟩
  split at hwrite
  · rename_i harchive
    have hloads := loads_of_writeArchive hlinks hdecodes hwrite
    rw [if_pos harchive]
    exact hloads
  · rename_i hdirectory
    obtain ⟨config, _, hconfig⟩ := bind_eq_ok_iff.1 hc
    have hloads := loads_of_write (Codec.proper_of_ofConfig hconfig) hlinks
      (out_ne_empty hargs hcommand) hdecodes hwrite
    rw [if_neg hdirectory]
    exact hloads

/-- A tree with a link to an old file in the place of an archive. -/
def relinked : FileTree :=
  (FileTree.empty.put [] "old" (.file [80, 75])).put [] "lib.zip" (.link "old")

theorem linksSpelled_relinked : relinked.LinksSpelled := by
  refine linksSpelled_of_entries fun e he target htarget => ?_
  have hentries : relinked.entries = [(["old"], .file [80, 75]), (["lib.zip"], .link "old")] := by
    decide
  rw [hentries] at he
  rcases List.mem_cons.1 he with rfl | he
  · cases htarget
  · rw [List.mem_singleton.1 he] at htarget
    cases htarget
    decide

/-- An archive is written over the old file through the link, and loads; so does a directory. -/
theorem run_write_loads_relinked :
    (∃ sources : SearchPath, SearchPath.ofPaths
        (run (ample none) ["write", "-olib.zip", "--name=a", "--dep=b"] relinked).2 ["lib.zip"] = .ok sources
      ∧ sources.lookup (run (ample none) ["write", "-olib.zip", "--name=a", "--dep=b"] relinked).2 .standard "a"
        = .ok ⟨"a", .ofList ["b"]⟩)
    ∧ ∃ sources : SearchPath, SearchPath.ofPaths
        (run (ample none) ["write", "-oout/", "--name=a", "--dep=b"] relinked).2 ["out/"] = .ok sources
      ∧ sources.lookup (run (ample none) ["write", "-oout/", "--name=a", "--dep=b"] relinked).2 .standard "a"
        = .ok ⟨"a", .ofList ["b"]⟩ := by
  have hloads : ∀ args out,
      Invocation.ofArguments args = .ok ⟨none, none, .write out "a" ["b"]⟩ →
      (run (ample none) args relinked).1.code = 0 →
      ∃ sources : SearchPath, SearchPath.ofPaths (run (ample none) args relinked).2 [out] = .ok sources
        ∧ sources.lookup (run (ample none) args relinked).2 .standard "a" = .ok ⟨"a", .ofList ["b"]⟩ := by
    intro args out hargs hcode
    obtain ⟨c, sources, hc, _, hpaths, hlookup⟩ :=
      run_write_loads hargs rfl linksSpelled_relinked Prod.mk.eta.symm hcode
    have hstandard : Codec.standard = c :=
      Except.ok.inj ((Invocation.codec_standard rfl).symm.trans hc)
    rw [hstandard]
    exact ⟨sources, hpaths, hlookup⟩
  constructor
  · exact hloads _ _ (eq_ok_of_any_toOption (by decide +kernel)) (by decide +kernel)
  · exact hloads _ _ (eq_ok_of_any_toOption (by decide +kernel)) (by decide +kernel)

end CommandLine

end SpecCatalog
