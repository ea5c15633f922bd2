import SpecCatalog.Proofs.SearchPath.Findings
import SpecCatalog.Proofs.SearchPath.Holdings
import SpecCatalog.Proofs.Sink.Archiving

/-!
# Archives whose entries are known

An archive that packs the descriptors of some specifications and nothing else is a source that
holds these specifications (`holds_of_packs`), and it can tell that it does not have any other
name (`tells_of_packs`).
-/

namespace SpecCatalog

open Archive ArchiveInProgress

variable {t : FileTree} {c : Codec} {path name : String} {specs : List Specification}
  {file : Bytes}

/-- A scan of descriptors that can be read hands all of them out, in order. -/
theorem Source.archiveDescriptors_map {src : Source} {xs : List (Entry × Bytes)}
    (h : ∀ x ∈ xs, Source.Describes c x.1 ∧ x.1.open? file = .ok (.ok x.2)) :
    Source.archiveDescriptors c src file (xs.map (·.1))
      = ⟨xs.map fun x => (⟨src, x.1.name⟩, x.2), none⟩ := by
  induction xs with
  | nil => rfl
  | cons x xs ih =>
    rw [List.forall_mem_cons] at h
    obtain ⟨⟨⟨hfile, hpath⟩, hbody⟩, hrest⟩ := h
    rw [List.map_cons]
    unfold archiveDescriptors
    rw [hbody, ih hrest, hfile, hpath]
    rfl

/-- The file at the path is opened to these entries, which are the descriptors of the
specifications. -/
structure Opens (t : FileTree) (c : Codec) (path : String) (specs : List Specification)
    (file : Bytes) (xs : List (Entry × Bytes)) : Prop where
  archive : openArchive t path = .ok ⟨file, xs.map (·.1)⟩
  read : ∀ x ∈ xs, x.1.open? file = .ok (.ok x.2)
  contents : specs.map (packed c) = xs.map fun x => (x.1.name, x.2)

theorem exists_opens (hstatus : t.status path = .ok (.file file))
    (h : Packs file (specs.map (packed c))) : ∃ xs, Opens t c path specs file xs := by
  obtain ⟨xs, hopen, hread, hcontents⟩ := h
  refine ⟨xs, ?_, hread, hcontents⟩
  unfold openArchive
  rw [hstatus]
  dsimp only
  rw [hopen]
  rfl

namespace Opens

variable {xs : List (Entry × Bytes)} {x : Entry × Bytes} {s : Specification}

/-- An entry has the path of one of the names, and its descriptor. -/
theorem exists_specification (h : Opens t c path specs file xs) (hx : x ∈ xs) :
    ∃ s ∈ specs, x.1.name = c.layout.pathOf s.name ∧ x.2 = c.encode s := by
  have hin : (x.1.name, x.2) ∈ specs.map (packed c) :=
    h.contents ▸ List.mem_map_of_mem (f := fun x : Entry × Bytes => (x.1.name, x.2)) hx
  obtain ⟨s, hs, he⟩ := List.mem_map.1 hin
  exact ⟨s, hs, (congrArg Prod.fst he).symm, (congrArg Prod.snd he).symm⟩

theorem exists_entry (h : Opens t c path specs file xs) (hs : s ∈ specs) :
    ∃ x ∈ xs, x.1.name = c.layout.pathOf s.name ∧ x.2 = c.encode s := by
  have hin : packed c s ∈ xs.map fun x => (x.1.name, x.2) := h.contents ▸ List.mem_map_of_mem hs
  obtain ⟨x, hx, he⟩ := List.mem_map.1 hin
  exact ⟨x, hx, congrArg Prod.fst he, congrArg Prod.snd he⟩

/-- The entry that is found by a name has its descriptor. -/
theorem exists_find? (h : Opens t c path specs file xs)
    (hdistinct : (specs.map (·.name)).Nodup) (hs : s ∈ specs) :
    ∃ x ∈ xs, Archive.find? ⟨file, xs.map (·.1)⟩ (c.layout.pathOf s.name) = some x.1
      ∧ x.2 = c.encode s := by
  obtain ⟨x, hx, hname, _⟩ := h.exists_entry hs
  cases hfind : Archive.find? ⟨file, xs.map (·.1)⟩ (c.layout.pathOf s.name) with
  | none =>
    have hnot := List.find?_eq_none.1 hfind x.1 (List.mem_map_of_mem hx)
    exact absurd (decide_eq_true hname) hnot
  | some e =>
    -- whichever entry comes first under the path, it is the one of the specification
    obtain ⟨x', hx', rfl⟩ := List.mem_map.1 (List.mem_of_find?_eq_some hfind)
    have hname' : x'.1.name = c.layout.pathOf s.name := by simpa using List.find?_some hfind
    obtain ⟨s', hs', hpath, hbody⟩ := h.exists_specification hx'
    have hsame := pathOf_injective c.layout (hpath.symm.trans hname')
    obtain rfl := List.inj_on_of_nodup_map hdistinct hs' hs hsame
    exact ⟨x', hx', rfl, hbody⟩

theorem find?_eq_none (h : Opens t c path specs file xs) (hnone : ∀ s ∈ specs, s.name ≠ name) :
    Archive.find? ⟨file, xs.map (·.1)⟩ (c.layout.pathOf name) = none := by
  refine List.find?_eq_none.2 fun e he htest => ?_
  obtain ⟨x, hx, rfl⟩ := List.mem_map.1 he
  obtain ⟨s, hs, hpath, _⟩ := h.exists_specification hx
  exact hnone s hs (pathOf_injective c.layout (hpath.symm.trans (of_decide_eq_true htest)))

/-- What is packed is handed out in the order it was packed in. -/
theorem descriptors_eq (h : Opens t c path specs file xs) (hl : c.layout.Proper)
    (hext : c.layout.extension.toList.getLast? ≠ some '\\')
    (hvalid : ∀ s ∈ specs, c.rules.isValid s.name = true) :
    Source.descriptors t c ⟨.archive, path⟩
      = ⟨specs.map fun s => (Source.place c ⟨.archive, path⟩ s.name, c.encode s), none⟩ := by
  have hdescribes : ∀ x ∈ xs, Source.Describes c x.1 ∧ x.1.open? file = .ok (.ok x.2) := by
    intro x hx
    obtain ⟨s, hs, hname, _⟩ := h.exists_specification hx
    refine ⟨⟨(Source.isDirectory_pathOf hl hname).2 hext, ?_⟩, h.read x hx⟩
    rw [hname]
    exact isSpecPath_pathOf hl (hvalid s hs)
  have hfound : (xs.map fun x => ((⟨⟨.archive, path⟩, x.1.name⟩ : Location), x.2))
      = specs.map fun s => (Source.place c ⟨.archive, path⟩ s.name, c.encode s) := by
    have hmap := congrArg
      (List.map fun x : String × Bytes => ((⟨⟨.archive, path⟩, x.1⟩ : Location), x.2)) h.contents
    simpa only [List.map_map, Function.comp_def, packed, Source.place] using hmap.symm
  have hkind : (⟨.archive, path⟩ : Source).kind = .archive := rfl
  rw [Source.descriptors_archive hkind h.archive, Source.archiveDescriptors_map hdescribes, hfound]

theorem read_place (h : Opens t c path specs file xs) (hdistinct : (specs.map (·.name)).Nodup)
    (hs : s ∈ specs) :
    (Source.place c ⟨.archive, path⟩ s.name).read t = .ok (c.encode s) := by
  obtain ⟨x, hx, hfind, hencoded⟩ := h.exists_find? hdistinct hs
  exact (Location.read_archive_iff rfl).2 ⟨_, x.1, h.archive, hfind, hencoded ▸ h.read x hx⟩

end Opens

/-- **A scan and look-ups find exactly what was packed.** -/
theorem holds_of_packs (hl : c.layout.Proper)
    (hext : c.layout.extension.toList.getLast? ≠ some '\\')
    (hvalid : ∀ s ∈ specs, c.rules.isValid s.name = true)
    (hdistinct : (specs.map (·.name)).Nodup) (hstatus : t.status path = .ok (.file file))
    (h : Packs file (specs.map (packed c))) : Source.Holds t c ⟨.archive, path⟩ specs := by
  obtain ⟨xs, hopens⟩ := exists_opens hstatus h
  have hkind : (⟨.archive, path⟩ : Source).kind = .archive := rfl
  have hscan := hopens.descriptors_eq hl hext hvalid
  refine ⟨?_, fun d => ?_, fun s hs => ?_, fun s hs => hopens.read_place hdistinct hs⟩
  · rw [hscan]
  · rw [hscan, List.mem_map]
    exact exists_congr fun s => and_congr_right fun _ => eq_comm
  · obtain ⟨x, _, hfind, _⟩ := hopens.exists_find? hdistinct hs
    rw [Source.locate_of_archive hkind hopens.archive, hfind]
    rfl

/-- A name that was not packed is not found. -/
theorem tells_of_packs (hstatus : t.status path = .ok (.file file))
    (h : Packs file (specs.map (packed c))) : Source.Tells t c ⟨.archive, path⟩ specs name := by
  intro hnone
  obtain ⟨xs, hopens⟩ := exists_opens hstatus h
  have hkind : (⟨.archive, path⟩ : Source).kind = .archive := rfl
  rw [Source.locate_of_archive hkind hopens.archive, hopens.find?_eq_none hnone]
  rfl

end SpecCatalog
