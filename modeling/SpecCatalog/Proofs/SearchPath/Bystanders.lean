import SpecCatalog.Proofs.SearchPath.Findings

/-!
# Entries that are no descriptors

A scan of an archive keeps the descriptors and passes over all other entries, but it opens each
entry before it looks at the name. So the others do count: if all of them can be opened, every
descriptor is visited, and otherwise the scan breaks off at the first that cannot
(`visits_all_iff`). Only the contents of an entry that is passed over make no difference.
-/

namespace SpecCatalog

namespace Source

variable {t : FileTree} {c : Codec} {config : Config} {s : Source} {archive : Archive}
  {file : Bytes} {es before after : List Archive.Entry} {e : Archive.Entry}

/-- The entry can be opened, whether or not its contents can be read then. -/
def Opens (file : Bytes) (e : Archive.Entry) : Prop := ∃ contents, e.open? file = .ok contents

/-- The entry stands at the path of a name. -/
abbrev AtSpecPath (c : Codec) (e : Archive.Entry) : Prop :=
  c.layout.isSpecPath c.rules e.name = true

/-- The places of the descriptors among some entries, in order. -/
def placesIn (c : Codec) (s : Source) (es : List Archive.Entry) : List Location :=
  (es.filter (AtSpecPath c ·)).map fun e => ⟨s, e.name⟩

/-! ## How a scan goes through an archive -/

/-- An entry that cannot be opened ends the scan, whatever its name is. -/
theorem archiveDescriptors_of_fault {f : Archive.Fault} (h : e.open? file = .error f)
    (after : List Archive.Entry) :
    archiveDescriptors c s file (e :: after) = .failed (.archive s.path f) := by
  unfold archiveDescriptors
  rw [h]

theorem opens_of_unbroken (h : (archiveDescriptors c s file es).broke = none) :
    ∀ e ∈ es, Opens file e := by
  intro e he
  obtain ⟨before, after, rfl⟩ := List.append_of_mem he
  rw [archiveDescriptors_append] at h
  obtain ⟨_, hscan, _⟩ := Scan.of_append_unbroken h
  cases hopen : e.open? file with
  | ok contents => exact ⟨contents, hopen⟩
  | error f =>
    rw [archiveDescriptors_of_fault hopen] at hscan
    cases hscan

/-- If every entry can be opened and the descriptors can be read, they are all visited. -/
theorem visits_of_opens (hopens : ∀ e ∈ es, Opens file e)
    (hread : ∀ e ∈ es, AtSpecPath c e →
      e.isDirectory = false ∧ ∃ body, e.open? file = .ok (.ok body)) :
    (archiveDescriptors c s file es).broke = none
      ∧ (archiveDescriptors c s file es).found.map (·.1) = placesIn c s es := by
  induction es with
  | nil => exact ⟨rfl, rfl⟩
  | cons e es ih =>
    rw [List.forall_mem_cons] at hopens hread
    obtain ⟨hbroke, hfound⟩ := ih hopens.2 hread.2
    obtain ⟨contents, hopen⟩ := hopens.1
    unfold archiveDescriptors placesIn
    rw [hopen]
    dsimp only
    by_cases hspec : AtSpecPath c e
    · obtain ⟨hdir, body, hbody⟩ := hread.1 hspec
      rw [hopen] at hbody
      cases hbody
      rw [List.filter_cons_of_pos (by simpa using hspec), if_neg (by simp [hdir, hspec])]
      refine ⟨hbroke, ?_⟩
      rw [List.map_cons, ← placesIn, ← hfound]
      rfl
    · have hother : c.layout.isSpecPath c.rules e.name = false := Bool.eq_false_iff.2 hspec
      rw [List.filter_cons_of_neg (by simpa using hspec), if_pos (by simp [hother])]
      exact ⟨hbroke, hfound⟩

/-! ## Archives whose descriptors can be read -/

/-- Whatever stands at the path of a name in the archive can be read. -/
def Readable (t : FileTree) (c : Codec) (s : Source) (archive : Archive) : Prop :=
  ∀ name, c.rules.isValid name = true → archive.find? (c.layout.pathOf name) ≠ none →
    ∃ body, Location.read t ⟨s, c.layout.pathOf name⟩ = .ok body

theorem readable_entry (hl : c.layout.Proper)
    (hext : c.layout.extension.toList.getLast? ≠ some '\\') (hs : s.kind = .archive)
    (ha : openArchive t s.path = .ok archive) (hread : Readable t c s archive)
    (he : e ∈ archive.entries) (hspec : AtSpecPath c e) :
    e.isDirectory = false ∧ ∃ body, e.open? archive.file = .ok (.ok body) := by
  obtain ⟨name, hvalid, hpath⟩ := (isSpecPath_iff hl).1 hspec
  refine ⟨(isDirectory_pathOf hl hpath).2 hext, ?_⟩
  have hfind := Archive.find?_of_mem (nodup_of_openArchive ha) he
  rw [hpath] at hfind
  obtain ⟨body, hbody⟩ := hread name hvalid (by rw [hfind]; nofun)
  -- what is read at the path is this entry
  obtain ⟨archive', e', ha', hfind', hopen⟩ := (Location.read_archive_iff hs).1 hbody
  cases ha.symm.trans ha'
  cases hfind.symm.trans hfind'
  exact ⟨body, hopen⟩

/--
**A scan visits all descriptors exactly if every other entry can be opened.**

It then visits nothing else, and hands out what is read at each place. Otherwise the first entry
that cannot be opened is what the scan reports, at the archive, and only the descriptors before
it are visited.
-/
theorem visits_all_iff (hc : Codec.ofConfig config = .ok c)
    (hext : c.layout.extension.toList.getLast? ≠ some '\\') (hs : s.kind = .archive)
    (ha : openArchive t s.path = .ok archive) (hread : Readable t c s archive) :
    ((s.descriptors t c).broke = none
        ∧ (s.descriptors t c).found.map (·.1) = placesIn c s archive.entries
        ∧ (∀ x ∈ (s.descriptors t c).found, x.1.read t = .ok x.2)
      ↔ ∀ e ∈ archive.entries, ¬ AtSpecPath c e → Opens archive.file e)
    ∧ ∀ before e after f, archive.entries = before ++ e :: after →
      (∀ b ∈ before, Opens archive.file b) → e.open? archive.file = .error f →
      (s.descriptors t c).broke = some (.archive s.path f)
        ∧ (s.descriptors t c).found.map (·.1) = placesIn c s before := by
  have hl := Codec.proper_of_ofConfig hc
  have hentry : ∀ e ∈ archive.entries, AtSpecPath c e →
      e.isDirectory = false ∧ ∃ body, e.open? archive.file = .ok (.ok body) :=
    fun e he => readable_entry hl hext hs ha hread he
  have hbytes : ∀ x ∈ (s.descriptors t c).found, x.1.read t = .ok x.2 :=
    fun x hx => (retrieved_of_archive hl hs hx).read
  rw [descriptors_archive hs ha] at hbytes ⊢
  refine ⟨⟨fun h e he _ => opens_of_unbroken h.1 e he, fun hothers => ?_⟩, ?_⟩
  · have hopens : ∀ e ∈ archive.entries, Opens archive.file e := by
      intro e he
      by_cases hspec : AtSpecPath c e
      · obtain ⟨_, body, hopen⟩ := hentry e he hspec
        exact ⟨_, hopen⟩
      · exact hothers e he hspec
    obtain ⟨hbroke, hfound⟩ := visits_of_opens (s := s) hopens hentry
    exact ⟨hbroke, hfound, hbytes⟩
  · intro before e after f hsplit hbefore hfault
    have hentries : ∀ b ∈ before, b ∈ archive.entries :=
      fun b hb => hsplit ▸ List.mem_append_left _ hb
    obtain ⟨hbroke, hfound⟩ := visits_of_opens (c := c) (s := s) hbefore
      fun b hb => hentry b (hentries b hb)
    rw [hsplit, archiveDescriptors_append, archiveDescriptors_of_fault hfault]
    unfold Scan.append
    rw [hbroke]
    refine ⟨rfl, ?_⟩
    dsimp only [Scan.failed]
    rw [List.append_nil]
    exact hfound

/-! ## A note beside a descriptor -/

section Noted

open Archive

def noted : Bytes :=
  archiveOf [("notes.txt", Text.toBytes "n"),
    ("metadata/specs/a.json", Text.toBytes "\x7b\"name\":\"a\"\x7d")]

def packedNote (file : Bytes) : FileTree := FileTree.empty.put [] "a.zip" (.file file)

/-- The contents of the note are not what they were. -/
def garbled : FileTree := packedNote (noted.set 44 0)

/-- The note is marked as encrypted. -/
def locked : FileTree := packedNote (noted.set 131 1)

/-- There are a note, with this outcome of opening it, and the descriptor of a name. -/
def Noted (t : FileTree) (r : Except Fault (Except IoError Bytes)) (archive : Archive) : Prop :=
  openArchive t "a.zip" = .ok archive ∧ archive.listing = [("notes.txt", r),
    ("metadata/specs/a.json", .ok (.ok (Text.toBytes "\x7b\"name\":\"a\"\x7d")))]

theorem exists_noted {r : Except Fault (Except IoError Bytes)}
    (h : (openArchive t "a.zip").toOption.any (fun archive => archive.listing = [("notes.txt", r),
      ("metadata/specs/a.json", .ok (.ok (Text.toBytes "\x7b\"name\":\"a\"\x7d")))]) = true) :
    ∃ archive, Noted t r archive := by
  obtain ⟨archive, ha, hlisting⟩ := exists_of_any_toOption h
  exact ⟨archive, ha, of_decide_eq_true hlisting⟩

theorem Noted.readable {r : Except Fault (Except IoError Bytes)} (h : Noted t r archive) :
    Readable t .standard ⟨.archive, "a.zip"⟩ archive := by
  obtain ⟨ha, hlisting⟩ := h
  intro name hvalid hfind
  obtain ⟨e, he⟩ := Option.ne_none_iff_exists'.1 hfind
  obtain ⟨hin, hname⟩ := of_find? he
  have hlisted := mem_listing.2 ⟨e, hin, hname, rfl⟩
  rw [hlisting] at hlisted
  rcases List.mem_pair.1 hlisted with hnote | hdescriptor
  · have hspec := isSpecPath_pathOf (Codec.proper_of_ofConfig Codec.ofConfig_default) hvalid
    rw [(Prod.mk.inj hnote).1] at hspec
    exact absurd hspec (by decide +kernel)
  · have hopen := (Prod.mk.inj hdescriptor).2
    exact ⟨_, (Location.read_archive_iff rfl).2 ⟨archive, e, ha, he, hopen⟩⟩

/-- A note that can be opened and not read is passed over. -/
theorem visits_all_garbled :
    Codec.ofConfig {} = .ok .standard
      ∧ Codec.standard.layout.extension.toList.getLast? ≠ some '\\'
      ∧ ∃ archive, openArchive garbled "a.zip" = .ok archive
        ∧ Readable garbled .standard ⟨.archive, "a.zip"⟩ archive
        ∧ ("notes.txt", .ok (.error .badChecksum)) ∈ archive.listing
        ∧ (descriptors garbled .standard ⟨.archive, "a.zip"⟩).broke = none
        ∧ (descriptors garbled .standard ⟨.archive, "a.zip"⟩).found.map (·.1)
          = placesIn .standard ⟨.archive, "a.zip"⟩ archive.entries := by
  have hext : Codec.standard.layout.extension.toList.getLast? ≠ some '\\' := by decide +kernel
  obtain ⟨archive, hnoted⟩ := exists_noted (t := garbled) (r := .ok (.error .badChecksum))
    (by decide +kernel)
  have hopens : ∀ e ∈ archive.entries, ¬ AtSpecPath .standard e → Opens archive.file e := by
    intro e he _
    have hlisted := mem_listing.2 ⟨e, he, rfl, rfl⟩
    rw [hnoted.2] at hlisted
    rcases List.mem_pair.1 hlisted with hnote | hdescriptor
    · exact ⟨_, (Prod.mk.inj hnote).2⟩
    · exact ⟨_, (Prod.mk.inj hdescriptor).2⟩
  obtain ⟨hbroke, hfound, _⟩ := (visits_all_iff (s := ⟨.archive, "a.zip"⟩)
    Codec.ofConfig_default hext rfl hnoted.1 hnoted.readable).1.2 hopens
  refine ⟨Codec.ofConfig_default, hext, archive, hnoted.1, hnoted.readable, ?_, hbroke, hfound⟩
  rw [hnoted.2]
  exact List.mem_cons_self

/-- A note that is encrypted keeps the descriptor beside it from being visited. -/
theorem locked_not_visited :
    Codec.ofConfig {} = .ok .standard
      ∧ Codec.standard.layout.extension.toList.getLast? ≠ some '\\'
      ∧ ∃ archive, openArchive locked "a.zip" = .ok archive
        ∧ Readable locked .standard ⟨.archive, "a.zip"⟩ archive
        ∧ archive.find? (Codec.standard.layout.pathOf "a") ≠ none
        ∧ (descriptors locked .standard ⟨.archive, "a.zip"⟩).found = []
        ∧ (descriptors locked .standard ⟨.archive, "a.zip"⟩).broke ≠ none := by
  obtain ⟨archive, hnoted⟩ := exists_noted (t := locked) (r := .error (.unsupported .password))
    (by decide +kernel)
  have hfind : archive.find? (Codec.standard.layout.pathOf "a") ≠ none := by
    obtain ⟨_, hlisting⟩ := hnoted
    have hin : ("metadata/specs/a.json", .ok (.ok (Text.toBytes "\x7b\"name\":\"a\"\x7d")))
        ∈ archive.listing := hlisting ▸ List.mem_cons_of_mem _ List.mem_cons_self
    obtain ⟨e, he, hname, _⟩ := mem_listing.1 hin
    intro hnone
    have hpath : Codec.standard.layout.pathOf "a" = "metadata/specs/a.json" := by decide +kernel
    exact List.find?_eq_none.1 hnone e he (decide_eq_true (hname.trans hpath.symm))
  have hbroke : (descriptors locked .standard ⟨.archive, "a.zip"⟩).broke.isSome = true := by
    decide +kernel
  exact ⟨Codec.ofConfig_default, by decide +kernel, archive, hnoted.1, hnoted.readable, hfind,
    by decide +kernel, Option.isSome_iff_ne_none.1 hbroke⟩

end Noted

end Source

end SpecCatalog
