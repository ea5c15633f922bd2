import SpecCatalog.Proofs.SearchPath.Packed

/-!
# One entry for each name

An archive under construction refuses an entry whose name it has already, before anything is
written for it. So of many writes into one archive, some of which fail, the first of each name is
kept: it succeeds, all later ones of its name are refused, and neither they nor what they were
refused for can be seen in the archive once it is finished (`first_write_kept`). In a directory it
is the last write that counts.

There is one more way for a write to fail. An entry has four bytes for its size, and the archive
gives an entry up that needs more. Its name stays free. And if the codec's extension ends in a
backslash, a scan passes over all entries as directories. So not every first write is kept
(`not_first_write_kept`).
-/

namespace SpecCatalog

open Archive

/-! ## The builder -/

namespace Archive.Builder

variable {b : Builder} {name : String}

theorem begin_of_taken (h : name ∈ b.names) :
    b.begin name = .error (.damaged (.duplicate name)) := by
  unfold Builder.begin
  rw [if_pos (List.contains_iff_mem.2 h)]

theorem exists_begin (hnew : name ∉ b.names) (hshort : name.utf8ByteSize ≤ 0xFFFF) :
    ∃ w b', b.begin name = .ok (w, b') := by
  unfold Builder.begin
  rw [if_neg fun h => hnew (List.contains_iff_mem.1 h), if_neg (Nat.not_lt.2 hshort)]
  exact ⟨_, _, rfl⟩

end Archive.Builder

/-! ## Writes and their answers -/

/-- A write and how it was answered. -/
structure Call where
  spec : Specification
  answer : Except CatalogError String

/-- The specifications that were written, in order. -/
def written (calls : List Call) : List Specification :=
  (calls.filter (·.answer.isOk)).map (·.spec)

theorem written_nil : written [] = [] := rfl

theorem written_append (calls later : List Call) :
    written (calls ++ later) = written calls ++ written later := by
  rw [written, List.filter_append, List.map_append]
  rfl

namespace Sink

variable {σ η α : Type} {sink : Sink σ η} {path : String} {x : EStateM IoError σ α}
  {before after : σ}

/-- Writes specifications in turn and goes on when a write fails. -/
def writeEach (sink : Sink σ η) (c : Codec) : List Specification → σ → List Call × σ
  | [], state => ([], state)
  | s :: rest, state =>
    let done := sink.writeSpecification c s state
    let (calls, last) := writeEach sink c rest (stateAfter done)
    (⟨s, answerOf done⟩ :: calls, last)

theorem atEntry_of_eq_error {e : IoError} (h : x before = .error e after) :
    sink.atEntry path x before = .error (.io (sink.describe path) e) after := by
  rw [atEntry, h]

end Sink

/-! ## One write -/

/-- The outlet takes whatever comes and keeps it; `view` says what it has. -/
structure Outlet.TakesAll {τ : Type} (outlet : Outlet τ) (view : Bytes → τ → Prop) : Prop where
  write : ∀ {out : Bytes} {o : τ} {place : Nat} (bs : Bytes), view out o → place ≤ out.length →
    ∃ o', outlet.write place bs o = .ok () o' ∧ view (overwrite out place bs) o'
  length : ∀ {out : Bytes} {o : τ}, view out o → outlet.length o = out.length

namespace ArchiveInProgress

variable {τ : Type} {outlet : Outlet τ} {view : Bytes → τ → Prop} {z : Compressor}
  {a a' : ArchiveInProgress τ} {contents : List (String × Bytes)} {c : Codec}
  {s : Specification} {held specs : List Specification} {label path : String} {body : Bytes}

theorem keeps_of_takesAll (h : outlet.TakesAll view) : outlet.Keeps view where
  write hview hplace hwrite := by
    obtain ⟨o₁, hwrite₁, hview₁⟩ := h.write _ hview hplace
    rw [hwrite] at hwrite₁
    cases hwrite₁
    exact hview₁
  length := h.length

theorem exists_writeAll (h : outlet.TakesAll view) {out : Bytes} {writings : List Writing}
    {base : Nat} {o : τ} (hview : view out o) (hlands : Lands base out writings) :
    ∃ o', outlet.writeAll writings o = .ok () o' := by
  induction writings generalizing out o with
  | nil => exact ⟨o, rfl⟩
  | cons w writings ih =>
    obtain ⟨-, hplace, hrest⟩ := hlands
    obtain ⟨o₁, hfirst, hview₁⟩ := h.write w.2 hview hplace
    obtain ⟨o', hmore⟩ := ih hview₁ hrest
    exact ⟨o', (bind_of_eq_ok hfirst).trans hmore⟩

theorem send_of_eq_ok {writings : List Writing} {next : Builder} {o : τ}
    (h : outlet.writeAll writings a.state = .ok () o) :
    send outlet writings next a = .ok () ⟨next, o⟩ := by
  unfold send
  rw [h]

/-- No two entries have one name. -/
theorem Holds.distinct (h : Holds z view a contents) : (contents.map (·.1)).Nodup := by
  obtain ⟨out, held, -, hbuilds, -, rfl⟩ := h
  rw [← Builder.names_eq hbuilds.finished]
  exact hbuilds.distinct

/-- The open entry takes more bytes than its record can say, and will always do. -/
def Stuck (z : Compressor) (a : ArchiveInProgress τ) : Prop :=
  ∃ e, a.builder.close z = .error e

/-- If the last entry can be closed, an outlet that takes all lets it be closed. -/
theorem Holds.exists_close (htakes : outlet.TakesAll view) (h : Holds z view a contents)
    (hfree : ¬ Stuck z a) :
    ∃ a', ArchiveInProgress.close z outlet a = .ok () a' ∧ Holds z view a' contents
      ∧ a'.builder.pending = none := by
  obtain ⟨out, held, hview, hbuilds, hfits, rfl⟩ := id h
  cases hclose : a.builder.close z with
  | error e => exact absurd ⟨e, hclose⟩ hfree
  | ok r =>
    obtain ⟨writings, next⟩ := r
    obtain ⟨hlands, -⟩ := hbuilds.close hfits hclose
    obtain ⟨o, hsent⟩ := exists_writeAll htakes hview hlands
    have hrun : ArchiveInProgress.close z outlet a = .ok () ⟨next, o⟩ := by
      unfold ArchiveInProgress.close
      rw [hclose]
      exact send_of_eq_ok hsent
    exact ⟨_, hrun, h.close (keeps_of_takesAll htakes) hrun⟩

/-- A name that is taken is refused, and the archive has what it had. -/
theorem Holds.put_of_taken (label : String) (body : Bytes) (htakes : outlet.TakesAll view)
    (h : Holds z view a contents) (hfree : ¬ Stuck z a) (htaken : path ∈ contents.map (·.1)) :
    ∃ a', (sink z label outlet).put path body a
        = .error (.archive s!"{label}!/{path}" (.damaged (.duplicate path))) a'
      ∧ Holds z view a' contents := by
  obtain ⟨a₁, hclose, hholds, -⟩ := h.exists_close htakes hfree
  refine ⟨a₁, bind_of_eq_error ?_, hholds⟩
  obtain ⟨out, held, -, hbuilds, -, rfl⟩ := hholds
  rw [← Builder.names_eq hbuilds.finished] at htaken
  unfold sink
  dsimp only
  rw [hclose]
  dsimp only
  unfold ArchiveInProgress.begin
  rw [Builder.begin_of_taken htaken]

theorem Holds.exists_openEntry (label : String) (htakes : outlet.TakesAll view)
    (h : Holds z view a contents) (hfree : ¬ Stuck z a) (hnew : path ∉ contents.map (·.1))
    (hshort : path.utf8ByteSize ≤ 0xFFFF) :
    ∃ a', (sink z label outlet).openEntry path a = .ok () a'
      ∧ Fills z view a' contents path [] := by
  obtain ⟨a₁, hclose, ⟨out, held, hview, hbuilds, -, rfl⟩, hnone⟩ := h.exists_close htakes hfree
  rw [← Builder.names_eq hbuilds.finished] at hnew
  obtain ⟨writing, next, hbegin⟩ := Builder.exists_begin hnew hshort
  obtain ⟨hlands, -⟩ := hbuilds.begin hnone hbegin
  obtain ⟨o, hsent⟩ := exists_writeAll htakes hview hlands
  have hopen : (sink z label outlet).openEntry path a = .ok () ⟨next, o⟩ := by
    unfold sink
    dsimp only
    rw [hclose]
    dsimp only
    unfold ArchiveInProgress.begin
    rw [hbegin]
    dsimp only
    rw [send_of_eq_ok hsent]
  exact ⟨_, hopen, h.openEntry (keeps_of_takesAll htakes) hopen⟩

theorem Fills.exists_turn {turns : List Turn} (htakes : outlet.TakesAll view)
    (h : Fills z view a contents path turns)
    (idle : EStateM IoError (ArchiveInProgress τ) Unit) (t : Turn) :
    ∃ a', ArchiveInProgress.turn z outlet idle t a = .ok () a' := by
  obtain ⟨out, held, p, hview, hbuilds, rfl, hp, rfl, rfl⟩ := h
  cases hturn : a.builder.turn z t with
  | none =>
    unfold Builder.turn at hturn
    rw [hp] at hturn
    cases hturn
  | some r =>
    obtain ⟨writing, next⟩ := r
    obtain ⟨hlands, -⟩ := hbuilds.turn hturn
    obtain ⟨o, hsent⟩ := exists_writeAll htakes hview hlands
    unfold ArchiveInProgress.turn
    rw [hturn]
    exact ⟨_, send_of_eq_ok hsent⟩

/-- An entry that has become too large is given up, and those before it are as they were. -/
theorem Fills.refuse {turns : List Turn} (htakes : outlet.TakesAll view)
    (h : Fills z view a contents path turns) (hlarge : wideMark < (given turns).length) :
    ∃ a', refuseOverfull z outlet a = .error sizeRefused a' ∧ Holds z view a' contents := by
  have hover := h.overfull_iff.2 hlarge
  obtain ⟨out, held, p, hview, hbuilds, rfl, hp, rfl, rfl⟩ := h
  obtain ⟨hlands, hnone, hbuilds'⟩ := hbuilds.giveUp
  obtain ⟨o, hsent⟩ := exists_writeAll htakes hview hlands
  have hview' := (keeps_of_takesAll htakes).writeAll hview hlands hsent
  refine ⟨⟨(a.builder.giveUp z).2, o⟩, ?_, _, held, hview', hbuilds',
    Builder.not_overfull_of_none hnone, Builder.contents_of_none hnone⟩
  unfold refuseOverfull
  rw [if_pos hover]
  dsimp only
  rw [hsent]

theorem Holds.exists_put (label : String) (htakes : outlet.TakesAll view)
    (h : Holds z view a contents) (hfree : ¬ Stuck z a) (hnew : path ∉ contents.map (·.1))
    (hshort : path.utf8ByteSize ≤ 0xFFFF) (hsmall : body.length ≤ wideMark) :
    ∃ a', (sink z label outlet).put path body a = .ok () a' := by
  obtain ⟨a₁, hopen, hbegun⟩ := h.exists_openEntry label htakes hfree hnew hshort
  obtain ⟨a₂, hmore⟩ := hbegun.exists_turn htakes (throw notStarted) (.more body)
  have hfilled := hbegun.turn (keeps_of_takesAll htakes) hmore
  have hwrite : (sink z label outlet).write () body a₁ = .ok () a₂ := by
    refine (bind_of_eq_ok hmore).trans ?_
    unfold refuseOverfull
    exact if_neg (mt hfilled.overfull_iff.1 (Nat.not_lt.2 hsmall))
  obtain ⟨a₃, hflush⟩ := hfilled.exists_turn htakes (return ()) .flush
  refine ⟨a₃, (bind_of_eq_ok hopen).trans (Sink.atEntry_of_eq_ok ?_)⟩
  exact (bind_of_eq_ok hwrite).trans hflush

theorem Holds.put_of_large (label : String) (htakes : outlet.TakesAll view)
    (h : Holds z view a contents) (hfree : ¬ Stuck z a) (hnew : path ∉ contents.map (·.1))
    (hshort : path.utf8ByteSize ≤ 0xFFFF) (hlarge : wideMark < body.length) :
    ∃ a', (sink z label outlet).put path body a
        = .error (.io s!"jar:file:{label}!/{path}" sizeRefused) a'
      ∧ Holds z view a' contents := by
  obtain ⟨a₁, hopen, hbegun⟩ := h.exists_openEntry label htakes hfree hnew hshort
  obtain ⟨a₂, hmore⟩ := hbegun.exists_turn htakes (throw notStarted) (.more body)
  have hfilled := hbegun.turn (keeps_of_takesAll htakes) hmore
  obtain ⟨a₃, hrefused, hholds⟩ := hfilled.refuse htakes hlarge
  have hwrite : (sink z label outlet).write () body a₁ = .error sizeRefused a₃ :=
    (bind_of_eq_ok hmore).trans hrefused
  refine ⟨a₃, (bind_of_eq_ok hopen).trans ?_, hholds⟩
  exact Sink.atEntry_of_eq_error (bind_of_eq_error hwrite)

/-! ## Archives that are stuck -/

/-- Nothing more can be written into an archive that is stuck. -/
theorem Stuck.writeEach (h : Stuck z a) (label : String) (outlet : Outlet τ) (c : Codec)
    (specs : List Specification) :
    ((sink z label outlet).writeEach c specs a).2 = a := by
  obtain ⟨e, hclose⟩ := h
  induction specs with
  | nil => rfl
  | cons s specs ih =>
    have hstays : stateAfter ((sink z label outlet).writeSpecification c s a) = a := by
      cases hname : c.rules.isValid s.name with
      | false => rw [Sink.writeSpecification_of_invalid hname]; rfl
      | true =>
        have hopen : ∃ e', (sink z label outlet).openEntry (c.layout.pathOf s.name) a
            = .error e' a := by
          unfold sink ArchiveInProgress.close
          dsimp only
          rw [hclose]
          exact ⟨_, rfl⟩
        obtain ⟨e', hopen⟩ := hopen
        have hput : (sink z label outlet).put (c.layout.pathOf s.name) (c.encode s) a
            = .error e' a := bind_of_eq_error hopen
        rw [Sink.writeSpecification_eq_error_iff.2 (.inr ⟨hname, hput⟩)]
        rfl
    unfold Sink.writeEach
    dsimp only
    rw [hstays, ih]

/-- It cannot be finished either. -/
theorem Stuck.finish (h : Stuck z a) (label : String) (outlet : Outlet τ) :
    ∃ e o, a.finish z label outlet = .error e o := by
  obtain ⟨e, hclose⟩ := h
  have hfails : close z outlet a = .error e a := by
    unfold ArchiveInProgress.close
    rw [hclose]
  have hincomplete : complete z outlet a = .error e a := bind_of_eq_error hfails
  unfold ArchiveInProgress.finish
  rw [hincomplete]
  dsimp only
  rw [hincomplete]
  exact ⟨_, _, rfl⟩

/-- So one that is finished after more writes was not stuck before them. -/
theorem not_stuck_of_finish {calls : List Call} {o : τ}
    (hrun : (sink z label outlet).writeEach c specs a = (calls, a'))
    (hfinish : a'.finish z label outlet = .ok () o) : ¬ Stuck z a := by
  intro hstuck
  have hsame := hstuck.writeEach label outlet c specs
  rw [hrun] at hsame
  obtain rfl : a' = a := hsame
  obtain ⟨e, o', hfails⟩ := hstuck.finish label outlet
  rw [hfails] at hfinish
  cases hfinish

/-! ## Answers -/

/-- How a write is answered by an archive that has the descriptors of `held`. -/
inductive Answered (label : String) (c : Codec) (held : List Specification) (s : Specification) :
    Except CatalogError String → Prop where
  | written : (∀ s' ∈ held, s'.name ≠ s.name) → (c.encode s).length ≤ wideMark →
      Answered label c held s (.ok (c.layout.pathOf s.name))
  | taken : (∃ s' ∈ held, s'.name = s.name) →
      Answered label c held s (.error (.archive s!"{label}!/{c.layout.pathOf s.name}"
        (.damaged (.duplicate (c.layout.pathOf s.name)))))
  | tooLarge : (∀ s' ∈ held, s'.name ≠ s.name) → wideMark < (c.encode s).length →
      Answered label c held s (.error (.io s!"jar:file:{label}!/{c.layout.pathOf s.name}"
        sizeRefused))

theorem Answered.eq_of_held {answer : Except CatalogError String}
    (h : Answered label c held s answer) :
    ((∃ s' ∈ held, s'.name = s.name) →
      answer = .error (.archive s!"{label}!/{c.layout.pathOf s.name}"
        (.damaged (.duplicate (c.layout.pathOf s.name)))))
    ∧ ((∀ s' ∈ held, s'.name ≠ s.name) →
      answer = if (c.encode s).length ≤ wideMark then .ok (c.layout.pathOf s.name)
        else .error (.io s!"jar:file:{label}!/{c.layout.pathOf s.name}" sizeRefused)) := by
  cases h with
  | written hfirst hsmall =>
    refine ⟨fun ⟨s', hs', hsame⟩ => absurd hsame (hfirst s' hs'), fun _ => ?_⟩
    rw [if_pos hsmall]
  | taken htaken =>
    obtain ⟨s', hs', hsame⟩ := htaken
    exact ⟨fun _ => rfl, fun hfirst => absurd hsame (hfirst s' hs')⟩
  | tooLarge hfirst hlarge =>
    refine ⟨fun ⟨s', hs', hsame⟩ => absurd hsame (hfirst s' hs'), fun _ => ?_⟩
    rw [if_neg (Nat.not_le.2 hlarge)]

/-- **One write**: it is answered by what the archive has, and only if it succeeds the archive
has one more descriptor afterwards. -/
theorem Holds.answered (label : String) (htakes : outlet.TakesAll view)
    (h : Holds z view a (held.map (packed c))) (hfree : ¬ Stuck z a)
    (hname : c.rules.isValid s.name = true)
    (hshort : (c.layout.pathOf s.name).utf8ByteSize ≤ 0xFFFF) :
    Answered label c held s (answerOf ((sink z label outlet).writeSpecification c s a))
      ∧ Holds z view (stateAfter ((sink z label outlet).writeSpecification c s a))
          ((held ++ written [⟨s, answerOf ((sink z label outlet).writeSpecification c s a)⟩]).map
            (packed c)) := by
  -- paths tell names apart, so a path is taken if the name is
  have htaken : c.layout.pathOf s.name ∈ (held.map (packed c)).map (·.1)
      ↔ ∃ s' ∈ held, s'.name = s.name := by
    simp only [List.map_map, List.mem_map, Function.comp_apply, packed]
    exact exists_congr fun s' => and_congr_right fun _ =>
      ⟨fun hpath => pathOf_injective c.layout hpath, fun hsame => hsame ▸ rfl⟩
  by_cases hheld : ∃ s' ∈ held, s'.name = s.name
  · obtain ⟨a', hput, hholds⟩ := h.put_of_taken label (c.encode s) htakes hfree (htaken.2 hheld)
    rw [Sink.writeSpecification_eq_error_iff.2 (.inr ⟨hname, hput⟩)]
    refine ⟨.taken hheld, ?_⟩
    change Holds z view a' ((held ++ []).map (packed c))
    rw [List.append_nil]
    exact hholds
  have hnew := mt htaken.1 hheld
  have hfirst : ∀ s' ∈ held, s'.name ≠ s.name := fun s' hs' hsame => hheld ⟨s', hs', hsame⟩
  by_cases hsmall : (c.encode s).length ≤ wideMark
  · obtain ⟨a', hput⟩ := h.exists_put label htakes hfree hnew hshort hsmall
    rw [Sink.writeSpecification_eq_ok_iff.2 ⟨hname, rfl, hput⟩]
    refine ⟨.written hfirst hsmall, ?_⟩
    change Holds z view a' ((held ++ [s]).map (packed c))
    rw [List.map_append]
    exact h.put (keeps_of_takesAll htakes) hput
  · have hlarge := Nat.not_le.1 hsmall
    obtain ⟨a', hput, hholds⟩ := h.put_of_large label htakes hfree hnew hshort hlarge
    rw [Sink.writeSpecification_eq_error_iff.2 (.inr ⟨hname, hput⟩)]
    refine ⟨.tooLarge hfirst hlarge, ?_⟩
    change Holds z view a' ((held ++ []).map (packed c))
    rw [List.append_nil]
    exact hholds

/-! ## Many writes -/

/-- **A run of writes** into an archive that is finished in the end: each is answered by what the
archive had before the run and what was written in it until then. -/
theorem Holds.writeEach {calls : List Call} {o : τ} (htakes : outlet.TakesAll view)
    (h : Holds z view a (held.map (packed c)))
    (hnames : ∀ s ∈ specs, c.rules.isValid s.name = true)
    (hshort : ∀ s ∈ specs, (c.layout.pathOf s.name).utf8ByteSize ≤ 0xFFFF)
    (hrun : (sink z label outlet).writeEach c specs a = (calls, a'))
    (hfinish : a'.finish z label outlet = .ok () o) :
    calls.map (·.spec) = specs ∧ Holds z view a' ((held ++ written calls).map (packed c))
      ∧ ∀ earlier call later, calls = earlier ++ call :: later →
          Answered label c (held ++ written earlier) call.spec call.answer := by
  induction specs generalizing a held calls with
  | nil =>
    cases hrun
    refine ⟨rfl, ?_, ?_⟩
    · change Holds z view _ ((held ++ []).map (packed c))
      rw [List.append_nil]
      exact h
    · intro earlier call later hsplit
      exact absurd hsplit (by simp)
  | cons s specs ih =>
    have hfree := not_stuck_of_finish hrun hfinish
    rw [List.forall_mem_cons] at hnames hshort
    obtain ⟨hanswer, hheld⟩ := h.answered label htakes hfree hnames.1 hshort.1
    unfold Sink.writeEach at hrun
    dsimp only at hrun
    generalize (sink z label outlet).writeSpecification c s a = done at hrun hanswer hheld
    cases hrest : (sink z label outlet).writeEach c specs (stateAfter done) with
    | mk more last =>
      rw [hrest] at hrun
      cases hrun
      -- what the first write added is held before the writes after it
      obtain ⟨hspecs, hlast, hmore⟩ := ih hheld hnames.2 hshort.2 hrest
      rw [List.append_assoc, ← written_append] at hlast
      refine ⟨congrArg (s :: ·) hspecs, hlast, fun earlier call later hsplit => ?_⟩
      cases earlier with
      | nil =>
        cases hsplit
        rw [written_nil, List.append_nil]
        exact hanswer
      | cons first earlier =>
        cases hsplit
        have hcall := hmore earlier call later rfl
        rw [List.append_assoc, ← written_append] at hcall
        exact hcall

/-- **The first write of each name is kept.**

Into a new archive, with an outlet that takes everything, specifications are written whose names
are valid and short enough for an entry, and in the end the archive is finished. A write whose
name an earlier one has taken is refused by the archive. Every other write succeeds if the
descriptor is not too large for an entry, and else fails with an error about the entry. What the
archive has are the descriptors of the writes that succeeded, in their order, and a scan hands
these out, unless the codec's extension makes entries look like directories. -/
theorem first_write_kept {config : Config} {calls : List Call} {o o' : τ}
    (hc : Codec.ofConfig config = .ok c) (htakes : outlet.TakesAll view) (hstart : view [] o)
    (hnames : ∀ s ∈ specs, c.rules.isValid s.name = true)
    (hshort : ∀ s ∈ specs, (c.layout.pathOf s.name).utf8ByteSize ≤ 0xFFFF)
    (hrun : (sink z label outlet).writeEach c specs { state := o } = (calls, a))
    (hfinish : a.finish z label outlet = .ok () o') :
    calls.map (·.spec) = specs
    ∧ (∀ earlier s answer later, calls = earlier ++ ⟨s, answer⟩ :: later →
        ((∃ s' ∈ written earlier, s'.name = s.name) →
          answer = .error (.archive s!"{label}!/{c.layout.pathOf s.name}"
            (.damaged (.duplicate (c.layout.pathOf s.name)))))
        ∧ ((∀ s' ∈ written earlier, s'.name ≠ s.name) →
          answer = if (c.encode s).length ≤ wideMark then .ok (c.layout.pathOf s.name)
            else .error (.io s!"jar:file:{label}!/{c.layout.pathOf s.name}" sizeRefused)))
    ∧ ((written calls).map (·.name)).Nodup
    ∧ ∃ file, view file o' ∧ Packs file ((written calls).map (packed c))
        ∧ ∀ t path, t.status path = .ok (.file file) →
            c.layout.extension.toList.getLast? ≠ some '\\' →
            Source.descriptors t c ⟨.archive, path⟩
              = ⟨(written calls).map fun s =>
                  (Source.place c ⟨.archive, path⟩ s.name, c.encode s), none⟩ := by
  have hnone : Holds z view { state := o } (([] : List Specification).map (packed c)) :=
    holds_start z hstart
  obtain ⟨hspecs, hholds, hanswers⟩ := hnone.writeEach htakes hnames hshort hrun hfinish
  rw [List.nil_append] at hholds
  have hvalid : ∀ s ∈ written calls, c.rules.isValid s.name = true := by
    intro s hs
    obtain ⟨call, hcall, rfl⟩ := List.mem_map.1 hs
    exact hnames _ (hspecs ▸ List.mem_map_of_mem (List.mem_of_mem_filter hcall))
  have hdistinct : ((written calls).map (·.name)).Nodup := by
    have hpaths := hholds.distinct
    rw [List.map_map] at hpaths
    refine List.Nodup.of_map c.layout.pathOf ?_
    rw [List.map_map]
    exact hpaths
  obtain ⟨file, hview, hpacks⟩ := hholds.finish (keeps_of_takesAll htakes) hfinish
  refine ⟨hspecs, fun earlier s answer later hsplit => ?_, hdistinct, file, hview, hpacks,
    fun t path hstatus hext => ?_⟩
  · have hanswer : Answered label c ([] ++ written earlier) s answer :=
      hanswers earlier ⟨s, answer⟩ later hsplit
    rw [List.nil_append] at hanswer
    exact hanswer.eq_of_held
  · obtain ⟨xs, hopens⟩ := exists_opens hstatus hpacks
    exact hopens.descriptors_eq (Codec.proper_of_ofConfig hc) hext hvalid

/-- The third write has the name of the first again. -/
def renamed : List Specification :=
  [⟨"a", .ofList ["b", "c"]⟩, ⟨"b", .ofList []⟩, ⟨"a", .ofList []⟩, ⟨"c", .ofList []⟩]

/-- A store without a limit has these bytes. -/
def Stored (out : Bytes) (store : LimitedStore) : Prop :=
  store = { written := out, room := none }

theorem takesAll_store : LimitedStore.outlet.TakesAll Stored where
  write := by
    rintro out _ place bs rfl -
    exact ⟨_, rfl, rfl⟩
  length := by
    rintro out _ rfl
    rfl

/-- The third write is refused, and the fourth is none the worse for it. -/
theorem first_write_kept_renamed :
    ∃ calls a store, (sink storing "x.zip" LimitedStore.outlet).writeEach .standard renamed
          { state := {} } = (calls, a)
      ∧ a.finish storing "x.zip" LimitedStore.outlet = .ok () store
      ∧ calls.map (·.answer.toOption)
          = [some "metadata/specs/a.json", some "metadata/specs/b.json", none,
              some "metadata/specs/c.json"]
      ∧ ∃ file, Stored file store
          ∧ Packs file ([⟨"a", .ofList ["b", "c"]⟩, ⟨"b", .ofList []⟩, ⟨"c", .ofList []⟩].map
              (packed .standard)) := by
  have hanswers : ((sink storing "x.zip" LimitedStore.outlet).writeEach .standard renamed
      { state := {} }).1.map (·.answer.toOption)
        = [some "metadata/specs/a.json", some "metadata/specs/b.json", none,
            some "metadata/specs/c.json"] := by decide +kernel
  have hwritten : written ((sink storing "x.zip" LimitedStore.outlet).writeEach .standard renamed
      { state := {} }).1
        = [⟨"a", .ofList ["b", "c"]⟩, ⟨"b", .ofList []⟩, ⟨"c", .ofList []⟩] := by decide +kernel
  have hfinish := eq_ok_of_succeeded
    (x := ArchiveInProgress.finish storing "x.zip" LimitedStore.outlet
      ((sink storing "x.zip" LimitedStore.outlet).writeEach .standard renamed { state := {} }).2)
    (by decide +kernel)
  have hnames : ∀ s ∈ renamed, Codec.standard.rules.isValid s.name = true := by decide +kernel
  have hshort : ∀ s ∈ renamed,
      (Codec.standard.layout.pathOf s.name).utf8ByteSize ≤ 0xFFFF := by decide +kernel
  cases hrun : (sink storing "x.zip" LimitedStore.outlet).writeEach .standard renamed
      { state := {} } with
  | mk calls a =>
    rw [hrun] at hanswers hwritten hfinish
    have hempty : Stored [] {} := rfl
    obtain ⟨-, -, -, file, hfile, hpacks, -⟩ := first_write_kept Codec.ofConfig_default
      takesAll_store hempty hnames hshort hrun hfinish
    exact ⟨calls, a, _, rfl, hfinish, hanswers, file, hfile, hwritten ▸ hpacks⟩

/-! ## Firsts that are not kept -/

section

variable {z : Compressor} {label path : String} {body : Bytes} {n : Nat}

/-- An archive that has no entry and no limit, with these bytes in its store. -/
def blank (out : Bytes) : ArchiveInProgress LimitedStore := { state := { written := out } }

theorem send_store (b next : Builder) (out : Bytes) (writings : List Writing) :
    send LimitedStore.outlet writings next ⟨b, { written := out }⟩
      = .ok () ⟨next, { written := overwriteAll out writings }⟩ := by
  refine send_of_eq_ok ?_
  induction writings generalizing out with
  | nil => rfl
  | cons w writings ih => exact ih (overwrite out w.1 w.2)

theorem length_ending_empty (start : Nat) : (({} : Builder).ending start).length ≤ 98 := by
  change (Builder.endRecords 0 0 start).length ≤ 98
  unfold Builder.endRecords
  dsimp only
  split
  · simp [writeFields, length_writeNumber]
  · simp [writeFields, length_writeNumber]

theorem endAt_blank (out : Bytes) {start : Nat} (h : start + 98 < capacity 8) :
    endAt LimitedStore.outlet start (blank out)
      = .ok () (blank (overwrite out start (({} : Builder).ending start))) := by
  have hlength := length_ending_empty start
  unfold endAt
  dsimp only
  refine (if_neg ?_).trans (send_store {} {} out [(start, ({} : Builder).ending start)])
  change ¬ capacity 8 ≤ start + (({} : Builder).ending start).length
  omega

/-- What was given up may stand in the store, and the archive can be finished all the same. -/
theorem exists_finish_blank (z : Compressor) (label : String) {out : Bytes}
    (h : out.length + 196 < capacity 8) :
    ∃ store, (blank out).finish z label LimitedStore.outlet = .ok () store := by
  have hclose : close z LimitedStore.outlet (blank out) = .ok () (blank out) := rfl
  have hend := endAt_blank out (show 0 + 98 < capacity 8 by decide)
  have hagain : ∀ bs : Bytes, bs.length + 98 < capacity 8 →
      ∃ a, endAgain LimitedStore.outlet (blank bs) = .ok () a := by
    intro bs hbs
    unfold endAgain
    dsimp only
    split
    · refine ⟨_, (bind_of_eq_ok (send_store ..)).trans (endAt_blank _ ?_)⟩
      change bs.length - _ + 98 < capacity 8
      omega
    · exact ⟨_, rfl⟩
  obtain ⟨a, hagain⟩ := hagain (overwrite out 0 (({} : Builder).ending 0)) <| by
    rw [length_overwrite (Nat.zero_le _)]
    have hlength := length_ending_empty 0
    omega
  have hcomplete : complete z LimitedStore.outlet (blank out) = .ok () a :=
    (bind_of_eq_ok hclose).trans ((bind_of_eq_ok rfl).trans ((bind_of_eq_ok hend).trans hagain))
  refine ⟨a.state, ?_⟩
  unfold finish
  rw [hcomplete]

/-- An archive whose first entry is open. -/
def started (path : String) (turns : List Turn) (inside position : Nat) (out : Bytes) :
    ArchiveInProgress LimitedStore :=
  ⟨{ pending := some ⟨path, turns, 0, inside⟩, position }, { written := out }⟩

theorem openEntry_blank (z : Compressor) (label : String) (hshort : path.utf8ByteSize ≤ 0xFFFF) :
    (sink z label LimitedStore.outlet).openEntry path (blank [])
      = .ok () (started path [] (Builder.localRecord path 0 0 0).length
          (Builder.localRecord path 0 0 0).length
          (overwrite [] 0 (Builder.localRecord path 0 0 0))) := by
  have hbegin : Builder.begin {} path = .ok ((0, Builder.localRecord path 0 0 0),
      { pending := some ⟨path, [], 0, 0 + (Builder.localRecord path 0 0 0).length⟩
        position := 0 + (Builder.localRecord path 0 0 0).length }) := by
    unfold Builder.begin
    rw [if_neg (show ¬ ((({} : Builder).names.contains path) = true) from nofun),
      if_neg (Nat.not_lt.2 hshort)]
  generalize Builder.localRecord path 0 0 0 = header at hbegin ⊢
  rw [Nat.zero_add] at hbegin
  have hclose : close z LimitedStore.outlet (blank []) = .ok () (blank []) := rfl
  unfold sink
  dsimp only
  rw [hclose]
  dsimp only
  unfold ArchiveInProgress.begin
  rw [show (blank []).builder = {} from rfl, hbegin]
  rfl

/-- A first entry that is too large is given up, and only what was let out of it is left. -/
theorem put_blank (z : Compressor) (label : String) (hshort : path.utf8ByteSize ≤ 0xFFFF)
    (hlarge : wideMark < body.length) :
    ∃ out : Bytes, out.length
        = (Builder.localRecord path 0 0 0).length + (z.packed [.more body]).length
      ∧ (sink z label LimitedStore.outlet).put path body (blank [])
        = .error (.io ((sink z label LimitedStore.outlet).describe path) sizeRefused)
            (blank out) := by
  have hopen := openEntry_blank z label hshort
  generalize Builder.localRecord path 0 0 0 = header at hopen ⊢
  have hmore : turn z LimitedStore.outlet (throw notStarted) (.more body)
      (started path [] header.length header.length (overwrite [] 0 header))
      = .ok () (started path [.more body] header.length
          (header.length + (z.out [] (.more body)).length)
          (overwriteAll [] [(0, header), (header.length, z.out [] (.more body))])) := rfl
  have hover : (started path [.more body] header.length
      (header.length + (z.out [] (.more body)).length)
      (overwriteAll [] [(0, header), (header.length, z.out [] (.more body))])).builder.Overfull :=
    ⟨_, rfl, hlarge⟩
  have hwrite : (sink z label LimitedStore.outlet).write () body
      (started path [] header.length header.length (overwrite [] 0 header))
      = .error sizeRefused (blank (overwriteAll [] [(0, header),
          (header.length, z.out [] (.more body)),
          (header.length + (z.out [] (.more body)).length, z.last [.more body])])) := by
    refine (bind_of_eq_ok hmore).trans ?_
    unfold refuseOverfull
    rw [if_pos hover]
    rfl
  refine ⟨_, ?_, (bind_of_eq_ok hopen).trans (Sink.atEntry_of_eq_error (bind_of_eq_error hwrite))⟩
  simp [overwriteAll, overwrite, Compressor.packed, Compressor.written, cameOut, Nat.add_assoc]

/-! ### A descriptor that is too large -/

/-- A name without dependencies. -/
def alone : Specification := ⟨"a", .ofList []⟩

open Json.Printer in
/-- Two lines of its descriptor are indented. -/
theorem length_encode_alone (rules : NameRules) (layout : Layout) (n : Nat) :
    ((⟨rules, layout, n⟩ : Codec).encode alone).length = 2 * n + 35 := by
  have hdependencies :
      (text "dependencies" ++ [ascii ": "] ++ list n 1 []).flatten.length = 18 := by
    change (text "dependencies" ++ [ascii ": "] ++ [ascii "[", ascii "]"]).flatten.length = 18
    decide +kernel
  have hname : (text "name" ++ [ascii ": "] ++ text "a").flatten.length = 11 := by decide +kernel
  have hmarks : (ascii "\x7b").length = 1 ∧ (ascii ",").length = 1 ∧ (ascii "\x7d").length = 1 := by
    decide +kernel
  have hpieces : (⟨rules, layout, n⟩ : Codec).pieces alone = [ascii "\x7b"]
      ++ (newline n 1 :: (text "dependencies" ++ [ascii ": "] ++ list n 1 [])
        ++ ([ascii ","] ++ newline n 1 :: (text "name" ++ [ascii ": "] ++ text "a"))
        ++ [newline n 0]) ++ [ascii "\x7d"] := rfl
  generalize text "dependencies" ++ [ascii ": "] ++ list n 1 [] = dependencies
    at hdependencies hpieces
  generalize text "name" ++ [ascii ": "] ++ text "a" = name at hname hpieces
  unfold Codec.encode
  rw [hpieces]
  simp only [List.flatten_append, List.flatten_cons, List.flatten_nil, List.length_append,
    List.append_nil, List.cons_append, List.nil_append, hmarks, hdependencies, hname, newline,
    List.length_cons, List.length_replicate]
  omega

/-- Each block has five bytes before its part, and a part has one byte at least. -/
theorem length_storedBlocks (bs : Bytes) : (storedBlocks bs).length ≤ 6 * bs.length := by
  have hchunks : ∀ fuel (bs : Bytes),
      ((chunks fuel bs).flatMap (storedBlock false)).length ≤ 6 * bs.length := by
    intro fuel
    induction fuel with
    | zero => exact fun _ => Nat.zero_le _
    | succ fuel ih =>
      intro bs
      rw [chunks]
      split
      · exact Nat.zero_le _
      · rename_i hsome
        have hpos : 0 < bs.length := List.length_pos_iff.2 fun he => hsome (List.isEmpty_iff.2 he)
        have hrest := ih (bs.drop 0xFFFF)
        rw [List.length_drop] at hrest
        rw [List.flatMap_cons, List.length_append, storedBlock, List.length_cons,
          List.length_append, List.length_append, length_writeNumber, length_writeNumber,
          List.length_take]
        omega
  exact hchunks bs.length bs

theorem length_packed_storing (bs : Bytes) :
    (storing.packed [.more bs]).length ≤ 6 * bs.length + 5 := by
  have hblocks := length_storedBlocks bs
  change ([] ++ (storedBlocks bs ++ storedBlock true [])).length ≤ _
  rw [List.nil_append, List.length_append]
  exact Nat.add_le_add_right hblocks 5

/-- If the lines are indented too far, the write is refused, though no other came before it. -/
theorem refused_alone (hlarge : wideMark < 2 * n + 35)
    (hroom : 6 * (2 * n + 35) + 252 < capacity 8) : ∃ a store,
    (sink storing "x.zip" LimitedStore.outlet).writeEach ⟨.standard, .standard, n⟩ [alone]
        { state := {} }
        = ([⟨alone, .error (.io "jar:file:x.zip!/metadata/specs/a.json" sizeRefused)⟩], a)
      ∧ a.finish storing "x.zip" LimitedStore.outlet = .ok () store := by
  have hlength := length_encode_alone .standard .standard n
  have hname : NameRules.standard.isValid "a" = true := by decide +kernel
  have hpath : Layout.standard.pathOf "a" = "metadata/specs/a.json" := by decide +kernel
  have hdescribe : (sink storing "x.zip" LimitedStore.outlet).describe "metadata/specs/a.json"
      = "jar:file:x.zip!/metadata/specs/a.json" := by decide +kernel
  have hheader : (Builder.localRecord "metadata/specs/a.json" 0 0 0).length = 51 := by
    decide +kernel
  generalize hcodec : (⟨.standard, .standard, n⟩ : Codec) = c at hlength
  have hshort : ("metadata/specs/a.json" : String).utf8ByteSize ≤ 0xFFFF := by decide +kernel
  rw [← hlength] at hlarge
  obtain ⟨out, hout, hput⟩ := put_blank storing "x.zip" hshort hlarge
  have hshortOut : out.length + 196 < capacity 8 := by
    have hbound := length_packed_storing (c.encode alone)
    omega
  obtain ⟨store, hfinish⟩ := exists_finish_blank storing "x.zip" hshortOut
  have hwrite : (sink storing "x.zip" LimitedStore.outlet).writeSpecification c alone
      { state := {} }
        = .error (.io "jar:file:x.zip!/metadata/specs/a.json" sizeRefused) (blank out) := by
    refine Sink.writeSpecification_eq_error_iff.2 (.inr ⟨?_, ?_⟩)
    · rw [← hcodec]
      exact hname
    · rw [hdescribe, ← hpath] at hput
      rw [← hcodec] at hput ⊢
      exact hput
  refine ⟨blank out, store, ?_, hfinish⟩
  unfold Sink.writeEach
  dsimp only
  rw [hwrite]
  rfl

/-! ### What would be kept -/

/-- If specifications are written into a new archive in memory and it is finished, the writes
that succeed are just the first ones of each name, and a scan hands out what they wrote. -/
def KeepsFirsts (c : Codec) (specs : List Specification) : Prop :=
  ∀ calls a store, (sink storing "x.zip" LimitedStore.outlet).writeEach c specs { state := {} }
      = (calls, a) →
    a.finish storing "x.zip" LimitedStore.outlet = .ok () store →
    (∀ earlier s answer later, calls = earlier ++ ⟨s, answer⟩ :: later →
      (answer.isOk = true ↔ ∀ s' ∈ written earlier, s'.name ≠ s.name))
    ∧ Source.descriptors (FileTree.empty.put [] "x.zip" (.file store.written)) c
        ⟨.archive, "x.zip"⟩
      = ⟨(written calls).map fun s =>
          (Source.place c ⟨.archive, "x.zip"⟩ s.name, c.encode s), none⟩

/-- The codec is accepted and the name is valid and short, but the write is not kept. -/
def Unkept (config : Config) (s : Specification) : Prop :=
  ∃ c, Codec.ofConfig config = .ok c ∧ c.rules.isValid s.name = true
    ∧ (c.layout.pathOf s.name).utf8ByteSize ≤ 0xFFFF ∧ ¬ KeepsFirsts c [s]

theorem ofConfig_standardPattern {config : Config} (hcheck : config.check = .ok ())
    (hpattern : config.namePattern = NameRules.standardPattern) :
    Codec.ofConfig config = .ok (.ofParts .standard
      (.ofParts config.specsDirectory config.extension) config.indent) := by
  unfold Codec.ofConfig
  rw [hcheck]
  dsimp only
  rw [hpattern, ofPattern_standardPattern]
  rfl

/-- Two lines are indented by so much that no entry can take them. -/
theorem unkept_wide : Unkept { indent := wideMark } alone := by
  have hcheck : Config.check { indent := wideMark } = .ok () := by rfl
  have hcodec : Codec.ofParts .standard (.ofParts Layout.standardDirectory Layout.standardExtension)
      wideMark = ⟨.standard, .standard, wideMark⟩ :=
    congrArg (Codec.mk .standard .standard) (show max wideMark 1 = wideMark by decide)
  have hconfig := ofConfig_standardPattern hcheck rfl
  rw [hcodec] at hconfig
  refine ⟨_, hconfig, by decide +kernel, by decide +kernel, fun hkeeps => ?_⟩
  obtain ⟨a, store, hrun, hfinish⟩ := refused_alone (n := wideMark) (by decide) (by decide)
  obtain ⟨hfirst, -⟩ := hkeeps _ a store hrun hfinish
  cases (hfirst [] alone _ [] rfl).2 nofun

/-- The entry is passed over as a directory. -/
theorem unkept_backslash : Unkept { extension := "\\" } alone := by
  have hcheck : Config.check { extension := "\\" } = .ok () := by rfl
  have hconfig := ofConfig_standardPattern hcheck rfl
  dsimp only at hconfig
  generalize hcodec : Codec.ofParts .standard (.ofParts Layout.standardDirectory "\\") 2 = c
    at hconfig
  have hname : c.rules.isValid alone.name = true := by
    rw [← hcodec]
    decide +kernel
  have hshort : (c.layout.pathOf alone.name).utf8ByteSize ≤ 0xFFFF := by
    rw [← hcodec]
    decide +kernel
  refine ⟨c, hconfig, hname, hshort, fun hkeeps => ?_⟩
  have hfinish := eq_ok_of_succeeded (x := finish storing "x.zip" LimitedStore.outlet
      ((sink storing "x.zip" LimitedStore.outlet).writeEach c [alone] { state := {} }).2) <| by
    rw [← hcodec]
    decide +kernel
  obtain ⟨-, hfound⟩ := hkeeps _ _ _ rfl hfinish
  have hnothing := congrArg (fun scan => scan.found.length) hfound
  revert hnothing
  rw [← hcodec]
  decide +kernel

/-- **Not every first write is kept**: it may be too large for an entry, and a scan may take the
entry for a directory. -/
theorem not_first_write_kept :
    Unkept { indent := wideMark } alone ∧ Unkept { extension := "\\" } alone :=
  ⟨unkept_wide, unkept_backslash⟩

end

end ArchiveInProgress

end SpecCatalog
