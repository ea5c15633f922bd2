import SpecCatalog.Proofs.Sink.Entries

/-!
# What a batch leaves in a sink

A batch goes on until one of its writes fails. In a sink that keeps its entries, each path that
was written holds the last specification that was written to it, and all other paths hold what
they held, whether the batch came to its end or not; only the entry of the write that failed may
have been begun (`writeSpecifications_leaves`).

Nothing is opened for what comes after the write that failed. To say so, the sink is run with
the paths noted that are opened (`recording`).
-/

namespace SpecCatalog

/-! ## The last of each path -/

namespace Codec

variable {c : Codec} {s : Specification} {specs : List Specification} {path : String}

/-- Whether this is the path of the specification. -/
def isAt (c : Codec) (path : String) (s : Specification) : Bool :=
  (c.specPath s.name).toOption.any (· = path)

theorem isAt_iff : c.isAt path s = true ↔ c.specPath s.name = .ok path := by
  refine ⟨eq_ok_of_any_toOption, fun h => ?_⟩
  unfold isAt
  rw [h]
  exact decide_eq_true rfl

/-- The last of the specifications with this path. -/
def lastAt (c : Codec) (specs : List Specification) (path : String) : Option Specification :=
  specs.reverse.find? (c.isAt path)

/-- What is held at the path once the specifications were written over what was held before. -/
def stored (c : Codec) (specs : List Specification) (held : String → Option Bytes)
    (path : String) : Option Bytes :=
  ((c.lastAt specs path).map c.encode).or (held path)

theorem lastAt_eq_none_iff :
    c.lastAt specs path = none ↔ ∀ s ∈ specs, c.specPath s.name ≠ .ok path := by
  unfold lastAt
  simp only [List.find?_eq_none, List.mem_reverse, isAt_iff, ne_eq]

theorem exists_lastAt (hs : s ∈ specs) (hpath : c.specPath s.name = .ok path) :
    ∃ s', c.lastAt specs path = some s' := by
  refine Option.ne_none_iff_exists'.1 fun hnone => ?_
  exact lastAt_eq_none_iff.1 hnone s hs hpath

theorem lastAt_cons (c : Codec) (s : Specification) (specs : List Specification) (path : String) :
    c.lastAt (s :: specs) path
      = (c.lastAt specs path).or (if c.isAt path s then some s else none) := by
  unfold lastAt
  rw [List.reverse_cons, List.find?_append, List.find?_singleton]

/-- The first write is written over by those after it. -/
theorem stored_cons (hpath : c.specPath s.name = .ok path) (held : String → Option Bytes) :
    c.stored (s :: specs) held
      = c.stored specs (Function.update held path (some (c.encode s))) := by
  funext other
  unfold stored
  rw [lastAt_cons]
  cases c.lastAt specs other with
  | some s' => rfl
  | none =>
    by_cases hother : other = path
    · subst hother
      rw [Function.update_self, if_pos (isAt_iff.2 hpath)]
      rfl
    · have hnot : ¬ c.isAt other s = true := fun hat => by
        rw [isAt_iff, hpath] at hat
        exact hother (Except.ok.inj hat).symm
      rw [Function.update_of_ne hother, if_neg hnot]
      rfl

end Codec

namespace Sink

variable {σ η : Type} {sink : Sink σ η} {held : σ → String → Option Bytes}
  {isOpen : σ → η → String → Prop} {c : Codec} {s : Specification} {specs : List Specification}
  {before between after : σ} {path : String} {paths : List String} {bs : Bytes}
  {e : CatalogError}

/-! ## One write -/

theorem KeepsEntries.of_writeSpecification_eq_ok (hsink : sink.KeepsEntries held isOpen)
    (h : sink.writeSpecification c s before = .ok path after) :
    c.specPath s.name = .ok path
      ∧ held after = Function.update (held before) path (some (c.encode s)) := by
  obtain ⟨hname, rfl, hput⟩ := writeSpecification_eq_ok_iff.1 h
  exact ⟨specPath_of_valid hname, hsink.of_put_eq_ok hput⟩

/-- The specification has an entry opened: its name is valid and the sink opens its entry. -/
def Opens (sink : Sink σ η) (c : Codec) (s : Specification) (before : σ) : Prop :=
  c.rules.isValid s.name = true
    ∧ ∃ stream opened, sink.openEntry (c.layout.pathOf s.name) before = .ok stream opened

/-- A write that fails leaves the entries alone, unless it has opened its own. -/
theorem KeepsEntries.of_writeSpecification_eq_error (hsink : sink.KeepsEntries held isOpen)
    (h : sink.writeSpecification c s before = .error e after) :
    ¬ sink.Opens c s before ∧ held after = held before
      ∨ sink.Opens c s before ∧ ∃ kept, kept <+: c.encode s
          ∧ held after = Function.update (held before) (c.layout.pathOf s.name) (some kept) := by
  rcases writeSpecification_eq_error_iff.1 h with ⟨hname, -, rfl⟩ | ⟨hname, hput⟩
  · refine .inl ⟨fun ⟨hvalid, _⟩ => ?_, rfl⟩
    rw [hname] at hvalid
    cases hvalid
  · rcases hsink.of_put_eq_error hput with ⟨hfailed, hsame⟩ | ⟨hopen, hkept⟩
    · refine .inl ⟨fun ⟨_, _, _, hopen⟩ => ?_, hsame⟩
      rw [hfailed] at hopen
      cases hopen
    · exact .inr ⟨⟨hname, hopen⟩, hkept⟩

/-! ## Many writes -/

/-- A batch that comes to its end has each specification written over those before it. -/
theorem KeepsEntries.of_writeSpecifications_eq_ok (hsink : sink.KeepsEntries held isOpen)
    (h : sink.writeSpecifications c specs before = .ok paths after) :
    specs.map (c.specPath ·.name) = paths.map .ok
      ∧ held after = c.stored specs (held before) := by
  induction specs generalizing before paths with
  | nil =>
    cases h
    exact ⟨rfl, rfl⟩
  | cons s specs ih =>
    obtain ⟨path, between, more, rfl, hs, hrest⟩ := writeSpecifications_cons_eq_ok_iff.1 h
    obtain ⟨hpath, hheld⟩ := hsink.of_writeSpecification_eq_ok hs
    obtain ⟨hpaths, hafter⟩ := ih hrest
    rw [List.map_cons, List.map_cons, hpath, hpaths, Codec.stored_cons hpath, hafter, hheld]
    exact ⟨rfl, rfl⟩

/-! ## Which entries are opened -/

/-- A state with the paths at which entries were opened, or were tried to be. -/
def noting {ε α : Type} (opened : List String) :
    EStateM.Result ε σ α → EStateM.Result ε (σ × List String) α
  | .ok a s => .ok a (s, opened)
  | .error e s => .error e (s, opened)

/-- The sink, with the paths noted at which its entries are opened. -/
def recording (sink : Sink σ η) : Sink (σ × List String) η where
  openEntry path := fun s => noting (s.2 ++ [path]) (sink.openEntry path s.1)
  write stream bs := fun s => noting s.2 (sink.write stream bs s.1)
  flush stream := fun s => noting s.2 (sink.flush stream s.1)
  describe := sink.describe

theorem noting_bind {ε α β : Type} {x : EStateM ε σ α} {x' : EStateM ε (σ × List String) α}
    {f : α → EStateM ε σ β} {f' : α → EStateM ε (σ × List String) β} {opened : List String}
    {s' : σ × List String} (hx : x' s' = noting opened (x before))
    (hf : ∀ a s, f' a (s, opened) = noting opened (f a s)) :
    (x' >>= f') s' = noting opened ((x >>= f) before) := by
  change EStateM.bind x' f' s' = noting opened (EStateM.bind x f before)
  unfold EStateM.bind
  rw [hx]
  cases x before with
  | ok a s => exact hf a s
  | error e s => rfl

theorem atEntry_recording {α : Type} {x : EStateM IoError σ α}
    {x' : EStateM IoError (σ × List String) α} {opened : List String}
    (hx : x' (before, opened) = noting opened (x before)) :
    sink.recording.atEntry path x' (before, opened)
      = noting opened (sink.atEntry path x before) := by
  unfold atEntry
  rw [hx]
  cases x before with
  | ok a s => rfl
  | error e s => rfl

theorem put_recording (opened : List String) :
    sink.recording.put path bs (before, opened)
      = noting (opened ++ [path]) (sink.put path bs before) := by
  unfold put
  refine noting_bind rfl fun stream s => atEntry_recording ?_
  exact noting_bind rfl fun _ _ => rfl

/-- A write opens one entry, at the path of its specification, or none if it has no path. -/
theorem writeSpecification_recording (opened : List String) :
    sink.recording.writeSpecification c s (before, opened)
      = noting (opened ++ (c.specPath s.name).toOption.toList)
          (sink.writeSpecification c s before) := by
  unfold writeSpecification
  cases c.specPath s.name with
  | error e =>
    change _ = EStateM.Result.error e (before, opened ++ [])
    rw [List.append_nil]
    rfl
  | ok path => exact noting_bind (put_recording opened) fun _ _ => rfl

theorem writeSpecifications_recording (opened : List String)
    (h : sink.writeSpecifications c specs before = .ok paths after) :
    sink.recording.writeSpecifications c specs (before, opened)
      = .ok paths (after, opened ++ paths) := by
  induction specs generalizing before paths opened with
  | nil =>
    cases h
    rw [List.append_nil]
    rfl
  | cons s specs ih =>
    obtain ⟨path, between, more, rfl, hs, hrest⟩ := writeSpecifications_cons_eq_ok_iff.1 h
    obtain ⟨hname, rfl, -⟩ := writeSpecification_eq_ok_iff.1 hs
    have hs' : sink.recording.writeSpecification c s (before, opened)
        = .ok (c.layout.pathOf s.name) (between, opened ++ [c.layout.pathOf s.name]) := by
      rw [writeSpecification_recording, hs, specPath_of_valid hname]
      rfl
    have hrest' := ih (opened ++ [c.layout.pathOf s.name]) hrest
    rw [List.append_assoc, List.singleton_append] at hrest'
    exact writeSpecifications_cons_eq_ok_iff.2 ⟨_, _, more, rfl, hs', hrest'⟩

/-! ## A batch that fails -/

/-- A batch that breaks off with the error at a specification after the `earlier` ones, which
were written to the paths and left the sink in the state `between`. -/
structure BreaksOff (sink : Sink σ η) (held : σ → String → Option Bytes) (c : Codec)
    (earlier : List Specification) (s : Specification) (before : σ) (paths : List String)
    (between : σ) (e : CatalogError) (after : σ) : Prop where
  reached : sink.writeSpecifications c earlier before = .ok paths between
  /-- The error is that of the one write that failed. -/
  alone : sink.writeSpecification c s between = .error e after
  /-- What comes later has no entry opened for it. -/
  opened : ∀ later, sink.recording.writeSpecifications c (earlier ++ s :: later) (before, [])
    = .error e (after, paths ++ (c.specPath s.name).toOption.toList)
  elsewhere : ∀ path, path ≠ c.layout.pathOf s.name →
    held after path = c.stored earlier (held before) path
  untouched : ¬ sink.Opens c s between → held after = c.stored earlier (held before)
  /-- An entry that was opened holds the beginning of the descriptor. -/
  begun : sink.Opens c s between →
    ∃ kept, kept <+: c.encode s ∧ held after (c.layout.pathOf s.name) = some kept

theorem KeepsEntries.breaksOff (hsink : sink.KeepsEntries held isOpen)
    (hearlier : sink.writeSpecifications c specs before = .ok paths between)
    (hs : sink.writeSpecification c s between = .error e after) :
    BreaksOff sink held c specs s before paths between e after := by
  obtain ⟨-, hheld⟩ := hsink.of_writeSpecifications_eq_ok hearlier
  have hopened : ∀ later, sink.recording.writeSpecifications c (specs ++ s :: later) (before, [])
      = .error e (after, paths ++ (c.specPath s.name).toOption.toList) := by
    intro later
    refine writeSpecifications_eq_error_iff.2
      ⟨specs, s, later, paths, _, rfl, writeSpecifications_recording [] hearlier, ?_⟩
    rw [List.nil_append, writeSpecification_recording, hs]
    rfl
  rcases hsink.of_writeSpecification_eq_error hs with
    ⟨hnot, hsame⟩ | ⟨hopens, kept, hkept, hafter⟩
  · rw [hheld] at hsame
    exact ⟨hearlier, hs, hopened, fun path _ => by rw [hsame], fun _ => hsame,
      fun hopens => absurd hopens hnot⟩
  · rw [hheld] at hafter
    refine ⟨hearlier, hs, hopened, fun path hpath => ?_, fun hnot => absurd hopens hnot,
      fun _ => ⟨kept, hkept, ?_⟩⟩
    · rw [hafter, Function.update_of_ne hpath]
    · rw [hafter, Function.update_self]

/-- **A batch leaves what it wrote up to the first write that fails.**

If none does, the paths of the specifications come back in order, each of them holds the last
specification that has it, and no other entry has changed. -/
theorem writeSpecifications_leaves (hsink : sink.KeepsEntries held isOpen) (c : Codec)
    (specs : List Specification) (before : σ) :
    (∀ paths after, sink.writeSpecifications c specs before = .ok paths after →
      specs.map (c.specPath ·.name) = paths.map .ok
        ∧ (∀ path ∈ paths, ∃ s, c.lastAt specs path = some s ∧ held after path = some (c.encode s))
        ∧ ∀ path, path ∉ paths → held after path = held before path)
    ∧ ∀ e after, sink.writeSpecifications c specs before = .error e after →
      ∃ earlier s later paths between, specs = earlier ++ s :: later
        ∧ BreaksOff sink held c earlier s before paths between e after := by
  constructor
  · intro paths after h
    obtain ⟨hpaths, hafter⟩ := hsink.of_writeSpecifications_eq_ok h
    have hmem : ∀ path, path ∈ paths ↔ ∃ s ∈ specs, c.specPath s.name = .ok path := by
      intro path
      rw [← List.mem_map, hpaths]
      simp
    refine ⟨hpaths, fun path hpath => ?_, fun path hpath => ?_⟩
    · obtain ⟨s, hs, hat⟩ := (hmem path).1 hpath
      obtain ⟨s', hlast⟩ := Codec.exists_lastAt hs hat
      refine ⟨s', hlast, ?_⟩
      rw [hafter, Codec.stored, hlast]
      rfl
    · have hnone : c.lastAt specs path = none :=
        Codec.lastAt_eq_none_iff.2 fun s hs hat => hpath ((hmem path).2 ⟨s, hs, hat⟩)
      rw [hafter, Codec.stored, hnone]
      rfl
  · intro e after h
    obtain ⟨earlier, s, later, paths, between, rfl, hearlier, hs⟩ :=
      writeSpecifications_eq_error_iff.1 h
    exact ⟨earlier, s, later, paths, between, rfl, hsink.breaksOff hearlier hs⟩

/-- The third has the path of the first again. -/
def fourWrites : List Specification :=
  [⟨"a", .ofList []⟩, ⟨"b", .ofList []⟩, ⟨"a", .ofList ["b", "c"]⟩, ⟨"c", .ofList []⟩]

/-- A sink in memory with room for forty bytes in each entry. -/
def cramped : MemoryEntries := { limit := some 40 }

/-- The third write is cut off where it takes the place of the first. -/
theorem writeSpecifications_leaves_cut :
    ∃ e after, MemoryEntries.sink.writeSpecifications .standard fourWrites cramped = .error e after
      ∧ after.entries.entries.map (fun entry => (entry.1, entry.2.length))
          = [("metadata/specs/a.json", 40), ("metadata/specs/b.json", 39)]
      ∧ ∃ earlier s later paths between, fourWrites = earlier ++ s :: later
          ∧ BreaksOff MemoryEntries.sink (fun m path => m.entries.get? path) .standard earlier s
              cramped paths between e after := by
  have hfails : succeeded (MemoryEntries.sink.writeSpecifications .standard fourWrites
      cramped) = false := by decide +kernel
  have hheld : (stateAfter (MemoryEntries.sink.writeSpecifications .standard fourWrites
      cramped)).entries.entries.map (fun entry => (entry.1, entry.2.length))
        = [("metadata/specs/a.json", 40), ("metadata/specs/b.json", 39)] := by decide +kernel
  cases hrun : MemoryEntries.sink.writeSpecifications .standard fourWrites cramped with
  | ok paths after =>
    rw [hrun] at hfails
    cases hfails
  | error e after =>
    rw [hrun] at hheld
    exact ⟨e, after, rfl, hheld, (writeSpecifications_leaves MemoryEntries.keepsEntries .standard
      fourWrites cramped).2 e after hrun⟩

end Sink

end SpecCatalog
