import SpecCatalog.Proofs.Discovery.Outcome
import SpecCatalog.Proofs.Lookup.Answers
import SpecCatalog.Proofs.SearchPath.Scans

/-!
# Sources whose descriptors are known

A source `Holds` some specifications if a scan and look-ups find exactly their descriptors in
it, as one codec writes them. With such sources in a row, looking up a name comes to what their
specifications of that name are (`lookup_stock`), and discovering finds them all or reports two
of one name that differ (`discover_stock`).
-/

namespace SpecCatalog

variable {t : FileTree} {c : Codec} {src : Source} {specs : List Specification} {name : String}

/-- Where the source has the descriptor of a name. -/
def Source.place (c : Codec) (src : Source) (name : String) : Location :=
  ⟨src, c.layout.pathOf name⟩

/-- The source has the descriptors of these specifications and no others. -/
structure Source.Holds (t : FileTree) (c : Codec) (src : Source) (specs : List Specification) :
    Prop where
  unbroken : (src.descriptors t c).broke = none
  found : ∀ x, x ∈ (src.descriptors t c).found
    ↔ ∃ s ∈ specs, x = (src.place c s.name, c.encode s)
  located : ∀ s ∈ specs,
    src.locate t (c.layout.pathOf s.name) = .ok (some (src.place c s.name))
  read : ∀ s ∈ specs, (src.place c s.name).read t = .ok (c.encode s)

/-- The source can tell that it does not have a name that none of the specifications has. -/
def Source.Tells (t : FileTree) (c : Codec) (src : Source) (specs : List Specification)
    (name : String) : Prop :=
  (∀ s ∈ specs, s.name ≠ name) → src.locate t (c.layout.pathOf name) = .ok none

/-! ## A row of sources -/

/-- A source and the specifications in it. -/
structure Batch where
  source : Source
  specs : List Specification

/-- Sources in a row with the specifications in them. -/
abbrev Stock := List Batch

namespace Stock

variable {stock : Stock}

def sources (stock : Stock) : SearchPath := stock.map (·.source)

/-- What one source has under a name. -/
def definition? (c : Codec) (name : String) (b : Batch) :
    Option (Location × Specification) :=
  (b.specs.find? (·.name = name)).map (b.source.place c name, ·)

/-- What the sources have under a name, in order. -/
def definitions (c : Codec) (stock : Stock) (name : String) : List (Location × Specification) :=
  stock.filterMap (definition? c name)

theorem definitions_cons (b : Batch) :
    definitions c (b :: stock) name
      = (definition? c name b).toList ++ definitions c stock name := by
  unfold definitions
  rw [List.filterMap_cons]
  cases definition? c name b with
  | none => rfl
  | some d => rfl

/-- All that the sources hold can be read again, and each has one specification of a name. -/
structure Sound (t : FileTree) (c : Codec) (stock : Stock) : Prop where
  holds : ∀ b ∈ stock, b.source.Holds t c b.specs
  decodes : ∀ b ∈ stock, ∀ s ∈ b.specs, c.decode (c.encode s) = .ok s
  distinct : ∀ b ∈ stock, (b.specs.map (·.name)).Nodup

/-- No two specifications of one name differ. -/
def Agrees (stock : Stock) : Prop :=
  ∀ b ∈ stock, ∀ b' ∈ stock, ∀ s ∈ b.specs, ∀ s' ∈ b'.specs, s.name = s'.name → s = s'

theorem Sound.tail {b : Batch} (h : Sound t c (b :: stock)) :
    Sound t c stock where
  holds b hb := h.holds b (List.mem_cons_of_mem _ hb)
  decodes b hb := h.decodes b (List.mem_cons_of_mem _ hb)
  distinct b hb := h.distinct b (List.mem_cons_of_mem _ hb)

theorem find?_eq_some_iff {s : Specification} (h : (specs.map (·.name)).Nodup) :
    specs.find? (·.name = name) = some s ↔ s ∈ specs ∧ s.name = name := by
  constructor
  · intro hfind
    exact ⟨List.mem_of_find?_eq_some hfind, by simpa using List.find?_some hfind⟩
  · rintro ⟨hs, rfl⟩
    cases hfind : specs.find? (·.name = s.name) with
    | none => exact absurd (decide_eq_true rfl) (List.find?_eq_none.1 hfind s hs)
    | some s' =>
      have hname : s'.name = s.name := by simpa using List.find?_some hfind
      rw [List.inj_on_of_nodup_map h (List.mem_of_find?_eq_some hfind) hs hname]

theorem mem_definitions (h : ∀ b ∈ stock, (b.specs.map (·.name)).Nodup)
    {d : Location × Specification} :
    d ∈ stock.definitions c name
      ↔ d.2.name = name ∧ ∃ b ∈ stock, d.2 ∈ b.specs ∧ d.1 = b.source.place c name := by
  unfold definitions
  rw [List.mem_filterMap]
  constructor
  · rintro ⟨b, hb, hd⟩
    obtain ⟨s, hs, rfl⟩ := Option.map_eq_some_iff.1 hd
    obtain ⟨hin, hname⟩ := (find?_eq_some_iff (h b hb)).1 hs
    exact ⟨hname, b, hb, hin, rfl⟩
  · rintro ⟨hname, b, hb, hin, hplace⟩
    refine ⟨b, hb, Option.map_eq_some_iff.2 ⟨d.2, (find?_eq_some_iff (h b hb)).2 ⟨hin, hname⟩, ?_⟩⟩
    rw [← hplace]

/-! ## Looking up -/

theorem Sound.locates (h : Sound t c stock) (ht : ∀ b ∈ stock, b.source.Tells t c b.specs name) :
    Locates t (c.layout.pathOf name) stock.sources ((stock.definitions c name).map (·.1)) := by
  induction stock with
  | nil => exact .nil
  | cons b stock ih =>
    rw [List.forall_mem_cons] at ht
    have hrest := ih h.tail ht.2
    have hdistinct := h.distinct b List.mem_cons_self
    rw [definitions_cons]
    cases hfind : b.specs.find? (·.name = name) with
    | none =>
      have hnone : ∀ s ∈ b.specs, s.name ≠ name := by
        simpa using List.find?_eq_none.1 hfind
      have hdef : definition? c name b = none := by
        rw [definition?, hfind]
        rfl
      rw [hdef]
      exact .missing (ht.1 hnone) hrest
    | some s =>
      obtain ⟨hs, rfl⟩ := (find?_eq_some_iff hdistinct).1 hfind
      have hdef : definition? c s.name b = some (b.source.place c s.name, s) := by
        rw [definition?, hfind]
        rfl
      rw [hdef]
      exact .found ((h.holds b List.mem_cons_self).located s hs) hrest

theorem Sound.declares (h : Sound t c stock) {d : Location × Specification}
    (hd : d ∈ stock.definitions c name) : c.Declares t d.1 d.2 := by
  obtain ⟨rfl, b, hb, hs, hplace⟩ := (mem_definitions h.distinct).1 hd
  rw [hplace]
  exact ⟨c.encode d.2, (h.holds b hb).read d.2 hs, h.decodes b hb d.2 hs⟩

/-- A name comes to what the sources have under it: nothing, one specification, or several
that are all reported. -/
theorem Sound.lookup (h : Sound t c stock) (hname : c.rules.isValid name = true)
    (ht : ∀ b ∈ stock, b.source.Tells t c b.specs name) :
    ((∀ b ∈ stock, ∀ s ∈ b.specs, s.name ≠ name) →
      stock.sources.lookup t c name = .error (.notFound name (c.layout.pathOf name))) ∧
    (∀ s, (∃ b ∈ stock, s ∈ b.specs) → s.name = name →
      (∀ b ∈ stock, ∀ s' ∈ b.specs, s'.name = name → s' = s) →
      stock.sources.lookup t c name = .ok s) ∧
    ((∃ b ∈ stock, ∃ b' ∈ stock, ∃ s ∈ b.specs, ∃ s' ∈ b'.specs,
        s.name = name ∧ s'.name = name ∧ s ≠ s') →
      stock.sources.lookup t c name = .error (.conflict name (stock.definitions c name))) := by
  have hlocates := h.locates ht
  refine ⟨fun hnone => ?_, fun s hs hsname hall => ?_, fun hdiffer => ?_⟩
  · refine Outcome.lookup_eq (.absent hname fun src hsrc => ?_)
    obtain ⟨b, hb, rfl⟩ := List.mem_map.1 hsrc
    exact ht b hb (hnone b hb)
  · obtain ⟨b, hb, hin⟩ := hs
    refine Outcome.lookup_eq (.agreed hname hlocates ?_ fun l hl => ?_)
    -- a name that is found has a place, and what stands at each place is the one specification
    · have hd : (b.source.place c name, s) ∈ stock.definitions c name :=
        (mem_definitions h.distinct).2 ⟨hsname, b, hb, hin, rfl⟩
      exact List.ne_nil_of_mem (List.mem_map_of_mem hd)
    · obtain ⟨d, hd, rfl⟩ := List.mem_map.1 hl
      obtain ⟨hdname, b', hb', hin', _⟩ := (mem_definitions h.distinct).1 hd
      rw [← hall b' hb' d.2 hin' hdname]
      exact h.declares hd
  · obtain ⟨b, hb, b', hb', s, hs, s', hs', hsname, hsname', hne⟩ := hdiffer
    refine Outcome.lookup_eq (.conflict hname hlocates (fun d hd => h.declares hd) ?_)
    exact ⟨(b.source.place c name, s), (mem_definitions h.distinct).2 ⟨hsname, b, hb, hs, rfl⟩,
      (b'.source.place c name, s'), (mem_definitions h.distinct).2 ⟨hsname', b', hb', hs', rfl⟩,
      hne⟩

/-! ## Discovering -/

theorem Sound.unbroken (h : Sound t c stock) :
    ∀ src ∈ stock.sources, (src.descriptors t c).broke = none := by
  intro src hsrc
  obtain ⟨b, hb, rfl⟩ := List.mem_map.1 hsrc
  exact (h.holds b hb).unbroken

/-- All that is found, in the order of the sources. -/
def found (t : FileTree) (c : Codec) (stock : Stock) : List (Location × Bytes) :=
  stock.sources.flatMap fun src => (src.descriptors t c).found

theorem Sound.mem_declarations (h : Sound t c stock) {d : Location × Specification} :
    d ∈ c.declarations (stock.found t c)
      ↔ ∃ b ∈ stock, d.2 ∈ b.specs ∧ d.1 = b.source.place c d.2.name := by
  rw [Codec.mem_declarations]
  constructor
  · rintro ⟨x, hx, hl, hdecode⟩
    obtain ⟨src, hsrc, hx⟩ := List.mem_flatMap.1 hx
    obtain ⟨b, hb, rfl⟩ := List.mem_map.1 hsrc
    obtain ⟨s, hs, rfl⟩ := ((h.holds b hb).found x).1 hx
    rw [h.decodes b hb s hs] at hdecode
    cases hdecode
    exact ⟨b, hb, hs, hl.symm⟩
  · rintro ⟨b, hb, hs, hl⟩
    refine ⟨(d.1, c.encode d.2), ?_, rfl, h.decodes b hb d.2 hs⟩
    refine List.mem_flatMap.2 ⟨b.source, List.mem_map_of_mem hb, ((h.holds b hb).found _).2 ?_⟩
    exact ⟨d.2, hs, by rw [← hl]⟩

theorem Sound.decoded (h : Sound t c stock) :
    ∀ x ∈ stock.found t c, ∃ s, c.decode x.2 = .ok s := by
  intro x hx
  obtain ⟨src, hsrc, hx⟩ := List.mem_flatMap.1 hx
  obtain ⟨b, hb, rfl⟩ := List.mem_map.1 hsrc
  obtain ⟨s, hs, rfl⟩ := ((h.holds b hb).found x).1 hx
  exact ⟨s, h.decodes b hb s hs⟩

/-- Discovering succeeds if all agree, and else it reports two that differ. -/
theorem Sound.discover (h : Sound t c stock) :
    (stock.Agrees → ∃ m, stock.sources.discover t c = .ok m ∧
      ∀ name s, m.get? name = some s ↔ s.name = name ∧ ∃ b ∈ stock, s ∈ b.specs) ∧
    (¬ stock.Agrees → ∃ first second, stock.sources.discover t c
        = .error (.conflict second.2.name [first, second])
      ∧ first.2.name = second.2.name ∧ first.2 ≠ second.2
      ∧ (∃ b ∈ stock, first.2 ∈ b.specs ∧ first.1 = b.source.place c first.2.name)
      ∧ ∃ b ∈ stock, second.2 ∈ b.specs ∧ second.1 = b.source.place c second.2.name) := by
  have hcomplete : stock.sources.descriptors t c = ⟨stock.found t c, none⟩ :=
    (scanned_none_iff.2 ⟨h.unbroken, rfl⟩).descriptors_eq
  -- every scan comes to its end, so what any outcome speaks of is all that is found
  have hall : ∀ {xs broke}, Scanned t c stock.sources xs broke →
      xs = stock.found t c ∧ broke = none := by
    intro xs broke hscan
    have hb := hscan.descriptors_eq.symm.trans hcomplete
    injection hb with hxs hbroke
    exact ⟨hxs, hbroke⟩
  have hout := discovered_discover t c stock.sources
  generalize stock.sources.discover t c = r at hout
  cases hout with
  | @complete xs m hscan hagree hm =>
    obtain ⟨rfl, _⟩ := hall hscan
    have hagrees : stock.Agrees := fun b hb b' hb' s hs s' hs' hname =>
      hagree.same (b.source.place c s.name, s) (h.mem_declarations.2 ⟨b, hb, hs, rfl⟩)
        (b'.source.place c s'.name, s') (h.mem_declarations.2 ⟨b', hb', hs', rfl⟩) hname
    refine ⟨fun _ => ⟨m, rfl, fun name s => ?_⟩, fun hnot => absurd hagrees hnot⟩
    rw [hm name s]
    refine and_congr_right fun _ => ⟨?_, ?_⟩
    · rintro ⟨l, hd⟩
      obtain ⟨b, hb, hs, _⟩ := h.mem_declarations.1 hd
      exact ⟨b, hb, hs⟩
    · rintro ⟨b, hb, hs⟩
      exact ⟨b.source.place c s.name, h.mem_declarations.2 ⟨b, hb, hs, rfl⟩⟩
  | broken hscan _ => cases (hall hscan).2
  | @malformed before after x broke cause hscan _ hd =>
    obtain ⟨hxs, _⟩ := hall hscan
    obtain ⟨s, hs⟩ := h.decoded x (hxs ▸ List.mem_append_right _ List.mem_cons_self)
    rw [hd] at hs
    cases hs
  | @conflict before after x broke s first hscan _ hd hfirst hne =>
    obtain ⟨hxs, _⟩ := hall hscan
    obtain ⟨hfirst, hname⟩ := Codec.earliest?_eq_some hfirst
    have hbefore : first ∈ c.declarations (stock.found t c) :=
      Codec.declarations_subset (hxs ▸ List.subset_append_left _ _) hfirst
    have hsecond : (x.1, s) ∈ c.declarations (stock.found t c) := Codec.mem_declarations.2
      ⟨x, hxs ▸ List.mem_append_right _ List.mem_cons_self, rfl, hd⟩
    have hfirst := h.mem_declarations.1 hbefore
    have hsecond := h.mem_declarations.1 hsecond
    refine ⟨fun hagrees => ?_, fun _ =>
      ⟨first, (x.1, s), rfl, hname, hne, hfirst, hsecond⟩⟩
    obtain ⟨b, hb, hs, _⟩ := hfirst
    obtain ⟨b', hb', hs', _⟩ := hsecond
    exact absurd (hagrees b hb b' hb' _ hs _ hs' hname) hne

end Stock

end SpecCatalog
