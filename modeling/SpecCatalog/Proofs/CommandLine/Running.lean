import SpecCatalog.Archive.Storing
import SpecCatalog.CommandLine.Run
import SpecCatalog.Proofs.Closure.LoadBound
import SpecCatalog.Proofs.Closure.Loads
import SpecCatalog.Proofs.Closure.Naming
import SpecCatalog.Proofs.Codec.Filling
import SpecCatalog.Proofs.Discovery.Outcome
import SpecCatalog.Proofs.Layout.Paths
import SpecCatalog.Proofs.Specification.Judging

/-!
# What a command prints and how it ends

A command that lists asks the library for what it is to list, and starts to print when it has all
of it, so a failure never comes behind a line (`Lists`). A command that writes judges the
configuration, the name and the dependencies before it opens anything. If one of them is refused
the tree stays as it was, also where an archive stands in the place that would have been written
to.

Two things are up to the machine (`run_settles`). The standard output may take less than there is
to print, and then it has the beginning of it. And the codec may have an indent for which there is
no memory: the configuration is accepted, but the run is stopped before the command starts
(`not_all_or_nothing`).

What the library answers is taken apart from the run: `Invocation.codec` is what the
invocation is configured for, `Invocation.resolved` and `Invocation.discovered` are what it
asks for.
-/

namespace SpecCatalog.CommandLine

variable {host : Host} {t : FileTree} {w : World} {i : Invocation}

/-! ## What an invocation asks for -/

/-- The configuration of an invocation: the one it names, or the standard one. -/
def Invocation.configuration (t : FileTree) (i : Invocation) : Fallible Config :=
  match i.config with
  | none => .ok {}
  | some path => Config.ofFile t path

/-- The codec that an invocation is configured for. -/
def Invocation.codec (t : FileTree) (i : Invocation) : Fallible Codec := do
  let config ← i.configuration t
  Codec.ofConfig config

/-- A step that has succeeded gives way to the next. -/
theorem ok_bind_fallible {α β : Type} (a : α) (f : α → Fallible β) :
    (Except.ok a >>= f : Fallible β) = f a := rfl

theorem Invocation.codec_of_configuration {config : Config} (h : i.configuration t = .ok config) :
    i.codec t = Codec.ofConfig config := by
  unfold Invocation.codec
  rw [h, ok_bind_fallible]

theorem Invocation.codec_of_configuration_error {e : CatalogError}
    (h : i.configuration t = .error e) : i.codec t = .error e := by
  unfold Invocation.codec
  rw [h]
  rfl

/-- Without a configuration the codec is the standard one. -/
theorem Invocation.codec_standard (h : i.config = none) : i.codec t = .ok .standard := by
  have hconfig : i.configuration t = .ok {} := by
    unfold Invocation.configuration
    rw [h]
  rw [Invocation.codec_of_configuration hconfig, Codec.ofConfig_default]

/-- What the library resolves for an invocation. -/
def Invocation.resolved (t : FileTree) (i : Invocation) (paths names : List String) :
    Fallible (List Specification) := do
  let c ← i.codec t
  let sources ← SearchPath.ofPaths t paths
  sources.resolve t c names

/-- What the library discovers for an invocation. -/
def Invocation.discovered (t : FileTree) (i : Invocation) (paths : List String) :
    Fallible (NameMap Specification) := do
  let c ← i.codec t
  let sources ← SearchPath.ofPaths t paths
  sources.discover t c

/-- The configuration, the name or one of the dependencies is no good. -/
def Invocation.Refused (t : FileTree) (i : Invocation) (name : String)
    (dependencies : List String) : Prop :=
  (∃ e, i.codec t = .error e)
    ∨ ∃ c, i.codec t = .ok c ∧ ∃ n ∈ name :: dependencies, c.rules.isValid n = false

/-- How the run is stopped if there is no memory for the codec that was accepted. -/
def Host.crash? (host : Host) : Fallible Codec → Option Crash
  | .ok c => Crash.ofBuffer host.memory c.indent
  | .error _ => none

/-! ## Steps of a run -/

section Steps

/-- What a step comes to is all that the next one goes on from. -/
theorem bind_congr_left {α β : Type} {x y : Run α} {f : α → Run β} (h : x w = y w) :
    (x >>= f) w = (y >>= f) w := by
  change EStateM.bind x f w = EStateM.bind y f w
  unfold EStateM.bind
  rw [h]

variable {α : Type} {x : Fallible α} {f : α → Run Unit} {attempt : Option String}

theorem ofFallible_bind_of_ok {a : α} (h : x = .ok a) :
    (ofFallible x attempt >>= f) w = f a w := by
  subst h; rfl

theorem ofFallible_bind_of_error {e : CatalogError} (h : x = .error e) :
    (ofFallible x attempt >>= f) w = .error (.failed ⟨e, attempt⟩) w := by
  subst h; rfl

end Steps

section Making

variable {config : Config} {crash : Crash}

theorem makeCodec_of_crash (h : host.crash? (Codec.ofConfig config) = some crash) :
    makeCodec host config w = .error (.crashed crash) w := by
  unfold makeCodec Codec.build
  cases hcodec : Codec.ofConfig config with
  | error e =>
    rw [hcodec] at h
    cases h
  | ok c =>
    rw [hcodec] at h
    dsimp only
    rw [show Crash.ofBuffer host.memory c.indent = some crash from h]

theorem makeCodec_of_memory (h : host.crash? (Codec.ofConfig config) = none) :
    makeCodec host config w = ofFallible (Codec.ofConfig config) none w := by
  unfold makeCodec Codec.build
  cases hcodec : Codec.ofConfig config with
  | error e => rfl
  | ok c =>
    rw [hcodec] at h
    dsimp only
    rw [show Crash.ofBuffer host.memory c.indent = none from h]

theorem runInvocation_eq (host : Host) (i : Invocation) (w : World) :
    runInvocation host i w = (ofFallible (i.configuration w.tree) none >>= fun config =>
      makeCodec host config >>= fun c => runCommand host c i.command) w := by
  refine bind_congr_left ?_
  unfold Invocation.configuration
  cases i.config with
  | none => rfl
  | some path => rfl

/-- A run is stopped if there is no memory for the codec that the invocation is configured
for. -/
theorem runInvocation_of_crash (h : host.crash? (i.codec w.tree) = some crash) :
    runInvocation host i w = .error (.crashed crash) w := by
  rw [runInvocation_eq]
  cases hconfig : i.configuration w.tree with
  | error e =>
    rw [Invocation.codec_of_configuration_error hconfig] at h
    cases h
  | ok config =>
    rw [Invocation.codec_of_configuration hconfig] at h
    rw [ofFallible_bind_of_ok rfl]
    exact bind_of_eq_error (makeCodec_of_crash h)

/-- If there is the memory, a run is the command under this codec. -/
theorem runInvocation_of_memory (h : host.crash? (i.codec w.tree) = none) :
    runInvocation host i w
      = (ofFallible (i.codec w.tree) none >>= fun c => runCommand host c i.command) w := by
  rw [runInvocation_eq]
  cases hconfig : i.configuration w.tree with
  | error e =>
    rw [Invocation.codec_of_configuration_error hconfig]
    rfl
  | ok config =>
    rw [Invocation.codec_of_configuration hconfig] at h ⊢
    rw [ofFallible_bind_of_ok rfl]
    exact bind_congr_left (makeCodec_of_memory h)

end Making

/-! ## Printing -/

/-- What the standard output takes of these bytes. -/
def Host.takes (host : Host) (bs : Bytes) : Bytes :=
  match host.room with
  | none => bs
  | some room => bs.take room

theorem toBytes_append (a b : String) : Text.toBytes (a ++ b) = Text.toBytes a ++ Text.toBytes b := by
  simp [Text.toBytes]

theorem flatten_lines (specs : List Specification) :
    ((specs.map (·.display)).map fun line => Text.toBytes (line ++ "\n")).flatten
      = Text.toBytes (listing specs) := by
  induction specs with
  | nil => rfl
  | cons s specs ih =>
    rw [List.map_cons, List.map_cons, List.flatten_cons, ih, ← toBytes_append]
    congr 1
    simp [listing]

theorem writePieces_unlimited (pieces : List Bytes) (out : Bytes) :
    Codec.writePieces LimitedStore.write pieces { written := out }
      = .ok () { written := out ++ pieces.flatten } := by
  induction pieces generalizing out with
  | nil =>
    rw [List.flatten_nil, List.append_nil]
    rfl
  | cons p pieces ih =>
    have hfirst : LimitedStore.write p { written := out } = .ok () { written := out ++ p } := rfl
    rw [Codec.writePieces, bind_of_eq_ok hfirst, ih, List.flatten_cons, List.append_assoc]

/-- **What is printed is a beginning of the listing**, and if it is not all of it the run is
stopped. -/
theorem exists_printLines (host : Host) (t : FileTree) (specs : List Specification) :
    ∃ output : LimitedStore, output.written = host.takes (Text.toBytes (listing specs))
      ∧ printLines (specs.map (·.display)) ⟨t, { room := host.room }⟩
        = if host.takes (Text.toBytes (listing specs)) = Text.toBytes (listing specs)
          then .ok () ⟨t, output⟩ else .error (.crashed .panic) ⟨t, output⟩ := by
  unfold printLines Host.takes
  rw [← flatten_lines]
  generalize (specs.map (·.display)).map (fun line => Text.toBytes (line ++ "\n")) = pieces
  dsimp only
  cases host.room with
  | none =>
    refine ⟨{ written := pieces.flatten }, rfl, ?_⟩
    rw [if_pos rfl, writePieces_unlimited]
    rfl
  | some room =>
    have hputs := Codec.puts_writePieces LimitedStore.puts_write pieces
    have hempty : LimitedStore.Has [] room { room := some room } := rfl
    by_cases hfits : pieces.flatten.length ≤ room
    · obtain ⟨output, hrun, rfl⟩ := hputs.fits hempty hfits
      have hall : pieces.flatten.take room = pieces.flatten := List.take_of_length_le hfits
      refine ⟨{ written := pieces.flatten, room := some (room - pieces.flatten.length) },
        hall.symm, ?_⟩
      rw [hrun]
      exact (if_pos hall).symm
    · have hcut : pieces.flatten.take room ≠ pieces.flatten := fun he =>
        hfits (List.take_eq_self_iff _ |>.1 he)
      obtain ⟨e, output, hrun, rfl⟩ := hputs.crosses hempty (Nat.not_le.1 hfits)
      refine ⟨{ written := pieces.flatten.take room, room := some 0 }, rfl, ?_⟩
      rw [hrun]
      exact (if_neg hcut).symm

/-! ## Commands that list -/

/-- The run prints what there is and nothing else, or it fails before it prints. -/
inductive Lists (x : Run Unit) (w : World) : Fallible (List Specification) → Prop where
  | all {specs : List Specification} :
      x w = printLines (specs.map (·.display)) w → Lists x w (.ok specs)
  | none {e : CatalogError} {f : Failure} : x w = .error (.failed f) w → Lists x w (.error e)

/-- What a run lists is told by what it comes to. -/
theorem Lists.of_eq {x y : Run Unit} {result : Fallible (List Specification)}
    (h : Lists y w result) (he : x w = y w) : Lists x w result := by
  cases h with
  | all hy => exact .all (he.trans hy)
  | none hy => exact .none (he.trans hy)

/-- A step that may fail comes before the listing. -/
theorem Lists.after {α : Type} {x : Fallible α} {f : α → Run Unit}
    {g : α → Fallible (List Specification)} {attempt : Option String}
    (h : ∀ a, Lists (f a) w (g a)) : Lists (ofFallible x attempt >>= f) w (x >>= g) := by
  cases x with
  | error e => exact .none (ofFallible_bind_of_error rfl)
  | ok a =>
      change Lists _ w (g a)
      cases hg : g a with
      | error e =>
          cases hg ▸ h a with
          | none hf => exact .none ((ofFallible_bind_of_ok rfl).trans hf)
      | ok specs =>
          cases hg ▸ h a with
          | all hf => exact .all ((ofFallible_bind_of_ok rfl).trans hf)

/-- An invocation lists what its command lists under the codec. -/
theorem lists_runInvocation {g : Codec → Fallible (List Specification)}
    (hmemory : host.crash? (i.codec w.tree) = none)
    (h : ∀ c, Lists (runCommand host c i.command) w (g c)) :
    Lists (runInvocation host i) w (i.codec w.tree >>= g) :=
  (Lists.after h).of_eq (runInvocation_of_memory hmemory)

/-- The last step that may fail gives what is listed. -/
theorem lists_specs {specs : Fallible (List Specification)} {attempt : Option String} :
    Lists (do printLines ((← ofFallible specs attempt).map (·.display))) w specs := by
  cases specs with
  | error e => exact .none rfl
  | ok specs => exact .all rfl

theorem lists_values {specs : Fallible (NameMap Specification)} {attempt : Option String} :
    Lists (do printLines ((← ofFallible specs attempt).values.map (·.display))) w
      (specs.map NameMap.values) := by
  cases specs with
  | error e => exact .none rfl
  | ok specs => exact .all rfl

theorem map_bind_fallible {α β γ : Type} {x : Fallible α} {g : α → Fallible β} {f : β → γ} :
    (x >>= g).map f = x >>= fun a => (g a).map f := by
  cases x with
  | error e => rfl
  | ok a => rfl

theorem lists_resolve (host : Host) (w : World) {paths names : List String}
    (h : i.command = .resolve paths names)
    (hmemory : host.crash? (i.codec w.tree) = none) :
    Lists (runInvocation host i) w (i.resolved w.tree paths names) := by
  refine lists_runInvocation hmemory fun c => ?_
  have hstep : runCommand host c i.command w
      = (ofFallible (SearchPath.ofPaths w.tree paths) none >>= fun sources => do
          printLines ((← ofFallible (sources.resolve w.tree c names)
            (some "resolve specification closure")).map (·.display))) w := by
    rw [h]
    rfl
  exact (Lists.after fun sources => lists_specs).of_eq hstep

theorem lists_discover (host : Host) (w : World) {paths : List String}
    (h : i.command = .discover paths)
    (hmemory : host.crash? (i.codec w.tree) = none) :
    Lists (runInvocation host i) w ((i.discovered w.tree paths).map NameMap.values) := by
  unfold Invocation.discovered
  simp only [map_bind_fallible]
  refine lists_runInvocation hmemory fun c => ?_
  have hstep : runCommand host c i.command w
      = (ofFallible (SearchPath.ofPaths w.tree paths) none >>= fun sources => do
          printLines ((← ofFallible (sources.discover w.tree c)
            (some "discover specifications")).values.map (·.display))) w := by
    rw [h]
    rfl
  exact (Lists.after fun sources => lists_values).of_eq hstep

/-! ## Outcomes -/

/-- What the outcome of a run tells: that it was stopped or failed before it had printed, or that
it printed what the standard output takes of the listing. If that is not all, it was stopped. -/
inductive Outcome.Tells (host : Host) (o : Outcome) :
    Option Crash → Fallible (List Specification) → Prop where
  | stopped {crash : Crash} {result : Fallible (List Specification)} :
      o.code = codeOf crash → o.output = [] → Tells host o (some crash) result
  | failed {e : CatalogError} : o.code = 1 → o.output = [] → Tells host o none (.error e)
  | listed {specs : List Specification} :
      o.output = host.takes (Text.toBytes (listing specs)) →
      (o.code = if o.output = Text.toBytes (listing specs) then 0 else codeOf .panic) →
      Tells host o none (.ok specs)

section Outcomes

variable {args : List String} {printed : LimitedStore} {after : FileTree}

theorem run_of_ok (hargs : Invocation.ofArguments args = .ok i)
    (h : runInvocation host i ⟨t, { room := host.room }⟩ = .ok () ⟨after, printed⟩) :
    run host args t = ({ code := 0, output := printed.written }, after) := by
  unfold run
  rw [hargs]
  dsimp only
  rw [h]

theorem run_of_failed {f : Failure} (hargs : Invocation.ofArguments args = .ok i)
    (h : runInvocation host i ⟨t, { room := host.room }⟩ = .error (.failed f) ⟨after, printed⟩) :
    run host args t = ({ code := 1, output := printed.written, errors := f.report }, after) := by
  unfold run
  rw [hargs]
  dsimp only
  rw [h]

theorem run_of_crashed {crash : Crash} (hargs : Invocation.ofArguments args = .ok i)
    (h : runInvocation host i ⟨t, { room := host.room }⟩
      = .error (.crashed crash) ⟨after, printed⟩) :
    run host args t = ({ code := codeOf crash, output := printed.written }, after) := by
  unfold run
  rw [hargs]
  dsimp only
  rw [h]

theorem run_of_lists {result : Fallible (List Specification)}
    (hargs : Invocation.ofArguments args = .ok i)
    (h : host.crash? (i.codec t) = none →
      Lists (runInvocation host i) ⟨t, { room := host.room }⟩ result) :
    (run host args t).2 = t ∧ Outcome.Tells host (run host args t).1 (host.crash? (i.codec t)) result := by
  cases hcrash : host.crash? (i.codec t) with
  | some crash =>
    rw [run_of_crashed hargs (runInvocation_of_crash hcrash)]
    exact ⟨rfl, .stopped rfl rfl⟩
  | none =>
    cases h hcrash with
    | @all specs hrun =>
      obtain ⟨output, hwritten, hprint⟩ := exists_printLines host t specs
      rw [hprint] at hrun
      by_cases hall : host.takes (Text.toBytes (listing specs)) = Text.toBytes (listing specs)
      · rw [if_pos hall] at hrun
        rw [run_of_ok hargs hrun]
        exact ⟨rfl, .listed hwritten (if_pos (hwritten.trans hall)).symm⟩
      · rw [if_neg hall] at hrun
        rw [run_of_crashed hargs hrun]
        exact ⟨rfl, .listed hwritten (if_neg fun he => hall (hwritten.symm.trans he)).symm⟩
    | none hrun =>
      rw [run_of_failed hargs hrun]
      exact ⟨rfl, .failed rfl rfl⟩

end Outcomes

/-! ## Orders -/

/-- What is resolved for an invocation comes in the order that it was loaded. -/
theorem exists_loads_of_resolved {paths names : List String} {specs : List Specification}
    (h : i.resolved t paths names = .ok specs) :
    ∃ c sources made, i.codec t = .ok c ∧ SearchPath.ofPaths t paths = .ok sources
      ∧ specs = made.map (·.2)
      ∧ (made.map (·.1)).Nodup
      ∧ (∀ e ∈ made, sources.lookup t c e.1 = .ok e.2)
      ∧ Closure.LoadedInOrder (sources.lookup t c) names made := by
  obtain ⟨c, hc, h⟩ := bind_eq_ok_iff.1 h
  obtain ⟨sources, hsources, h⟩ := bind_eq_ok_iff.1 h
  obtain ⟨made, hmade⟩ :=
    Closure.exists_loads_of_resolve?_ok (h ▸ resolve?_loadBound t c sources names)
  exact ⟨c, sources, made, hc, hsources, hmade⟩

/-- What is discovered for an invocation comes in the order of the names. -/
theorem increasing_of_discovered {paths : List String} {m : NameMap Specification}
    (h : i.discovered t paths = .ok m) : (m.values.map (·.name)).Pairwise (· < ·) := by
  obtain ⟨c, _, h⟩ := bind_eq_ok_iff.1 h
  obtain ⟨sources, _, h⟩ := bind_eq_ok_iff.1 h
  have hkeys : m.values.map (·.name) = m.entries.map (·.1) := by
    unfold NameMap.values
    rw [List.map_map]
    refine List.map_congr_left fun e he => ?_
    obtain ⟨_, _, _, _, _, hname⟩ := (get?_discover h e.1 e.2).1 (NameMap.mem_entries_iff.1 he)
    exact hname
  rw [hkeys]
  exact m.increasing

/-! ## Commands that write -/

/-- What is refused is refused before anything is opened. -/
theorem runInvocation_of_refused {out name : String} {deps : List String}
    (h : i.command = .write out name deps) (hmemory : host.crash? (i.codec w.tree) = none)
    (hrefused : i.Refused w.tree name deps) :
    ∃ f, runInvocation host i w = .error (.failed f) w := by
  rw [runInvocation_of_memory hmemory, h]
  rcases hrefused with ⟨e, he⟩ | ⟨c, hc, n, hn, hinvalid⟩
  · exact ⟨_, ofFallible_bind_of_error he⟩
  · rw [ofFallible_bind_of_ok hc]
    cases hmade : Specification.ofRules c.rules name deps with
    | error e => exact ⟨_, ofFallible_bind_of_error hmade⟩
    | ok s =>
        exfalso
        obtain ⟨hname, hdeps, _⟩ := Specification.ofRules_eq_ok_iff.1 hmade
        rcases List.mem_cons.1 hn with rfl | hn
        · rw [hname] at hinvalid
          cases hinvalid
        · rw [hdeps n hn] at hinvalid
          cases hinvalid

/--
**How a run ends and what it has printed.**

An invocation that resolves or discovers leaves the tree as it was. If the library fails, so does
the run, and nothing is printed. Else there is one line for each specification that the library
gives, those that are resolved in the order of their loads and those that are discovered in the
order of their names, and the run ends well if the standard output takes all of them. An
invocation to write, under a configuration that is not read or not accepted, or with a name or a
dependency that the configured rules refuse, fails, prints nothing and leaves the tree as it was.
The exception is a configuration that is accepted though there is no memory for its indent: then
every run is stopped, with the tree as it was and nothing printed.
-/
theorem run_settles {args : List String} {i : Invocation}
    (hargs : Invocation.ofArguments args = .ok i) (host : Host) (t : FileTree) :
    (∀ paths names, i.command = .resolve paths names →
      (run host args t).2 = t
        ∧ Outcome.Tells host (run host args t).1 (host.crash? (i.codec t))
            (i.resolved t paths names)
        ∧ ∀ specs, i.resolved t paths names = .ok specs →
            ∃ c sources made, i.codec t = .ok c ∧ SearchPath.ofPaths t paths = .ok sources
              ∧ specs = made.map (·.2)
              ∧ (made.map (·.1)).Nodup
              ∧ (∀ e ∈ made, sources.lookup t c e.1 = .ok e.2)
              ∧ Closure.LoadedInOrder (sources.lookup t c) names made)
    ∧ (∀ paths, i.command = .discover paths →
      (run host args t).2 = t
        ∧ Outcome.Tells host (run host args t).1 (host.crash? (i.codec t))
            ((i.discovered t paths).map NameMap.values)
        ∧ ∀ m, i.discovered t paths = .ok m → (m.values.map (·.name)).Pairwise (· < ·))
    ∧ (∀ out name deps, i.command = .write out name deps → i.Refused t name deps →
      (run host args t).2 = t ∧ (run host args t).1.output = []
        ∧ (run host args t).1.code = ((host.crash? (i.codec t)).map codeOf).getD 1) := by
  refine ⟨?_, ?_, ?_⟩
  · intro paths names hcommand
    have hlists := lists_resolve host ⟨t, { room := host.room }⟩ hcommand
    obtain ⟨htree, htells⟩ := run_of_lists hargs hlists
    exact ⟨htree, htells, fun specs => exists_loads_of_resolved⟩
  · intro paths hcommand
    have hlists := lists_discover host ⟨t, { room := host.room }⟩ hcommand
    obtain ⟨htree, htells⟩ := run_of_lists hargs hlists
    exact ⟨htree, htells, fun m => increasing_of_discovered⟩
  · intro out name deps hcommand hrefused
    cases hcrash : host.crash? (i.codec t) with
    | some crash =>
      rw [run_of_crashed hargs (runInvocation_of_crash hcrash)]
      exact ⟨rfl, rfl, rfl⟩
    | none =>
      obtain ⟨f, hf⟩ := runInvocation_of_refused (w := ⟨t, { room := host.room }⟩) hcommand hcrash
        hrefused
      rw [run_of_failed hargs hf]
      exact ⟨rfl, rfl, rfl⟩

/-- A machine with this much room for what is printed. -/
def ample (room : Option Nat) : Host := ⟨1000, room, Archive.storing⟩

/-- Two lines are printed, or what there is room for; and a name is refused while the archive
beside it stays. -/
theorem run_settles_settled :
    ((run (ample none) ["resolve", "--path", ".", "a"] settled).2 = settled
      ∧ (run (ample none) ["resolve", "--path", ".", "a"] settled).1.code = 0
      ∧ (run (ample none) ["resolve", "--path", ".", "a"] settled).1.output
        = Text.toBytes (listing [⟨"a", .ofList ["b"]⟩, ⟨"b", .empty⟩]))
    ∧ ((run (ample (some 3)) ["resolve", "--path", ".", "a"] settled).1.code = 101
      ∧ (run (ample (some 3)) ["resolve", "--path", ".", "a"] settled).1.output
        = Text.toBytes "Spe")
    ∧ (run (ample none) ["write", "--out=o.zip", "--name=a/b"]
          (settled.put [] "o.zip" (.file [80]))).2 = settled.put [] "o.zip" (.file [80])
      ∧ (run (ample none) ["write", "--out=o.zip", "--name=a/b"]
          (settled.put [] "o.zip" (.file [80]))).1.code = 1 := by
  have hresolve : Invocation.ofArguments ["resolve", "--path", ".", "a"]
      = .ok ⟨none, none, .resolve ["."] ["a"]⟩ := eq_ok_of_any_toOption (by decide +kernel)
  have hwrite : Invocation.ofArguments ["write", "--out=o.zip", "--name=a/b"]
      = .ok ⟨none, none, .write "o.zip" "a/b" []⟩ := eq_ok_of_any_toOption (by decide +kernel)
  have hmemory : ∀ room t command,
      (ample room).crash? (Invocation.codec t ⟨none, none, command⟩) = none := by
    intro room t command
    rw [Invocation.codec_standard rfl]
    rfl
  have hspecs : Invocation.resolved settled ⟨none, none, .resolve ["."] ["a"]⟩ ["."] ["a"]
      = .ok [⟨"a", .ofList ["b"]⟩, ⟨"b", .empty⟩] := eq_ok_of_any_toOption (by decide +kernel)
  have hlisted : ∀ room, (run (ample room) ["resolve", "--path", ".", "a"] settled).2 = settled
      ∧ Outcome.Tells (ample room) (run (ample room) ["resolve", "--path", ".", "a"] settled).1
        none (.ok [⟨"a", .ofList ["b"]⟩, ⟨"b", .empty⟩]) := by
    intro room
    obtain ⟨hlists, -, -⟩ := run_settles hresolve (ample room) settled
    obtain ⟨htree, htells, -⟩ := hlists _ _ rfl
    rw [hmemory, hspecs] at htells
    exact ⟨htree, htells⟩
  refine ⟨?_, ?_, ?_⟩
  · obtain ⟨htree, htells⟩ := hlisted none
    cases htells with
    | listed houtput hcode => exact ⟨htree, hcode.trans (if_pos houtput), houtput⟩
  · have hcut : (ample (some 3)).takes
        (Text.toBytes (listing [⟨"a", .ofList ["b"]⟩, ⟨"b", .empty⟩])) = Text.toBytes "Spe" := by
      decide +kernel
    have hall : Text.toBytes "Spe"
        ≠ Text.toBytes (listing [⟨"a", .ofList ["b"]⟩, ⟨"b", .empty⟩]) := by decide +kernel
    obtain ⟨-, htells⟩ := hlisted (some 3)
    cases htells with
    | listed houtput hcode =>
      rw [hcut] at houtput
      rw [houtput] at hcode
      exact ⟨hcode.trans (if_neg hall), houtput⟩
  · obtain ⟨-, -, hwrites⟩ := run_settles hwrite (ample none) (settled.put [] "o.zip" (.file [80]))
    have hinvalid : Codec.standard.rules.isValid "a/b" = false := by decide +kernel
    have hrefused : ∃ n ∈ ["a/b"], Codec.standard.rules.isValid n = false :=
      ⟨"a/b", List.mem_cons_self, hinvalid⟩
    obtain ⟨htree, -, hcode⟩ :=
      hwrites _ _ _ rfl (.inr ⟨_, Invocation.codec_standard rfl, hrefused⟩)
    rw [hmemory] at hcode
    exact ⟨htree, hcode⟩

/-- A descriptor, and a configuration with an indent that no buffer can have. -/
def indented : FileTree :=
  settled.put [] "config.json" (.file (Text.toBytes "\x7b\"indent\":9223372036854775808\x7d"))

/-- **The configuration is accepted and the library discovers the specifications**, but the run
neither lists them nor fails: it is stopped. -/
theorem not_all_or_nothing :
    Invocation.ofArguments ["--config=config.json", "discover", "--path=."]
        = .ok ⟨some "config.json", none, .discover ["."]⟩
      ∧ ((Invocation.discovered indented ⟨some "config.json", none, .discover ["."]⟩ ["."]).map
          NameMap.values).toOption = some [⟨"a", .ofList ["b"]⟩, ⟨"b", .empty⟩]
      ∧ (run (ample none) ["--config=config.json", "discover", "--path=."] indented).1
        = { code := 101 } := by
  have hargs : Invocation.ofArguments ["--config=config.json", "discover", "--path=."]
      = .ok ⟨some "config.json", none, .discover ["."]⟩ := eq_ok_of_any_toOption (by decide +kernel)
  exact ⟨hargs, by decide +kernel, by decide +kernel⟩

end SpecCatalog.CommandLine
