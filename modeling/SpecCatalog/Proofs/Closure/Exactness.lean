import Mathlib.Data.Finset.Card
import Mathlib.Data.Set.Finite.Basic
import SpecCatalog.Proofs.Closure.Walk

/-!
# A resolved closure is exactly what is reached

For any loader, cyclic and shared dependencies included: if finitely many names are
reached, resolving answers, with at most one load for each of them. It succeeds exactly
when all of them load, and then gives what the loader gives for each of them, once
(`resolve?_exact`). Which loads it makes is also said: the answer needs as many as there
are names, and hangs on the loader at these names only.
-/

namespace SpecCatalog.Closure

variable {load : String → Fallible Specification} {requested : List String}

/-- What resolving gives is loaded along the reached names. -/
theorem resolve?_ok {loads : Nat} {out : List Specification}
    (h : resolve? load loads requested = some (.ok out)) :
    ∃ names : List String, names.Nodup
      ∧ (∀ name, name ∈ names ↔ Reaches (dependsOn load) requested name)
      ∧ names.map load = out.map .ok
      ∧ names.length ≤ loads := by
  obtain ⟨r, hr, hout⟩ := Option.map_eq_some_iff.1 h
  cases r with
  | error stop => cases hout
  | ok p =>
      cases hout
      obtain ⟨htracks, ha⟩ := run?_ends hr
      refine ⟨p.taken.reverse, List.nodup_reverse.2 htracks.distinct, ?_, ?_, ?_⟩
      · intro name
        rw [List.mem_reverse]
        exact htracks.mem_taken_iff ha
      · unfold Progress.taken Progress.trail
        rw [← List.map_reverse, List.map_map, List.map_map]
        refine List.map_congr_left fun e he => ?_
        exact htracks.loads e (List.mem_reverse.1 he)
      · rw [List.length_reverse]
        obtain ⟨n, hn, hrun⟩ := runFrom_eq_some_iff.1 hr
        have hcount : p.taken.length = 0 + n := hrun.count
        omega

/-- What a failure is told with, and that it is a reached name that does not load. -/
theorem resolve?_error {loads : Nat} {e : CatalogError}
    (h : resolve? load loads requested = some (.error e)) :
    ∃ name loaded cause, e = .resolution requested loaded cause
      ∧ Reaches (dependsOn load) requested name ∧ load name = .error cause := by
  obtain ⟨r, hr, he⟩ := Option.map_eq_some_iff.1 h
  cases r with
  | ok p => cases he
  | error stop =>
      cases he
      obtain ⟨htracks, ⟨rest, ha⟩, hl⟩ := run?_ends hr
      exact ⟨stop.name, _, _, rfl, htracks.reaches (.inr (mem_waiting_of_ahead ha)), hl⟩

/-- Resolving succeeds only if all that is reached loads. -/
theorem loads_of_resolve?_ok {loads : Nat} {out : List Specification}
    (h : resolve? load loads requested = some (.ok out)) {name : String}
    (hr : Reaches (dependsOn load) requested name) : ∃ s, load name = .ok s := by
  obtain ⟨names, _, hmem, hmap, _⟩ := resolve?_ok h
  have hin : load name ∈ out.map .ok := hmap ▸ List.mem_map.2 ⟨name, (hmem name).2 hr, rfl⟩
  obtain ⟨s, _, hs⟩ := List.mem_map.1 hin
  exact ⟨s, hs.symm⟩

theorem resolve?_mono {loads more : Nat} {r : Fallible (List Specification)}
    (hle : loads ≤ more) (h : resolve? load loads requested = some r) :
    resolve? load more requested = some r := by
  obtain ⟨p, hp, rfl⟩ := Option.map_eq_some_iff.1 h
  unfold resolve?
  rw [show run? load more requested = some p from run?_mono hle hp]
  rfl

/-- One load for each reached name is enough. -/
theorem resolve?_isSome {reached : Finset String}
    (hreached : ∀ name, Reaches (dependsOn load) requested name → name ∈ reached) :
    ∃ r, resolve? load reached.card requested = some r := by
  have hrun : (run? load reached.card requested).isSome := by
    refine run?_isSome fun p name rest hp ha => ?_
    -- the names taken and the next one are different and all reached
    have hnodup : (name :: p.taken).Nodup := List.nodup_cons.2 ⟨hp.fresh ha, hp.distinct⟩
    have hsub : (name :: p.taken).toFinset ⊆ reached := by
      intro m hm
      rcases List.mem_cons.1 (List.mem_toFinset.1 hm) with rfl | hm
      · exact hreached _ (hp.reaches (.inr (mem_waiting_of_ahead ha)))
      · exact hreached _ (hp.reaches (.inl hm))
    have hcard := Finset.card_le_card hsub
    rw [List.toFinset_card_of_nodup hnodup, List.length_cons] at hcard
    omega
  obtain ⟨r, hr⟩ := Option.isSome_iff_exists.1 hrun
  exact ⟨told requested r, by unfold resolve?; rw [hr]; rfl⟩

/-- With fewer loads than reached names there is no answer if all of them load. -/
theorem resolve?_eq_none {loads : Nat} {names : List String} (hnodup : names.Nodup)
    (hmem : ∀ name, name ∈ names ↔ Reaches (dependsOn load) requested name)
    (hload : ∀ name ∈ names, ∃ s, load name = .ok s) (hlt : loads < names.length) :
    resolve? load loads requested = none := by
  cases h : resolve? load loads requested with
  | none => rfl
  | some r =>
      exfalso
      cases r with
      | error e =>
          obtain ⟨name, _, _, _, hr, hl⟩ := resolve?_error h
          obtain ⟨s, hs⟩ := hload name ((hmem name).2 hr)
          rw [hs] at hl
          cases hl
      | ok out =>
          obtain ⟨names', hnodup', hmem', _, hlen⟩ := resolve?_ok h
          have hperm : names.Perm names' :=
            (List.perm_ext_iff_of_nodup hnodup hnodup').2 fun name =>
              (hmem name).trans (hmem' name).symm
          have := hperm.length_eq
          omega

/--
**Resolving is exact.**

If finitely many names are reached, resolving answers, and with as many loads as there are
such names. It succeeds exactly when all of them load. The specifications are then what
the loader gives along a list without repetition of exactly these names, and fewer loads
than names would not have been enough. Otherwise it is told why one of these names does not
load. The loader is asked for no other name.
-/
theorem resolve?_exact
    (hfin : {name | Reaches (dependsOn load) requested name}.Finite) :
    ∃ r : Fallible (List Specification),
      (∀ loads, hfin.toFinset.card ≤ loads → resolve? load loads requested = some r)
      ∧ ((∃ out, r = .ok out)
          ↔ ∀ name, Reaches (dependsOn load) requested name → ∃ s, load name = .ok s)
      ∧ (∀ out, r = .ok out → ∃ names : List String, names.Nodup
          ∧ (∀ name, name ∈ names ↔ Reaches (dependsOn load) requested name)
          ∧ names.map load = out.map .ok
          ∧ ∀ loads, loads < names.length → resolve? load loads requested = none)
      ∧ (∀ e, r = .error e → ∃ name loaded cause, e = .resolution requested loaded cause
          ∧ Reaches (dependsOn load) requested name ∧ load name = .error cause)
      ∧ ∀ load' : String → Fallible Specification,
          (∀ name, Reaches (dependsOn load) requested name → load' name = load name) →
          ∀ loads, resolve? load' loads requested = resolve? load loads requested := by
  obtain ⟨r, hr⟩ := resolve?_isSome fun name (hn : Reaches (dependsOn load) requested name) =>
    hfin.mem_toFinset.2 hn
  refine ⟨r, fun loads hle => resolve?_mono hle hr, ⟨?_, ?_⟩, ?_, ?_, ?_⟩
  · rintro ⟨out, rfl⟩ name hn
    exact loads_of_resolve?_ok hr hn
  · intro hall
    cases r with
    | ok out => exact ⟨out, rfl⟩
    | error e =>
        obtain ⟨name, _, _, _, hn, hl⟩ := resolve?_error hr
        obtain ⟨s, hs⟩ := hall name hn
        rw [hs] at hl
        cases hl
  · rintro out rfl
    obtain ⟨names, hnodup, hmem, hmap, _⟩ := resolve?_ok hr
    refine ⟨names, hnodup, hmem, hmap, fun loads hlt => ?_⟩
    exact resolve?_eq_none hnodup hmem
      (fun name hn => loads_of_resolve?_ok hr ((hmem name).1 hn)) hlt
  · rintro e rfl
    exact resolve?_error hr
  · intro load' hsame loads
    unfold resolve?
    rw [run?_congr hsame]

/-- A loader of three names: two that depend on each other and a third that both share. -/
def ring (name : String) : Fallible Specification :=
  if name = "left" then .ok ⟨name, .ofList ["right", "base"]⟩
  else if name = "right" then .ok ⟨name, .ofList ["left", "base"]⟩
  else if name = "base" then .ok ⟨name, .empty⟩
  else .error (.notFound name name)

theorem ring_reaches {name : String} (h : Reaches (dependsOn ring) ["left", "left"] name) :
    name = "left" ∨ name = "right" ∨ name = "base" := by
  induction h with
  | root hr => exact .inl (by simpa using hr)
  | @edge n d deps _ hd hm ih =>
      rcases ih with rfl | rfl | rfl
      · cases hd
        rcases List.mem_cons.1 (NameSet.mem_ofList.1 hm) with rfl | hd
        · exact .inr (.inl rfl)
        · exact .inr (.inr (List.mem_singleton.1 hd))
      · cases hd
        rcases List.mem_cons.1 (NameSet.mem_ofList.1 hm) with rfl | hd
        · exact .inl rfl
        · exact .inr (.inr (List.mem_singleton.1 hd))
      · cases hd
        exact absurd hm List.not_mem_nil

/-- The cycle, asked for twice, is resolved with three loads. -/
theorem resolve?_ring :
    {name | Reaches (dependsOn ring) ["left", "left"] name}.Finite
      ∧ ∃ (out : List Specification) (names : List String),
        resolve? ring 3 ["left", "left"] = some (.ok out)
          ∧ names.Nodup ∧ names.map ring = out.map .ok := by
  have hsub : {name | Reaches (dependsOn ring) ["left", "left"] name}
      ⊆ (["left", "right", "base"].toFinset : Set String) := by
    intro name hn
    have := ring_reaches hn
    simpa using this
  have hfin := (Finset.finite_toSet _).subset hsub
  obtain ⟨r, hr, hok, hout, _⟩ := resolve?_exact hfin
  have hcard : hfin.toFinset.card ≤ 3 :=
    Finset.card_le_card (t := ["left", "right", "base"].toFinset) fun name hn =>
      hsub (hfin.mem_toFinset.1 hn)
  obtain ⟨out, rfl⟩ := hok.2 fun name hn => by
    rcases ring_reaches hn with rfl | rfl | rfl
    · exact ⟨_, rfl⟩
    · exact ⟨_, rfl⟩
    · exact ⟨_, rfl⟩
  obtain ⟨names, hnodup, _, hmap, _⟩ := hout out rfl
  exact ⟨hfin, out, names, hr 3 hcard, hnodup, hmap⟩

end SpecCatalog.Closure
