import SpecCatalog.Proofs.Archive.Building
import SpecCatalog.Proofs.Sink.ReadBack
import SpecCatalog.Sink.Archive

/-!
# Writing into an archive

An archive in progress holds the entries that were written into it (`Holds.put`), whatever its
outlet is, as long as the outlet keeps what it takes. Once it is finished, the outlet has an
archive with these entries (`Holds.finish`).
-/

namespace SpecCatalog

open Archive

variable {τ : Type} {outlet : Outlet τ} {view : Bytes → τ → Prop} {z : Compressor}
  {a a' : ArchiveInProgress τ} {contents : List (String × Bytes)} {c : Codec}
  {s : Specification} {specs : List Specification} {label path : String} {paths : List String}

/-! ## Outlets -/

/-- What the outlet takes stands where it was to go; `view` says what the outlet has. -/
structure Outlet.Keeps (outlet : Outlet τ) (view : Bytes → τ → Prop) : Prop where
  write : ∀ {out bs : Bytes} {place : Nat} {o o' : τ}, view out o → place ≤ out.length →
    outlet.write place bs o = .ok () o' → view (overwrite out place bs) o'
  length : ∀ {out : Bytes} {o : τ}, view out o → outlet.length o = out.length

theorem Outlet.Keeps.writeAll (h : outlet.Keeps view) {out : Bytes} {writings : List Writing}
    {base : Nat} {o o' : τ} (hview : view out o) (hlands : Lands base out writings)
    (hwrite : outlet.writeAll writings o = .ok () o') : view (overwriteAll out writings) o' := by
  induction writings generalizing out o with
  | nil =>
    cases hwrite
    exact hview
  | cons w writings ih =>
    obtain ⟨-, hplace, hrest⟩ := hlands
    obtain ⟨_, o₁, hfirst, hmore⟩ := exists_of_bind_eq_ok hwrite
    exact ih (h.write hview hplace hfirst) hrest hmore

namespace ArchiveInProgress

/-- The archive has these entries so far, and the outlet all bytes of them. -/
def Holds (z : Compressor) (view : Bytes → τ → Prop) (a : ArchiveInProgress τ)
    (contents : List (String × Bytes)) : Prop :=
  ∃ out held, view out a.state ∧ a.builder.Builds z out held ∧ ¬ a.builder.Overfull
    ∧ a.builder.contents held = contents

theorem holds_start (z : Compressor) {o : τ} (h : view [] o) : Holds z view { state := o } [] :=
  ⟨[], [], h, Builder.builds_empty z, Builder.not_overfull_of_none rfl, rfl⟩

/-! ## Steps -/

theorem send_eq_ok {writings : List Writing} {next : Builder}
    (h : send outlet writings next a = .ok () a') :
    outlet.writeAll writings a.state = .ok () a'.state ∧ a'.builder = next := by
  unfold send at h
  split at h
  · rename_i hsent
    cases h
    exact ⟨hsent, rfl⟩
  · cases h

/-- An archive whose last entry was closed has the same entries. -/
theorem Holds.close (hkeeps : outlet.Keeps view) (h : Holds z view a contents)
    (hclose : close z outlet a = .ok () a') :
    Holds z view a' contents ∧ a'.builder.pending = none := by
  obtain ⟨out, held, hview, hbuilds, hfits, rfl⟩ := h
  unfold ArchiveInProgress.close at hclose
  split at hclose
  · cases hclose
  rename_i writings next hnext
  obtain ⟨hsent, rfl⟩ := send_eq_ok hclose
  obtain ⟨hlands, hnone, held', hbuilds', hcontents⟩ := hbuilds.close hfits hnext
  exact ⟨⟨_, held', hkeeps.writeAll hview hlands hsent, hbuilds',
    Builder.not_overfull_of_none hnone, hcontents⟩, hnone⟩

/-- The archive has these entries, and behind them one of this name is open. Its compressor had
these turns. -/
def Fills (z : Compressor) (view : Bytes → τ → Prop) (a : ArchiveInProgress τ)
    (contents : List (String × Bytes)) (path : String) (turns : List Turn) : Prop :=
  ∃ out held p, view out a.state ∧ a.builder.Builds z out held
    ∧ held.map (fun x => (x.1.name, x.2)) = contents
    ∧ a.builder.pending = some p ∧ p.name = path ∧ p.turns = turns

theorem Fills.overfull_iff {turns : List Turn} (h : Fills z view a contents path turns) :
    a.builder.Overfull ↔ wideMark < (given turns).length := by
  obtain ⟨_, _, p, _, _, _, hp, _, rfl⟩ := h
  unfold Builder.Overfull
  rw [hp]
  simp

/-- The open entry counts, as long as it is not too large. -/
theorem Fills.holds {turns : List Turn} (h : Fills z view a contents path turns)
    (hsmall : (given turns).length ≤ wideMark) :
    Holds z view a (contents ++ [(path, given turns)]) := by
  have hfits := mt h.overfull_iff.1 (Nat.not_lt.2 hsmall)
  obtain ⟨out, held, p, hview, hbuilds, rfl, hp, rfl, rfl⟩ := h
  exact ⟨out, held, hview, hbuilds, hfits, Builder.contents_of_some hp⟩

theorem begin_eq_ok (h : begin outlet path a = .ok () a') :
    ∃ writing, a.builder.begin path = .ok (writing, a'.builder)
      ∧ outlet.writeAll [writing] a.state = .ok () a'.state := by
  unfold ArchiveInProgress.begin at h
  split at h
  · cases h
  rename_i writing next hbegin
  split at h
  · rename_i hsend
    cases h
    obtain ⟨hsent, rfl⟩ := send_eq_ok hsend
    exact ⟨writing, hbegin, hsent⟩
  · cases h

theorem openEntry_eq_ok (h : (sink z label outlet).openEntry path a = .ok () a') :
    ∃ a₁, close z outlet a = .ok () a₁ ∧ begin outlet path a₁ = .ok () a' := by
  unfold sink at h
  dsimp only at h
  split at h
  · cases h
  rename_i hclose
  split at h
  · cases h
  rename_i hbegin
  cases h
  exact ⟨_, hclose, hbegin⟩

/-- Opening an entry closes the one before it. -/
theorem Holds.openEntry (hkeeps : outlet.Keeps view) (h : Holds z view a contents)
    (hopen : (sink z label outlet).openEntry path a = .ok () a') :
    Fills z view a' contents path [] := by
  obtain ⟨a₁, hclose, hbegin⟩ := openEntry_eq_ok hopen
  obtain ⟨⟨out, held, hview, hbuilds, -, rfl⟩, hnone⟩ := h.close hkeeps hclose
  obtain ⟨writing, hbegin, hsent⟩ := begin_eq_ok hbegin
  obtain ⟨hlands, hbuilds', p, hp, hname, hturns⟩ := hbuilds.begin hnone hbegin
  exact ⟨_, held, p, hkeeps.writeAll hview hlands hsent, hbuilds',
    (Builder.contents_of_none hnone).symm, hp, hname, hturns⟩

theorem turn_eq_ok {idle : EStateM IoError (ArchiveInProgress τ) Unit} {t : Turn} {p : Pending}
    (hp : a.builder.pending = some p) (h : turn z outlet idle t a = .ok () a') :
    ∃ writing, a.builder.turn z t = some (writing, a'.builder)
      ∧ outlet.writeAll [writing] a.state = .ok () a'.state := by
  unfold ArchiveInProgress.turn at h
  split at h
  · rename_i hnone
    unfold Builder.turn at hnone
    rw [hp] at hnone
    cases hnone
  · rename_i writing next hturn
    obtain ⟨hsent, rfl⟩ := send_eq_ok h
    exact ⟨writing, hturn, hsent⟩

theorem Fills.turn {idle : EStateM IoError (ArchiveInProgress τ) Unit} {t : Turn}
    {turns : List Turn} (hkeeps : outlet.Keeps view) (h : Fills z view a contents path turns)
    (hturn : turn z outlet idle t a = .ok () a') :
    Fills z view a' contents path (t :: turns) := by
  obtain ⟨out, held, p, hview, hbuilds, rfl, hp, rfl, rfl⟩ := h
  obtain ⟨writing, hturn, hsent⟩ := turn_eq_ok hp hturn
  obtain ⟨hlands, hbuilds', q, hq, hq'⟩ := hbuilds.turn hturn
  obtain rfl := Option.some.inj (hp.symm.trans hq)
  exact ⟨_, held, _, hkeeps.writeAll hview hlands hsent, hbuilds', rfl, hq', rfl, rfl⟩

theorem refuseOverfull_eq_ok (h : refuseOverfull z outlet a = .ok () a') :
    ¬ a.builder.Overfull ∧ a' = a := by
  unfold refuseOverfull at h
  split at h
  · dsimp only at h
    split at h
    · cases h
    · cases h
  · rename_i hfits
    cases h
    exact ⟨hfits, rfl⟩

/-- An entry that is written comes last. -/
theorem Holds.put {body : Bytes} (hkeeps : outlet.Keeps view) (h : Holds z view a contents)
    (hput : (sink z label outlet).put path body a = .ok () a') :
    Holds z view a' (contents ++ [(path, body)]) := by
  obtain ⟨_, a₁, hopen, hwritten⟩ := exists_of_bind_eq_ok hput
  obtain ⟨_, a₂, hwrite, hflush⟩ := exists_of_bind_eq_ok (Sink.atEntry_eq_ok hwritten)
  obtain ⟨_, a₃, hmore, hchecked⟩ := exists_of_bind_eq_ok hwrite
  obtain ⟨hfits, rfl⟩ := refuseOverfull_eq_ok hchecked
  have hfilled := (h.openEntry hkeeps hopen).turn hkeeps hmore
  have hsmall := Nat.not_lt.1 (mt hfilled.overfull_iff.2 hfits)
  -- flushing lets out what was kept back, but it gives the compressor nothing more
  exact (hfilled.turn hkeeps hflush).holds hsmall

/-- What the codec makes of a specification: where its descriptor belongs, and the
descriptor. -/
def packed (c : Codec) (s : Specification) : String × Bytes :=
  (c.layout.pathOf s.name, c.encode s)

/-- A batch that is written comes last, and all its names were valid. -/
theorem Holds.writeSpecifications (hkeeps : outlet.Keeps view) (h : Holds z view a contents)
    (hwrite : (sink z label outlet).writeSpecifications c specs a = .ok paths a') :
    Holds z view a' (contents ++ specs.map (packed c))
      ∧ ∀ s ∈ specs, c.rules.isValid s.name = true := by
  induction specs generalizing a contents paths with
  | nil =>
    cases hwrite
    rw [List.map_nil, List.append_nil]
    exact ⟨h, nofun⟩
  | cons s specs ih =>
    obtain ⟨_, a₁, _, rfl, hfirst, hrest⟩ := Sink.writeSpecifications_cons_eq_ok_iff.1 hwrite
    obtain ⟨hname, rfl, hput⟩ := Sink.writeSpecification_eq_ok_iff.1 hfirst
    obtain ⟨hholds, hvalid⟩ := ih (h.put hkeeps hput) hrest
    rw [List.map_cons, List.append_cons]
    exact ⟨hholds, List.forall_mem_cons.2 ⟨hname, hvalid⟩⟩

/-! ## The end -/

theorem endAt_eq_ok {out : Bytes} {start : Nat} (hkeeps : outlet.Keeps view)
    (hview : view out a.state) (hstart : start ≤ out.length)
    (h : endAt outlet start a = .ok () a') :
    view (overwrite out start (a.builder.ending start)) a'.state ∧ a'.builder = a.builder
      ∧ start + (a.builder.ending start).length < capacity 8 := by
  unfold endAt at h
  dsimp only at h
  split at h
  · cases h
  rename_i hshort
  obtain ⟨hsent, hsame⟩ := send_eq_ok h
  have hlands : Lands 0 out [(start, a.builder.ending start)] := ⟨Nat.zero_le _, hstart, trivial⟩
  exact ⟨hkeeps.writeAll hview hlands hsent, hsame, Nat.not_le.1 hshort⟩

/-- What spoils an end lies within it, so nothing gets longer. -/
theorem lands_spoiling {before : Bytes} {position size : Nat} (hsize : Builder.endLength ≤ size)
    (hend : position + size ≤ before.length) :
    Lands position before [(position, List.replicate 4 0),
        (position + size - Builder.endLength, List.replicate 4 0)]
      ∧ (overwriteAll before [(position, List.replicate 4 0),
        (position + size - Builder.endLength, List.replicate 4 0)]).length = before.length := by
  have hfirst : (overwrite before position (List.replicate 4 0)).length = before.length := by
    rw [length_overwrite (by omega), List.length_replicate]
    unfold Builder.endLength at hsize
    omega
  refine ⟨⟨Nat.le_refl _, by omega, by omega, by omega, trivial⟩, ?_⟩
  unfold Builder.endLength at hsize ⊢
  change (overwrite _ _ _).length = _
  rw [length_overwrite (by omega), List.length_replicate]
  omega

/-- The end of an archive is the end of what the outlet has: either nothing was behind it, or it
was written once more, behind that. -/
theorem endAgain_eq_ok {out : Bytes} (hkeeps : outlet.Keeps view)
    (hstart : a.builder.position ≤ out.length)
    (hview : view (overwrite out a.builder.position (a.builder.ending a.builder.position)) a.state)
    (hroom : a.builder.position + (a.builder.ending a.builder.position).length < capacity 8)
    (h : endAgain outlet a = .ok () a') :
    ∃ front : Bytes, front.take a.builder.position = out.take a.builder.position
      ∧ front.length + (a.builder.ending front.length).length < capacity 8
      ∧ view (front ++ a.builder.ending front.length) a'.state := by
  have hlength := length_overwrite hstart (a.builder.ending a.builder.position)
  have htake := take_overwrite hstart (Nat.le_refl _) (a.builder.ending a.builder.position)
  unfold endAgain at h
  dsimp only at h
  rw [hkeeps.length hview] at h
  generalize a.builder.position = position at hstart hview hroom h hlength htake
  generalize hsize : (a.builder.ending position).length = size at hroom h hlength
  generalize hbefore : overwrite out position (a.builder.ending position) = before
    at hview h hlength htake
  split at h
  · rename_i hbehind
    obtain ⟨_, a₁, hspoiled, hagain⟩ := exists_of_bind_eq_ok h
    obtain ⟨hsent, hbuilder⟩ := send_eq_ok hspoiled
    -- what is spoiled is the end that was written, so it lies behind the entries
    have hsizeEnd : Builder.endLength ≤ size := by
      rw [← hsize]
      exact a.builder.endLength_le position
    obtain ⟨hlands, hlong⟩ := lands_spoiling hsizeEnd (show position + size ≤ before.length by omega)
    have hspoil := hkeeps.writeAll hview hlands hsent
    have hkept := hlands.take
    generalize overwriteAll before _ = spoiled at hspoil hlong hkept
    obtain ⟨hended, -, hroom'⟩ := endAt_eq_ok hkeeps hspoil (by omega) hagain
    rw [hbuilder] at hended hroom'
    -- the end is no shorter now, so nothing is behind it any more
    have hmono := a.builder.length_ending_mono (show position ≤ before.length - size by omega)
    rw [overwrite_end (by omega)] at hended
    have hfront : (spoiled.take (before.length - size)).length = before.length - size := by
      rw [List.length_take]
      omega
    refine ⟨spoiled.take (before.length - size), ?_, ?_, ?_⟩
    · rw [List.take_take, Nat.min_eq_left (by omega), hkept, htake]
    · rw [hfront]
      exact hroom'
    · rw [hfront]
      exact hended
  · rename_i hnothing
    cases h
    refine ⟨out.take position, ?_, ?_, ?_⟩
    · rw [List.take_take, Nat.min_self]
    · rw [List.length_take, Nat.min_eq_left hstart, hsize]
      exact hroom
    · rw [List.length_take, Nat.min_eq_left hstart, ← overwrite_end (by omega), hbefore]
      exact hview

/-- **A finished archive has what was written into it.** -/
theorem Holds.finish {o : τ} (hkeeps : outlet.Keeps view) (h : Holds z view a contents)
    (hfinish : a.finish z label outlet = .ok () o) :
    ∃ file, view file o ∧ Packs file contents := by
  unfold ArchiveInProgress.finish at hfinish
  split at hfinish
  · rename_i a₃ hrun
    cases hfinish
    obtain ⟨_, a₁, hclose, hrun⟩ := exists_of_bind_eq_ok hrun
    obtain ⟨⟨out, held, hview, hbuilds, -, rfl⟩, hnone⟩ := h.close hkeeps hclose
    obtain ⟨_, _, hget, hrun⟩ := exists_of_bind_eq_ok hrun
    cases hget
    obtain ⟨_, a₂, hend, hagain⟩ := exists_of_bind_eq_ok hrun
    obtain ⟨hended, hsame, hroom⟩ := endAt_eq_ok hkeeps hview hbuilds.position hend
    rw [← hsame] at hended hroom hbuilds hnone ⊢
    obtain ⟨front, hfront, hlength, hview⟩ :=
      endAgain_eq_ok hkeeps hbuilds.position hended hroom hagain
    exact ⟨_, hview, hbuilds.packs hnone front hfront hlength⟩
  · split at hfinish
    · cases hfinish
    · cases hfinish

end ArchiveInProgress

end SpecCatalog
