import SpecCatalog.Proofs.Archive.Ends

/-!
# What is built can be opened

While an archive is built, each entry that was closed stands with its contents among the bytes
before the open entry, and the open entry with what the compressor has let out of it before the
place where the next bytes go (`Builder.Builds`). Nothing is written before the open entry, and in
it only its own record, so one step after the other keeps this (`Builds.close`, `Builds.begin`,
`Builds.turn`, `Builds.giveUp`). Once the directory is written behind all that was closed, a reader
opens the archive and every entry in it (`Builds.packs`).
-/

namespace SpecCatalog.Archive

/-! ## Writing over bytes -/

section Overwrite

variable {bs new : Bytes} {place n k : Nat}

theorem length_overwrite (h : place ≤ bs.length) (new : Bytes) :
    (overwrite bs place new).length = max bs.length (place + new.length) := by
  unfold overwrite
  rw [List.length_append, List.length_append, List.length_take, List.length_drop]
  omega

theorem length_le_overwrite (h : place ≤ bs.length) (new : Bytes) :
    bs.length ≤ (overwrite bs place new).length := by
  rw [length_overwrite h]
  exact Nat.le_max_left ..

/-- What stands before the place stays. -/
theorem take_overwrite (h : place ≤ bs.length) (hn : n ≤ place) (new : Bytes) :
    (overwrite bs place new).take n = bs.take n := by
  unfold overwrite
  rw [List.take_append_of_le_length (by rw [List.length_take]; omega), List.take_take,
    Nat.min_eq_left hn]

/-- Up to their end the new bytes stand behind what was before the place. -/
theorem take_overwrite_end (h : place ≤ bs.length) (new : Bytes) :
    (overwrite bs place new).take (place + new.length) = bs.take place ++ new := by
  unfold overwrite
  rw [← List.append_assoc]
  refine List.take_left' ?_
  rw [List.length_append, List.length_take, Nat.min_eq_left h]

/-- Only so many bytes are looked at, and what is written stands among them. -/
theorem take_overwrite_inside (h : place + new.length ≤ n) (hn : n ≤ bs.length) :
    (overwrite bs place new).take n = overwrite (bs.take n) place new := by
  unfold overwrite
  rw [List.take_append, List.take_append, List.take_take, List.take_take, List.drop_take,
    List.length_take, List.take_of_length_le (show new.length ≤ n - min place bs.length by omega)]
  have hleft : n - min place bs.length - new.length = n - (place + new.length) := by omega
  rw [hleft, Nat.min_comm]

theorem drop_overwrite (h : k + place ≤ bs.length) (new : Bytes) :
    (overwrite bs (k + place) new).drop k = overwrite (bs.drop k) place new := by
  unfold overwrite
  rw [List.drop_append_of_le_length (by rw [List.length_take]; omega), List.drop_take,
    List.drop_drop, Nat.add_sub_cancel_left, Nat.add_assoc]

theorem overwrite_between {before old after : Bytes} (h : new.length = old.length) :
    overwrite (before ++ (old ++ after)) before.length new = before ++ (new ++ after) := by
  unfold overwrite
  rw [List.take_left, h, ← List.length_append, ← List.append_assoc before old, List.drop_left]

theorem overwrite_end (hend : bs.length ≤ place + new.length) :
    overwrite bs place new = bs.take place ++ new := by
  unfold overwrite
  rw [List.drop_eq_nil_of_le hend, List.append_nil]

/-- What is there when these bytes have been written, one after the other. -/
def overwriteAll (bs : Bytes) : List Writing → Bytes
  | [] => bs
  | (place, new) :: writings => overwriteAll (overwrite bs place new) writings

/-- No place is behind the end, and none is before this one. -/
def Lands (base : Nat) : Bytes → List Writing → Prop
  | _, [] => True
  | bs, (place, new) :: writings =>
    base ≤ place ∧ place ≤ bs.length ∧ Lands base (overwrite bs place new) writings

theorem Lands.take {writings : List Writing} (h : Lands n bs writings) :
    (overwriteAll bs writings).take n = bs.take n := by
  induction writings generalizing bs with
  | nil => rfl
  | cons w writings ih =>
    obtain ⟨hbase, hplace, hrest⟩ := h
    exact (ih hrest).trans (take_overwrite hplace hbase _)

theorem Lands.length_le {writings : List Writing} (h : Lands n bs writings) :
    bs.length ≤ (overwriteAll bs writings).length := by
  induction writings generalizing bs with
  | nil => exact Nat.le_refl _
  | cons w writings ih =>
    obtain ⟨-, hplace, hrest⟩ := h
    exact Nat.le_trans (length_le_overwrite hplace _) (ih hrest)

end Overwrite

/-! ## Entries -/

/-- The bytes have the entry with these contents. -/
structure Finished.HeldIn (front : Bytes) (f : Finished) (body : Bytes) : Prop where
  stands : ∃ packed, StandsAt f.start f.name packed front ∧ inflate packed = some body
    ∧ f.storedSize = packed.length
  start : f.start ≤ front.length
  name : (Text.toBytes f.name).length < capacity 2
  sum : f.sum = (checksum body).toNat
  storedSize : f.storedSize ≤ wideMark
  size : f.size = body.length
  small : body.length ≤ wideMark

theorem Finished.HeldIn.append {front body : Bytes} {f : Finished} (h : f.HeldIn front body)
    (more : Bytes) : f.HeldIn (front ++ more) body where
  stands := by
    obtain ⟨packed, hstands, hrest⟩ := h.stands
    exact ⟨packed, hstands.append h.start more, hrest⟩
  start := by
    rw [List.length_append]
    exact Nat.le_add_right_of_le h.start
  name := h.name
  sum := h.sum
  storedSize := h.storedSize
  size := h.size
  small := h.small

theorem Finished.HeldIn.take_mono {out body : Bytes} {f : Finished} {n m : Nat}
    (h : f.HeldIn (out.take n) body) (hnm : n ≤ m) : f.HeldIn (out.take m) body := by
  have hmore := h.append ((out.take m).drop n)
  rwa [show out.take n = (out.take m).take n by rw [List.take_take, Nat.min_eq_left hnm],
    List.take_append_drop] at hmore

/-- The bytes end with the open entry: its record, and what has been let out of it. -/
structure Pending.EndsIn (z : Compressor) (front : Bytes) (p : Pending) : Prop where
  stands : front.drop p.start = Builder.localRecord p.name 0 0 0 ++ z.written p.turns
  start : p.start ≤ front.length
  inside : p.inside = p.start + (Builder.localRecord p.name 0 0 0).length
  name : (Text.toBytes p.name).length < capacity 2

/-- The file is an archive, and these are the names and contents of its entries, in order. -/
def Packs (file : Bytes) (contents : List (String × Bytes)) : Prop :=
  ∃ xs : List (Entry × Bytes), Archive.open? file = .ok ⟨file, xs.map (·.1)⟩
    ∧ (∀ x ∈ xs, x.1.open? file = .ok (.ok x.2)) ∧ contents = xs.map fun x => (x.1.name, x.2)

theorem length_toBytes (name : String) : (Text.toBytes name).length = name.utf8ByteSize := by
  simp [Text.toBytes]

/-- The numbers stand in a record after the fields before them. -/
theorem localRecord_eq (name : String) :
    ∃ before after : Bytes, before.length = Builder.sizeOffset
      ∧ ∀ sum storedSize size, Builder.localRecord name sum storedSize size
          = before ++ (writeFields [(4, sum), (4, storedSize), (4, size)] ++ after) := by
  refine ⟨writeFields [(4, localMark), (2, Builder.neededVersion), (2, Builder.flags name),
      (2, Builder.deflateNumber), (2, 0), (2, Builder.firstDay)],
    writeFields [(2, (Text.toBytes name).length), (2, 0)] ++ Text.toBytes name, ?_, ?_⟩
  · simp [writeFields, length_writeNumber, Builder.sizeOffset]
  · intro sum storedSize size
    unfold Builder.localRecord
    dsimp only
    rw [← List.append_assoc, ← List.append_assoc, ← writeFields_append, ← writeFields_append]
    rfl

theorem length_sizeFields (f : Finished) : (Builder.sizeFields f).length = 12 := by
  simp [Builder.sizeFields, writeFields, length_writeNumber]

namespace Builder

variable {z : Compressor} {b b' : Builder} {out : Bytes} {ws : List Writing} {w : Writing}
  {held : List (Finished × Bytes)} {name : String}

/-- The names and contents so far, the entry that is still open last. -/
def contents (b : Builder) (held : List (Finished × Bytes)) : List (String × Bytes) :=
  held.map (fun x => (x.1.name, x.2)) ++ (b.pending.map fun p => (p.name, given p.turns)).toList

/-- Where the entries that are closed end. -/
def base (b : Builder) : Nat := (b.pending.map (·.start)).getD b.position

/-- These bytes are there, and these are the builder's finished entries and their contents. -/
structure Builds (z : Compressor) (b : Builder) (out : Bytes) (held : List (Finished × Bytes)) :
    Prop where
  position : b.position ≤ out.length
  finished : b.finished = held.map (·.1)
  held : ∀ x ∈ held, x.1.HeldIn (out.take b.base) x.2
  pending : ∀ p, b.pending = some p → p.EndsIn z (out.take b.position)
  distinct : b.names.Nodup

theorem contents_of_none (h : b.pending = none) :
    b.contents held = held.map fun x => (x.1.name, x.2) := by
  rw [contents, h]
  exact List.append_nil _

theorem contents_of_some {p : Pending} (h : b.pending = some p) :
    b.contents held = held.map (fun x => (x.1.name, x.2)) ++ [(p.name, given p.turns)] := by
  rw [contents, h]
  rfl

theorem names_eq (h : b.finished = held.map (·.1)) :
    b.names = (b.contents held).map (·.1) := by
  unfold names contents
  rw [h, List.map_map, List.map_append, List.map_map]
  cases b.pending with
  | none => rfl
  | some p => rfl

theorem names_of_none (h : b.pending = none) : b.names = b.finished.map (·.name) := by
  rw [names, h]
  exact List.append_nil _

theorem base_of_none (h : b.pending = none) : b.base = b.position := by
  rw [base, h]
  rfl

theorem base_of_some {p : Pending} (h : b.pending = some p) : b.base = p.start := by
  rw [base, h]
  rfl

theorem not_overfull_of_none (h : b.pending = none) : ¬ b.Overfull := by
  rintro ⟨p, hp, -⟩
  rw [h] at hp
  cases hp

theorem builds_empty (z : Compressor) : Builds z {} [] [] where
  position := Nat.le_refl 0
  finished := rfl
  held := nofun
  pending := nofun
  distinct := .nil

/-- The open entry ends where the next bytes go. -/
theorem Builds.position_eq (h : Builds z b out held) {p : Pending} (hp : b.pending = some p) :
    b.position = p.inside + (z.written p.turns).length ∧ p.start ≤ b.position := by
  have hends := h.pending p hp
  have hlength := congrArg List.length hends.stands
  have hstart := hends.start
  rw [List.length_drop, List.length_append] at hlength
  rw [List.length_take, Nat.min_eq_left h.position] at hlength hstart
  rw [hends.inside]
  omega

theorem Builds.base_le (h : Builds z b out held) : b.base ≤ b.position := by
  cases hp : b.pending with
  | none => exact Nat.le_of_eq (base_of_none hp)
  | some p =>
    rw [base_of_some hp]
    exact (h.position_eq hp).2

/-! ## Steps -/

/-- What becomes of the open entry when it is closed. -/
def closed (z : Compressor) (p : Pending) : Finished where
  name := p.name
  sum := (checksum (given p.turns)).toNat
  storedSize := (z.packed p.turns).length
  size := (given p.turns).length
  start := p.start

/-- The record has room for the numbers that are put into it. -/
theorem sizeOffset_lt {front : Bytes} {p : Pending} (h : p.EndsIn z front) (f : Finished) :
    p.start + sizeOffset + (sizeFields f).length ≤ front.length := by
  obtain ⟨before, after, hbefore, hrecord⟩ := localRecord_eq p.name
  have hlength := congrArg List.length h.stands
  have hstart := h.start
  rw [List.length_drop, List.length_append, hrecord, List.length_append, List.length_append,
    hbefore] at hlength
  have hzeros : (writeFields [(4, 0), (4, 0), (4, 0)]).length = 12 := by
    simp [writeFields, length_writeNumber]
  rw [length_sizeFields]
  omega

/-- The open entry with its last bytes behind it and its numbers put into its record. -/
def completed (z : Compressor) (p : Pending) (front : Bytes) : Bytes :=
  overwrite (front ++ z.last p.turns) (p.start + sizeOffset) (sizeFields (closed z p))

theorem heldIn_completed {front : Bytes} {p : Pending} (h : p.EndsIn z front)
    (hstored : (z.packed p.turns).length ≤ wideMark) (hsmall : (given p.turns).length ≤ wideMark) :
    (closed z p).HeldIn (completed z p front) (given p.turns) := by
  have hroom := sizeOffset_lt h (closed z p)
  have hplace : p.start + sizeOffset ≤ (front ++ z.last p.turns).length := by
    rw [List.length_append]
    omega
  obtain ⟨before, after, hbefore, hrecord⟩ := localRecord_eq p.name
  have hdrop : (front ++ z.last p.turns).drop p.start = before
      ++ (writeFields [(4, 0), (4, 0), (4, 0)] ++ (after ++ z.packed p.turns)) := by
    rw [List.drop_append_of_le_length h.start, h.stands, hrecord]
    simp only [Compressor.packed, List.append_assoc]
  have hsame : (sizeFields (closed z p)).length
      = (writeFields [(4, 0), (4, 0), (4, 0)]).length := by
    rw [length_sizeFields]
    simp [writeFields, length_writeNumber]
  -- the numbers take the place of the zeros, and all else stands as it stood
  have hafter : (completed z p front).drop p.start = localRecord p.name (closed z p).sum
      (closed z p).storedSize (closed z p).size ++ (z.packed p.turns ++ []) := by
    rw [completed, drop_overwrite hplace, hdrop, ← hbefore, overwrite_between hsame, hrecord]
    simp only [sizeFields, List.append_assoc, List.append_nil]
  refine ⟨⟨z.packed p.turns, ?_, z.inflate_packed p.turns, rfl⟩, ?_, h.name, rfl, hstored, rfl,
    hsmall⟩
  · exact ⟨_, _, _, [], UInt32.toNat_lt _, Nat.lt_of_le_of_lt hstored (by decide),
      Nat.lt_of_le_of_lt hsmall (by decide), hafter⟩
  · have hlong := length_le_overwrite hplace (sizeFields (closed z p))
    rw [List.length_append] at hlong
    exact Nat.le_trans (Nat.le_trans h.start (Nat.le_add_right ..)) hlong

/-- What closing the open entry writes completes it. -/
theorem Builds.lands_close (h : Builds z b out held) {p : Pending} (hp : b.pending = some p) :
    Lands b.base out [(b.position, z.last p.turns),
        (p.start + sizeOffset, sizeFields (closed z p))]
      ∧ (overwriteAll out [(b.position, z.last p.turns),
          (p.start + sizeOffset, sizeFields (closed z p))]).take
            (b.position + (z.last p.turns).length) = completed z p (out.take b.position) := by
  have hroom := sizeOffset_lt (h.pending p hp) (closed z p)
  rw [List.length_take, Nat.min_eq_left h.position] at hroom
  have hlength := length_overwrite h.position (z.last p.turns)
  have htake := take_overwrite_inside
    (Nat.le_trans hroom (Nat.le_add_right b.position (z.last p.turns).length))
    (show _ ≤ (overwrite out b.position (z.last p.turns)).length by omega)
  rw [take_overwrite_end h.position] at htake
  refine ⟨⟨h.base_le, h.position, ?_, ?_, trivial⟩, htake⟩
  · rw [base_of_some hp]
    exact Nat.le_add_right ..
  · omega

/-- Closing finishes the open entry. -/
theorem Builds.close (h : Builds z b out held) (hfits : ¬ b.Overfull)
    (hclose : b.close z = .ok (ws, b')) :
    Lands b.base out ws ∧ b'.pending = none
      ∧ ∃ held', Builds z b' (overwriteAll out ws) held' ∧ b'.contents held' = b.contents held := by
  unfold Builder.close at hclose
  cases hp : b.pending with
  | none =>
    rw [hp] at hclose
    cases hclose
    exact ⟨trivial, hp, held, h, rfl⟩
  | some p =>
    rw [hp] at hclose
    dsimp only at hclose
    -- how far it is to the end of the contents is how many bytes they take
    have hstored : b.position + (z.last p.turns).length - p.inside = (z.packed p.turns).length := by
      have hposition := (h.position_eq hp).1
      rw [Compressor.packed, List.length_append]
      omega
    have hclosed : (⟨p.name, (checksum (given p.turns)).toNat, (z.packed p.turns).length,
        (given p.turns).length, p.start⟩ : Finished) = closed z p := rfl
    rw [hstored, hclosed] at hclose
    split at hclose
    · cases hclose
    rename_i hsmall
    cases hclose
    obtain ⟨hlands, hafter⟩ := h.lands_close hp
    have hheld := heldIn_completed (h.pending p hp) (Nat.not_lt.1 hsmall)
      (Nat.not_lt.1 fun hlarge => hfits ⟨p, hp, hlarge⟩)
    rw [← hafter] at hheld
    refine ⟨hlands, rfl, held ++ [(closed z p, given p.turns)], ⟨?_, ?_, ?_, nofun, ?_⟩, ?_⟩
    · have hlength := length_overwrite h.position (z.last p.turns)
      have hlong := Lands.length_le hlands.2.2
      dsimp only at hlong ⊢
      exact Nat.le_trans (by omega) hlong
    · rw [List.map_append, h.finished]
      rfl
    · intro x hx
      rw [base_of_none rfl]
      rcases List.mem_append.1 hx with hx | hx
      · have hkept := h.held x hx
        rw [← hlands.take] at hkept
        exact hkept.take_mono (Nat.le_trans h.base_le (Nat.le_add_right ..))
      · rw [List.mem_singleton.1 hx]
        exact hheld
    · have hnames := h.distinct
      unfold names at hnames ⊢
      rw [hp] at hnames
      rw [List.map_append]
      simpa [closed] using hnames
    · rw [contents_of_some hp, contents_of_none rfl, List.map_append]
      rfl

/-- A new entry is begun behind what is there. -/
theorem Builds.begin (h : Builds z b out held) (hnone : b.pending = none)
    (hbegin : b.begin name = .ok (w, b')) :
    Lands b.base out [w] ∧ Builds z b' (overwriteAll out [w]) held
      ∧ ∃ p, b'.pending = some p ∧ p.name = name ∧ p.turns = [] := by
  unfold Builder.begin at hbegin
  split at hbegin
  · cases hbegin
  rename_i hnew
  split at hbegin
  · cases hbegin
  rename_i hshort
  cases hbegin
  have hplace := h.position
  have hbase := base_of_none hnone
  have hlands : Lands b.base out [(b.position, localRecord name 0 0 0)] :=
    ⟨Nat.le_of_eq hbase, hplace, trivial⟩
  have hfront := take_overwrite_end hplace (localRecord name 0 0 0)
  have hlength := length_overwrite hplace (localRecord name 0 0 0)
  refine ⟨hlands, ⟨?_, h.finished, fun x hx => ?_, fun p hp => ?_, ?_⟩, _, rfl, rfl, rfl⟩
  · dsimp only [overwriteAll]
    omega
  · have hkept := h.held x hx
    rw [← hlands.take, hbase] at hkept
    exact hkept
  · cases hp
    refine ⟨?_, ?_, rfl, ?_⟩
    · dsimp only [overwriteAll]
      rw [hfront, List.drop_left' (by rw [List.length_take, Nat.min_eq_left hplace])]
      exact (List.append_nil _).symm
    · dsimp only [overwriteAll]
      rw [hfront, List.length_append, List.length_take]
      omega
    · rw [length_toBytes]
      exact Nat.lt_of_le_of_lt (Nat.not_lt.1 hshort) (by decide)
  · have hfresh : name ∉ b.names := fun hin => hnew (List.contains_iff_mem.2 hin)
    have hdistinct := h.distinct
    rw [names_of_none hnone] at hfresh hdistinct
    unfold names
    refine List.nodup_append.2 ⟨hdistinct, by simp, ?_⟩
    rintro n hn m hm rfl
    have hsame : n = name := List.mem_singleton.1 hm
    exact hfresh (hsame ▸ hn)

/-- The compressor has its turn with the entry that is open. -/
theorem Builds.turn {t : Turn} (h : Builds z b out held) (hturn : b.turn z t = some (w, b')) :
    Lands b.base out [w] ∧ Builds z b' (overwriteAll out [w]) held
      ∧ ∃ p, b.pending = some p ∧ b'.pending = some { p with turns := t :: p.turns } := by
  unfold Builder.turn at hturn
  obtain ⟨p, hp, he⟩ := Option.map_eq_some_iff.1 hturn
  cases he
  have hends := h.pending p hp
  obtain ⟨-, hstart⟩ := h.position_eq hp
  have hplace := h.position
  have hbase := base_of_some hp
  have hlands : Lands b.base out [(b.position, z.out p.turns t)] :=
    ⟨h.base_le, hplace, trivial⟩
  have hfront := take_overwrite_end hplace (z.out p.turns t)
  have hlength := length_overwrite hplace (z.out p.turns t)
  refine ⟨hlands, ⟨?_, h.finished, fun x hx => ?_, fun q hq => ?_, ?_⟩, p, hp, rfl⟩
  · dsimp only [overwriteAll]
    omega
  · have hkept := h.held x hx
    rw [← hlands.take, hbase] at hkept
    exact hkept
  · cases hq
    dsimp only [overwriteAll]
    rw [hfront]
    refine ⟨?_, ?_, hends.inside, hends.name⟩
    · rw [List.drop_append_of_le_length hends.start, hends.stands, z.written_cons, List.append_assoc]
    · rw [List.length_append]
      exact Nat.le_add_right_of_le hends.start
  · have hdistinct := h.distinct
    unfold names at hdistinct ⊢
    rw [hp] at hdistinct
    exact hdistinct

/-- Giving up the open entry leaves the finished ones, which stand where they stood. -/
theorem Builds.giveUp (h : Builds z b out held) :
    Lands b.base out (b.giveUp z).1 ∧ (b.giveUp z).2.pending = none
      ∧ Builds z (b.giveUp z).2 (overwriteAll out (b.giveUp z).1) held := by
  unfold Builder.giveUp
  cases hp : b.pending with
  | none => exact ⟨trivial, hp, h⟩
  | some p =>
    obtain ⟨-, hstart⟩ := h.position_eq hp
    have hbase := base_of_some hp
    have hlands : Lands b.base out [(b.position, z.last p.turns)] :=
      ⟨h.base_le, h.position, trivial⟩
    refine ⟨hlands, rfl, ⟨?_, h.finished, fun x hx => ?_, nofun, ?_⟩⟩
    · exact Nat.le_trans (Nat.le_trans hstart h.position) hlands.length_le
    · have hkept := h.held x hx
      rw [← hlands.take, hbase] at hkept
      exact hkept
    · rw [names_of_none rfl]
      exact (List.nodup_append.1 h.distinct).1

/-! ## The end -/

theorem fits_of_heldIn {f : Finished} {front body : Bytes} (h : f.HeldIn front body)
    (hlength : front.length < capacity 8) : f.Fits where
  name := h.name
  sum := by
    rw [h.sum]
    exact UInt32.toNat_lt _
  storedSize := Nat.lt_of_le_of_lt h.storedSize (by decide)
  size := by
    rw [h.size]
    exact Nat.lt_of_le_of_lt h.small (by decide)
  start := Nat.lt_of_le_of_lt h.start hlength

/-- **What was built can be opened**, with every entry and its contents in order, if the directory
comes anywhere behind the entries. -/
theorem Builds.packs (h : Builds z b out held) (hnone : b.pending = none) (front : Bytes)
    (hfront : front.take b.position = out.take b.position)
    (hlength : front.length + (b.ending front.length).length < capacity 8) :
    Packs (front ++ b.ending front.length) (b.contents held) := by
  have hending : front ++ b.ending front.length = front ++ directory b.finished
      ++ endRecords b.finished.length (directory b.finished).length front.length :=
    (List.append_assoc ..).symm
  have hroom : front.length + (directory b.finished).length < capacity 8 := by
    have hparts := congrArg List.length hending
    rw [List.length_append, List.length_append, List.length_append] at hparts
    omega
  have hheld : ∀ x ∈ held, x.1.HeldIn front x.2 := by
    intro x hx
    have hkept := h.held x hx
    rw [base_of_none hnone, ← hfront] at hkept
    have hmore := hkept.append (front.drop b.position)
    rwa [List.take_append_drop] at hmore
  have hfits : ∀ f ∈ b.finished, f.Fits := by
    rw [h.finished]
    intro f hf
    obtain ⟨x, hx, rfl⟩ := List.mem_map.1 hf
    exact fits_of_heldIn (hheld x hx) (by omega)
  have hnames : (b.finished.map (·.name)).Nodup := by
    rw [← names_of_none hnone]
    exact h.distinct
  have hopen := open?_directory b.finished front hfits hnames hroom
  rw [← hending] at hopen
  refine ⟨held.map fun x => (x.1.entry, x.2), ?_, ?_, ?_⟩
  · rw [hopen, h.finished, List.map_map, List.map_map]
    rfl
  · intro y hy
    obtain ⟨x, hx, rfl⟩ := List.mem_map.1 hy
    have hx := (hheld x hx).append (b.ending front.length)
    obtain ⟨packed, hstands, hinflate, hstored⟩ := hx.stands
    exact open?_of_standsAt hx.name hstands hinflate hx.sum hstored
  · rw [contents_of_none hnone, List.map_map]
    rfl

theorem length_ending (b : Builder) (start : Nat) :
    (b.ending start).length = (b.finished.flatMap directoryRecord).length
      + (endRecords b.finished.length (b.finished.flatMap directoryRecord).length start).length :=
  List.length_append

theorem endLength_le (b : Builder) (start : Nat) : endLength ≤ (b.ending start).length := by
  rw [length_ending]
  refine Nat.le_add_left_of_le ?_
  unfold endRecords
  rw [List.length_append]
  refine Nat.le_add_left_of_le (Nat.le_of_eq ?_)
  exact (length_endRow _ _ _).symm

/-- The end does not get shorter when it comes later. -/
theorem length_ending_mono (b : Builder) {start later : Nat} (h : start ≤ later) :
    (b.ending start).length ≤ (b.ending later).length := by
  rw [length_ending, length_ending]
  refine Nat.add_le_add_left ?_ _
  generalize (b.finished.flatMap directoryRecord).length = size
  by_cases hwide : Wide b.finished.length size start
  · have hlater : Wide b.finished.length size later :=
      hwide.imp_right (Or.imp_right fun hstart => Nat.le_trans hstart h)
    rw [endRecords_wide hwide, endRecords_wide hlater]
    simp only [List.length_append, length_wideEndRow, length_locatorRow, length_endRow, Nat.le_refl]
  · rw [endRecords_narrow hwide, length_endRow]
    by_cases hlater : Wide b.finished.length size later
    · rw [endRecords_wide hlater]
      simp only [List.length_append, length_wideEndRow, length_locatorRow, length_endRow]
      omega
    · exact Nat.le_of_eq (by rw [endRecords_narrow hlater, length_endRow])

end Builder

end SpecCatalog.Archive
