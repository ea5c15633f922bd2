import SpecCatalog.Archive.Compressor
import SpecCatalog.Archive.Fields

/-!
# Contents in stored blocks

The simplest compressor keeps contents back until they are demanded or end, and puts them into
blocks that are stored as they are. A block holds 65535 bytes at most. An empty block that is
marked as the last one ends the contents.

Reading such blocks gives back what is in them (`inflate_stored`), since each begins at a whole
byte: `number_bitsOf` reads the fields of a block, `mapM_number` its bytes.
-/

namespace SpecCatalog.Archive

/-! ## Blocks -/

/-- Bytes without their code: how many there are, and that number inverted, for a check. -/
def storedBlock (last : Bool) (chunk : Bytes) : Bytes :=
  UInt8.ofNat last.toNat ::
    (writeNumber 2 chunk.length ++ (writeNumber 2 (0xFFFF - chunk.length) ++ chunk))

/-- Cuts bytes into parts that a block can hold. Each round takes a byte at least. -/
def chunks : Nat → Bytes → List Bytes
  | 0, _ => []
  | fuel + 1, bs =>
    if bs.isEmpty then [] else bs.take 0xFFFF :: chunks fuel (bs.drop 0xFFFF)

/-- The bytes in blocks, after which others come. -/
def storedBlocks (bs : Bytes) : Bytes := (chunks bs.length bs).flatMap (storedBlock false)

/-- What was given since the last flush. -/
def waiting : List Turn → Bytes
  | [] => []
  | .more bs :: turns => waiting turns ++ bs
  | .flush :: _ => []

theorem flatten_chunks {fuel : Nat} {bs : Bytes} (h : bs.length ≤ fuel) :
    (chunks fuel bs).flatten = bs := by
  induction fuel generalizing bs with
  | zero => exact (List.length_eq_zero_iff.1 (Nat.le_zero.1 h)).symm
  | succ fuel ih =>
    rw [chunks]
    split
    · rename_i hempty
      exact (List.isEmpty_iff.1 hempty).symm
    · rename_i hsome
      have hpos : 0 < bs.length := List.length_pos_iff.2 fun he => hsome (List.isEmpty_iff.2 he)
      rw [List.flatten_cons, ih (by rw [List.length_drop]; omega), List.take_append_drop]

theorem length_of_mem_chunks {fuel : Nat} {bs chunk : Bytes} (h : chunk ∈ chunks fuel bs) :
    chunk.length ≤ 0xFFFF := by
  induction fuel generalizing bs with
  | zero => cases h
  | succ fuel ih =>
    rw [chunks] at h
    split at h
    · cases h
    · rcases List.mem_cons.1 h with rfl | h
      · rw [List.length_take]
        exact Nat.min_le_left ..
      · exact ih h

/-! ## Reading blocks -/

namespace Inflate

variable {α β : Type} {bits rest : Bits}

/-- After a step the next one goes on with the bits that are left. -/
theorem step_bind {x : Step α} {f : α → Step β} {a : α} (h : x bits = some (a, rest)) :
    (x >>= f) bits = f a rest := by
  change (x bits >>= fun r => f r.1 r.2) = _
  rw [h]
  rfl

/-- The number that bits stand for, the lowest first. -/
def value : Bits → Nat
  | [] => 0
  | b :: bits => b.toNat + 2 * value bits

theorem number_append (bits rest : Bits) :
    number bits.length (bits ++ rest) = some (value bits, rest) := by
  induction bits with
  | nil => rfl
  | cons b bits ih =>
    change (number bits.length (bits ++ rest)).map _ = _
    rw [ih]
    rfl

theorem value_append (bits more : Bits) :
    value (bits ++ more) = value bits + Nat.pow 2 bits.length * value more := by
  induction bits with
  | nil =>
    rw [List.nil_append, value, Nat.zero_add]
    exact (Nat.one_mul _).symm
  | cons b bits ih =>
    have hpow : Nat.pow 2 (b :: bits).length = 2 * Nat.pow 2 bits.length := Nat.mul_comm ..
    rw [List.cons_append, value, ih, hpow, value, Nat.mul_add, Nat.mul_assoc, Nat.add_assoc]

theorem length_bitsOfByte (b : UInt8) : (bitsOfByte b).length = 8 := rfl

theorem value_bitsOfByte (b : UInt8) : value (bitsOfByte b) = b.toNat := by
  have hall : ∀ n < 256, value (bitsOfByte (UInt8.ofNat n)) = n := by decide +kernel
  have hb := hall b.toNat b.toNat_lt
  rwa [UInt8.ofNat_toNat] at hb

theorem length_bitsOf (bs : Bytes) : (bitsOf bs).length = 8 * bs.length := by
  induction bs with
  | nil => rfl
  | cons b bs ih =>
    rw [bitsOf, List.flatMap_cons, List.length_append, length_bitsOfByte, ← bitsOf, ih,
      List.length_cons, Nat.mul_add, Nat.add_comm]

theorem bitsOf_append (bs more : Bytes) : bitsOf (bs ++ more) = bitsOf bs ++ bitsOf more :=
  List.flatMap_append

theorem value_bitsOf (bs : Bytes) : value (bitsOf bs) = readNumber bs := by
  induction bs with
  | nil => rfl
  | cons b bs ih =>
    rw [bitsOf, List.flatMap_cons, value_append, value_bitsOfByte, length_bitsOfByte, ← bitsOf, ih]
    rfl

/-- The bits of a number that was written in bytes. -/
theorem number_bitsOf (width : Nat) {n : Nat} (h : n < capacity width) (rest : Bits) :
    number (8 * width) (bitsOf (writeNumber width n) ++ rest) = some (n, rest) := by
  have hread := number_append (bitsOf (writeNumber width n)) rest
  rwa [length_bitsOf, length_writeNumber, value_bitsOf, readNumber_writeNumber h] at hread

/-- Bytes are read one after the other. -/
theorem mapM_number (bs : Bytes) (rest : Bits) :
    ((List.replicate bs.length 8).mapM number) (bitsOf bs ++ rest)
      = some (bs.map (·.toNat), rest) := by
  induction bs with
  | nil => rfl
  | cons b bs ih =>
    have hfirst := number_append (bitsOfByte b) (bitsOf bs ++ rest)
    rw [length_bitsOfByte, value_bitsOfByte] at hfirst
    rw [List.length_cons, List.replicate_succ, List.mapM_cons, bitsOf, List.flatMap_cons, ← bitsOf,
      List.append_assoc, step_bind hfirst, step_bind ih]
    rfl

variable {chunk bs : Bytes}

/-- What stands in a stored block comes out behind what came out before. -/
theorem storedBlock_eq (h : chunk.length ≤ 0xFFFF) (bs : Bytes) (out : Array UInt8) (padding : Bits)
    (hpadding : padding.length < 8) :
    Inflate.storedBlock out (padding ++ bitsOf (writeNumber 2 chunk.length
        ++ (writeNumber 2 (0xFFFF - chunk.length) ++ (chunk ++ bs))))
      = some (out ++ chunk.toArray, bitsOf bs) := by
  have hskip : ∀ bytes, (padding ++ bitsOf bytes).drop ((padding ++ bitsOf bytes).length % 8)
      = bitsOf bytes := by
    intro bytes
    have hlength : (padding ++ bitsOf bytes).length % 8 = padding.length := by
      rw [List.length_append, length_bitsOf]
      omega
    rw [hlength, List.drop_left]
  have hmodify : ∀ bytes, (modify fun bits => bits.drop (bits.length % 8) : Step Unit)
      (padding ++ bitsOf bytes) = some ((), bitsOf bytes) := by
    intro bytes
    exact congrArg (fun bits => some ((), bits)) (hskip bytes)
  have hlength := number_bitsOf 2 (n := chunk.length) (Nat.lt_of_le_of_lt h (by decide))
    (bitsOf (writeNumber 2 (0xFFFF - chunk.length) ++ (chunk ++ bs)))
  have hinverse := number_bitsOf 2 (n := 0xFFFF - chunk.length)
    (Nat.lt_of_le_of_lt (Nat.sub_le ..) (by decide)) (bitsOf (chunk ++ bs))
  have hbytes := mapM_number chunk (bitsOf bs)
  rw [← bitsOf_append] at hlength hinverse hbytes
  have hsum : ¬ chunk.length + (0xFFFF - chunk.length) ≠ 0xFFFF := by omega
  have hchunk : ((chunk.map (·.toNat)).map UInt8.ofNat).toArray = chunk.toArray := by
    simp [Function.comp_def]
  unfold Inflate.storedBlock
  rw [step_bind (hmodify _), step_bind hlength, step_bind hinverse, if_neg hsum, step_bind hbytes,
    hchunk]
  rfl

/-- A block that is stored is read, and if it is not the last one, the others after it are. -/
theorem blocks_storedBlock (last : Bool) (h : chunk.length ≤ 0xFFFF) (bs : Bytes) (fuel : Nat)
    (out : Array UInt8) :
    blocks (fuel + 1) out (bitsOf (Archive.storedBlock last chunk ++ bs))
      = if last then some (out ++ chunk.toArray, bitsOf bs)
        else blocks fuel (out ++ chunk.toArray) (bitsOf bs) := by
  have hblock := storedBlock_eq h bs out (List.replicate 5 false) (by decide)
  have hmark : ∀ rest, number 1 (bitsOfByte (UInt8.ofNat last.toNat) ++ rest)
      = some (last.toNat, List.replicate 2 false ++ (List.replicate 5 false ++ rest)) := by
    intro rest
    cases last with
    | false => rfl
    | true => rfl
  have hkind : ∀ rest, number 2 (List.replicate 2 false ++ rest) = some (0, rest) := fun _ => rfl
  have hbits : bitsOf (Archive.storedBlock last chunk ++ bs)
      = bitsOfByte (UInt8.ofNat last.toNat) ++ bitsOf (writeNumber 2 chunk.length
          ++ (writeNumber 2 (0xFFFF - chunk.length) ++ (chunk ++ bs))) := by
    rw [Archive.storedBlock, List.cons_append, List.append_assoc, List.append_assoc]
    rfl
  rw [hbits, blocks, step_bind (hmark _), step_bind (hkind _), block, if_pos rfl, step_bind hblock]
  cases last with
  | false => rfl
  | true => rfl

/-- Blocks that are stored are read one after the other. -/
theorem blocks_stored {cs : List Bytes} (h : ∀ c ∈ cs, c.length ≤ 0xFFFF) (out : Array UInt8)
    {fuel : Nat} (hfuel : cs.length < fuel) :
    blocks fuel out (bitsOf (cs.flatMap (Archive.storedBlock false) ++ Archive.storedBlock true []))
      = some (out ++ cs.flatten.toArray, []) := by
  induction cs generalizing out fuel with
  | nil =>
    obtain ⟨fuel, rfl⟩ := Nat.exists_eq_add_one_of_ne_zero (Nat.ne_of_gt hfuel)
    have hempty : ([] : Bytes).length ≤ 0xFFFF := Nat.zero_le _
    have hlast := blocks_storedBlock true hempty [] fuel out
    rw [List.append_nil] at hlast
    exact hlast
  | cons c cs ih =>
    obtain ⟨fuel, rfl⟩ := Nat.exists_eq_add_one_of_ne_zero (Nat.ne_of_gt (Nat.zero_lt_of_lt hfuel))
    rw [List.forall_mem_cons] at h
    rw [List.flatMap_cons, List.append_assoc, blocks_storedBlock false h.1, if_neg Bool.false_ne_true,
      ih h.2 _ (Nat.lt_of_succ_lt_succ hfuel), List.flatten_cons]
    simp only [Array.append_assoc, List.append_toArray]

end Inflate

/-- **Stored blocks hold what was put into them.** -/
theorem inflate_stored (cs : List Bytes) (h : ∀ c ∈ cs, c.length ≤ 0xFFFF) :
    inflate (cs.flatMap (storedBlock false) ++ storedBlock true []) = some cs.flatten := by
  -- there are more bits than blocks, so the rounds are enough
  have hfuel : cs.length
      < (Inflate.bitsOf (cs.flatMap (storedBlock false) ++ storedBlock true [])).length + 1 := by
    have hblocks : cs.length ≤ (cs.flatMap (storedBlock false)).length := by
      clear h
      induction cs with
      | nil => exact Nat.le_refl 0
      | cons c cs ih =>
        rw [List.flatMap_cons, List.length_append, storedBlock, List.length_cons, List.length_cons]
        omega
    rw [Inflate.length_bitsOf, List.length_append]
    omega
  have hread := Inflate.blocks_stored h #[] hfuel
  unfold inflate
  change ((Inflate.blocks _ #[]) _).map _ = _
  rw [hread]
  simp

/-! ## The compressor -/

/-- What comes out at a turn: at a flush, all that was kept back. -/
def storedAt (turns : List Turn) : Turn → Bytes
  | .more _ => []
  | .flush => storedBlocks (waiting turns)

/-- What has come out are blocks, and with what is kept back they hold what was given. -/
theorem exists_blocks (turns : List Turn) :
    ∃ cs : List Bytes, cameOut storedAt turns = cs.flatMap (storedBlock false)
      ∧ (∀ c ∈ cs, c.length ≤ 0xFFFF) ∧ cs.flatten ++ waiting turns = given turns := by
  induction turns with
  | nil => exact ⟨[], rfl, nofun, rfl⟩
  | cons turn turns ih =>
    obtain ⟨cs, hout, hshort, hgiven⟩ := ih
    cases turn with
    | more bs =>
      refine ⟨cs, ?_, hshort, ?_⟩
      · rw [cameOut, hout]
        exact List.append_nil _
      · rw [waiting, given, ← hgiven, List.append_assoc]
    | flush =>
      refine ⟨cs ++ chunks (waiting turns).length (waiting turns), ?_, ?_, ?_⟩
      · rw [cameOut, hout, List.flatMap_append]
        rfl
      · intro c hc
        rcases List.mem_append.1 hc with hc | hc
        · exact hshort c hc
        · exact length_of_mem_chunks hc
      · rw [List.flatten_append, flatten_chunks (Nat.le_refl _), hgiven]
        exact List.append_nil _

/-- **Storing is a way to compress.** -/
def storing : Compressor where
  out := storedAt
  last turns := storedBlocks (waiting turns) ++ storedBlock true []
  inflate_out turns := by
    obtain ⟨cs, hout, hshort, hgiven⟩ := exists_blocks turns
    have hall := inflate_stored (cs ++ chunks (waiting turns).length (waiting turns)) <| by
      intro c hc
      rcases List.mem_append.1 hc with hc | hc
      · exact hshort c hc
      · exact length_of_mem_chunks hc
    rw [List.flatMap_append, List.append_assoc, List.flatten_append, flatten_chunks (Nat.le_refl _),
      hgiven] at hall
    rw [hout]
    exact hall

end SpecCatalog.Archive
