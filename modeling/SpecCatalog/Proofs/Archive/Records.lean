import SpecCatalog.Archive.Builder
import SpecCatalog.Proofs.Text.Lossless

/-!
# Records of built archives

A reader gets back what the builder put into the records of an entry: from the one in the
directory the entry itself (`readRecord_directoryRecord`), and from the one before the contents
the way to them (`open?_of_standsAt`).
-/

namespace SpecCatalog.Archive

variable {f : Finished} {body rest : Bytes} {name : String}

/-! ## Names -/

theorem codePage437Char_ofNat {c : Char} (h : c.toNat < 128) :
    codePage437Char (UInt8.ofNat c.toNat) = c := by
  have hb := Text.toNat_ofNat (show c.toNat < 256 by omega)
  unfold codePage437Char
  rw [if_pos, hb]
  · exact Char.ofNat_toNat c
  · rw [UInt8.lt_iff_toNat_lt, hb]
    exact h

theorem utf8EncodeChar_ascii {c : Char} (h : c.toNat < 128) :
    String.utf8EncodeChar c = [UInt8.ofNat c.toNat] := by
  unfold String.utf8EncodeChar
  exact if_pos (Nat.le_of_lt_succ h)

theorem map_codePage437Char {cs : List Char} (h : ∀ c ∈ cs, c.toNat < 128) :
    (cs.flatMap String.utf8EncodeChar).map codePage437Char = cs := by
  induction cs with
  | nil => rfl
  | cons c cs ih =>
    rw [List.forall_mem_cons] at h
    rw [List.flatMap_cons, utf8EncodeChar_ascii h.1, List.map_append, ih h.2,
      List.map_singleton, codePage437Char_ofNat h.1, List.singleton_append]

theorem ofCodePage437_ascii (h : ∀ c ∈ name.toList, c.toNat < 128) :
    ofCodePage437 (Text.toBytes name) = name := by
  rw [ofCodePage437, Text.toBytes_eq, map_codePage437Char h, String.ofList_toList]

/-- The flags make a reader take the name as it was meant. -/
theorem entryText_flags (name : String) :
    entryText ((Builder.flags name).testBit 11) (Text.toBytes name) = name := by
  unfold Builder.flags
  split
  · -- without the flag a reader takes code page 437, which begins like ASCII
    rename_i h
    have hascii : ∀ c ∈ name.toList, c.toNat < 128 := by
      simpa only [List.all_eq_true, decide_eq_true_eq] using h
    exact ofCodePage437_ascii hascii
  · exact Text.ofBytesLossy_toBytes name

theorem flags_encrypted (name : String) : (Builder.flags name).testBit 0 = false := by
  unfold Builder.flags
  split
  · rfl
  · rfl

theorem flags_lt (name : String) : Builder.flags name < capacity 2 := by
  unfold Builder.flags
  split
  · decide
  · decide

/-! ## Records of the directory -/

/-- The entry that a record of the directory stands for. -/
def Finished.entry (f : Finished) : Entry where
  name := f.name
  encrypted := false
  method := .deflated
  sealedContents := false
  sum := f.sum
  storedSize := f.storedSize
  size := f.size
  start := f.start

/-- The numbers of an entry fit into its records. -/
structure Finished.Fits (f : Finished) : Prop where
  name : (Text.toBytes f.name).length < capacity 2
  sum : f.sum < capacity 4
  storedSize : f.storedSize < capacity 4
  size : f.size < capacity 4
  start : f.start < capacity 8

theorem cut_append (before rest : Bytes) :
    cut before.length (before ++ rest) = .ok (before, rest) := by
  unfold cut
  rw [if_neg (by simp), List.take_left, List.drop_left]

theorem cut_zero (rest : Bytes) : cut 0 rest = .ok ([], rest) := cut_append [] rest

/-- The row of a wide extra field. -/
def wideRow (f : Finished) : List (Nat × Nat) :=
  [(2, 1), (2, 24), (8, f.size), (8, f.storedSize), (8, f.start)]

theorem extraFields_nil (fuel : Nat) (d : Draft) : extraFields fuel d [] = .ok d := by
  cases fuel with
  | zero => rfl
  | succ fuel => rfl

theorem writeFields_append (row row' : List (Nat × Nat)) :
    writeFields (row ++ row') = writeFields row ++ writeFields row' := by
  induction row with
  | nil => rfl
  | cons e row ih => rw [List.cons_append, writeFields, ih, writeFields, List.append_assoc]

/-- One number at a time. -/
theorem readFields_one {width n : Nat} (h : n < capacity width) (row : List (Nat × Nat)) :
    readFields [width] (writeFields ((width, n) :: row)) = some ([n], writeFields row) := by
  have hread := readFields_writeFields [(width, n)] (writeFields row)
    (List.forall_mem_singleton.2 h)
  rw [← writeFields_append] at hread
  exact hread

theorem extraFields_wideRow (h : f.Fits) (fuel : Nat) (d : Draft) :
    extraFields (fuel + 1) d (writeFields (wideRow f))
      = .ok { d with
          entry.size := f.size
          entry.storedSize := f.storedSize
          entry.start := f.start } := by
  have hsize : f.size < capacity 8 := Nat.lt_of_lt_of_le h.size (by decide)
  have hstored : f.storedSize < capacity 8 := Nat.lt_of_lt_of_le h.storedSize (by decide)
  have hkind : readFields [2, 2] (writeFields (wideRow f)) =
      some ([1, 24], writeFields [(8, f.size), (8, f.storedSize), (8, f.start)]) := by
    have hread := readFields_writeFields [(2, 1), (2, 24)]
      (writeFields [(8, f.size), (8, f.storedSize), (8, f.start)])
      (List.forall_mem_cons.2 ⟨by decide, List.forall_mem_singleton.2 (by decide)⟩)
    rw [← writeFields_append] at hread
    exact hread
  -- 24 bytes hold all three numbers, so each is read whether the record wants it or not
  have hsizes : wideSizes 24 d (writeFields [(8, f.size), (8, f.storedSize), (8, f.start)])
      = .ok ({ d with
          entry.size := f.size
          entry.storedSize := f.storedSize
          entry.start := f.start }, some []) := by
    have hwanted : ∀ n : Nat, (decide (24 ≤ 24) || decide (n = wideMark)) = true :=
      fun _ => rfl
    unfold wideSizes
    dsimp only
    rw [if_pos (hwanted _), readFields_one hsize]
    dsimp only [Option.bind_some, List.head?_cons, Option.map_some]
    rw [if_pos (hwanted _), readFields_one hstored]
    dsimp only [Option.bind_some, List.head?_cons, Option.map_some]
    rw [if_pos (hwanted _), readFields_one h.start]
    rfl
  rw [extraFields, hkind]
  dsimp only
  rw [if_pos rfl, hsizes]
  exact extraFields_nil fuel _

/-- The numbers of a record with so many bytes of extra fields and this start. -/
def directoryRow (f : Finished) (extra start : Nat) : List (Nat × Nat) :=
  [(4, directoryMark), (2, Builder.version), (2, Builder.neededVersion),
    (2, Builder.flags f.name), (2, Builder.deflateNumber), (2, 0), (2, Builder.firstDay),
    (4, f.sum), (4, f.storedSize), (4, f.size), (2, (Text.toBytes f.name).length), (2, extra),
    (2, 0), (2, 0), (2, 0), (4, 0), (4, start)]

/-- The entry of a record as it is before the extra fields are read. -/
def Finished.draft (f : Finished) (start : Nat) : Draft where
  entry := { f.entry with start }
  nameBytes := Text.toBytes f.name
  comment := entryText ((Builder.flags f.name).testBit 11) []

theorem readRecord_row (h : f.Fits) (extra : Bytes) (start : Nat)
    (hextra : extra.length < capacity 2) (hstart : start < capacity 4)
    (hfields : ∃ d, extraFields (extra.length + 1) (f.draft start) extra = .ok d
      ∧ d.entry = f.entry) (rest : Bytes) :
    readRecord 0 (writeFields (directoryRow f extra.length start)
        ++ (Text.toBytes f.name ++ (extra ++ rest))) = .ok (f.entry, rest) := by
  have hfits : ∀ e ∈ directoryRow f extra.length start, e.2 < capacity e.1 := by
    simp only [directoryRow, List.forall_mem_cons]
    exact ⟨by decide, by decide, by decide, flags_lt f.name, by decide, by decide, by decide, h.sum,
      h.storedSize, h.size, h.name, hextra, by decide, by decide, by decide, by decide, hstart,
      nofun⟩
  have hread := readFields_writeFields _ (Text.toBytes f.name ++ (extra ++ rest)) hfits
  -- the numbers come back as they were written, and then the name and the extra fields are cut off
  have hwidths : directoryWidths = (directoryRow f extra.length start).map (·.1) := rfl
  rw [← hwidths] at hread
  simp only [directoryRow, List.map_cons, List.map_nil] at hread
  obtain ⟨d, hd, hentry⟩ := hfields
  have hmethod : ¬ (d.entry.method = encryptedMethod ∧ (!d.entry.sealedContents) = true) := by
    rw [hentry]
    exact fun hboth => nomatch (hboth.1 : Method.deflated = encryptedMethod)
  have hshort : ¬ capacity 8 ≤ d.entry.start + 0 := by
    rw [hentry]
    exact Nat.not_le.2 h.start
  unfold readRecord directoryRow
  rw [hread]
  dsimp only
  rw [if_neg (fun hne => hne rfl)]
  dsimp only [bind, Except.bind]
  rw [cut_append]
  dsimp only
  rw [cut_append]
  dsimp only
  rw [cut_zero]
  dsimp only
  have hdraft : f.draft start =
      { entry :=
          { name := entryText ((Builder.flags f.name).testBit 11) (Text.toBytes f.name)
            encrypted := (Builder.flags f.name).testBit 0
            method := Method.ofNumber Builder.deflateNumber
            sealedContents := false
            sum := f.sum
            storedSize := f.storedSize
            size := f.size
            start }
        nameBytes := Text.toBytes f.name
        comment := entryText ((Builder.flags f.name).testBit 11) [] } := by
    rw [entryText_flags, flags_encrypted]
    rfl
  rw [← hdraft, hd]
  dsimp only
  rw [if_neg hmethod, if_neg hshort, hentry]
  rfl

theorem length_wideRow (f : Finished) : (writeFields (wideRow f)).length = 28 := by
  simp [wideRow, writeFields, length_writeNumber]

/-- **The entry comes back from its record in the directory.** -/
theorem readRecord_directoryRecord (h : f.Fits) (rest : Bytes) :
    readRecord 0 (Builder.directoryRecord f ++ rest) = .ok (f.entry, rest) := by
  unfold Builder.directoryRecord
  by_cases hwide : wideMark ≤ f.start
  · have hrow := readRecord_row h (writeFields (wideRow f)) wideMark
      (by rw [length_wideRow]; decide) (by decide)
      ⟨_, extraFields_wideRow h _ _, rfl⟩ rest
    simp only [if_pos hwide, List.append_assoc]
    exact hrow
  · have hstart : f.start < capacity 4 :=
      Nat.lt_trans (Nat.not_le.1 hwide) (by decide)
    have hrow := readRecord_row h [] f.start (by decide) hstart
      ⟨_, extraFields_nil _ _, rfl⟩ rest
    simp only [if_neg hwide, List.append_assoc]
    exact hrow

theorem length_directoryRecord (f : Finished) : 46 ≤ (Builder.directoryRecord f).length := by
  unfold Builder.directoryRecord
  simp [writeFields, length_writeNumber]
  omega

/-- The directory with the records of these entries. -/
def directory (fs : List Finished) : Bytes := fs.flatMap Builder.directoryRecord

/-- The directory is read record by record. -/
theorem readRecords_directory {fs : List Finished} (h : ∀ f ∈ fs, f.Fits) (rest : Bytes) :
    readRecords 0 fs.length (directory fs ++ rest) = .ok (fs.map Finished.entry) := by
  induction fs with
  | nil => rfl
  | cons f fs ih =>
    rw [List.forall_mem_cons] at h
    rw [directory, List.flatMap_cons, List.append_assoc, List.length_cons, readRecords,
      readRecord_directoryRecord h.1, ← directory]
    dsimp only [bind, Except.bind]
    rw [ih h.2]
    rfl

/-! ## Contents -/

/-- At this place stand a record with this name and then these bytes. -/
def StandsAt (start : Nat) (name : String) (packed file : Bytes) : Prop :=
  ∃ sum storedSize size after, sum < capacity 4 ∧ storedSize < capacity 4 ∧ size < capacity 4
    ∧ file.drop start = Builder.localRecord name sum storedSize size ++ (packed ++ after)

theorem StandsAt.append {start : Nat} {packed file : Bytes} (h : StandsAt start name packed file)
    (hstart : start ≤ file.length) (more : Bytes) :
    StandsAt start name packed (file ++ more) := by
  obtain ⟨sum, storedSize, size, after, hsum, hstored, hsize, hafter⟩ := h
  refine ⟨sum, storedSize, size, after ++ more, hsum, hstored, hsize, ?_⟩
  rw [List.drop_append_of_le_length hstart, hafter]
  simp only [List.append_assoc]

/-- The numbers of the record before the contents. -/
def localRow (name : String) (sum storedSize size : Nat) : List (Nat × Nat) :=
  [(4, localMark), (2, Builder.neededVersion), (2, Builder.flags name),
    (2, Builder.deflateNumber), (2, 0), (2, Builder.firstDay), (4, sum), (4, storedSize),
    (4, size), (2, (Text.toBytes name).length), (2, 0)]

/-- **What stands at its place is what the entry is opened to**, once it is inflated. -/
theorem open?_of_standsAt {file packed : Bytes} (hname : (Text.toBytes f.name).length < capacity 2)
    (hstands : StandsAt f.start f.name packed file) (hinflate : inflate packed = some body)
    (hsum : f.sum = (checksum body).toNat) (hsize : f.storedSize = packed.length) :
    f.entry.open? file = .ok (.ok body) := by
  obtain ⟨sum, storedSize, size, after, hsum', hstored', hsize', hafter⟩ := hstands
  have hfits : ∀ e ∈ localRow f.name sum storedSize size, e.2 < capacity e.1 := by
    simp only [localRow, List.forall_mem_cons]
    exact ⟨by decide, by decide, flags_lt f.name, by decide, by decide, by decide, hsum', hstored',
      hsize', hname, by decide, nofun⟩
  have hread := readFields_writeFields _ (Text.toBytes f.name ++ (packed ++ after)) hfits
  have hwidths : localWidths = (localRow f.name sum storedSize size).map (·.1) := rfl
  have hrecord : file.drop f.entry.start = writeFields (localRow f.name sum storedSize size)
      ++ (Text.toBytes f.name ++ (packed ++ after)) :=
    hafter.trans (List.append_assoc ..)
  rw [← hwidths, ← hrecord] at hread
  simp only [localRow, List.map_cons, List.map_nil] at hread
  -- the contents begin behind the name, and the entry's size says where they end
  have hcontents : ((Text.toBytes f.name ++ (packed ++ after)).drop
      ((Text.toBytes f.name).length + 0)).take f.entry.storedSize = packed := by
    rw [Nat.add_zero, List.drop_left]
    exact List.take_left' hsize.symm
  have hencrypted : f.entry.encrypted = false := rfl
  have hmethod : f.entry.method = .deflated := rfl
  have hsealed : f.entry.sealedContents = false := rfl
  have hentrySum : f.entry.sum = (checksum body).toNat := hsum
  generalize f.entry = e at hread hcontents hencrypted hmethod hsealed hentrySum
  unfold Entry.open?
  rw [hencrypted, hread, hmethod, hsealed, hentrySum, if_neg Bool.false_ne_true]
  dsimp only
  rw [if_neg (fun hne => hne rfl), if_neg Bool.false_ne_true, hcontents, if_pos rfl, hinflate]
  exact congrArg _ (if_pos rfl)

end SpecCatalog.Archive
