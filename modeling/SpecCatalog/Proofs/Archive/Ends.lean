import SpecCatalog.Proofs.Archive.Records

/-!
# Finding the directory of a built archive

The end records of a built archive lead back to its directory (`readEnd_narrow`,
`readEnd_wide`), and no place after them leads anywhere, since a record does not fit there. So
a reader comes to the entries of the directory (`open?_directory`).
-/

namespace SpecCatalog.Archive

variable {mark i p : Nat} {bs rest : Bytes}

/-! ## Places of a mark -/

theorem mem_placesFrom (h : p ∈ placesFrom mark i bs) : i ≤ p := by
  induction bs generalizing i with
  | nil => cases h
  | cons b bs ih =>
    rw [placesFrom] at h
    split at h
    · rcases List.mem_cons.1 h with rfl | h
      · exact Nat.le_refl p
      · exact Nat.le_of_succ_le (ih h)
    · exact Nat.le_of_succ_le (ih h)

/-- A place where the mark stands, between those before it and those after it. -/
theorem exists_placesFrom_split {k : Nat} (h : bs.drop k = writeNumber 4 mark ++ rest) (i : Nat) :
    ∃ before after, placesFrom mark i bs = before ++ (i + k) :: after
      ∧ (∀ q ∈ before, q < i + k) ∧ ∀ q ∈ after, i + k < q := by
  -- by induction on the bytes, since the search counts the places up from the front
  induction bs generalizing i k with
  | nil =>
    have hlength := congrArg List.length h
    rw [List.drop_nil, List.length_append, length_writeNumber, List.length_nil] at hlength
    omega
  | cons b bs ih =>
    cases k with
    | zero =>
      refine ⟨[], placesFrom mark (i + 1) bs, ?_, nofun, fun q hq => mem_placesFrom hq⟩
      have hmark : (writeNumber 4 mark).isPrefixOf (b :: bs) = true :=
        List.isPrefixOf_iff_prefix.2 ⟨rest, h.symm⟩
      rw [placesFrom, if_pos hmark]
      rfl
    | succ k =>
      obtain ⟨before, after, hsplit, hbefore, hafter⟩ := ih h (i + 1)
      have hk : i + 1 + k = i + (k + 1) := by omega
      rw [hk] at hsplit hbefore hafter
      rw [placesFrom]
      split
      · refine ⟨i :: before, after, by rw [hsplit]; rfl, ?_, hafter⟩
        exact List.forall_mem_cons.2 ⟨by omega, hbefore⟩
      · exact ⟨before, after, hsplit, hbefore, hafter⟩

theorem exists_places_split (h : bs.drop p = writeNumber 4 mark ++ rest) :
    ∃ before after, places mark bs = before ++ p :: after
      ∧ (∀ q ∈ before, q < p) ∧ ∀ q ∈ after, p < q := by
  have hsplit := exists_placesFrom_split h 0
  rw [Nat.zero_add] at hsplit
  exact hsplit

/-! ## Places that lead nowhere -/

/-- A row takes the bytes of its widths. -/
theorem length_of_readFields {widths ns : List Nat} (h : readFields widths bs = some (ns, rest)) :
    bs.length = widths.foldr (· + ·) 0 + rest.length := by
  induction widths generalizing bs ns with
  | nil =>
    cases h
    exact (Nat.zero_add _).symm
  | cons width widths ih =>
    rw [readFields] at h
    split at h
    · cases h
    · rename_i hlong
      obtain ⟨⟨ns', rest'⟩, hread, he⟩ := Option.map_eq_some_iff.1 h
      cases he
      have hrest := ih hread
      rw [List.length_drop] at hrest
      rw [List.foldr_cons]
      omega

/-- A place so near the end that no end record fits there. -/
theorem readEnd_short (h : bs.length < p + 22) : ∃ f, readEnd bs p = .error (.weak f) := by
  have hnone : readFields endWidths (bs.drop p) = none := by
    cases hread : readFields endWidths (bs.drop p) with
    | none => rfl
    | some r =>
      obtain ⟨ns, rest⟩ := r
      have hlength := length_of_readFields hread
      have htotal : endWidths.foldr (· + ·) 0 = 22 := rfl
      rw [List.length_drop, htotal] at hlength
      omega
  refine ⟨.io .endOfFile, ?_⟩
  unfold readEnd
  rw [hnone]

/-- Weak misses do not keep a reader from the place that leads to the directory. -/
theorem openAmong_eq_ok {w : Whereabouts} {es : List Entry} {ps qs : List Nat}
    (hweak : ∀ q ∈ qs, ∃ f, readEnd bs q = .error (.weak f)) (hend : readEnd bs p = .ok w)
    (hrecords : readRecords w.shift w.count (bs.drop w.start) = .ok es) (missed : Option Fault) :
    openAmong bs missed (qs ++ p :: ps) = .ok (es.foldl enter []) := by
  induction qs generalizing missed with
  | nil =>
    rw [List.nil_append, openAmong, hend]
    dsimp only
    rw [hrecords]
  | cons q qs ih =>
    rw [List.forall_mem_cons] at hweak
    obtain ⟨f, hf⟩ := hweak.1
    rw [List.cons_append, openAmong, hf]
    exact ih hweak.2 _

/-- Where the mark stands, nothing in a range from there on comes before. -/
theorem filter_places {high : Nat} (h : bs.drop p = writeNumber 4 mark ++ rest)
    (hhigh : p + 4 ≤ high) :
    ∃ after, (places mark bs).filter (fun q => p ≤ q && q + 4 ≤ high) = p :: after := by
  obtain ⟨before, after, hsplit, hbefore, _⟩ := exists_places_split h
  have hnone : before.filter (fun q => p ≤ q && q + 4 ≤ high) = [] := by
    refine List.filter_eq_nil_iff.2 fun q hq htest => ?_
    rw [Bool.and_eq_true, decide_eq_true_eq, decide_eq_true_eq] at htest
    exact absurd (hbefore q hq) (Nat.not_lt.2 htest.1)
  have hsome : (p :: after).filter (fun q => p ≤ q && q + 4 ≤ high)
      = p :: after.filter (fun q => p ≤ q && q + 4 ≤ high) := by
    refine List.filter_cons_of_pos ?_
    rw [Bool.and_eq_true, decide_eq_true_eq, decide_eq_true_eq]
    exact ⟨Nat.le_refl p, hhigh⟩
  exact ⟨_, by rw [hsplit, List.filter_append, hnone, List.nil_append, hsome]⟩

theorem firstRecord_eq {high : Nat} (h : bs.drop p = writeNumber 4 directoryMark ++ rest)
    (hhigh : p + 4 ≤ high) : firstRecord bs p high = some p := by
  obtain ⟨after, hafter⟩ := filter_places h hhigh
  unfold firstRecord
  rw [← List.head?_filter, hafter]
  rfl

/-! ## The end records -/

/-- The numbers of the last record. -/
def endRow (count size start : Nat) : List (Nat × Nat) :=
  [(4, endMark), (2, 0), (2, 0), (2, count), (2, count), (4, size), (4, start), (2, 0)]

def wideEndRow (count size start : Nat) : List (Nat × Nat) :=
  [(4, wideEndMark), (8, 44), (2, Builder.version), (2, Builder.version), (4, 0), (4, 0),
    (8, count), (8, count), (8, size), (8, start)]

def locatorRow (start : Nat) : List (Nat × Nat) :=
  [(4, locatorMark), (4, 0), (8, start), (4, 1)]

variable {fs : List Finished} {out : Bytes}

theorem directory_cons (f : Finished) (fs : List Finished) :
    ∃ rest, directory (f :: fs) = writeNumber 4 directoryMark ++ rest := by
  unfold directory Builder.directoryRecord
  simp only [List.flatMap_cons, writeFields, List.append_assoc]
  exact ⟨_, rfl⟩

theorem length_directory (fs : List Finished) : fs.length * 46 ≤ (directory fs).length := by
  induction fs with
  | nil => exact Nat.le_refl 0
  | cons f fs ih =>
    have hf := length_directoryRecord f
    unfold directory at ih ⊢
    rw [List.flatMap_cons, List.length_append, List.length_cons]
    omega

theorem length_endRow (count size start : Nat) :
    (writeFields (endRow count size start)).length = 22 := by
  simp [endRow, writeFields, length_writeNumber]

/-- The end record is read as it was written. -/
theorem readFields_endRow {count size start : Nat} (hcount : count < capacity 2)
    (hsize : size < capacity 4) (hstart : start < capacity 4) :
    readFields endWidths (writeFields (endRow count size start))
      = some ([endMark, 0, 0, count, count, size, start, 0], []) := by
  have hfits : ∀ e ∈ endRow count size start, e.2 < capacity e.1 := by
    simp only [endRow, List.forall_mem_cons]
    exact ⟨by decide, by decide, by decide, hcount, hcount, hsize, hstart, by decide, nofun⟩
  have hread := readFields_writeFields _ [] hfits
  rw [List.append_nil] at hread
  exact hread

/-- Where a narrow end record leads to. -/
theorem readEnd_narrow (hcount : fs.length < 0xFFFF) (hsize : (directory fs).length < wideMark)
    (hstart : out.length < wideMark) :
    readEnd (out ++ directory fs
        ++ writeFields (endRow fs.length (directory fs).length out.length))
      (out.length + (directory fs).length) = .ok ⟨out.length, fs.length, 0⟩ := by
  have hmarkLt : wideMark < capacity 4 := by decide
  have hread := readFields_endRow (Nat.lt_trans hcount (by decide)) (Nat.lt_trans hsize hmarkLt)
    (Nat.lt_trans hstart hmarkLt)
  rw [← List.length_append]
  unfold readEnd
  rw [List.drop_left, hread]
  dsimp only
  rw [if_neg (Nat.not_lt_zero _), if_pos ⟨Nat.ne_of_lt hcount, Nat.ne_of_lt hstart⟩]
  cases fs with
  | nil =>
    -- an empty directory is no place to look for, so the end record tells where it would be
    rw [if_pos List.length_nil, if_neg (fun hne => hne rfl)]
    have hzero : (out ++ directory []).length - out.length = 0 := by
      rw [List.length_append, Nat.add_sub_cancel_left]
      rfl
    rw [hzero]
    rfl
  | cons f fs =>
    -- the first mark of a record stands right where the directory starts
    obtain ⟨rest, hdirectory⟩ := directory_cons f fs
    have hlength := length_directory (f :: fs)
    rw [List.length_cons] at hlength
    have hplace : (out ++ directory (f :: fs) ++ writeFields (endRow (f :: fs).length
        (directory (f :: fs)).length out.length)).drop out.length
        = writeNumber 4 directoryMark ++ (rest ++ writeFields (endRow (f :: fs).length
          (directory (f :: fs)).length out.length)) := by
      rw [List.append_assoc, List.drop_left]
      rw [← List.append_assoc, ← hdirectory]
    have hroom : out.length + 4 ≤ (out ++ directory (f :: fs)).length := by
      rw [List.length_append]
      omega
    rw [if_neg (nofun : (f :: fs).length ≠ 0), if_neg (by omega), firstRecord_eq hplace hroom]
    dsimp only
    rw [if_neg (fun hne => hne rfl), Nat.sub_self]
    rfl

/-! ## Wide end records -/

theorem length_wideEndRow (count size start : Nat) :
    (writeFields (wideEndRow count size start)).length = 56 := by
  simp [wideEndRow, writeFields, length_writeNumber]

theorem length_locatorRow (start : Nat) : (writeFields (locatorRow start)).length = 20 := by
  simp [locatorRow, writeFields, length_writeNumber]

theorem readFields_locatorRow {start : Nat} (h : start < capacity 8) (rest : Bytes) :
    readFields locatorWidths (writeFields (locatorRow start) ++ rest)
      = some ([locatorMark, 0, start, 1], rest) := by
  refine readFields_writeFields (locatorRow start) rest ?_
  simp only [locatorRow, List.forall_mem_cons]
  exact ⟨by decide, by decide, h, by decide, nofun⟩

theorem readFields_wideEndRow {count size start : Nat} (hcount : count < capacity 8)
    (hsize : size < capacity 8) (hstart : start < capacity 8) (rest : Bytes) :
    readFields wideEndWidths (writeFields (wideEndRow count size start) ++ rest)
      = some ([wideEndMark, 44, Builder.version, Builder.version, 0, 0, count, count, size, start],
          rest) := by
  refine readFields_writeFields (wideEndRow count size start) rest ?_
  simp only [wideEndRow, List.forall_mem_cons]
  exact ⟨by decide, by decide, by decide, by decide, by decide, by decide, hcount, hcount, hsize,
    hstart, nofun⟩

/-- The wide end record right before its locator, and right after the directory. -/
theorem readWideEnd_eq {count size start : Nat} (hcount : count < capacity 8)
    (hsize : size < capacity 8) (hstart : start < capacity 8) (hroom : count * 46 + start ≤ p)
    (h : bs.drop p = writeFields (wideEndRow count size start) ++ rest) :
    readWideEnd bs (p + 56) 0 p p = .ok (some ⟨start, count, 0⟩) := by
  unfold readWideEnd
  rw [h, readFields_wideEndRow hcount hsize hstart]
  dsimp only
  rw [Nat.add_sub_cancel_left, Nat.sub_self, if_neg (Nat.lt_irrefl 44), if_neg (Nat.lt_irrefl 56),
    if_neg (fun hne => hne rfl), if_neg (fun hne => hne rfl), if_neg (Nat.not_lt.2 hroom),
    if_neg]
  · rfl
  · rintro (h | h | h)
    · exact Nat.lt_irrefl _ h
    · exact Nat.lt_irrefl _ h
    · exact h rfl

theorem wideEndAmong_eq {high : Nat} {w : Whereabouts} (fault : Fault)
    (h : bs.drop p = writeNumber 4 wideEndMark ++ rest) (hhigh : p + 4 ≤ high)
    (hread : readWideEnd bs high 0 p p = .ok (some w)) :
    wideEndAmong bs high 0 p fault
      ((places wideEndMark bs).filter fun q => p ≤ q && q + 4 ≤ high) = .ok w := by
  obtain ⟨after, hafter⟩ := filter_places h hhigh
  rw [hafter, wideEndAmong, hread]

/-- Where an end record leads to whose numbers stand in a wide one. -/
theorem readEnd_wide (count size : Nat) (hfs : fs.length < capacity 8)
    (hlength : out.length + (directory fs).length < capacity 8) (hcount : count < capacity 2)
    (hsize : size < capacity 4) :
    readEnd (out ++ directory fs
        ++ (writeFields (wideEndRow fs.length (directory fs).length out.length)
          ++ writeFields (locatorRow (out.length + (directory fs).length)))
        ++ writeFields (endRow count size wideMark))
      (out.length + (directory fs).length + 76) = .ok ⟨out.length, fs.length, 0⟩ := by
  have hread := readFields_endRow hcount hsize (show wideMark < capacity 4 by decide)
  have hrecords := length_directory fs
  have hdirectory : (directory fs).length < capacity 8 := by omega
  have hstart : out.length < capacity 8 := by omega
  generalize hp : out.length + (directory fs).length = p at hlength
  have hfront : (out ++ directory fs).length = p := by rw [List.length_append, hp]
  generalize out ++ directory fs = front at hfront
  generalize hwide : writeFields (wideEndRow fs.length (directory fs).length out.length) = wide
  generalize hlocator : writeFields (locatorRow p) = locator
  generalize hlast : writeFields (endRow count size wideMark) = last at hread
  have hwideLength : wide.length = 56 := hwide ▸ length_wideEndRow _ _ _
  have hlocatorLength : locator.length = 20 := hlocator ▸ length_locatorRow _
  generalize hfile : front ++ (wide ++ locator) ++ last = file
  -- what stands at the three places that are looked at
  have hatEnd : file.drop (p + 76) = last := by
    rw [← hfile]
    refine List.drop_left' ?_
    rw [List.length_append, List.length_append, hfront, hwideLength, hlocatorLength]
  have hatLocator : file.drop (p + 56) = locator ++ last := by
    rw [← hfile, ← List.append_assoc, List.append_assoc]
    refine List.drop_left' ?_
    rw [List.length_append, hfront, hwideLength]
  have hatWide : file.drop p = wide ++ (locator ++ last) := by
    rw [← hfile, List.append_assoc, List.append_assoc]
    exact List.drop_left' hfront
  have hlocated := readFields_locatorRow hlength last
  rw [hlocator, ← hatLocator] at hlocated
  have hfound : readWideEnd file (p + 56) 0 p p = .ok (some ⟨out.length, fs.length, 0⟩) := by
    rw [← hwide] at hatWide
    exact readWideEnd_eq hfs hdirectory hstart (by omega) hatWide
  have hmark : wide = writeNumber 4 wideEndMark
      ++ writeFields (wideEndRow fs.length (directory fs).length out.length).tail := hwide.symm
  have hled := wideEndAmong_eq (.damaged .noWideEnd)
    (hatWide.trans ((congrArg (· ++ _) hmark).trans (List.append_assoc ..))) (by omega) hfound
  have hplace : p + 76 - locatorLength = p + 56 := by
    unfold locatorLength
    omega
  have hfar : ¬ p + 76 < locatorLength := by
    unfold locatorLength
    omega
  unfold readEnd
  rw [hatEnd, hread]
  dsimp only
  rw [if_neg (Nat.not_lt_zero _), if_neg (fun h => h.2 rfl), if_neg hfar, hplace, hlocated]
  dsimp only
  rw [if_neg (fun hne => hne rfl), if_neg (by omega), if_neg (Nat.lt_irrefl 1)]
  exact hled

/-! ## Opening -/

/-- The numbers of the directory do not fit into the last record. -/
def Wide (count size start : Nat) : Prop := 0xFFFF ≤ count ∨ wideMark ≤ size ∨ wideMark ≤ start

theorem endRecords_wide {count size start : Nat} (h : Wide count size start) :
    Builder.endRecords count size start
      = writeFields (wideEndRow count size start) ++ writeFields (locatorRow (start + size))
        ++ writeFields (endRow (min count 0xFFFF) (min size wideMark) wideMark) := by
  unfold Wide at h
  unfold Builder.endRecords
  dsimp only
  rw [if_pos h, if_pos h]
  rfl

theorem endRecords_narrow {count size start : Nat} (h : ¬ Wide count size start) :
    Builder.endRecords count size start = writeFields (endRow count size start) := by
  unfold Wide at h
  unfold Builder.endRecords
  dsimp only
  rw [if_neg h, if_neg h, Nat.min_eq_left (by omega), Nat.min_eq_left (by omega)]
  rfl

/-- The end records lead to the directory, and the last of them ends the file. -/
theorem exists_end (fs : List Finished) (out : Bytes)
    (hlength : out.length + (directory fs).length < capacity 8) :
    ∃ front count size start, out ++ directory fs
        ++ Builder.endRecords fs.length (directory fs).length out.length
          = front ++ writeFields (endRow count size start)
      ∧ readEnd (front ++ writeFields (endRow count size start)) front.length
        = .ok ⟨out.length, fs.length, 0⟩ := by
  have hrecords := length_directory fs
  by_cases hwide : Wide fs.length (directory fs).length out.length
  · have hend := readEnd_wide (min fs.length 0xFFFF) (min (directory fs).length wideMark) (by omega)
      hlength (Nat.lt_of_le_of_lt (Nat.min_le_right ..) (by decide))
      (Nat.lt_of_le_of_lt (Nat.min_le_right ..) (by decide))
    have hfront : (out ++ directory fs
        ++ (writeFields (wideEndRow fs.length (directory fs).length out.length)
          ++ writeFields (locatorRow (out.length + (directory fs).length)))).length
        = out.length + (directory fs).length + 76 := by
      simp only [List.length_append, length_wideEndRow, length_locatorRow]
    rw [← hfront] at hend
    refine ⟨_, _, _, _, ?_, hend⟩
    rw [endRecords_wide hwide, List.append_assoc _ _ (writeFields (endRow _ _ _))]
    simp only [List.append_assoc]
  · refine ⟨out ++ directory fs, fs.length, (directory fs).length, out.length, ?_, ?_⟩
    · rw [endRecords_narrow hwide]
    · unfold Wide at hwide
      rw [List.length_append]
      exact readEnd_narrow (by omega) (by omega) (by omega)

/-- Entries of different names are all kept, in order. -/
theorem foldl_enter {es before : List Entry} (h : ((before ++ es).map (·.name)).Nodup) :
    es.foldl enter before = before ++ es := by
  induction es generalizing before with
  | nil => exact (List.append_nil before).symm
  | cons e es ih =>
    have hnew : before.any (·.name = e.name) = false := by
      rw [List.map_append, List.map_cons, List.nodup_append] at h
      refine List.any_eq_false.2 fun d hd htest => ?_
      exact h.2.2 _ (List.mem_map_of_mem hd) _ List.mem_cons_self (of_decide_eq_true htest)
    have henter : enter before e = before ++ [e] := by
      unfold enter
      rw [hnew]
      exact if_neg Bool.false_ne_true
    rw [List.append_cons] at h ⊢
    rw [List.foldl_cons, henter]
    exact ih h

/-- **A reader opens a built archive and finds its entries.** -/
theorem open?_directory (fs : List Finished) (out : Bytes) (hfits : ∀ f ∈ fs, f.Fits)
    (hnames : (fs.map (·.name)).Nodup) (hlength : out.length + (directory fs).length < capacity 8) :
    Archive.open? (out ++ directory fs
        ++ Builder.endRecords fs.length (directory fs).length out.length)
      = .ok ⟨out ++ directory fs
          ++ Builder.endRecords fs.length (directory fs).length out.length,
        fs.map Finished.entry⟩ := by
  have hrecords := readRecords_directory hfits
    (Builder.endRecords fs.length (directory fs).length out.length)
  have hdirectory : (out ++ directory fs ++ Builder.endRecords fs.length (directory fs).length
      out.length).drop out.length
      = directory fs ++ Builder.endRecords fs.length (directory fs).length out.length := by
    rw [List.append_assoc, List.drop_left]
  have hentries : (fs.map Finished.entry).foldl enter [] = fs.map Finished.entry := by
    refine foldl_enter ?_
    rw [List.nil_append, List.map_map]
    exact hnames
  obtain ⟨front, count, size, start, hfile, hend⟩ := exists_end fs out hlength
  rw [← hdirectory] at hrecords
  rw [hfile] at hrecords ⊢
  have hmark : (front ++ writeFields (endRow count size start)).drop front.length
      = writeNumber 4 endMark ++ writeFields (endRow count size start).tail := by
    rw [List.drop_left]
    rfl
  -- the last places are tried first, and those after the end record are too near the end
  obtain ⟨before, after, hplaces, _, hafter⟩ := exists_places_split hmark
  have hweak : ∀ q ∈ after.reverse,
      ∃ f, readEnd (front ++ writeFields (endRow count size start)) q = .error (.weak f) := by
    intro q hq
    have hlater := hafter q (List.mem_reverse.1 hq)
    refine readEnd_short ?_
    rw [List.length_append, length_endRow]
    omega
  unfold Archive.open?
  rw [hplaces, List.reverse_append, List.reverse_cons, List.append_assoc, List.singleton_append,
    openAmong_eq_ok hweak hend hrecords, hentries]
  rfl

end SpecCatalog.Archive
