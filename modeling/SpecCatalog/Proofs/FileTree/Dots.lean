import SpecCatalog.Proofs.FileTree.Making

/-!
# Dots in front of a path

A path with dots in front of it leads to where it led without them (`resolve_dotted`), as long
as it is short enough to be walked at all. What stands above it has the same dots in front
(`parent?_below`). So directories that can be made one below the other are made the same way
with the dots (`createDirectories_dotted`).
-/

namespace SpecCatalog

open FileTree

variable {t t' : FileTree} {aim : Aim} {n : Nat} {p q name : String}

/-- The path with so many dots in front of it. -/
def PathText.dotted : Nat → String → String
  | 0, p => p
  | n + 1, p => "./" ++ dotted n p

namespace PathText

theorem dotted_append (n : Nat) (p q : String) : dotted n (p ++ q) = dotted n p ++ q := by
  induction n with
  | zero => rfl
  | succ n ih => rw [dotted, dotted, ih, String.append_assoc]

theorem toList_dotted (n : Nat) (p : String) :
    (dotted (n + 1) p).toList = '.' :: '/' :: (dotted n p).toList := by
  rw [dotted, String.toList_append]
  rfl

theorem utf8ByteSize_dotted (n : Nat) (p : String) :
    (dotted n p).utf8ByteSize = 2 * n + p.utf8ByteSize := by
  induction n with
  | zero => rw [dotted, Nat.mul_zero, Nat.zero_add]
  | succ n ih =>
    have hdot : "./".utf8ByteSize = 2 := rfl
    rw [dotted, String.utf8ByteSize_append, ih, hdot]
    omega

theorem segments_dotted (n : Nat) (p : String) :
    segments (dotted n p).toList = List.replicate n ['.'] ++ segments p.toList := by
  induction n with
  | zero => rfl
  | succ n ih =>
    rw [toList_dotted, segments_cons (by decide) (segments_slash _), ih]
    rfl

theorem parts_dotted (n : Nat) (p : String) :
    parts (dotted n p) = List.replicate n "." ++ parts p := by
  unfold parts
  rw [segments_dotted, List.map_append, List.map_replicate]

theorem isAbsolute_dotted (n : Nat) (h : isAbsolute p = false) :
    isAbsolute (dotted n p) = false := by
  cases n with
  | zero => exact h
  | succ n =>
    unfold isAbsolute
    rw [toList_dotted]
    rfl

theorem dotted_ne (n : Nat) (hp : p ≠ "") : dotted n p ≠ "" := by
  intro hempty
  have hsize := utf8ByteSize_dotted n p
  rw [hempty, String.utf8ByteSize_empty] at hsize
  have hnone : p.utf8ByteSize = 0 := by omega
  exact hp (String.utf8ByteSize_eq_zero_iff.1 hnone)

theorem getLast?_dotted (n : Nat) (hp : p ≠ "") :
    (dotted n p).toList.getLast? = p.toList.getLast? := by
  induction n with
  | zero => rfl
  | succ n ih =>
    have hsome : (dotted n p).toList ≠ [] := fun hnil =>
      dotted_ne n hp (String.toList_injective hnil)
    rw [toList_dotted, List.getLast?_cons_cons, List.getLast?_cons_of_ne_nil hsome, ih]

theorem join_dotted (n : Nat) (hp : p ≠ "") (hq : isAbsolute q = false) :
    join (dotted n p) q = dotted n (join p q) := by
  have hempty : (dotted n p).isEmpty = false := by
    simpa using dotted_ne n hp
  have hempty' : p.isEmpty = false := by
    simpa using hp
  unfold join
  simp only [hq, hempty, hempty', getLast?_dotted n hp, Bool.or_self, Bool.false_eq_true,
    if_false]
  split
  · rw [dotted_append]
  · rw [dotted_append, dotted_append]

/-! ## What stands above -/

/-- The segments are what the slashes divide. -/
theorem intercalate_segments (cs : List Char) : List.intercalate ['/'] (segments cs) = cs := by
  induction cs with
  | nil => rfl
  | cons c cs ih =>
    cases hcs : segments cs with
    | nil => exact absurd hcs (segments_ne_nil cs)
    | cons first rest =>
      rw [hcs] at ih
      by_cases hc : c = '/'
      · subst hc
        rw [segments_slash, hcs, List.intercalate_cons_cons, ih]
        rfl
      · rw [segments_cons hc hcs]
        cases rest with
        | nil =>
          rw [List.intercalate_singleton] at ih ⊢
          rw [ih]
        | cons next rest =>
          rw [List.intercalate_cons_cons] at ih ⊢
          rw [← ih]
          rfl

/-- A proper last segment of a path stays when what stands above something is looked for. -/
theorem trimmed_cons {segment : List Char} (h : segment ≠ [] ∧ segment ≠ ['.'])
    (before : List (List Char)) : trimmed (segment :: before) = segment :: before := by
  cases before with
  | nil => rfl
  | cons last before =>
    rw [trimmed, if_neg (not_or.2 h)]
    nofun

/-- The path ends with a name, not with a slash or a dot. -/
def EndsNamed (p : String) : Prop :=
  ∃ segment, (segments p.toList).getLast? = some segment ∧ segment ≠ [] ∧ segment ≠ ['.']

theorem endsNamed_dotted (n : Nat) (h : EndsNamed p) : EndsNamed (dotted n p) := by
  obtain ⟨segment, hlast, hnamed⟩ := h
  refine ⟨segment, ?_, hnamed⟩
  rw [segments_dotted, List.getLast?_append, hlast]
  rfl

theorem parent?_below (hp : EndsNamed p) (hslash : '/' ∉ name.toList)
    (hname : name.toList ≠ [] ∧ name.toList ≠ ['.']) : parent? (p ++ "/" ++ name) = some p := by
  obtain ⟨segment, hlast, hnamed⟩ := hp
  obtain ⟨before, hsegments⟩ := List.getLast?_eq_some_iff.1 hlast
  have hreversed : (segments (p ++ "/" ++ name).toList).reverse
      = name.toList :: segment :: before.reverse := by
    have hlist : (p ++ "/" ++ name).toList = p.toList ++ '/' :: name.toList := by
      simp [String.toList_append]
    rw [hlist, segments_append_slash, segments_of_no_slash hslash, hsegments]
    simp
  -- nothing was lost at the slashes, so what stands above is the path as it was written
  have hrejoin : rejoin (segment :: before.reverse) = p := by
    have hall : rejoin (segment :: before.reverse)
        = String.ofList (List.intercalate ['/'] (segment :: before.reverse).reverse) := by
      unfold rejoin
      split
      · rename_i he
        exact absurd (List.cons.inj he).1 hnamed.1
      · rfl
    rw [hall, List.reverse_cons, List.reverse_reverse, ← hsegments, intercalate_segments,
      String.ofList_toList]
  unfold parent?
  rw [hreversed, trimmed_cons hname]
  split
  · rename_i he
    cases he
  · rename_i he
    cases (List.cons.inj he).2
  · rename_i he
    rw [← (List.cons.inj he).2, trimmed_cons hnamed, hrejoin]

theorem parent?_dotted (n : Nat) (hp : EndsNamed p) (hslash : '/' ∉ name.toList)
    (hname : name.toList ≠ [] ∧ name.toList ≠ ['.']) :
    parent? (dotted n (p ++ "/" ++ name)) = some (dotted n p) := by
  rw [dotted_append, dotted_append]
  exact parent?_below (endsNamed_dotted n hp) hslash hname

theorem exists_components_dotted (n : Nat) (p : String) :
    ∃ rest, components (dotted (n + 1) p) = .here :: rest := by
  unfold components
  rw [segments_dotted]
  exact ⟨_, rfl⟩

end PathText

namespace FileTree

open PathText

/-! ## Where such a path leads -/

theorem walk_dotted (links : Nat) (here : Route) (n : Nat) (p : String) :
    walk t aim links here (parts (dotted n p)) = walk t aim links here (parts p) := by
  rw [parts_dotted]
  induction n with
  | zero => rfl
  | succ n ih => exact (walk_dot (.inr rfl)).trans ih

theorem walkable_dotted (h : Walkable p) (hshort : 2 * n + p.utf8ByteSize < pathLimit) :
    Walkable (dotted n p) where
  no_nul := by
    have hnul := h.no_nul
    clear hshort
    induction n with
    | zero => exact hnul
    | succ n ih =>
      rw [toList_dotted]
      simpa using ih
  ne_empty := dotted_ne n h.ne_empty
  short := by
    rw [utf8ByteSize_dotted]
    exact hshort

theorem resolve_dotted (h : Walkable p) (habs : isAbsolute p = false)
    (hshort : 2 * n + p.utf8ByteSize < pathLimit) :
    t.resolve aim (dotted n p) = t.resolve aim p := by
  have hstart : t.start (dotted n p) = t.start p := by
    unfold start
    rw [isAbsolute_dotted n habs, habs]
  rw [resolve_of_walkable (walkable_dotted h hshort), resolve_of_walkable h, hstart, walk_dotted]

/-! ## Making one below the other -/

variable {folder : Route} {depth : Nat} {last : String}

theorem createDirectory_of_vacant (hgrants : t.answers = [])
    (h : t.resolve .newDirectory p = .ok (.vacant folder name)) :
    createDirectory p t = .ok () (t.put folder name .directory) := by
  unfold createDirectory
  rw [resolveNow_bind, h]
  exact request_of_granting hgrants _

theorem createDirectory_of_error {e : IoError} (h : t.resolve .newDirectory p = .error e) :
    createDirectory p t = .error e t := by
  unfold createDirectory
  rw [resolveNow_bind, h]

theorem createFile_of_vacant (hgrants : t.answers = [])
    (h : t.resolve .newFile p = .ok (.vacant folder name)) :
    createFile p t = .ok (folder ++ [name]) (t.put folder name (.file [])) := by
  unfold createFile
  rw [resolveNow_bind, h]
  exact bind_of_eq_ok (request_of_granting hgrants _)

/-- A directory that can be made at once. -/
theorem createDirectoriesWithin_of_vacant (depth : Nat) (hgrants : t.answers = [])
    (h : t.resolve .newDirectory p = .ok (.vacant folder name)) :
    createDirectoriesWithin (depth + 1) p t = .ok () (t.put folder name .directory) := by
  have hempty : p.isEmpty = false := by
    simpa using (resolve_eq_ok_iff.1 h).1.ne_empty
  unfold createDirectoriesWithin
  rw [hempty, createDirectory_of_vacant hgrants h]
  rfl

/-- A directory that can be made once the one above it was. -/
theorem createDirectoriesWithin_below
    (hmissing : t.resolve .newDirectory p = .error (.os .notFound))
    (habove : parent? p = some q) (hmade : createDirectoriesWithin depth q t = .ok () t')
    (hgrants : t'.answers = []) (h : t'.resolve .newDirectory p = .ok (.vacant folder name)) :
    createDirectoriesWithin (depth + 1) p t = .ok () (t'.put folder name .directory) := by
  have hempty : p.isEmpty = false := by
    simpa using (resolve_eq_ok_iff.1 h).1.ne_empty
  unfold createDirectoriesWithin
  rw [hempty, createDirectory_of_error hmissing]
  dsimp only
  rw [habove]
  dsimp only
  rw [hmade]
  dsimp only
  unfold createDirectoriesWithin.settle
  rw [createDirectory_of_vacant hgrants h]
  rfl

/-- The same with dots in front. -/
theorem createDirectoriesWithin_dotted (hp : EndsNamed p) (hslash : '/' ∉ last.toList)
    (hlast : last.toList ≠ [] ∧ last.toList ≠ ['.'])
    (hmissing : t.resolve .newDirectory (p ++ "/" ++ last) = .error (.os .notFound))
    (hmade : createDirectoriesWithin depth (dotted n p) t = .ok () t') (hgrants : t'.answers = [])
    (h : t'.resolve .newDirectory (p ++ "/" ++ last) = .ok (.vacant folder name))
    (habs : isAbsolute (p ++ "/" ++ last) = false)
    (hshort : 2 * n + (p ++ "/" ++ last).utf8ByteSize < pathLimit) :
    createDirectoriesWithin (depth + 1) (dotted n (p ++ "/" ++ last)) t
      = .ok () (t'.put folder name .directory) := by
  have hwalkable := (resolve_eq_ok_iff.1 h).1
  refine createDirectoriesWithin_below ?_ (parent?_dotted n hp hslash hlast) hmade hgrants ?_
  · rw [resolve_dotted hwalkable habs hshort, hmissing]
  · rw [resolve_dotted hwalkable habs hshort, h]

end FileTree

end SpecCatalog
