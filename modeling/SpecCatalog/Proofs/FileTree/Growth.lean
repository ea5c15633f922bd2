import SpecCatalog.Proofs.FileTree.Below

/-!
# Trees that grow

Making directories and writing files takes nothing away: what stands at a route stays, apart
from what a file holds (`Grows`). So a path that leads somewhere keeps leading there
(`resolve_grows`), and in particular to the same directory.

What is new in a tree stands below what is new (`item?_below_eq_none`). What is put at the free
place that a walk came to is found by the walk that looks (`Walks.finds`), and nothing is found
that the tree does not have (`Walks.item?`).
-/

namespace SpecCatalog

/-- A file may hold something else; everything else stays as it is. -/
def Item.Becomes : Item → Item → Prop
  | .file _, i => ∃ body, i = .file body
  | i, i' => i' = i

theorem Item.becomes_refl (i : Item) : i.Becomes i := by
  cases i with
  | file body => exact ⟨body, rfl⟩
  | directory => rfl
  | link target => rfl

theorem Item.Becomes.trans {i j k : Item} (h : i.Becomes j) (h' : j.Becomes k) : i.Becomes k := by
  cases i with
  | file body =>
    obtain ⟨body', rfl⟩ := h
    exact h'
  | directory =>
    obtain rfl := h
    exact h'
  | link target =>
    obtain rfl := h
    exact h'

namespace FileTree

variable {t t' t'' : FileTree} {links : Nat} {here r : Route} {path : String} {i : Item}

/-- Nothing is taken away from the first tree in the second. -/
structure Grows (t t' : FileTree) : Prop where
  home : t'.home = t.home
  items : ∀ r i, t.item? r = some i → ∃ i', t'.item? r = some i' ∧ i.Becomes i'

theorem Grows.refl (t : FileTree) : Grows t t := ⟨rfl, fun _ i h => ⟨i, h, i.becomes_refl⟩⟩

theorem Grows.trans (h : Grows t t') (h' : Grows t' t'') : Grows t t'' where
  home := h'.home.trans h.home
  items := by
    intro r i hi
    obtain ⟨j, hj, hij⟩ := h.items r i hi
    obtain ⟨k, hk, hjk⟩ := h'.items r j hj
    exact ⟨k, hk, hij.trans hjk⟩

theorem Grows.directory (h : Grows t t') (hd : t.item? r = some .directory) :
    t'.item? r = some .directory := by
  obtain ⟨i', hi', hbecomes⟩ := h.items r _ hd
  obtain rfl := hbecomes
  exact hi'

theorem Grows.link {target : String} (h : Grows t t') (hl : t.item? r = some (.link target)) :
    t'.item? r = some (.link target) := by
  obtain ⟨i', hi', hbecomes⟩ := h.items r _ hl
  obtain rfl := hbecomes
  exact hi'

theorem Grows.file {body : Bytes} (h : Grows t t') (hf : t.item? r = some (.file body)) :
    ∃ body', t'.item? r = some (.file body') := by
  obtain ⟨i', hi', body', rfl⟩ := h.items r _ hf
  exact ⟨body', hi'⟩

theorem Grows.start (h : Grows t t') (path : String) : t'.start path = t.start path := by
  unfold FileTree.start
  rw [h.home]

/-! ## Walks -/

theorem Grows.down {aim : Aim} {part : String} {rest : List String} (h : Grows t t')
    (hmove : moveAt t aim here part rest = .down) : moveAt t' .look here part rest = .down := by
  obtain ⟨hseeks, hd⟩ := moveAt_eq_down_iff.1 hmove
  exact moveAt_eq_down_iff.2 ⟨hseeks.look, h.directory hd⟩

theorem Grows.follow {aim : Aim} {part target : String} {rest : List String} (h : Grows t t')
    (hmove : moveAt t aim here part rest = .follow target) :
    moveAt t' .look here part rest = .follow target := by
  obtain ⟨hseeks, hl, _⟩ := moveAt_eq_follow_iff.1 hmove
  exact moveAt_eq_follow_iff.2 ⟨hseeks.look, h.link hl, fun haim => nomatch haim.2⟩

/-- What a walk finds, it finds in the grown tree as well, as it has become. -/
theorem Walks.grows {aim : Aim} {parts : List String}
    (h : Walks t aim links here parts (.ok (.item r i))) (hgrows : Grows t t')
    (haim : aim ≠ .newDirectory) :
    ∃ i', Walks t' .look links here parts (.ok (.item r i')) ∧ i.Becomes i' := by
  generalize houtcome : Except.ok (Spot.item r i) = outcome at h
  induction h with
  | done =>
    cases houtcome
    exact ⟨.directory, .done, rfl⟩
  | dot hdot _ ih =>
    obtain ⟨i', hi', hbecomes⟩ := ih houtcome
    exact ⟨i', .dot hdot hi', hbecomes⟩
  | up _ ih =>
    obtain ⟨i', hi', hbecomes⟩ := ih houtcome
    exact ⟨i', .up hi', hbecomes⟩
  | ends hname hmove =>
    subst houtcome
    obtain ⟨hseeks, hfile, hlast, rfl, hends⟩ := moveAt_eq_item_iff.1 hmove
    obtain ⟨rfl, body, rfl⟩ := (endsAt_iff haim).1 hends
    obtain ⟨body', hbody'⟩ := hgrows.file hfile
    have hmove' := moveAt_eq_item_iff.2 ⟨hseeks.look, hbody', hlast, rfl, Or.inr rfl⟩
    exact ⟨.file body', .ends hname hmove', body', rfl⟩
  | down hname hmove _ ih =>
    obtain ⟨i', hi', hbecomes⟩ := ih houtcome
    exact ⟨i', .down hname (hgrows.down hmove) hi', hbecomes⟩
  | follow hname hmove _ ih =>
    obtain ⟨i', hi', hbecomes⟩ := ih houtcome
    exact ⟨i', .follow hname (hgrows.follow hmove) hi', hbecomes⟩
  | spent => cases houtcome

/-- **A path keeps leading where it leads.** -/
theorem resolve_grows {aim : Aim} (h : Grows t t') (hpath : t.resolve aim path = .ok (.item r i))
    (haim : aim ≠ .newDirectory) :
    ∃ i', t'.resolve .look path = .ok (.item r i') ∧ i.Becomes i' := by
  obtain ⟨hwalkable, hwalk⟩ := resolve_eq_ok_iff.1 hpath
  obtain ⟨i', hwalks, hbecomes⟩ := (walk_eq_iff.1 hwalk).grows h haim
  exact ⟨i', resolve_eq_ok_iff.2 ⟨hwalkable, h.start path ▸ hwalks.walk_eq⟩, hbecomes⟩

theorem resolve_grows_directory (h : Grows t t')
    (hpath : t.resolve .look path = .ok (.item r .directory)) :
    t'.resolve .look path = .ok (.item r .directory) := by
  obtain ⟨i', hi', hbecomes⟩ := resolve_grows h hpath (by decide)
  obtain rfl := hbecomes
  exact hi'

/-! ## What is new -/

/-- Where a walk comes to a free place, the walk that looks comes to what is put there: a
directory, or a file if the walk was for one. -/
theorem Walks.finds {aim : Aim} {folder : Route} {name : String} {parts : List String}
    (h : Walks t aim links here parts (.ok (.vacant folder name))) (hgrows : Grows t t')
    (hput : t'.item? (folder ++ [name]) = some i)
    (hi : i = .directory ∨ aim = .newFile ∧ ∃ body, i = .file body) :
    Walks t' .look links here parts (.ok (.item (folder ++ [name]) i)) := by
  generalize houtcome : Except.ok (Spot.vacant folder name) = outcome at h
  induction h with
  | done => cases houtcome
  | dot hdot _ ih => exact .dot hdot (ih houtcome)
  | up _ ih => exact .up (ih houtcome)
  | ends hname hmove =>
    subst houtcome
    obtain ⟨hseeks, _, hlast, rfl, rfl⟩ := moveAt_eq_vacant_iff.1 hmove
    rcases hi with rfl | ⟨haim, body, rfl⟩
    · exact .down hname (moveAt_eq_down_iff.2 ⟨hseeks.look, hput⟩) (walks_of_last hlast)
    · -- a new file's name has no slash after it
      obtain rfl := hseeks.bare haim hlast
      exact .ends hname (moveAt_eq_item_iff.2 ⟨hseeks.look, hput, hlast, rfl, .inr rfl⟩)
  | down hname hmove _ ih => exact .down hname (hgrows.down hmove) (ih houtcome)
  | follow hname hmove _ ih => exact .follow hname (hgrows.follow hmove) (ih houtcome)
  | spent => cases houtcome

/-- Below what is not there nothing is. -/
theorem item?_below_eq_none {name : String} (h : t.item? here = none) :
    t.item? (here ++ [name]) = none := by
  cases hi : t.item? (here ++ [name]) with
  | none => rfl
  | some i =>
    have hd := (below_of_item? hi).1
    rw [h] at hd
    cases hd

theorem item?_dropLast (h : t.item? here = some .directory) :
    t.item? here.dropLast = some .directory := by
  rcases List.eq_nil_or_concat' here with rfl | ⟨above, name, rfl⟩
  · exact h
  · rw [List.dropLast_concat]
    exact (below_of_item? h).1

/-- Following a link starts in a directory again. -/
theorem item?_origin (target : String) (hd : t.item? here = some .directory) :
    t.item? (if PathText.isAbsolute target then [] else here) = some .directory := by
  split
  · exact t.item?_nil
  · exact hd

/-- Where a walk finds something, the tree has it. -/
theorem Walks.item? {aim : Aim} {parts : List String}
    (h : Walks t aim links here parts (.ok (.item r i))) (hd : t.item? here = some .directory) :
    t.item? r = some i := by
  generalize houtcome : Except.ok (Spot.item r i) = outcome at h
  induction h with
  | done =>
    cases houtcome
    exact hd
  | dot _ _ ih => exact ih hd houtcome
  | up _ ih => exact ih (item?_dropLast hd) houtcome
  | ends _ hmove =>
    subst houtcome
    obtain ⟨_, hitem, _, rfl, _⟩ := moveAt_eq_item_iff.1 hmove
    exact hitem
  | down _ hmove _ ih => exact ih (moveAt_eq_down_iff.1 hmove).2 houtcome
  | follow _ _ _ ih => exact ih (item?_origin _ hd) houtcome
  | spent => cases houtcome

theorem item?_start (t : FileTree) (path : String) : t.item? (t.start path) = some .directory := by
  unfold start
  split
  · exact t.item?_nil
  · exact t.home_directory

/-- A path leads to what the tree has. -/
theorem item?_of_resolve (hpath : t.resolve .look path = .ok (.item r i)) : t.item? r = some i :=
  (walk_eq_iff.1 (resolve_eq_ok_iff.1 hpath).2).item? (t.item?_start path)

end FileTree

end SpecCatalog
