/-!
# Paths as text

A path is a text whose parts are divided by slashes. Some questions are answered by the
text alone, without a look at any file: how two paths are joined, what stands above a
path, and when two paths are written differently but have the same components. Repeated
slashes, a slash at the end and single dots inside make no component; a slash or a
single dot at the start does.
-/

namespace SpecCatalog.PathText

/-- What stands between the slashes; one segment more than there are slashes. -/
def segments : List Char → List (List Char)
  | [] => [[]]
  | c :: cs =>
    if c = '/' then [] :: segments cs
    else
      match segments cs with
      | [] => [[c]]
      | s :: rest => (c :: s) :: rest

theorem segments_ne_nil (cs : List Char) : segments cs ≠ [] := by
  cases cs with
  | nil => simp [segments]
  | cons c cs =>
    unfold segments
    split
    · simp
    · split <;> simp

theorem segments_slash (cs : List Char) : segments ('/' :: cs) = [] :: segments cs := rfl

theorem segments_cons {c : Char} {cs first : List Char} {rest : List (List Char)}
    (hc : c ≠ '/') (hcs : segments cs = first :: rest) :
    segments (c :: cs) = (c :: first) :: rest := by
  unfold segments
  rw [if_neg hc, hcs]

/-- A slash divides the segments before it from those after it. -/
theorem segments_append_slash (before after : List Char) :
    segments (before ++ '/' :: after) = segments before ++ segments after := by
  induction before with
  | nil => rfl
  | cons c cs ih =>
      rw [List.cons_append]
      by_cases hc : c = '/'
      · subst hc
        rw [segments_slash, segments_slash, ih]
        rfl
      · cases hcs : segments cs with
        | nil => exact absurd hcs (segments_ne_nil cs)
        | cons first rest =>
            rw [segments_cons hc hcs, segments_cons hc (by rw [ih, hcs]; rfl)]
            rfl

/-- What has no slash joins the first segment of what follows it. -/
theorem segments_append_of_no_slash {front cs first : List Char} {rest : List (List Char)}
    (hfront : '/' ∉ front) (hcs : segments cs = first :: rest) :
    segments (front ++ cs) = (front ++ first) :: rest := by
  induction front with
  | nil => exact hcs
  | cons c front ih =>
      rw [List.mem_cons, not_or] at hfront
      exact segments_cons (Ne.symm hfront.1) (ih hfront.2)

theorem segments_of_no_slash {cs : List Char} (h : '/' ∉ cs) : segments cs = [cs] := by
  have hnil : segments [] = [[]] := rfl
  rw [← List.append_nil cs, segments_append_of_no_slash h hnil]

def parts (path : String) : List String := (segments path.toList).map String.ofList

def isAbsolute (path : String) : Bool := path.toList.head? = some '/'

/-- What a path begins with decides. -/
theorem isAbsolute_append_slash (front rest : String) :
    isAbsolute (front ++ "/" ++ rest) = isAbsolute (front ++ "/") := by
  unfold isAbsolute
  simp only [String.toList_append, List.append_assoc]
  cases front.toList with
  | nil => rfl
  | cons c cs => rfl

/-- The path below `root`, unless the path starts over at the top. -/
def join (root path : String) : String :=
  if isAbsolute path || root.isEmpty then path
  else if root.toList.getLast? = some '/' then root ++ path
  else root ++ "/" ++ path

/-! ## Components -/

inductive Component where
  | top
  | here
  | up
  | name (s : String)
  deriving DecidableEq, Repr

/-- The component a segment makes; a first segment that is empty or a dot counts. -/
def componentOf (first : Bool) (segment : List Char) : Option Component :=
  match segment with
  | [] => none
  | ['.'] => if first then some .here else none
  | ['.', '.'] => some .up
  | s => some (.name (String.ofList s))

def components (path : String) : List Component :=
  match segments path.toList with
  | [] => []
  | [[]] => []
  | [] :: rest => .top :: rest.filterMap (componentOf false)
  | first :: rest => (componentOf true first).toList ++ rest.filterMap (componentOf false)

def Component.compare : Component → Component → Ordering
  | .top, .top => .eq
  | .top, _ => .lt
  | .here, .top => .gt
  | .here, .here => .eq
  | .here, _ => .lt
  | .up, .up => .eq
  | .up, .name _ => .lt
  | .up, _ => .gt
  | .name s, .name t => if s < t then .lt else if s = t then .eq else .gt
  | .name _, _ => .gt

/-- Lists are compared by their first difference. -/
def compareComponents : List Component → List Component → Ordering
  | [], [] => .eq
  | [], _ => .lt
  | _, [] => .gt
  | a :: as, b :: bs => (a.compare b).then (compareComponents as bs)

/-! ## What stands above a path -/

/-- Drops the segments at the end that make no component; `reversed` is the path from
its end, and its last element is the first segment, which always stays. -/
def trimmed : List (List Char) → List (List Char)
  | [] => []
  | [first] => [first]
  | s :: rest => if s = [] ∨ s = ['.'] then trimmed rest else s :: rest

def rejoin (reversed : List (List Char)) : String :=
  match reversed with
  | [[]] => "/"
  | _ => String.ofList (List.intercalate ['/'] reversed.reverse)

/-- The path without its last component; nothing for the top and for the empty path. -/
def parent? (path : String) : Option String :=
  match trimmed (segments path.toList).reverse with
  | [] => none
  | [[]] => none
  | _ :: above => some (rejoin (trimmed above))

/-- The last component, if it is a name. -/
def fileName? (path : String) : Option String :=
  match (components path).getLast? with
  | some (.name s) => some s
  | _ => none

/-- What stands after the last dot of the file name. A dot at the start hides a file
and begins no extension. -/
def extension? (path : String) : Option String := do
  let name ← fileName? path
  let reversed := name.toList.reverse
  let after := reversed.takeWhile (· ≠ '.')
  match reversed.drop after.length with
  | [] => none
  | [_] => none
  | _ => some (String.ofList after.reverse)

end SpecCatalog.PathText
