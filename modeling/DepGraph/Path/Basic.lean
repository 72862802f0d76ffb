/-!
# POSIX paths

Paths are strings of components separated by slashes. **Normalizing** a path
(`DepGraph.Path.normalize`) walks its components with a stack: empty and `.` components do nothing,
and `..` takes back the component before it, or is kept where there is nothing to take back and the
path has no root. **Tidying** a path (`DepGraph.Path.tidy`) only drops the components that do
nothing.

Everything here is on lists of characters.
-/

namespace DepGraph.Path

/-! ### Components -/

/-- The components between the slashes of a path; there is always at least one. -/
def components : List Char → List (List Char)
  | [] => [[]]
  | c :: cs =>
    if c = '/' then [] :: components cs
    else
      match components cs with
      | [] => [[c]]
      | first :: rest => (c :: first) :: rest

/-- Components with a slash between two of them. -/
def joined : List (List Char) → List Char
  | [] => []
  | [c] => c
  | c :: cs => c ++ '/' :: joined cs

/-- The component that stands for the directory itself. -/
def here : List Char := ['.']

/-- The component that stands for the directory above. -/
def above : List Char := ['.', '.']

/-- A component that leads nowhere else. -/
def isIdle (c : List Char) : Bool := c == [] || c == here

/-- The slashes that a normalized path keeps at its front: none or one, and two only where there are
exactly two. -/
def root : List Char → List Char
  | '/' :: '/' :: '/' :: _ => ['/']
  | '/' :: '/' :: _ => ['/', '/']
  | '/' :: _ => ['/']
  | _ => []

/-- The components of a path that lead somewhere else. -/
def steps (path : String) : List String :=
  ((components path.toList).filter fun c => !isIdle c).map String.ofList

/-! ### Normalizing -/

/-- One step of the walk, on the stack of components, last first. -/
def push (rooted : Bool) (stack : List (List Char)) (c : List Char) : List (List Char) :=
  if isIdle c then stack
  else if c = above then
    match stack with
    | [] => if rooted then [] else [above]
    | top :: rest => if top = above then above :: stack else rest
  else c :: stack

/-- The stack after walking the components in order. -/
def walk (rooted : Bool) (cs : List (List Char)) : List (List Char) :=
  (cs.foldl (push rooted) []).reverse

/-- The **normal form** of a path; the empty one is written `.`. -/
def normalize (path : List Char) : List Char :=
  let front := root path
  match front ++ joined (walk (front != []) (components path)) with
  | [] => here
  | text => text

/-- The path without the components that do nothing; the empty one is written `.`. -/
def tidy (path : List Char) : List Char :=
  let front := root path
  match front ++ joined ((components path).filter fun c => !isIdle c) with
  | [] => here
  | text => text

/-! ### Directories -/

/-- A list of characters without the slashes at its end. -/
def dropEndSlashes (cs : List Char) : List Char := (cs.reverse.dropWhile (· == '/')).reverse

/-- What stands before the last slash of a path, with the slashes that end it dropped unless there
is nothing else. -/
def directory (path : List Char) : List Char :=
  let head := (path.reverse.dropWhile (· != '/')).reverse
  if head.all (· == '/') then head else dropEndSlashes head

/-- The last component of a path. -/
def name (path : List Char) : List Char := (path.reverse.takeWhile (· != '/')).reverse

/-- A path below a directory, unless it has a root of its own. -/
def join (dir path : List Char) : List Char :=
  if path.head? = some '/' then path
  else if dir = [] || dir.getLast? = some '/' then dir ++ path
  else dir ++ '/' :: path

/-! ### Small facts -/

/-- A path has at least one component. -/
theorem components_ne_nil (path : List Char) : components path ≠ [] := by
  cases path with
  | nil => simp [components]
  | cons c cs =>
    rw [components]
    split
    · simp
    · split <;> simp

/-- A path is the join of its components. -/
theorem joined_components (path : List Char) : joined (components path) = path := by
  induction path with
  | nil => rfl
  | cons c cs ih =>
    obtain ⟨d, ds, hc⟩ := List.exists_cons_of_ne_nil (components_ne_nil cs)
    rw [hc] at ih
    by_cases h : c = '/'
    · simp [components, h, hc, joined, ih]
    · cases ds with
      | nil => simpa [components, h, hc, joined] using ih
      | cons e es => simpa [components, h, hc, joined] using ih

/-- No component holds a slash. -/
theorem slash_not_mem_of_mem_components {path c : List Char} (h : c ∈ components path) :
    '/' ∉ c := by
  induction path generalizing c with
  | nil => simp_all [components]
  | cons a as ih =>
    by_cases ha : a = '/'
    · simp only [components, ha, if_true, List.mem_cons] at h
      rcases h with rfl | h
      · simp
      · exact ih h
    · obtain ⟨d, ds, hc⟩ := List.exists_cons_of_ne_nil (components_ne_nil as)
      simp only [components, ha, hc, if_false, List.mem_cons] at h
      rcases h with rfl | h
      · simp [Ne.symm ha, ih (c := d) (by simp [hc])]
      · exact ih (by simp [hc, h])

end DepGraph.Path
