import DepGraph.Path.Basic
import DepGraph.Text.Utf8

/-!
# Directory trees

A checkout is a tree of directories, regular files and symbolic links, with the entries of a
directory in no particular order. **Looking up** a path (`DepGraph.Entry.find`) goes through
symbolic links, as far as there are not too many of them, and says what is wrong with the place
where it stops.
-/

namespace DepGraph

/-! ### Places -/

/-- What can be wrong with a place on disk. -/
inductive PlaceFlaw
  /-- Nothing is there. -/
  | missing
  /-- Something is there already. -/
  | taken
  /-- What is there is no directory. -/
  | notDirectory
  /-- Too many symbolic links lead there. -/
  | tangled
deriving DecidableEq, Repr

namespace PlaceFlaw

/-- What all flaws are called together. -/
def anyName : String := "OSError"

/-- The names of a flaw and of what it belongs to, its own first. -/
def names : PlaceFlaw → List String
  | missing => ["FileNotFoundError", anyName]
  | taken => ["FileExistsError", anyName]
  | notDirectory => ["NotADirectoryError", anyName]
  | tangled => [anyName]

/-- The words for a flaw, after its number. -/
def words : PlaceFlaw → String
  | missing => "[Errno 2] No such file or directory"
  | taken => "[Errno 17] File exists"
  | notDirectory => "[Errno 20] Not a directory"
  | tangled => "[Errno 40] Too many levels of symbolic links"

end PlaceFlaw

/-! ### Entries -/

/-- What stands in a directory. -/
inductive Entry
  /-- A regular file. -/
  | file (bytes : Bytes)
  /-- A symbolic link, whatever it points to. -/
  | link (target : String)
  /-- A directory. -/
  | directory (entries : List (String × Entry))

namespace Entry

/-- An empty directory. -/
def empty : Entry := .directory []

instance : Inhabited Entry := ⟨empty⟩

/-- The entries of a directory, and none of anything else. -/
def entries : Entry → List (String × Entry)
  | .directory es => es
  | _ => []

/-- The entry of this name in a directory. -/
def child? (e : Entry) (name : String) : Option Entry :=
  (e.entries.find? (·.1 == name)).map (·.2)

/-- The entries with this one put at its name. -/
def put (name : String) (e : Entry) : List (String × Entry) → List (String × Entry)
  | [] => [(name, e)]
  | (n, old) :: rest => if n == name then (n, e) :: rest else (n, old) :: put name e rest

/-- An entry put where another one stands: an empty directory leaves a directory as it is. -/
def atop : Entry → Entry → Entry
  | .directory [], .directory es => .directory es
  | e, _ => e

/-- A tree with an entry put at the end of a path; directories on the way are made as needed. -/
def place (e : Entry) : List String → Entry → Entry
  | [], tree => e.atop tree
  | name :: path, tree =>
    .directory (put name (place e path ((tree.child? name).getD empty)) tree.entries)

/-! ### Looking up a path -/

/-- How many symbolic links one look-up may go through. -/
def linkLimit : Nat := 40

/-- The entry at the end of a path that starts in the first of these entries, where each lies in the
next one; what lies above the last of them is not known. -/
def follow (links : Nat) (way : List Entry) (path : List String) : Except PlaceFlaw Entry :=
  match path, way with
  | [], way => .ok (way.headD empty)
  | name :: path, .directory entries :: above =>
    if name == ".." then
      if above.isEmpty then .error .missing else follow links above path
    else
      match (directory entries).child? name, links with
      | none, _ => .error .missing
      | some (link _), 0 => .error .tangled
      | some (link target), links + 1 =>
        if target.startsWith "/" then .error .missing
        else follow links (directory entries :: above) (Path.steps target ++ path)
      | some e, links => follow links (e :: directory entries :: above) path
  | _ :: _, _ => .error .notDirectory
termination_by (links, path.length)

/-- The entry at the **end of a path** through a tree. -/
def find (tree : Entry) (path : String) : Except PlaceFlaw Entry :=
  follow linkLimit [tree] (Path.steps path)

end Entry

end DepGraph
