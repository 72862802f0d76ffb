import DepGraph.Fault
import DepGraph.SourceFile
import DepGraph.Tree

/-!
# Surveying a tree

A **survey** lists the eligible files of a tree, depth first and by name within each directory
(`DepGraph.Survey.filesIn`). Symbolic links are not followed, and what the rules ignore is left out:
an ignored directory with all that it holds. A tree with more files than the limit is refused, and
so is one that is nested too deeply to be walked.
-/

namespace DepGraph.Survey

/-- How deeply directories may be nested. -/
def nestingLimit : Nat := 980

/-- The path of an entry of the directory at a path. -/
def below (path name : String) : String := if path == "" then name else path ++ "/" ++ name

/-- Which entries a walk leaves out. -/
structure Filter where
  /-- Whether the directory at a path is left out. -/
  directory : String → Bool
  /-- Whether the file at a path is left out. -/
  file : String → Bool

/-- The filter of ignore rules. -/
def Filter.ofRules (rules : Ignore.Rules) : Filter := ⟨rules.ignoresDirectory, rules.ignoresFile⟩

/-- The filter of rules leaves out the directories that they ignore. -/
theorem Filter.ofRules_directory (rules : Ignore.Rules) (path : String) :
    (Filter.ofRules rules).directory path = rules.ignoresDirectory path := rfl

/-- The filter of rules leaves out the files that they ignore. -/
theorem Filter.ofRules_file (rules : Ignore.Rules) (path : String) :
    (Filter.ofRules rules).file path = rules.ignoresFile path := rfl

/-- The order of names. -/
def byName {α : Type} (a b : String × α) : Bool := !decide (b.1 < a.1)

mutual

/-- The files at or below an entry with this path, given where the tree stands on disk. -/
def visit (filter : Filter) (root path name : String) : Entry → List SourceFile
  | .file bytes =>
    if isEligible name && !filter.file path then
      [{ path := path, place := root ++ "/" ++ path, bytes := some bytes }]
    else []
  | .link _ => []
  | .directory entries =>
    if filter.directory path then []
    else ((visitAll filter root path entries).mergeSort byName).flatMap (·.2)

/-- What is found in each entry of a directory. -/
def visitAll (filter : Filter) (root path : String) :
    List (String × Entry) → List (String × List SourceFile)
  | [] => []
  | (name, e) :: rest =>
    (name, visit filter root (below path name) name e) :: visitAll filter root path rest

end

/-- The eligible **files in** a directory, depth first and by name. -/
def filesIn (filter : Filter) (root : String) (entries : List (String × Entry)) : List SourceFile :=
  ((visitAll filter root "" entries).mergeSort byName).flatMap (·.2)

mutual

/-- How many directories are nested in an entry, itself included, as far as they are walked. -/
def nesting (filter : Filter) (path : String) : Entry → Nat
  | .file _ => 0
  | .link _ => 0
  | .directory entries => if filter.directory path then 0 else nestingAll filter path entries + 1

/-- How many directories are nested in the entries of a directory. -/
def nestingAll (filter : Filter) (path : String) : List (String × Entry) → Nat
  | [] => 0
  | (name, e) :: rest =>
    max (nesting filter (below path name) e) (nestingAll filter path rest)

end

/-- The most files of a repository that is ingested, unless a setting says otherwise. -/
def defaultLimit : Int := 500

/-- A refusal to walk the tree at a place because of a fault. -/
def refusal (root : String) (cause : Fault) : Fault :=
  .unwalkable (.ofString root) cause.summary

/-- The files of the tree that stands at `root`, or why it cannot be walked. -/
def ofTree (filter : Filter) (root : String) :
    Except PlaceFlaw Entry → Except Fault (List SourceFile)
  | .ok (.directory entries) =>
    if nestingLimit < nestingAll filter "" entries then .error (refusal root .tooDeep)
    else .ok (filesIn filter root entries)
  | .ok _ => .error (refusal root (.place .notDirectory root))
  | .error flaw => .error (refusal root (.place flaw root))

/-- The **survey** of the tree that stands at `root`, if it can be found: all its eligible
files, if they are not more than the limit. -/
def take (filter : Filter) (limit : Int) (root : String) (tree : Except PlaceFlaw Entry) :
    Except Fault (List SourceFile) := do
  let files ← ofTree filter root tree
  if limit < files.length then throw (.tooManyFiles files.length limit)
  return files

end DepGraph.Survey
