import DepGraph.Fault
import DepGraph.Tree

/-!
# Acquiring a repository

A repository is **acquired** by cloning it into a directory. Whatever goes wrong while it is cloned
is an acquisition that failed, with the fault as its reason, and so is a clone that leaves no
directory. The commit at the head of the clone is read afterwards, and a repository without commits
has none.
-/

namespace DepGraph

/-- What a clone asks for. -/
structure CloneCall where
  /-- The repository. -/
  source : String
  /-- The directory that it goes to. -/
  target : String
  /-- How many commits are cloned, if not all of them. -/
  depth : Option Int
deriving DecidableEq, Repr

/-- What a clone does. -/
inductive CloneOutcome
  /-- It makes a repository with this tree, and this commit at its head. -/
  | checkout (tree : Entry) (head : Option String)
  /-- It makes a directory with this tree, which is no repository. -/
  | bare (tree : Entry)
  /-- It makes a plain file. -/
  | file
  /-- It makes nothing. -/
  | nothing
  /-- It fails. -/
  | fault (f : Fault)

/-- Whether a clone leaves anything at its target. -/
def CloneOutcome.leavesTrace : CloneOutcome → Bool
  | checkout _ _ | bare _ | file => true
  | nothing | fault _ => false

/-- A repository on disk. -/
structure Checkout where
  /-- Where it is. -/
  place : String
  /-- The commit at its head, if there is one. -/
  head : Option String
  /-- Its files. -/
  tree : Entry

/-- The reason that a fault gives: what it says, or its kind if it says nothing. -/
def Fault.reason (f : Fault) : String := if f.message == "" then f.kind else f.message

/-- **Acquires** a repository. -/
def acquire (call : CloneCall) : CloneOutcome → Except Fault Checkout
  | .fault f => .error (.acquisition call.source f.reason)
  | .nothing | .file =>
    .error (.acquisition call.source ("clone left no directory at " ++ call.target))
  | .bare _ => .error (.noRepository call.target)
  | .checkout tree head => .ok ⟨call.target, head, tree⟩

end DepGraph
