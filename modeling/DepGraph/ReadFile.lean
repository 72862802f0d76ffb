import DepGraph.Content
import DepGraph.Syntax.Registry

/-!
# Files that were read

A file is **read** in three steps: its content is taken, parsed, and searched for specifiers. What
goes wrong after the first step is told as an event and leaves the file out; a file whose content
cannot be had is a fault.
-/

namespace DepGraph

/-- A file that was read and parsed. -/
structure ReadFile where
  /-- The path of the file. -/
  path : String
  /-- The content of the file. -/
  content : Text
  /-- The specifiers in the file, in order. -/
  specifiers : List String

/-- How a file is read: the file with its specifiers, or nothing if it is left out, and the
events. -/
abbrev FileReader := SourceFile → Except Fault (Option ReadFile × List Event)

/-- The reader of a registry of grammars, if notebooks are read up to a depth. -/
def Syntax.Registry.fileReaderWithin (r : Syntax.Registry) (limit : Nat) : FileReader :=
  fun file => do
  let (content, events) ← file.contentWithin limit
  match r.parse file.path content with
  | .error f => return (none, events ++ [.unparsed file.path f.message])
  | .ok parsed =>
    let (specifiers, more) := Syntax.extract parsed
    return (some { path := file.path, content, specifiers }, events ++ more)

/-- The **reader** of a registry of grammars. -/
def Syntax.Registry.fileReader (r : Syntax.Registry) : FileReader :=
  r.fileReaderWithin Json.depthLimit

end DepGraph
