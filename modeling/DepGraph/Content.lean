import DepGraph.Event
import DepGraph.Notebook
import DepGraph.SourceFile

/-!
# The content of a file

The **content** of a file is the text that its grammar reads. A notebook that cannot be read has the
empty content and is reported, unless it is nested too deeply to be read at all; any other file that
cannot be read is a fault.
-/

namespace DepGraph.SourceFile

/-- What is stored at the place of a file. -/
def stored (file : SourceFile) : Except Fault Bytes :=
  match file.bytes with
  | some bytes => .ok bytes
  | none => .error (.place .missing file.place)

/-- The content of a file, with the events of reading it, if notebooks are read up to a depth. -/
def contentWithin (limit : Nat) (file : SourceFile) : Except Fault (Text × List Event) :=
  if isNotebook file.path then
    match file.stored.bind (Notebook.ofBytesWithin limit) with
    | .ok text => .ok (text, [])
    | .error .tooDeep => .error .tooDeep
    | .error f => .ok ([], [.unreadable file.path f.message])
  else do
    let bytes ← file.stored
    let cs ← (Utf8.decode bytes).mapError .undecodable
    return (Text.ofChars cs, [])

/-- The **content** of a file, with the events of reading it. -/
def content (file : SourceFile) : Except Fault (Text × List Event) :=
  file.contentWithin Json.depthLimit

end DepGraph.SourceFile
