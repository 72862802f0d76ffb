import DepGraph.Fault
import DepGraph.Syntax.Extraction
import DepGraph.Syntax.Module.Statement
import DepGraph.Syntax.Program.Statement

/-!
# Grammars

A **registry** serves every language by a grammar: its own one, or, for the languages that are
optional, the fallback when their own cannot be loaded. A registry whose required grammars cannot be
loaded is not built. A grammar reads bytes, so that a text that cannot be written as bytes is not
parsed. On which bytes a grammar crashes is left open.
-/

namespace DepGraph.Syntax

/-! ### Trees -/

/-- What the grammar of a language admits in programs. -/
def dialect : Language → Program.Dialect
  | .typescript => ⟨false, true⟩
  | .tsx => ⟨true, true⟩
  | _ => ⟨true, false⟩

/-- The **tree** that the grammar of a language makes of some characters. -/
def treeOf (grammar : Language) (cs : List Char) : Node :=
  match grammar with
  | .python => Module.tree cs
  | language => Program.tree (dialect language) cs

/-- The tree that the grammar of a language makes of some bytes. -/
def treeOfBytes (grammar : Language) (bytes : Bytes) : Node :=
  treeOf grammar ((Utf8.decode bytes).toOption.getD [])

/-! ### Building a registry -/

/-- The language whose grammar serves an optional one that is missing. -/
def fallback : Language := .javascript

/-- A **registry**: the languages that the fallback serves, and what is made of bytes. -/
structure Registry where
  /-- The languages that the fallback serves. -/
  degraded : List Language := []
  /-- The languages whose files crash their parser, whatever is in them. -/
  crashing : List Language := []
  /-- The tree that a grammar makes of some bytes. It may crash on some of them. -/
  parser : Language → Bytes → Except Fault Node := fun grammar bytes =>
    .ok (treeOfBytes grammar bytes)

/-- The fault of a grammar that cannot be loaded. -/
def missingGrammar (language : Language) : Fault := .foreign .lookup ("no grammar " ++ language.tag)

namespace Registry

/-- The registry that is **built** when the grammars of these languages cannot be loaded, and the
events of building it. -/
def build (broken : List Language) : Except Fault (Registry × List Event) :=
  match Language.required.find? broken.contains with
  | some language => .error (missingGrammar language)
  | none =>
    let degraded := Language.optional.filter broken.contains
    .ok ({ degraded }, degraded.map fun language =>
      .degraded language.tag fallback.tag (missingGrammar language).message)

/-- All languages, in the order in which they are checked. -/
def languages : List Language := Language.required ++ Language.optional

/-- Whether a registry of only these languages is complete. -/
def checkComplete (kept : List Language) : Except Fault Unit :=
  match languages.filter fun l => !kept.contains l with
  | [] => .ok ()
  | missing =>
    .error (.foreign .value
      ("Grammar registry is missing tags: " ++
        Json.literal (.arr (missing.map fun l => .ofString l.tag))))

/-- The language whose grammar **serves** a language. -/
def serving (r : Registry) (language : Language) : Language :=
  if r.degraded.contains language then fallback else language

/-- Whether a language is served by its own grammar. -/
def hasOwnGrammar (r : Registry) (language : Language) : Bool := !r.degraded.contains language

/-- The tags of the languages that the fallback serves, in order. -/
def fallbackTags (r : Registry) : List String :=
  (r.degraded.map Language.tag).mergeSort fun a b => !decide (b < a)

end Registry

/-! ### Parsing -/

/-- The fault of a grammar that crashes. -/
def crash : Fault := .foreign .runtime "parser crashed"

/-- The **parsed** content of the file at a path. -/
def Registry.parse (r : Registry) (path : String) (content : Text) : Except Fault Parsed := do
  let tag := Language.ofPath path
  let bytes ← (Utf8.encode content).mapError .unencodable
  if r.crashing.contains tag then throw crash
  let grammar := r.serving tag
  return { tag, grammar, root := ← r.parser grammar bytes }

end DepGraph.Syntax
