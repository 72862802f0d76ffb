import DepGraph.Proofs.Syntax.Lineage
import DepGraph.Proofs.Syntax.Outline

/-!
# Extraction as a traversal

A pattern matches a node and captures nodes that are some levels below it. To find the matches of
all patterns at all nodes is the same as to go through the tree once and to ask of each node, from
its kind and the nodes above it, whether it is captured
(`DepGraph.Syntax.Lineage.isCaptured`): a specifier is extracted for each of these nodes, in the
order of the tree (`DepGraph.Syntax.extract_eq_listing`).

What a description with one path below it reports at a node is what is reported of the end of the
path, handed down as many times as the path is long (`DepGraph.Syntax.handDown_reported`). Of a
call, the patterns ask for two nodes below it, and they rely on the grammar: a call starts with what
is called, and calls nothing else (`DepGraph.Syntax.Node.StartsWithCallee`). In a tree where two
nodes were called, the call would be matched twice.

Trees may have nodes of any other kinds as well. Nothing is captured of these, and it does not matter
how deep in them a statement is (`DepGraph.Syntax.extract_enclosed`).
-/

namespace DepGraph.Syntax

/-! ### What is captured -/

/-- Whether a node is a call of the name `require`. -/
def Node.callsRequire (n : Node) : Bool :=
  n.kind == .callExpression && n.children.any fun callee =>
    callee.kind == .identifier && callee.field == some .function &&
      callee.text == "require".toList

namespace Lineage

/-- Whether a node is a dotted name in a field of a statement. -/
def isNameOf (statementKind : Kind) (field : Field) : Lineage → Bool
  | ⟨name, statement :: _⟩ =>
    name.kind == .dottedName && name.field == some field && statement.kind == statementKind
  | _ => false

/-- Whether a node is the name of the module that a statement imports from. -/
def isModuleName : Lineage → Bool := isNameOf .importFromStatement .moduleName

/-- Whether a node is a name that a statement imports without giving it another. -/
def isImportedName : Lineage → Bool := isNameOf .importStatement .name

/-- Whether a node is a fragment of the string that names the source of an import statement. -/
def isSourceFragment : Lineage → Bool
  | ⟨fragment, string :: statement :: _⟩ =>
    fragment.kind == .stringFragment && string.kind == .string && string.field == some .source &&
      statement.kind == .importStatement
  | _ => false

/-- Whether a node is a fragment of a string that is an argument of a call of `require`. -/
def isRequiredFragment : Lineage → Bool
  | ⟨fragment, string :: arguments :: call :: _⟩ =>
    fragment.kind == .stringFragment && string.kind == .string && arguments.kind == .arguments &&
      arguments.field == some .arguments && call.callsRequire
  | _ => false

/-- Whether a node is **captured** in the trees of a language. -/
def isCaptured : Language → Lineage → Bool
  | .python, l => l.isModuleName || l.isImportedName
  | _, l => l.isSourceFragment || l.isRequiredFragment

/-- What is extracted for a node. -/
def specifier (l : Lineage) : List Char := trimQuotes l.node.text

end Lineage

/-- The specifiers of the captured nodes of a tree, in the order of the tree. -/
def listing (language : Language) (root : Node) : List (List Char) :=
  ((lineages [] root).filter (Lineage.isCaptured language)).map Lineage.specifier

/-! ### Descriptions with one path below them -/

section Paths

variable {kind : Kind} {field outerField : Option Field} {shape : Shape} {name : String}
variable {last place : Nat}

theorem fitsBelow_nil (ns : List Node) : fitsBelow [] last place ns = [⟨[], last⟩] := by
  cases ns <;> simp [fitsBelow]

/-- A match is not changed by captures that are none. -/
@[simp] theorem Match.after_nil (m : Match) : m.after [] = m := rfl

/-- One wanted description fits wherever it fits one of the nodes. -/
theorem fitsBelow_singleton (ns : List Node) :
    fitsBelow [(field, shape)] last place ns =
      (placed place ns).flatMap fun c =>
        if field = none ∨ field = c.1.field then fits shape c.2 c.1 else [] := by
  induction ns generalizing place with
  | nil => simp [fitsBelow, placed]
  | cons n ns ih =>
    have alone (here : Match) : here = (⟨[], here.last⟩ : Match).after here.captures := by
      simp [Match.after]
    simp only [fitsBelow, fitsBelow_nil, List.map_cons, List.map_nil, ← alone, ih, placed,
      List.flatMap_cons, List.flatMap_singleton']

/-- A captured node is reported by its text and its place. -/
theorem fits_captured (n : Node) :
    fits (captured kind name) place n =
      if n.kind = kind then [⟨[(name, n.text)], place⟩] else [] := by
  obtain ⟨k, f, t, cs⟩ := n
  by_cases of : k = kind <;>
    simp [captured, fits, fitsBelow_nil, captureOf, Match.after, Node.kind, Node.text, of]

/-- A description with one description below it fits wherever that one fits a node below. -/
theorem fits_singleton (n : Node) :
    fits (.mk kind none [(field, shape)]) place n =
      if n.kind = kind then
        (placed (place + 1) n.children).flatMap fun c =>
          if field = none ∨ field = c.1.field then fits shape c.2 c.1 else []
      else [] := by
  obtain ⟨k, f, t, cs⟩ := n
  by_cases of : k = kind <;>
    simp [fits, fitsBelow_singleton, captureOf, Node.kind, Node.children, of]

/-- Whether the nearest of some nodes is of a kind and in a field, and the others meet a condition.
-/
def inside (kind : Kind) (field : Option Field) (outer : List Node → Bool) : List Node → Bool
  | [] => false
  | n :: above => n.kind == kind && (field == none || field == n.field) && outer above

/-- What is **reported** of the matches of a description in a field, below nodes that meet a
condition. -/
def reported {β : Type} (report : Match → β) (outer : List Node → Bool) (field : Option Field)
    (shape : Shape) (l : Lineage) (place : Nat) : List β :=
  if outer l.above = true ∧ (field = none ∨ field = l.node.field) then
    (fits shape place l.node).map report
  else []

/-- **One level is handed down**: what is reported of the nodes below a node of a kind is what is
reported of this node by the description that has them below it. -/
theorem handDown_reported {β : Type} (report : Match → β) (outer : List Node → Bool) :
    handDown (reported report (inside kind outerField outer) field shape) =
      reported report outer outerField (.mk kind none [(field, shape)]) := by
  funext l place
  by_cases outside : outer l.above = true ∧ (outerField = none ∨ outerField = l.node.field)
  · rw [handDown, reported, if_pos outside, fits_singleton]
    by_cases of : l.node.kind = kind
    · rw [if_pos of, List.map_flatMap]
      refine List.flatMap_congr fun c _ => ?_
      by_cases here : field = none ∨ field = c.1.field <;> simp [reported, inside, of, outside, here]
    · rw [if_neg of, List.map_nil]
      refine List.flatMap_eq_nil_iff.mpr fun c _ => ?_
      simp [reported, inside, of]
  · rw [handDown, reported, if_neg outside]
    refine List.flatMap_eq_nil_iff.mpr fun c _ => ?_
    grind [reported, inside]

/-- What is reported at the end of a path can be handed down a level, since the root of a tree is
below nothing. -/
theorem perm_total_reported {β : Type} (report : Match → β) (outer : List Node → Bool)
    (root : Node) :
    (total (reported report (inside kind outerField outer) field shape)
        (lineages [] root) place).Perm
      (total (reported report outer outerField (.mk kind none [(field, shape)]))
        (lineages [] root) place) := by
  rw [← handDown_reported]
  exact perm_total_of_root fun place => by simp [reported, inside]

/-- What holds of the matches of a description holds of those of a description that has it below.
-/
theorem forall_mem_fits_singleton {P : Match → Prop}
    (h : ∀ n place, ∀ m ∈ fits shape place n, P m) (n : Node) :
    ∀ m ∈ fits (.mk kind none [(field, shape)]) place n, P m := by
  intro m hm
  rw [fits_singleton] at hm
  split at hm
  · obtain ⟨c, -, hc⟩ := List.mem_flatMap.mp hm
    split at hc
    · exact h _ _ m hc
    · cases hc
  · cases hm

/-- A description in a field does not fit where no node is in the field. -/
theorem fitsBelow_eq_nil {f : Field} {more : List (Option Field × Shape)} {ns : List Node}
    (h : ∀ n ∈ ns, n.field ≠ some f) :
    fitsBelow ((some f, shape) :: more) last place ns = [] := by
  induction ns generalizing place with
  | nil => simp [fitsBelow]
  | cons n ns ih =>
    have here : some f ≠ n.field := (h n (List.mem_cons_self ..)).symm
    simp [fitsBelow, here, ih fun m hm => h m (List.mem_cons_of_mem n hm)]

end Paths

/-! ### What the patterns find -/

section Found

variable {p q : Pattern} {root : Node} {name : String} {wanted wanted' : Lineage → Bool}

/-- What is found in a match: its specifiers, with the place by which it is complete. -/
def finding (p : Pattern) (m : Match) : Nat × List (List Char) := (m.last, inRoles p m.captures)

/-- What a pattern finds at a node. -/
def foundAt (p : Pattern) (l : Lineage) (place : Nat) : List (Nat × List (List Char)) :=
  (matchesOf p place l.node).map (finding p)

/-- What two patterns find at a node. -/
theorem findings_pair (p q : Pattern) (l : Lineage) (place : Nat) :
    findings [p, q] place l.node = foundAt p l place ++ foundAt q l place := by
  simp only [findings, foundAt, List.flatMap_cons, List.flatMap_nil, List.append_nil]
  rfl

/-- What two patterns find is what the one and the other find, node by node. -/
theorem perm_allFindings (p q : Pattern) (root : Node) :
    (allFindings [p, q] root).Perm
      (total (foundAt p) (lineages [] root) 0 ++ total (foundAt q) (lineages [] root) 0) := by
  have both : allFindings [p, q] root =
      total (fun l place => foundAt p l place ++ foundAt q l place) (lineages [] root) 0 := by
    rw [allFindings, ← total_lineages_node (fun n place => findings [p, q] place n)]
    exact total_congr fun l _ place => findings_pair p q l place
  rw [both]
  exact perm_total_append _ _ _

/-- A pattern without a condition finds what its description reports. -/
theorem foundAt_of_unconditional (free : p.condition = none) :
    foundAt p = reported (finding p) (fun _ => true) none p.shape := by
  funext l place
  simp [foundAt, reported, matchesOf, Pattern.admits, free]

/-- The specifiers of the nodes that are wanted, as marks. -/
abbrev marks (wanted : Lineage → Bool) : Lineage → Nat → List (Nat × List (List Char)) :=
  mark wanted fun l => [l.specifier]

/-- What is reported of a captured node is a mark, if the name that it is captured under is a role.
-/
theorem reported_captured {kind : Kind} {field : Option Field} {outer : List Node → Bool}
    (role : p.roles.contains name = true)
    (same : ∀ l, wanted l =
      (outer l.above && (field == none || field == l.node.field) && l.node.kind == kind)) :
    reported (finding p) outer field (captured kind name) = marks wanted := by
  funext l place
  rw [reported, fits_captured, marks, mark, same]
  by_cases h : outer l.above = true <;> by_cases h' : field = none ∨ field = l.node.field <;>
    by_cases h'' : l.node.kind = kind <;>
    simp_all [finding, inRoles, Lineage.specifier]

/-- **The specifiers are those of the nodes that are wanted**, in the order of the tree, if what is
found comes to their marks. -/
theorem specifiers_of_perm {patterns : List Pattern}
    (perm : (allFindings patterns root).Perm (total (marks wanted) (lineages [] root) 0)) :
    specifiers patterns root = ((lineages [] root).filter wanted).map Lineage.specifier := by
  have items : (total (marks wanted) (lineages [] root) 0).map (·.2) =
      ((lineages [] root).filter wanted).map fun l => [l.specifier] := map_snd_total_mark
  rw [specifiers, byPlace_eq_of_perm perm pairwise_total_mark, List.flatMap_def, items,
    ← List.flatMap_def]
  exact List.map_eq_flatMap.symm

end Found

/-! ### Modules -/

/-- The pattern for the dotted names in a field of a statement. -/
def nameOfPattern (statementKind : Kind) (field : Field) (name : String) : Pattern where
  shape := .mk statementKind none [(some field, captured .dottedName name)]
  roles := [name]

/-- What the pattern for dotted names finds are these names. -/
theorem perm_foundAt_nameOf (statementKind : Kind) (field : Field) (name : String) (root : Node) :
    (total (foundAt (nameOfPattern statementKind field name)) (lineages [] root) 0).Perm
      (total (marks (Lineage.isNameOf statementKind field)) (lineages [] root) 0) := by
  have names : reported (finding (nameOfPattern statementKind field name))
      (inside statementKind none fun _ => true) (some field) (captured .dottedName name) =
        marks (Lineage.isNameOf statementKind field) :=
    reported_captured (by simp [nameOfPattern]) fun ⟨n, above⟩ => by
      cases above <;> grind [Lineage.isNameOf, inside]
  rw [foundAt_of_unconditional rfl, ← names]
  exact (perm_total_reported _ _ root).symm

/-- **The specifiers of a module.** -/
theorem specifiers_modulePatterns (root : Node) :
    specifiers modulePatterns root = listing .python root := by
  refine specifiers_of_perm ((perm_allFindings _ _ root).trans ?_)
  refine ((perm_foundAt_nameOf _ _ _ root).append (perm_foundAt_nameOf _ _ _ root)).trans ?_
  refine perm_total_mark_or fun ⟨n, above⟩ => ?_
  cases above <;> grind [Lineage.isNameOf]

/-! ### Programs -/

section Programs

variable {name : String} {place last : Nat}

/-- The pattern for the sources of import statements. -/
def sourcePattern : Pattern where
  shape := .mk .importStatement none [(some .source, stringShape "import_source")]
  roles := ["import_source"]

/-- What is wanted of the arguments of a call. -/
def argumentsShape : Shape := .mk .arguments none [(none, stringShape "require_source")]

/-- The pattern for calls of `require`. -/
def requirePattern : Pattern where
  shape := .mk .callExpression none
    [(some .function, captured .identifier "function_name"), (some .arguments, argumentsShape)]
  condition := some ("function_name", "require")
  roles := ["require_source"]

/-- What the pattern for sources finds are the fragments of sources. -/
theorem perm_foundAt_source (root : Node) :
    (total (foundAt sourcePattern) (lineages [] root) 0).Perm
      (total (marks Lineage.isSourceFragment) (lineages [] root) 0) := by
  have fragments : reported (finding sourcePattern)
      (inside .string (some .source) (inside .importStatement none fun _ => true)) none
      (captured .stringFragment "import_source") = marks Lineage.isSourceFragment :=
    reported_captured rfl fun ⟨n, above⟩ => by
      match above with
      | [] | [_] | _ :: _ :: _ => grind [Lineage.isSourceFragment, inside]
  rw [foundAt_of_unconditional rfl, ← fragments]
  exact ((perm_total_reported _ _ root).trans (perm_total_reported _ _ root)).symm

/-- In the arguments of a call only the fragments of strings are captured. -/
theorem captures_of_mem_fits_arguments (n : Node) :
    ∀ m ∈ fits argumentsShape place n, ∀ c ∈ m.captures, c.1 = "require_source" := by
  refine forall_mem_fits_singleton (fun n place => forall_mem_fits_singleton (fun n place => ?_) n) n
  intro m hm
  rw [fits_captured] at hm
  split at hm
  · rw [List.mem_singleton.mp hm]
    simp
  · cases hm

/-- Whether the nearest of some nodes is a call of `require`. -/
def insideRequire (above : List Node) : Bool := above.head?.any Node.callsRequire

/-- The matches in the arguments of a call. -/
def inArguments (place : Nat) (call : Node) : List Match :=
  fitsBelow [(some .arguments, argumentsShape)] place (place + 1) call.children

/-- A call is matched in the ways in which its arguments are, with its callee captured as well. -/
theorem fits_requirePattern {call callee : Node} {rest : List Node}
    (kind : call.kind = .callExpression) (children : call.children = callee :: rest)
    (field : callee.field = some .function) (others : ∀ c ∈ rest, c.field ≠ some .function) :
    fits requirePattern.shape place call =
      if callee.kind = .identifier then
        (inArguments place call).map (·.after [("function_name", callee.text)])
      else [] := by
  obtain ⟨k, f, t, cs⟩ := call
  obtain rfl : k = .callExpression := kind
  obtain rfl : cs = callee :: rest := children
  have below : inArguments place (.mk .callExpression f t (callee :: rest)) =
      fitsBelow [(some .arguments, argumentsShape)] (place + 1) (place + 1 + callee.size) rest := by
    simp [inArguments, Node.children, fitsBelow_singleton, placed, field]
  rw [below]
  by_cases name : callee.kind = .identifier <;>
    simp [requirePattern, fits, fitsBelow, field, fitsBelow_eq_nil others, fits_captured, name,
      captureOf]

/-- The matches of a call are admitted if it calls `require`, and its callee is no specifier. -/
theorem map_finding_filter_admits {ms : List Match} {text : List Char}
    (fragments : ∀ m ∈ ms, ∀ c ∈ m.captures, c.1 = "require_source") :
    ((ms.map (·.after [("function_name", text)])).filter fun m =>
        requirePattern.admits m.captures).map (finding requirePattern) =
      if text = "require".toList then ms.map (finding requirePattern) else [] := by
  have admits : ∀ m ∈ ms, requirePattern.admits (m.after [("function_name", text)]).captures =
      (text == "require".toList) := by
    intro m hm
    have others : (m.captures.all fun c => c.1 != "function_name" || c.2 == "require".toList) =
        true :=
      List.all_eq_true.mpr fun c hc => by rw [fragments m hm c hc]; rfl
    change (("function_name", text) :: m.captures).all
      (fun c => c.1 != "function_name" || c.2 == "require".toList) = _
    rw [List.all_cons, others, Bool.and_true]
    rfl
  split
  next calls =>
    rw [List.filter_eq_self.mpr, List.map_map]
    · exact List.map_congr_left fun m _ => rfl
    · intro m' hm'
      obtain ⟨m, hm, rfl⟩ := List.mem_map.mp hm'
      rw [admits m hm, calls, beq_self_eq_true]
  next other =>
    rw [List.filter_eq_nil_iff.mpr, List.map_nil]
    intro m' hm'
    obtain ⟨m, hm, rfl⟩ := List.mem_map.mp hm'
    rw [admits m hm]
    simpa using other

/-- What is reported of the arguments of a call of `require` is what is reported of its matches. -/
theorem handDown_insideRequire (l : Lineage) :
    handDown (reported (finding requirePattern) insideRequire (some .arguments) argumentsShape)
        l place =
      if l.node.callsRequire then (inArguments place l.node).map (finding requirePattern)
      else [] := by
  rw [handDown, inArguments, fitsBelow_singleton, List.map_flatMap]
  split
  next calls =>
    refine List.flatMap_congr fun c _ => ?_
    by_cases here : some Field.arguments = c.1.field <;>
      simp [reported, insideRequire, calls, here]
  next other =>
    refine List.flatMap_eq_nil_iff.mpr fun c _ => ?_
    simp [reported, insideRequire, other]

/-- A call that starts with what it calls calls `require` if this is its name. -/
theorem callsRequire_iff {call callee : Node} {rest : List Node}
    (kind : call.kind = .callExpression) (children : call.children = callee :: rest)
    (field : callee.field = some .function) (others : ∀ c ∈ rest, c.field ≠ some .function) :
    call.callsRequire = true ↔ callee.kind = .identifier ∧ callee.text = "require".toList := by
  have no : rest.any (fun c => c.kind == .identifier && c.field == some .function &&
      c.text == "require".toList) = false :=
    List.any_eq_false.mpr fun c hc => by simp [others c hc]
  rw [Node.callsRequire, kind, children, List.any_cons, no, Bool.or_false]
  simp [field]

/-- **What the pattern for calls finds at a node** is what is reported of its arguments, if it calls
`require`. -/
theorem foundAt_requirePattern {l : Lineage}
    (calls : l.node.kind = .callExpression → l.node.StartsWithCallee) :
    foundAt requirePattern l place =
      handDown (reported (finding requirePattern) insideRequire (some .arguments) argumentsShape)
        l place := by
  rw [handDown_insideRequire, foundAt, matchesOf]
  by_cases kind : l.node.kind = .callExpression
  · obtain ⟨callee, rest, children, field, others⟩ := calls kind
    have require := callsRequire_iff kind children field others
    rw [fits_requirePattern kind children field others]
    split
    next name =>
      rw [map_finding_filter_admits]
      · simp only [require, name, true_and]
      · intro m hm
        rw [inArguments, fitsBelow_singleton] at hm
        obtain ⟨c, -, hc⟩ := List.mem_flatMap.mp hm
        split at hc
        · exact captures_of_mem_fits_arguments _ m hc
        · cases hc
    next other =>
      rw [if_neg fun h => other (require.mp h).1]
      rfl
  · have unmatched : fits requirePattern.shape place l.node = [] := by
      obtain ⟨⟨k, f, t, cs⟩, above⟩ := l
      exact if_neg kind
    rw [unmatched, if_neg (by simp [Node.callsRequire, kind])]
    rfl

/-- What the pattern for calls finds are the fragments of the arguments of `require`. -/
theorem perm_foundAt_require {language : Language} {root : Node} (tree : IsTreeOf language root) :
    (total (foundAt requirePattern) (lineages [] root) 0).Perm
      (total (marks Lineage.isRequiredFragment) (lineages [] root) 0) := by
  have fragments : reported (finding requirePattern)
      (inside .string none (inside .arguments (some .arguments) insideRequire)) none
      (captured .stringFragment "require_source") = marks Lineage.isRequiredFragment :=
    reported_captured rfl fun ⟨n, above⟩ => by
      match above with
      | [] | [_] | [_, _] | _ :: _ :: _ :: _ =>
        grind [Lineage.isRequiredFragment, inside, insideRequire]
  have atCalls : total (foundAt requirePattern) (lineages [] root) 0 =
      total (handDown (reported (finding requirePattern) insideRequire (some .arguments)
        argumentsShape)) (lineages [] root) 0 := by
    refine total_congr fun l hl place => foundAt_requirePattern (tree.calls l.node ?_)
    rw [← map_node_lineages []]
    exact List.mem_map_of_mem hl
  rw [atCalls, ← fragments]
  refine (perm_total_of_root fun place => ?_).symm.trans
    ((perm_total_reported _ _ root).trans (perm_total_reported _ _ root)).symm
  simp [reported, insideRequire]

/-- **The specifiers of a program.** -/
theorem specifiers_programPatterns {language : Language} {root : Node}
    (tree : IsTreeOf language root) :
    specifiers programPatterns root =
      ((lineages [] root).filter fun l => l.isSourceFragment || l.isRequiredFragment).map
        Lineage.specifier := by
  refine specifiers_of_perm ((perm_allFindings sourcePattern requirePattern root).trans ?_)
  refine ((perm_foundAt_source root).append (perm_foundAt_require tree)).trans ?_
  refine perm_total_mark_or fun ⟨n, above⟩ => ?_
  match above with
  | [] | [_] | [_, _] | _ :: _ :: _ :: _ =>
    grind [Lineage.isSourceFragment, Lineage.isRequiredFragment]

end Programs

/-! ### Extraction -/

/-- The patterns fit the grammar, so that all specifiers of a tree are extracted. -/
theorem extract_eq_specifiers {language : Language} {root : Node}
    (kind : root.kind = rootKind language) (tag : Language) :
    extract ⟨tag, language, root⟩ =
      ((specifiers (patternsFor (rootKind language).name) root).map String.ofList, []) := by
  have known : unknown? language (patternsFor (rootKind language).name) = none := by
    cases language <;> rfl
  rw [extract, extractAs, kind]
  simp only [known]

/-- **What is extracted from a tree** are the specifiers of its captured nodes, in the order of the
tree. -/
theorem extract_eq_listing {language : Language} {root : Node} (tree : IsTreeOf language root)
    (tag : Language) :
    extract ⟨tag, language, root⟩ = ((listing language root).map String.ofList, []) := by
  have specified : specifiers (patternsFor (rootKind language).name) root =
      listing language root := by
    cases language with
    | python => exact specifiers_modulePatterns root
    | _ => exact specifiers_programPatterns tree
  rw [extract_eq_specifiers tree.kind, specified]

/-! ### One tree after another, and one below a node

A root is nothing that is captured, and no node is captured because it is below a root. So the
statements of a tree are listed as if they were below nothing. The same goes for nodes of the kinds
that no import is made of, so that it does not matter how deep in them a statement is. -/

/-- The tree with the statements of one tree **followed by** those of another. -/
def Node.followedBy (root other : Node) : Node :=
  .mk root.kind root.field root.text (root.children ++ other.children)

/-- The tree with the statements of a tree **enclosed** in a node of another kind. -/
def Node.enclosed (root : Node) : Node :=
  .mk root.kind root.field root.text [.branch .other none root.children]

/-- The kinds that are **neutral** in a language: those of roots, and those that no import is made
of. -/
def Kind.Neutral (language : Language) (kind : Kind) : Prop :=
  kind = rootKind language ∨ kind = .other

/-- A lineage below more nodes. -/
def Lineage.below (outer : List Node) (l : Lineage) : Lineage := ⟨l.node, l.above ++ outer⟩

mutual

/-- The lineages below more nodes. -/
theorem lineages_below (above outer : List Node) :
    (n : Node) → lineages (above ++ outer) n = (lineages above n).map (.below outer)
  | .mk k f t cs => by
    rw [lineages, lineages, List.map_cons, ← lineagesAll_below _ outer cs]
    rfl

theorem lineagesAll_below (above outer : List Node) :
    (ns : List Node) → lineagesAll (above ++ outer) ns = (lineagesAll above ns).map (.below outer)
  | [] => rfl
  | n :: ns => by
    rw [lineagesAll, lineagesAll, List.map_append, lineages_below, lineagesAll_below above outer ns]

end

section Roots

variable {language : Language} {n root other : Node}

/-- Below a neutral node the same is captured as below nothing. -/
theorem isCaptured_below (neutral : n.kind.Neutral language) (l : Lineage) :
    (l.below [n]).isCaptured language = l.isCaptured language := by
  obtain ⟨m, above⟩ := l
  rcases neutral with kind | kind <;>
    match above with
    | [] | [_] | [_, _] | _ :: _ :: _ :: _ =>
      cases language <;>
        simp [Lineage.below, Lineage.isCaptured, Lineage.isModuleName, Lineage.isImportedName,
          Lineage.isNameOf, Lineage.isSourceFragment, Lineage.isRequiredFragment,
          Node.callsRequire, kind, rootKind]

/-- What is listed of a neutral node is what is listed of those below it. -/
theorem listing_eq_children (neutral : n.kind.Neutral language) :
    listing language n =
      ((lineagesAll [] n.children).filter (Lineage.isCaptured language)).map
        Lineage.specifier := by
  have statements : lineages [] n =
      ⟨n, []⟩ :: (lineagesAll [] n.children).map (.below [n]) := by
    obtain ⟨k, f, t, cs⟩ := n
    rw [← lineagesAll_below]
    rfl
  have itself : Lineage.isCaptured language ⟨n, []⟩ = false := by
    cases language <;> rfl
  rw [listing, statements, List.filter_cons, itself, if_neg nofun, List.filter_map, List.map_map]
  simp only [Function.comp_def, isCaptured_below neutral]
  rfl

/-- **One tree after another**: what is listed of both is what is listed of the one and then of the
other. -/
theorem listing_followedBy (kind : root.kind = rootKind language)
    (kind' : other.kind = rootKind language) :
    listing language (root.followedBy other) = listing language root ++ listing language other := by
  have whole : (root.followedBy other).kind = rootKind language := kind
  rw [listing_eq_children (.inl whole), listing_eq_children (.inl kind),
    listing_eq_children (.inl kind'), ← List.map_append, ← List.filter_append,
    ← lineagesAll_append]
  rfl

/-- **One tree below a node of another kind** is listed as it is by itself. -/
theorem listing_enclosed (kind : root.kind = rootKind language) :
    listing language root.enclosed = listing language root := by
  have whole : root.enclosed.kind = rootKind language := kind
  have inner : lineagesAll [] root.enclosed.children =
      lineages [] (.branch .other none root.children) := List.append_nil _
  rw [listing_eq_children (.inl whole), inner, ← listing, listing_eq_children (.inr rfl),
    listing_eq_children (.inl kind)]
  rfl

/-- The root of a tree is no call. -/
theorem IsTreeOf.kind_ne_call (tree : IsTreeOf language root) : root.kind ≠ .callExpression := by
  rw [tree.kind]
  cases language <;> simp [rootKind]

/-- Two trees of a language make a tree of the language. -/
theorem IsTreeOf.followedBy (tree : IsTreeOf language root) (tree' : IsTreeOf language other) :
    IsTreeOf language (root.followedBy other) where
  kind := tree.kind
  calls n hn call := by
    rcases List.mem_cons.mp hn with rfl | hn
    · exact absurd call tree.kind_ne_call
    · rw [Node.preorderAll_append] at hn
      rcases List.mem_append.mp hn with hn | hn
      · exact tree.calls n (Node.mem_preorder_of_children hn) call
      · exact tree'.calls n (Node.mem_preorder_of_children hn) call

/-- So does a tree whose statements are enclosed. -/
theorem IsTreeOf.enclosed (tree : IsTreeOf language root) : IsTreeOf language root.enclosed where
  kind := tree.kind
  calls n hn call := by
    rcases List.mem_cons.mp hn with rfl | hn
    · exact absurd call tree.kind_ne_call
    · obtain ⟨m, hm, hn⟩ := Node.mem_preorderAll.mp hn
      obtain rfl := List.mem_singleton.mp hm
      rcases List.mem_cons.mp hn with rfl | hn
      · cases call
      · exact tree.calls n (Node.mem_preorder_of_children hn) call

/-- **What is extracted does not depend on how deep it is** in nodes that no import is made of. -/
theorem extract_enclosed (tag : Language) (tree : IsTreeOf language root) :
    extract ⟨tag, language, root.enclosed⟩ = extract ⟨tag, language, root⟩ := by
  rw [extract_eq_listing tree.enclosed, extract_eq_listing tree, listing_enclosed tree.kind]

/-- **Extraction goes through a tree once**, in its own order: what is extracted from a tree of a
language is one specifier for each captured node, wherever it stands. What is extracted from one
tree after another is what is extracted from the one and then what is extracted from the other. -/
theorem extraction_traverses (tag language : Language) (root other : Node)
    (tree : IsTreeOf language root) (tree' : IsTreeOf language other) :
    (lineages [] root).map (·.node) = root.preorder ∧
    extract ⟨tag, language, root⟩ =
      (((lineages [] root).filter (Lineage.isCaptured language)).map fun l =>
        String.ofList l.specifier, []) ∧
    (extract ⟨tag, language, root.followedBy other⟩).1 =
      (extract ⟨tag, language, root⟩).1 ++ (extract ⟨tag, language, other⟩).1 := by
  refine ⟨map_node_lineages [] root, ?_, ?_⟩
  · rw [extract_eq_listing tree, listing, List.map_map]
    rfl
  · rw [extract_eq_listing (tree.followedBy tree'), extract_eq_listing tree,
      extract_eq_listing tree', listing_followedBy tree.kind tree'.kind, List.map_append]

/-- Of a module, relative and aliased imports and those of features give nothing. -/
example :
    (extract ⟨.python, .python, treeOf .python
      "import a, b as c\nfrom .d import e\nfrom __future__ import f\nfrom g.h import i".toList⟩).1 =
        ["a", "g.h"] := by
  decide +kernel

/-- The tree of a call among the arguments of a call. -/
theorem treeOf_nestedCalls :
    treeOf .javascript "require(require('a'), 'b')".toList =
      .branch .program none [Program.callNode
        [Program.callNode [Program.stringNode none ['a']], Program.stringNode none ['b']]] := by
  have tokens : Program.tokens ⟨true, false⟩ "require(require('a'), 'b')".toList =
      [.word "require".toList, .opening .round, .word "require".toList, .opening .round,
        .text ['a'], .closing .round, .mark ",", .text ['b'], .closing .round] := by
    decide +kernel
  rw [treeOf_of_tokens tokens]
  simp only [Program.partsOf, Program.partsFrom]
  rfl

/-- The tree of an import statement. -/
theorem treeOf_importStatement :
    treeOf .javascript "import './c'".toList =
      .branch .program none [Program.importNode "./c".toList] := by
  have tokens : Program.tokens ⟨true, false⟩ "import './c'".toList =
      [.word "import".toList, .text "./c".toList] := by
    decide +kernel
  rw [treeOf_of_tokens tokens]
  simp only [Program.partsOf, Program.partsFrom]
  rfl

/-- Nested calls below a node of another kind, followed by an import statement: the inner call comes
before the string after it. -/
theorem extraction_traverses_nestedCalls :
    IsTreeOf .javascript (treeOf .javascript "require(require('a'), 'b')".toList).enclosed ∧
    IsTreeOf .javascript (treeOf .javascript "import './c'".toList) ∧
    (extract ⟨.javascript, .javascript,
      (treeOf .javascript "require(require('a'), 'b')".toList).enclosed.followedBy
        (treeOf .javascript "import './c'".toList)⟩).1 = ["a", "b", "./c"] := by
  have calls := (isTreeOf_treeOf .javascript "require(require('a'), 'b')".toList).enclosed
  have statement := isTreeOf_treeOf .javascript "import './c'".toList
  refine ⟨calls, statement, ?_⟩
  rw [(extraction_traverses .javascript .javascript _ _ calls statement).2.2,
    (extraction_traverses .javascript .javascript _ _ calls statement).2.1,
    (extraction_traverses .javascript .javascript _ _ statement calls).2.1,
    treeOf_nestedCalls, treeOf_importStatement]
  decide +kernel

end Roots

end DepGraph.Syntax
