import DepGraph.Proofs.Syntax.Traversal

/-!
# Specifiers as they are written

A specifier is meant to be the text between the quotes of a string. Two things come between. A
string has a fragment for each stretch between its escapes, and every fragment is captured by
itself; and what is captured loses a quote mark at its start and one at its end, although the quotes
of the string are not in it. So a string is extracted as it is written exactly if it has no escape
and no quote mark at its ends (`DepGraph.Syntax.specifiersOf_eq_singleton_iff`).

Each specifier of a program comes from the node that it was found at
(`DepGraph.Syntax.perm_contributions`), and the nodes that request a single string
(`DepGraph.Syntax.Requests`) contribute what is extracted of it. The exception is an import statement
that gives a name to what is required: its string is one level too deep for the patterns.
-/

namespace DepGraph.Syntax

/-! ### Quote marks at the ends -/

section Quotes

variable {raw cs : List Char} {c : Char}

/-- A text is **bare** at its end, if no quote mark is the last of it, be it for a line break. -/
structure IsBareAtEnd (cs : List Char) : Prop where
  /-- The last character is no quote mark. -/
  last : ∀ front q, cs = front ++ [q] → isQuoteMark q = false
  /-- The last character before a line break is none. -/
  beforeBreak : ∀ front q, cs = front ++ [q, '\n'] → isQuoteMark q = false

theorem dropEndQuote_beforeBreak (front : List Char) (q : Char) :
    dropEndQuote (front ++ [q, '\n']) =
      if isQuoteMark q then front ++ ['\n'] else front ++ [q, '\n'] := by
  simp [dropEndQuote]

theorem dropEndQuote_last (front : List Char) {q : Char} (h : q ≠ '\n') :
    dropEndQuote (front ++ [q]) = if isQuoteMark q then front else front ++ [q] := by
  simp [dropEndQuote, h]

/-- The ways in which a text ends, with regard to line breaks. -/
theorem eq_append_cases (cs : List Char) :
    cs = [] ∨ cs = ['\n'] ∨ (∃ front q, cs = front ++ [q, '\n']) ∨
      ∃ front q, q ≠ '\n' ∧ cs = front ++ [q] := by
  rcases cs.eq_nil_or_concat with rfl | ⟨front, q, rfl⟩
  · exact .inl rfl
  by_cases h : q = '\n'
  · subst h
    rcases front.eq_nil_or_concat with rfl | ⟨front, q, rfl⟩
    · exact .inr (.inl rfl)
    · exact .inr (.inr (.inl ⟨front, q, by simp⟩))
  · exact .inr (.inr (.inr ⟨front, q, h, by simp⟩))

theorem length_dropEndQuote_le (cs : List Char) : (dropEndQuote cs).length ≤ cs.length := by
  rcases eq_append_cases cs with rfl | rfl | ⟨front, q, rfl⟩ | ⟨front, q, h, rfl⟩
  · exact Nat.le_refl _
  · exact Nat.le_refl _
  · rw [dropEndQuote_beforeBreak]
    split <;> simp
  · rw [dropEndQuote_last front h]
    split <;> simp

/-- Nothing is dropped from the end of the texts that are bare there. -/
theorem dropEndQuote_eq_self_iff : dropEndQuote cs = cs ↔ IsBareAtEnd cs := by
  rcases eq_append_cases cs with rfl | rfl | ⟨front, q, rfl⟩ | ⟨front, q, h, rfl⟩
  · exact ⟨fun _ => ⟨by simp, by simp⟩, fun _ => rfl⟩
  · refine ⟨fun _ => ⟨fun front q e => ?_, fun front q e => ?_⟩, fun _ => rfl⟩
    · have same : q = '\n' := by simpa [eq_comm] using (congrArg List.getLast? e)
      rw [same]
      rfl
    · simpa using congrArg List.length e
  · rw [dropEndQuote_beforeBreak]
    split
    next quote =>
      refine ⟨fun e => ?_, fun bare => ?_⟩
      · simpa using congrArg List.length e
      · simpa [quote] using bare.beforeBreak front q rfl
    next other =>
      refine ⟨fun _ => ⟨fun front' q' e => ?_, fun front' q' e => ?_⟩, fun _ => rfl⟩
      · have same : q' = '\n' := by simpa [eq_comm] using congrArg List.getLast? e
        rw [same]
        rfl
      · have turned := congrArg List.reverse e
        simp only [List.reverse_append, List.reverse_cons, List.reverse_nil, List.nil_append,
          List.cons_append, List.cons.injEq, true_and] at turned
        simpa [turned.1] using other
  · rw [dropEndQuote_last front h]
    split
    next quote =>
      refine ⟨fun e => ?_, fun bare => ?_⟩
      · simpa using congrArg List.length e
      · simpa [quote] using bare.last front q rfl
    next other =>
      refine ⟨fun _ => ⟨fun front' q' e => ?_, fun front' q' e => ?_⟩, fun _ => rfl⟩
      · have same : q = q' := by simpa using congrArg List.getLast? e
        simpa [same] using other
      · have same : q = '\n' := by simpa using congrArg List.getLast? e
        exact absurd same h

/-- Nothing is trimmed from a text that is bare at both ends. -/
theorem trimQuotes_eq_self_iff :
    trimQuotes raw = raw ↔ (∀ q ∈ raw.head?, isQuoteMark q = false) ∧ IsBareAtEnd raw := by
  cases raw with
  | nil => exact ⟨fun _ => ⟨nofun, ⟨by simp, by simp⟩⟩, fun _ => rfl⟩
  | cons c cs =>
    rw [trimQuotes]
    split
    next quote =>
      refine ⟨fun h => ?_, fun h => ?_⟩
      · have shorter := length_dropEndQuote_le cs
        rw [h, List.length_cons] at shorter
        omega
      · simp [quote] at h
    next other => simp [dropEndQuote_eq_self_iff, other]

theorem length_trimQuotes_le (raw : List Char) : (trimQuotes raw).length ≤ raw.length := by
  cases raw with
  | nil => simp [trimQuotes]
  | cons c cs =>
    rw [trimQuotes]
    split
    · exact (length_dropEndQuote_le cs).trans (Nat.le_succ _)
    · exact length_dropEndQuote_le (c :: cs)

end Quotes

/-! ### Fragments -/

namespace Program

variable {raw current cs : List Char} {skip : Nat}

/-- The fragment so far, if it is not empty, is a fragment. -/
theorem flatten_pending (current : List Char) :
    (if current.isEmpty then [] else [current.reverse]).flatten = current.reverse := by
  cases current <;> simp

/-- The fragments of a text are parts of it, one after the other. -/
theorem sublist_flatten_fragmentsFrom (current : List Char) (skip : Nat) (cs : List Char) :
    (fragmentsFrom current skip cs).flatten.Sublist (current.reverse ++ cs) := by
  induction cs generalizing current skip with
  | nil => rw [fragmentsFrom, flatten_pending, List.append_nil]
  | cons c cs ih =>
    cases skip with
    | succ skip =>
      exact (ih current skip).trans ((List.sublist_cons_self c cs).append_left _)
    | zero =>
      rw [fragmentsFrom]
      split
      · rw [List.flatten_append, flatten_pending]
        exact ((ih [] (escapeLength cs)).trans (List.sublist_cons_self c cs)).append_left _
      · simpa using ih (c :: current) 0

/-- The fragment so far is proper, if it is without escapes. -/
theorem proper_of_mem_pending {f : List Char} (clean : '\\' ∉ current)
    (h : f ∈ if current.isEmpty then [] else [current.reverse]) : f ≠ [] ∧ '\\' ∉ f := by
  cases current with
  | nil => cases h
  | cons c current =>
    rw [List.mem_singleton.mp h, List.mem_reverse]
    exact ⟨by simp, clean⟩

/-- No fragment is empty or holds the start of an escape. -/
theorem proper_of_mem_fragmentsFrom {f : List Char} (clean : '\\' ∉ current)
    (h : f ∈ fragmentsFrom current skip cs) : f ≠ [] ∧ '\\' ∉ f := by
  induction cs generalizing current skip with
  | nil => exact proper_of_mem_pending clean h
  | cons c cs ih =>
    cases skip with
    | succ skip => exact ih clean h
    | zero =>
      rw [fragmentsFrom] at h
      split at h
      · rcases List.mem_append.mp h with h | h
        · exact proper_of_mem_pending clean h
        · exact ih List.not_mem_nil h
      next other =>
        refine ih (fun member => ?_) h
        rcases List.mem_cons.mp member with rfl | member
        · exact other (beq_self_eq_true _)
        · exact clean member

/-- A text without escapes is a single fragment. -/
theorem fragmentsFrom_of_unescaped (clean : '\\' ∉ cs) (filled : current ≠ [] ∨ cs ≠ []) :
    fragmentsFrom current 0 cs = [current.reverse ++ cs] := by
  induction cs generalizing current with
  | nil =>
    have : current.isEmpty = false := by simpa using filled
    simp [fragmentsFrom, this]
  | cons c cs ih =>
    obtain ⟨other, clean⟩ := not_or.mp (mt List.mem_cons.mpr clean)
    rw [fragmentsFrom, if_neg fun h => other (eq_of_beq h).symm,
      ih clean (.inl (List.cons_ne_nil _ _)), List.reverse_cons, List.append_assoc]
    rfl

/-- **A string is its only fragment** if it is not empty and has no escapes. -/
theorem fragments_eq_singleton_iff : fragments raw = [raw] ↔ raw ≠ [] ∧ '\\' ∉ raw := by
  refine ⟨fun h => ?_, fun ⟨filled, clean⟩ => fragmentsFrom_of_unescaped clean (.inr filled)⟩
  have itself : raw ∈ fragments raw := by
    rw [h]
    exact List.mem_singleton_self raw
  exact proper_of_mem_fragmentsFrom List.not_mem_nil itself

end Program

/-! ### What is extracted of a string -/

section Strings

open Program

variable {raw : List Char} {name : String} {place : Nat} {p : Pattern}

/-- The **specifiers of a string** that has this between its quotes. -/
def specifiersOf (raw : List Char) : List (List Char) := (fragments raw).map trimQuotes

/-- A text is **plain** if it stands for itself between quotes, and nothing of it looks like them. -/
structure IsPlain (raw : List Char) : Prop where
  /-- It is not empty. -/
  filled : raw ≠ []
  /-- It has no escapes. -/
  unescaped : '\\' ∉ raw
  /-- It does not start with a quote mark. -/
  bareAtStart : ∀ q ∈ raw.head?, isQuoteMark q = false
  /-- It does not end with a quote mark. -/
  bareAtEnd : IsBareAtEnd raw

/-- **A string is extracted as it is written** exactly if it is plain. -/
theorem specifiersOf_eq_singleton_iff : specifiersOf raw = [raw] ↔ IsPlain raw := by
  constructor
  · intro h
    obtain ⟨f, only, trimmed⟩ := List.map_eq_singleton_iff.mp h
    -- the fragment is a part of the text, and trimming can only have made it shorter
    have part := sublist_flatten_fragmentsFrom [] 0 raw
    rw [← fragments, only, List.flatten_singleton, List.reverse_nil, List.nil_append] at part
    have long := length_trimQuotes_le f
    rw [trimmed] at long
    obtain rfl := part.eq_of_length_le long
    obtain ⟨filled, unescaped⟩ := fragments_eq_singleton_iff.mp only
    obtain ⟨start, bare⟩ := trimQuotes_eq_self_iff.mp trimmed
    exact ⟨filled, unescaped, start, bare⟩
  · intro ⟨filled, unescaped, start, bare⟩
    rw [specifiersOf, fragments_eq_singleton_iff.mpr ⟨filled, unescaped⟩, List.map_singleton,
      trimQuotes_eq_self_iff.mpr ⟨start, bare⟩]

/-- The quote marks of another kind are taken for the quotes of the string. -/
example : specifiersOf "'q'".toList = ["q".toList] := by decide

/-- What is reported of a string are its specifiers. -/
theorem flatMap_finding_string (role : p.roles.contains name = true) (field : Option Field) :
    ((fits (stringShape name) place (stringNode field raw)).map (finding p)).flatMap (·.2) =
      specifiersOf raw := by
  have each (place : Nat) (fs : List (List Char)) :
      (((placed place (fs.map (.leaf .stringFragment none))).flatMap fun c =>
        fits (captured .stringFragment name) c.2 c.1).map (finding p)).flatMap (·.2) =
      fs.map trimQuotes := by
    induction fs generalizing place with
    | nil => rfl
    | cons f fs ih =>
      have here : fits (captured .stringFragment name) place (.leaf .stringFragment none f) =
          [⟨[(name, f)], place⟩] := by
        rw [fits_captured]
        exact if_pos rfl
      have taken : inRoles p [(name, f)] = [trimQuotes f] := by
        simp only [inRoles, List.filter_cons, role, if_true, List.filter_nil, List.map_singleton]
      rw [List.map_cons, placed, List.flatMap_cons, List.map_append, List.flatMap_append, ih, here]
      simp [finding, taken]
  have string : (stringNode field raw).kind = .string := rfl
  rw [stringShape, fits_singleton, if_pos string]
  simp only [true_or, if_true]
  exact each _ _

end Strings

/-! ### What a node contributes -/

section Contributions

open Program

variable {raw : List Char} {n root : Node} {place : Nat}

/-- What a node **contributes** to the specifiers of a program. -/
def contribution (n : Node) (place : Nat) : List (List Char) :=
  (findings programPatterns place n).flatMap (·.2)

/-- What all nodes of a tree contribute. -/
def contributions (root : Node) : List (List Char) :=
  root.preorder.zipIdx.flatMap fun n => contribution n.1 n.2

/-- **Each specifier is contributed by one node.** -/
theorem perm_contributions (root : Node) :
    (specifiers programPatterns root).Perm (contributions root) := by
  have apart : contributions root = (allFindings programPatterns root).flatMap (·.2) := by
    rw [allFindings, List.flatMap_assoc]
    rfl
  rw [apart]
  exact (perm_byPlace _).flatMap_right _

/-- A node **requests** a text if it is an import statement with this source, or a call of
`require` with this string alone. -/
inductive Requests (raw : List Char) : Node → Prop
  /-- An import statement. -/
  | statement : Requests raw (importNode raw)
  /-- An import statement that gives a name to what is required. -/
  | assignment : Requests raw (importRequireNode raw)
  /-- A call. -/
  | call : Requests raw (callNode [stringNode none raw])

/-- Whether a node is an import statement that gives a name to what is required. -/
def Node.isAssignment (n : Node) : Bool :=
  n.kind == .importStatement && n.children.any (·.kind == .importRequireClause)

/-- What contributes and is no call is found by the pattern for sources. -/
theorem contribution_of_ne_call (kind : n.kind ≠ .callExpression) (place : Nat) :
    contribution n place =
      ((fits sourcePattern.shape place n).map (finding sourcePattern)).flatMap (·.2) := by
  have source : foundAt sourcePattern ⟨n, []⟩ place =
      (fits sourcePattern.shape place n).map (finding sourcePattern) := by
    rw [foundAt_of_unconditional rfl, reported, if_pos ⟨rfl, .inl rfl⟩]
  have call : foundAt requirePattern ⟨n, []⟩ place = [] := by
    rw [foundAt_requirePattern fun call => absurd call kind, handDown_insideRequire,
      if_neg (by simp [Node.callsRequire, kind])]
  have both := findings_pair sourcePattern requirePattern ⟨n, []⟩ place
  rw [source, call, List.append_nil] at both
  rw [← both]
  rfl

/-- An import statement contributes the specifiers of its source. -/
theorem contribution_importNode (raw : List Char) (place : Nat) :
    contribution (importNode raw) place = specifiersOf raw := by
  have kind : (importNode raw).kind = .importStatement := rfl
  have source : fits sourcePattern.shape place (importNode raw) =
      fits (stringShape "import_source") (place + 1) (stringNode (some .source) raw) := by
    rw [sourcePattern, fits_singleton, if_pos kind]
    simp [importNode, Node.branch, Node.children, placed, stringNode, Node.field]
  rw [contribution_of_ne_call (by rw [kind]; decide), source]
  exact flatMap_finding_string rfl _

/-- **An import statement that gives a name to what is required contributes nothing.** -/
theorem contribution_importRequireNode (raw : List Char) (place : Nat) :
    contribution (importRequireNode raw) place = [] := by
  have kind : (importRequireNode raw).kind = .importStatement := rfl
  have source : fits sourcePattern.shape place (importRequireNode raw) = [] := by
    rw [sourcePattern, fits_singleton, if_pos kind]
    simp [importRequireNode, Node.branch, Node.children, placed, Node.field]
  rw [contribution_of_ne_call (by rw [kind]; decide), source]
  rfl

/-- The matches in the arguments of a call of `require`. -/
theorem inArguments_callNode (arguments : List Node) (place : Nat) :
    inArguments place (callNode arguments) =
      fits argumentsShape (place + 1 + 1) (.branch .arguments (some .arguments) arguments) := by
  simp [inArguments, fitsBelow_singleton, callNode, Node.branch, Node.leaf, Node.children, placed,
    Node.field, Node.size, Node.preorder, Node.preorderAll]

/-- What a call of `require` with a single string contributes. -/
theorem contribution_callNode (raw : List Char) (place : Nat) :
    contribution (callNode [stringNode none raw]) place = specifiersOf raw := by
  have source : foundAt sourcePattern ⟨callNode [stringNode none raw], []⟩ place = [] := by
    have kind : (callNode [stringNode none raw]).kind ≠ .importStatement := nofun
    rw [foundAt_of_unconditional rfl, reported, if_pos ⟨rfl, .inl rfl⟩, sourcePattern,
      fits_singleton, if_neg kind, List.map_nil]
  have call : foundAt requirePattern ⟨callNode [stringNode none raw], []⟩ place =
      (fits (stringShape "require_source") (place + 1 + 1 + 1) (stringNode none raw)).map
        (finding requirePattern) := by
    have calls : (callNode [stringNode none raw]).callsRequire = true := rfl
    rw [foundAt_requirePattern fun _ => startsWithCallee_callNode _, handDown_insideRequire,
      if_pos calls, inArguments_callNode, argumentsShape, fits_singleton]
    simp [Node.branch, Node.kind, Node.children, placed]
  have both := findings_pair sourcePattern requirePattern ⟨callNode [stringNode none raw], []⟩ place
  rw [source, call, List.nil_append] at both
  calc contribution (callNode [stringNode none raw]) place
    _ = (findings [sourcePattern, requirePattern] place
          (callNode [stringNode none raw])).flatMap (·.2) := rfl
    _ = specifiersOf raw := by rw [both]; exact flatMap_finding_string rfl _

/-- **A node that requests a text contributes the specifiers of the string**, unless it gives a name
to what is required. -/
theorem contribution_of_requests (h : Requests raw n) :
    contribution n place = if n.isAssignment then [] else specifiersOf raw := by
  cases h with
  | statement => exact contribution_importNode raw place
  | assignment => exact contribution_importRequireNode raw place
  | call => exact contribution_callNode raw place

/-- What a node contributes is the text that it requests, if this is plain and not given a name. -/
theorem contribution_eq_singleton_iff (h : Requests raw n) :
    contribution n place = [raw] ↔ n.isAssignment = false ∧ IsPlain raw := by
  rw [contribution_of_requests h, ← specifiersOf_eq_singleton_iff]
  split
  next assignment => simp [assignment]
  next other => simp [other]

/-- Whether each text that is requested in a tree, unless it is empty, is **contributed as it is
written** and as nothing else. -/
def IsVerbatim (root : Node) : Prop :=
  ∀ n ∈ root.preorder, ∀ raw, raw ≠ [] → Requests raw n → ∀ place, contribution n place = [raw]

/-- **What scripts request is extracted as it is written** exactly if all of it is plain and none of
it is given a name. Whatever is extracted is contributed by one node, every import statement requests
a text, and what requests a text contributes the specifiers of the string, unless it gives a name to
what is required. -/
theorem isVerbatim_treeOf_iff (tag language : Language) (script : language ≠ .python)
    (cs : List Char) :
    (extract ⟨tag, language, treeOf language cs⟩).1.Perm
      ((contributions (treeOf language cs)).map String.ofList) ∧
    (∀ n ∈ (treeOf language cs).preorder, n.kind = .importStatement → ∃ raw, Requests raw n) ∧
    (∀ n raw place, Requests raw n →
      contribution n place = if n.isAssignment then [] else specifiersOf raw) ∧
    (IsVerbatim (treeOf language cs) ↔
      ∀ n ∈ (treeOf language cs).preorder, ∀ raw, raw ≠ [] → Requests raw n →
        n.isAssignment = false ∧ IsPlain raw) := by
  have patterns : patternsFor (rootKind language).name = programPatterns := by
    cases language with
    | python => exact absurd rfl script
    | _ => rfl
  have program : treeOf language cs = Program.tree (dialect language) cs := by
    cases language with
    | python => exact absurd rfl script
    | _ => rfl
  refine ⟨?_, fun n hn kind => ?_, fun n raw place h => contribution_of_requests h, ?_⟩
  · rw [extract_eq_specifiers (isTreeOf_treeOf language cs).kind, patterns]
    exact (perm_contributions _).map _
  · rw [program] at hn
    obtain ⟨raw, rfl | rfl⟩ := (isFormed_of_mem_tree hn).import_eq kind
    · exact ⟨raw, .statement⟩
    · exact ⟨raw, .assignment⟩
  · refine forall₄_congr fun n hn raw filled => forall_congr' fun h => ?_
    simp only [contribution_eq_singleton_iff h, forall_const]

/-- The text of an import statement without escapes or quote marks. -/
theorem isVerbatim_treeOf_iff_importStatement :
    Language.javascript ≠ .python ∧ IsVerbatim (treeOf .javascript "import './c'".toList) := by
  refine ⟨nofun, ((isVerbatim_treeOf_iff .javascript .javascript nofun _).2.2.2).mpr ?_⟩
  rw [treeOf_importStatement]
  intro n hn raw filled requests
  have plain : IsPlain "./c".toList := specifiersOf_eq_singleton_iff.mp (by decide)
  have single : fragments ['.', '/', 'c'] = [['.', '/', 'c']] := by decide
  cases requests with
  | statement =>
    simp [importNode, stringNode, Node.branch, Node.leaf, Node.preorder, Node.preorderAll,
      single] at hn
    exact ⟨rfl, by rwa [hn.1]⟩
  | assignment =>
    simp [importNode, importRequireNode, stringNode, Node.branch, Node.leaf, Node.preorder,
      Node.preorderAll, single] at hn
  | call =>
    simp [importNode, callNode, stringNode, Node.branch, Node.leaf, Node.preorder,
      Node.preorderAll, single] at hn

/-- The tree of a call whose string has an escape. -/
theorem treeOf_escapedCall :
    treeOf .javascript "require('a\\x41b')".toList =
      .branch .program none [callNode [stringNode none "a\\x41b".toList]] := by
  have tokens : tokens ⟨true, false⟩ "require('a\\x41b')".toList =
      [.word "require".toList, .opening .round, .text "a\\x41b".toList, .closing .round] := by
    decide +kernel
  rw [treeOf_of_tokens tokens]
  simp only [partsOf, partsFrom]
  rfl

/-- A string with an escape is extracted in two pieces. -/
theorem not_forall_isVerbatim :
    ¬∀ language cs, language ≠ .python → IsVerbatim (treeOf language cs) := by
  intro h
  have verbatim := h .javascript "require('a\\x41b')".toList nofun
  rw [treeOf_escapedCall] at verbatim
  have whole : contribution (callNode [stringNode none "a\\x41b".toList]) 0 =
      ["a\\x41b".toList] :=
    verbatim _ (List.mem_cons_of_mem _ List.mem_cons_self) _ (by decide) .call 0
  rw [contribution_callNode] at whole
  exact absurd whole (by decide)

end Contributions

end DepGraph.Syntax
