import DepGraph.Syntax.Registry

/-!
# What the trees of grammars look like

Whatever the characters are, the tree that a grammar makes of them has its own kind of root, and in
it each import statement and each call have the form that the grammar gives them
(`DepGraph.Syntax.Program.isFormed_of_mem_tree`). Of calls it matters to the patterns that they
start with what is called and call nothing else (`DepGraph.Syntax.IsTreeOf`).
-/

namespace DepGraph.Syntax

/-- The nodes of some trees are the nodes of each of them. -/
theorem Node.mem_preorderAll {n : Node} {ns : List Node} :
    n ∈ Node.preorderAll ns ↔ ∃ m ∈ ns, n ∈ m.preorder := by
  induction ns with
  | nil => simp [Node.preorderAll]
  | cons m ns ih => simp [Node.preorderAll, ih]

/-- The nodes below the children of a node are nodes of its tree. -/
theorem Node.mem_preorder_of_children {n root : Node}
    (h : n ∈ Node.preorderAll root.children) : n ∈ root.preorder := by
  obtain ⟨k, f, t, cs⟩ := root
  exact List.mem_cons_of_mem _ h

/-! ### The statements of programs -/

namespace Program

variable {d : Dialect} {n : Node}

/-- A node is **formed** if it is as the grammar of programs makes it, in case it is an import
statement or a call. -/
structure IsFormed (n : Node) : Prop where
  /-- An import statement has the string that names its source, or gives a name to what is required
  from one. -/
  import_eq : n.kind = .importStatement → ∃ raw, n = importNode raw ∨ n = importRequireNode raw
  /-- A call is one of `require`. -/
  call_eq : n.kind = .callExpression → ∃ arguments, n = callNode arguments

/-- What is neither an import statement nor a call is formed. -/
theorem IsFormed.of_kind (kind : Kind) (is : n.kind = kind)
    (other : kind ≠ .importStatement ∧ kind ≠ .callExpression) : IsFormed n where
  import_eq k := absurd (is.symm.trans k) other.1
  call_eq k := absurd (is.symm.trans k) other.2

/-- The nodes of a string are formed. -/
theorem isFormed_of_mem_stringNode {field : Option Field} {raw : List Char}
    (h : n ∈ (stringNode field raw).preorder) : IsFormed n := by
  rcases List.mem_cons.mp h with rfl | h
  · exact .of_kind .string rfl (by decide)
  · obtain ⟨m, hm, hn⟩ := Node.mem_preorderAll.mp h
    obtain ⟨fragment, -, rfl⟩ := List.mem_map.mp hm
    rw [List.mem_singleton.mp hn]
    exact .of_kind .stringFragment rfl (by decide)

/-- The nodes of an argument are formed. -/
theorem isFormed_of_mem_argumentNodes {spot : Spot} {raw : List Char} {after : List Part}
    (h : n ∈ Node.preorderAll (argumentNodes spot raw after)) : IsFormed n := by
  unfold argumentNodes at h
  split at h
  · simp only [Node.preorderAll, List.append_nil] at h
    exact isFormed_of_mem_stringNode h
  · simp [Node.preorderAll] at h

/-- The nodes of an import statement are formed. -/
theorem isFormed_of_mem_importNode {raw : List Char} (h : n ∈ (importNode raw).preorder) :
    IsFormed n := by
  rcases List.mem_cons.mp h with rfl | h
  · exact ⟨fun _ => ⟨raw, .inl rfl⟩, by simp [Node.kind]⟩
  · simp only [Node.preorderAll, List.append_nil] at h
    exact isFormed_of_mem_stringNode h

/-- The nodes of an import statement that gives a name to what is required are formed. -/
theorem isFormed_of_mem_importRequireNode {raw : List Char}
    (h : n ∈ (importRequireNode raw).preorder) : IsFormed n := by
  simp only [importRequireNode, Node.branch, Node.preorder, Node.preorderAll, List.append_nil,
    List.mem_cons] at h
  rcases h with rfl | rfl | h
  · exact ⟨fun _ => ⟨raw, .inr rfl⟩, by simp [Node.kind]⟩
  · exact .of_kind .importRequireClause rfl (by decide)
  · exact isFormed_of_mem_stringNode h

/-- The nodes of a call are formed, if those of its arguments are. -/
theorem isFormed_of_mem_callNode {arguments : List Node}
    (formed : ∀ n ∈ Node.preorderAll arguments, IsFormed n)
    (h : n ∈ (callNode arguments).preorder) : IsFormed n := by
  simp only [callNode, Node.branch, Node.leaf, Node.preorder, Node.preorderAll, List.append_nil,
    List.mem_cons, List.mem_append, List.not_mem_nil, or_false] at h
  rcases h with rfl | rfl | rfl | h
  · exact ⟨by simp [Node.kind], fun _ => ⟨arguments, rfl⟩⟩
  · exact .of_kind .identifier rfl (by decide)
  · exact .of_kind .arguments rfl (by decide)
  · exact formed n h

/-- All nodes of some parts are formed, wherever they stand. -/
theorem isFormed_of_mem_nodesFrom (d : Dialect) (spot : Spot) (reading : Reading) :
    (parts : List Part) → ∀ n ∈ Node.preorderAll (nodesFrom d spot reading parts), IsFormed n
  | [] => by simp [nodesFrom, Node.preorderAll]
  | .token t :: parts => by
    have rest (spot : Spot) (reading : Reading) :=
      isFormed_of_mem_nodesFrom d spot reading parts
    intro n h
    unfold nodesFrom at h
    split at h
    -- a token is no bracket, and so neither the arguments of a call nor what is required
    · contradiction
    · contradiction
    · -- a string, which may complete an import statement
      rw [Node.preorderAll_append] at h
      rcases List.mem_append.mp h with h | h
      · exact isFormed_of_mem_argumentNodes h
      split at h
      · rcases List.mem_append.mp h with h | h
        · exact isFormed_of_mem_importNode h
        · exact rest _ _ n h
      · exact rest _ _ n h
    · exact rest _ _ n h
  | .group b inner :: parts => by
    have rest (spot : Spot) (reading : Reading) :=
      isFormed_of_mem_nodesFrom d spot reading parts
    have inside (spot : Spot) (reading : Reading) :=
      isFormed_of_mem_nodesFrom d spot reading inner
    intro n h
    unfold nodesFrom at h
    split at h
    case h_1 part inner' same =>
      obtain ⟨-, rfl⟩ := Part.group.inj same
      rcases List.mem_append.mp h with h | h
      · exact isFormed_of_mem_callNode (inside _ _) h
      · exact rest _ _ n h
    · rcases List.mem_append.mp h with h | h
      · exact isFormed_of_mem_importRequireNode h
      · exact rest _ _ n h
    · contradiction
    · rw [Node.preorderAll_append] at h
      rcases List.mem_append.mp h with h | h
      · rw [nodesIn] at h
        exact inside _ _ n h
      · exact rest _ _ n h

/-- **All nodes of a program are formed.** -/
theorem isFormed_of_mem_tree {cs : List Char} (h : n ∈ (tree d cs).preorder) : IsFormed n := by
  rcases List.mem_cons.mp h with rfl | h
  · exact .of_kind .program rfl (by decide)
  · exact isFormed_of_mem_nodesFrom d .outside .free _ n h

end Program

/-! ### The statements of modules -/

namespace Module

variable {n : Node}

/-- An imported name has no calls in it. -/
theorem kind_ne_call_of_mem_importedName {ts : List Token} (h : n ∈ (importedName ts).preorder) :
    n.kind ≠ .callExpression := by
  unfold importedName at h
  split at h
  · simp only [Node.branch, Node.leaf, Node.preorder, Node.preorderAll, List.append_nil,
      List.mem_cons, List.not_mem_nil, or_false] at h
    rcases h with rfl | rfl <;> simp [Node.kind]
  · simp [List.mem_singleton.mp h, Node.kind]

/-- An import from a module has no calls in it. -/
theorem kind_ne_call_of_mem_importFrom {name : List Token} (h : n ∈ (importFrom name).preorder) :
    n.kind ≠ .callExpression := by
  unfold importFrom at h
  split at h
  · simp [List.mem_singleton.mp h, Node.kind]
  · simp only [Node.branch, Node.leaf, Node.preorder, Node.preorderAll, List.append_nil,
      List.mem_cons, List.not_mem_nil, or_false] at h
    rcases h with rfl | rfl
    · simp [Node.kind]
    · simp only [Node.kind]
      split <;> simp

/-- A statement of a module has no calls in it. -/
theorem kind_ne_call_of_mem_statement {clause : List Token} {statement : Node}
    (made : statement? clause = some statement) (h : n ∈ statement.preorder) :
    n.kind ≠ .callExpression := by
  unfold statement? at made
  split at made
  · split at made
    · obtain rfl := Option.some.inj made
      rcases List.mem_cons.mp h with rfl | h
      · simp [Node.kind]
      · obtain ⟨m, hm, hn⟩ := Node.mem_preorderAll.mp h
        obtain ⟨name, -, rfl⟩ := List.mem_map.mp hm
        exact kind_ne_call_of_mem_importedName hn
    · split at made
      · obtain rfl := Option.some.inj made
        exact kind_ne_call_of_mem_importFrom h
      · cases made
  · cases made

/-- **The tree of a module has no calls.** -/
theorem kind_ne_call_of_mem_tree {cs : List Char} (h : n ∈ (tree cs).preorder) :
    n.kind ≠ .callExpression := by
  rcases List.mem_cons.mp h with rfl | h
  · simp [Node.kind]
  · obtain ⟨m, hm, hn⟩ := Node.mem_preorderAll.mp h
    obtain ⟨clause, -, made⟩ := List.mem_filterMap.mp hm
    exact kind_ne_call_of_mem_statement made hn

end Module

/-! ### The trees of a language -/

/-- The tree of a script is read from the parts of its tokens. -/
theorem treeOf_of_tokens {cs : List Char} {ts : List Program.Token}
    (scanned : Program.tokens ⟨true, false⟩ cs = ts) :
    treeOf .javascript cs = .branch .program none
      (Program.nodesFrom ⟨true, false⟩ .outside .free (Program.partsOf ts)) := by
  rw [← scanned]
  rfl

/-- Whether a node **starts with what it calls**, and calls nothing else. -/
def Node.StartsWithCallee (n : Node) : Prop :=
  ∃ callee rest, n.children = callee :: rest ∧ callee.field = some .function ∧
    ∀ c ∈ rest, c.field ≠ some .function

/-- A call of `require` starts with this name. -/
theorem startsWithCallee_callNode (arguments : List Node) :
    (Program.callNode arguments).StartsWithCallee := by
  refine ⟨_, _, rfl, rfl, fun c hc => ?_⟩
  simp [List.mem_singleton.mp hc, Node.branch, Node.field]

/-- What the **trees of a language** have in common. -/
structure IsTreeOf (language : Language) (root : Node) : Prop where
  /-- The root is of the kind that the language has. -/
  kind : root.kind = rootKind language
  /-- Each call starts with what is called. -/
  calls : ∀ n ∈ root.preorder, n.kind = .callExpression → n.StartsWithCallee

/-- The tree that a grammar makes of some characters is one of its language. -/
theorem isTreeOf_treeOf (language : Language) (cs : List Char) :
    IsTreeOf language (treeOf language cs) := by
  have program (d : Program.Dialect) (h : rootKind language = .program) :
      IsTreeOf language (Program.tree d cs) := by
    refine ⟨h.symm, fun n hn call => ?_⟩
    obtain ⟨arguments, rfl⟩ := (Program.isFormed_of_mem_tree hn).call_eq call
    exact startsWithCallee_callNode arguments
  cases language with
  | python => exact ⟨rfl, fun n hn call => absurd call (Module.kind_ne_call_of_mem_tree hn)⟩
  | _ => exact program _ rfl

end DepGraph.Syntax
