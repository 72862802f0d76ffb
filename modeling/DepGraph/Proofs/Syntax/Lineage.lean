import DepGraph.Syntax.Extraction
import Mathlib.Data.List.Nodup
import Mathlib.Data.List.Perm.Basic
import Mathlib.Data.List.Sort

/-!
# Nodes and the nodes above them

What a node means often depends on the nodes above it, and what is made of it goes to the account of
one of these: a pattern matches a statement, and captures something two or three levels below. A
*lineage* (`DepGraph.Syntax.Lineage`) is a node with the nodes above it, and a tree can be gone
through with the lineages of its nodes in the order in which they come.

The accounts are moved by `DepGraph.Syntax.perm_total_handDown`: each node but the root is below
exactly one other, so that what is charged to the nodes can as well be charged to the nodes above
them. This keeps what is charged, but not the order of it; the order is regained from the places,
since no two nodes have the same (`DepGraph.Syntax.byPlace_eq_of_perm`).
-/

namespace DepGraph.Syntax

/-! ### Lineages -/

/-- A **lineage**: a node, and the nodes above it, the nearest one first. -/
structure Lineage where
  /-- The node. -/
  node : Node
  /-- The nodes above it. -/
  above : List Node

mutual

/-- The lineages of the nodes of a tree that stands below some nodes. -/
def lineages (above : List Node) : Node → List Lineage
  | .mk k f t cs => ⟨.mk k f t cs, above⟩ :: lineagesAll (.mk k f t cs :: above) cs

/-- The lineages of the nodes of some trees that stand below some nodes. -/
def lineagesAll (above : List Node) : List Node → List Lineage
  | [] => []
  | n :: ns => lineages above n ++ lineagesAll above ns

end

/-- Some nodes next to each other, with their places when the first has this one. -/
def placed (place : Nat) : List Node → List (Node × Nat)
  | [] => []
  | n :: ns => (n, place) :: placed (place + n.size) ns

/-- The nodes are those that were placed. -/
@[simp] theorem map_fst_placed (place : Nat) (ns : List Node) : (placed place ns).map (·.1) = ns := by
  induction ns generalizing place with
  | nil => rfl
  | cons n ns ih => simp [placed, ih]

mutual

/-- Without what is above them, the lineages are the nodes. -/
theorem map_node_lineages (above : List Node) :
    (n : Node) → (lineages above n).map (·.node) = n.preorder
  | .mk k f t cs => by
    rw [lineages, Node.preorder, List.map_cons, map_node_lineagesAll]

theorem map_node_lineagesAll (above : List Node) :
    (ns : List Node) → (lineagesAll above ns).map (·.node) = Node.preorderAll ns
  | [] => rfl
  | n :: ns => by
    rw [lineagesAll, Node.preorderAll, List.map_append, map_node_lineages, map_node_lineagesAll]

end

/-- There are as many lineages as nodes. -/
theorem length_lineages (above : List Node) (n : Node) : (lineages above n).length = n.size := by
  rw [Node.size, ← map_node_lineages above n, List.length_map]

/-- The lineages of two lists of trees are those of the first and then those of the second. -/
theorem lineagesAll_append (above ns ms : List Node) :
    lineagesAll above (ns ++ ms) = lineagesAll above ns ++ lineagesAll above ms := by
  induction ns with
  | nil => rfl
  | cons n ns ih => rw [List.cons_append, lineagesAll, ih, lineagesAll, List.append_assoc]

/-! ### Charges -/

section Charges

variable {α : Type} {above : List Node} {place : Nat}

/-- What is charged in **total** to some lineages, the first of which has this place. -/
def total (charge : Lineage → Nat → List α) (ls : List Lineage) (place : Nat) : List α :=
  (ls.zipIdx place).flatMap fun l => charge l.1 l.2

/-- A charge **handed down**: a node is charged what the nodes directly below it were charged. -/
def handDown (charge : Lineage → Nat → List α) (l : Lineage) (place : Nat) : List α :=
  (placed (place + 1) l.node.children).flatMap fun c => charge ⟨c.1, l.node :: l.above⟩ c.2

theorem total_cons (charge : Lineage → Nat → List α) (l : Lineage) (ls : List Lineage) :
    total charge (l :: ls) place = charge l place ++ total charge ls (place + 1) := by
  rw [total, total, List.zipIdx_cons, List.flatMap_cons]

theorem total_append (charge : Lineage → Nat → List α) (ls ms : List Lineage) :
    total charge (ls ++ ms) place = total charge ls place ++ total charge ms (place + ls.length) := by
  rw [total, total, total, List.zipIdx_append, List.flatMap_append]

/-- Charges that are the same come to the same. -/
theorem total_congr {charge charge' : Lineage → Nat → List α} {ls : List Lineage}
    (h : ∀ l ∈ ls, ∀ place, charge l place = charge' l place) :
    total charge ls place = total charge' ls place :=
  List.flatMap_congr fun _ hl => h _ (List.fst_mem_of_mem_zipIdx hl) _

/-- Two charges together come to what each of them comes to. -/
theorem perm_total_append (charge more : Lineage → Nat → List α) (ls : List Lineage) :
    (total (fun l place => charge l place ++ more l place) ls place).Perm
      (total charge ls place ++ total more ls place) :=
  (List.flatMap_append_perm _ _ _).symm

/-- A charge that does not depend on the nodes above comes to the same without them. -/
theorem total_lineages_node (charge : Node → Nat → List α) (n : Node) :
    total (fun l place => charge l.node place) (lineages above n) place =
      (n.preorder.zipIdx place).flatMap fun m => charge m.1 m.2 := by
  rw [total, ← map_node_lineages above n, List.zipIdx_map, List.flatMap_map]
  rfl

mutual

/-- **A charge can be handed down**: in a tree, all but what the root is charged goes to the nodes
above. -/
theorem perm_total_handDown (charge : Lineage → Nat → List α) (above : List Node) (place : Nat) :
    (n : Node) → (total charge (lineages above n) place).Perm
      (charge ⟨n, above⟩ place ++ total (handDown charge) (lineages above n) place)
  | .mk k f t cs => by
    rw [lineages, total_cons, total_cons]
    exact (perm_total_handDownAll charge (.mk k f t cs :: above) (place + 1) cs).append_left _

theorem perm_total_handDownAll (charge : Lineage → Nat → List α) (above : List Node)
    (place : Nat) :
    (ns : List Node) → (total charge (lineagesAll above ns) place).Perm
      ((placed place ns).flatMap (fun c => charge ⟨c.1, above⟩ c.2) ++
        total (handDown charge) (lineagesAll above ns) place)
  | [] => List.Perm.refl _
  | n :: ns => by
    have first := perm_total_handDown charge above place n
    have rest := perm_total_handDownAll charge above (place + n.size) ns
    rw [lineagesAll, total_append, total_append, length_lineages, placed, List.flatMap_cons]
    refine (first.append rest).trans ?_
    rw [List.append_assoc, List.append_assoc]
    exact (List.perm_append_comm_assoc _ _ _).append_left _

end

/-- A charge that the root does not bear can be handed down whole. -/
theorem perm_total_of_root {charge : Lineage → Nat → List α} {n : Node}
    (root : ∀ place, charge ⟨n, above⟩ place = []) :
    (total charge (lineages above n) place).Perm
      (total (handDown charge) (lineages above n) place) := by
  simpa only [root, List.nil_append] using perm_total_handDown charge above place n

end Charges

/-! ### Order by place -/

section Order

variable {β : Type} {place : Nat}

/-- To put findings in order is the insertion sort by their places. -/
theorem byPlace_eq_insertionSort (found : List (Nat × List (List Char))) :
    byPlace found = found.insertionSort fun a b => a.1 ≤ b.1 := by
  have insert (f : Nat × List (List Char)) (gs : List (Nat × List (List Char))) :
      insertFinding f gs = gs.orderedInsert (fun a b => a.1 ≤ b.1) f := by
    induction gs with
    | nil => rfl
    | cons g gs ih => rw [insertFinding, List.orderedInsert_cons, ih]
  rw [byPlace, List.insertionSort, funext₂ insert]

/-- Findings in order are the same findings. -/
theorem perm_byPlace (found : List (Nat × List (List Char))) : (byPlace found).Perm found := by
  rw [byPlace_eq_insertionSort]
  exact List.perm_insertionSort _ _

/-- What is listed by increasing places is what any findings of the same come to, in order. -/
theorem byPlace_eq_of_perm {found listed : List (Nat × List (List Char))}
    (perm : found.Perm listed) (increasing : listed.Pairwise fun a b => a.1 < b.1) :
    byPlace found = listed := by
  have total : Std.Total fun a b : Nat × List (List Char) => a.1 ≤ b.1 :=
    ⟨fun a b => Nat.le_total a.1 b.1⟩
  have trans : IsTrans (Nat × List (List Char)) fun a b => a.1 ≤ b.1 :=
    ⟨fun _ _ _ => Nat.le_trans⟩
  have places : (listed.map (·.1)).Nodup :=
    List.pairwise_map.mpr (increasing.imp fun h => Nat.ne_of_lt h)
  have sorted : (byPlace found).Pairwise fun a b => a.1 ≤ b.1 := by
    rw [byPlace_eq_insertionSort]
    exact List.pairwise_insertionSort _ _
  refine List.Perm.eq_of_pairwise (fun a b ha hb h k => ?_) sorted
    (increasing.imp fun h => Nat.le_of_lt h) ((perm_byPlace found).trans perm)
  have member : a ∈ listed := ((perm_byPlace found).trans perm).mem_iff.mp ha
  exact List.inj_on_of_nodup_map places member hb (Nat.le_antisymm h k)

/-- Numbers that were given one after the other increase. -/
theorem pairwise_zipIdx {α : Type} (l : List α) (place : Nat) :
    (l.zipIdx place).Pairwise fun a b => a.2 < b.2 := by
  have numbers : ((l.zipIdx place).map (·.2)).Pairwise (· < ·) := by
    rw [List.zipIdx_map_snd]
    exact List.pairwise_lt_range'
  exact List.pairwise_map.mp numbers

/-- The charge of one item, with its place, to the lineages that are wanted. -/
def mark (wanted : Lineage → Bool) (item : Lineage → β) (l : Lineage) (place : Nat) :
    List (Nat × β) :=
  if wanted l then [(place, item l)] else []

variable {wanted wanted' : Lineage → Bool} {item : Lineage → β} {ls : List Lineage}

/-- Marks in total are a list by increasing places. -/
theorem pairwise_total_mark :
    (total (mark wanted item) ls place).Pairwise fun a b => a.1 < b.1 := by
  refine List.pairwise_flatMap.mpr ⟨fun l _ => ?_, (pairwise_zipIdx ls place).imp ?_⟩
  · unfold mark
    split
    · exact List.pairwise_singleton _ _
    · exact List.Pairwise.nil
  · intro l m lt a ha b hb
    unfold mark at ha hb
    split at ha
    · split at hb
      · rwa [List.mem_singleton.mp ha, List.mem_singleton.mp hb]
      · simp at hb
    · simp at ha

/-- The items of marks are those of the lineages that are wanted, in order. -/
theorem map_snd_total_mark :
    (total (mark wanted item) ls place).map (·.2) = (ls.filter wanted).map item := by
  induction ls generalizing place with
  | nil => rfl
  | cons l ls ih =>
    rw [total_cons, List.map_append, ih]
    by_cases h : wanted l <;> simp [mark, h]

/-- Marks of two sorts are the marks of what is of one of them, if nothing is of both. -/
theorem perm_total_mark_or (apart : ∀ l, ¬(wanted l = true ∧ wanted' l = true)) :
    (total (mark wanted item) ls place ++ total (mark wanted' item) ls place).Perm
      (total (mark (fun l => wanted l || wanted' l) item) ls place) := by
  refine (perm_total_append _ _ ls).symm.trans (.of_eq (total_congr fun l _ place => ?_))
  have other := apart l
  unfold mark
  cases h : wanted l <;> cases h' : wanted' l <;> simp_all

end Order

end DepGraph.Syntax
