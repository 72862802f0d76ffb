import DepGraph.Path.Basic
import DepGraph.Proofs.Survey.Names
import Mathlib.Data.List.Induction

/-!
# Normal forms of paths

Walking the components of a path that has no root leaves components that are **settled**
(`DepGraph.Path.Settled`): none of them is idle, and those that lead to the directory above stand
before all others. Settled components are what a walk leaves of them (`DepGraph.Path.walk_eq_self`),
so that the path that they are written as (`DepGraph.Path.written`) is its own normal form
(`DepGraph.Path.normalize_written`), and every normal form of a path without a root is of this kind
(`DepGraph.Path.normalize_eq_written`).
-/

namespace DepGraph

namespace Path

variable {path c e : List Char} {cs stack : List (List Char)} {rooted : Bool}

/-! ### Settled components -/

/-- Components are **settled** if a walk has nothing left to do. -/
structure Settled (cs : List (List Char)) : Prop where
  /-- No component leads nowhere. -/
  moves : ∀ c ∈ cs, isIdle c = false
  /-- What leads up comes after nothing that leads down. -/
  upFirst : cs.Pairwise fun c d => d = above → c = above

/-- No components at all are settled. -/
theorem settled_nil : Settled [] := ⟨by simp, .nil⟩

/-- One component more is settled after settled ones if it leads somewhere, and down unless all the
others lead up. -/
theorem settled_concat_iff :
    Settled (cs ++ [c]) ↔ Settled cs ∧ isIdle c = false ∧ (c = above → ∀ d ∈ cs, d = above) := by
  constructor
  · rintro ⟨moves, upFirst⟩
    obtain ⟨inner, -, last⟩ := List.pairwise_append.mp upFirst
    refine ⟨⟨fun d hd => moves d (List.mem_append_left _ hd), inner⟩, moves c (by simp), ?_⟩
    exact fun up d hd => last d hd c (List.mem_singleton_self c) up
  · rintro ⟨⟨moves, upFirst⟩, leads, last⟩
    refine ⟨List.forall_mem_append.mpr ⟨moves, by simpa using leads⟩, ?_⟩
    refine List.pairwise_append.mpr ⟨upFirst, List.pairwise_singleton _ _, fun d hd x hx up => ?_⟩
    obtain rfl := List.mem_singleton.mp hx
    exact last up d hd

/-! ### Walks -/

/-- **One step of a walk leaves the stack settled.** The stack is read from its end. -/
theorem Settled.push (settled : Settled stack.reverse) (c : List Char) :
    Settled (push false stack c).reverse := by
  unfold Path.push
  split
  · exact settled
  next leads =>
    have leads : isIdle c = false := by simpa using leads
    split
    next up =>
      cases stack with
      | nil => exact settled_concat_iff.mpr ⟨settled_nil, by decide, by simp⟩
      | cons top rest =>
        rw [List.reverse_cons] at settled
        obtain ⟨inner, -, below⟩ := settled_concat_iff.mp settled
        dsimp only
        split
        next high =>
          rw [List.reverse_cons, List.reverse_cons, settled_concat_iff]
          refine ⟨settled, by decide, fun _ d hd => ?_⟩
          rcases List.mem_append.mp hd with hd | hd
          · exact below high d hd
          · exact (List.mem_singleton.mp hd).trans high
        · exact inner
    next down =>
      rw [List.reverse_cons, settled_concat_iff]
      exact ⟨settled, leads, fun up => absurd up down⟩

/-- **A walk leaves settled components.** -/
theorem settled_walk : Settled (walk false cs) := by
  induction cs using List.reverseRecOn with
  | nil => exact settled_nil
  | append_singleton cs c ih =>
    rw [walk, List.foldl_append]
    exact Settled.push (by simpa [walk] using ih) c

/-- A component that is settled after those on the stack is put there. -/
theorem push_of_settled (settled : Settled (stack.reverse ++ [c])) :
    push false stack c = c :: stack := by
  obtain ⟨-, leads, last⟩ := settled_concat_iff.mp settled
  simp only [push, leads, Bool.false_eq_true, if_false]
  split
  next up =>
    cases stack with
    | nil => rw [up]
    | cons top rest =>
      have high : top = above := last up top (by simp)
      simp [high, up]
  · rfl

/-- **Of settled components a walk leaves all.** -/
theorem walk_eq_self (settled : Settled cs) : walk false cs = cs := by
  induction cs using List.reverseRecOn with
  | nil => rfl
  | append_singleton cs c ih =>
    have before : cs.foldl (push false) [] = cs.reverse :=
      List.reverse_eq_iff.mp (ih (settled_concat_iff.mp settled).1)
    rw [walk, List.foldl_append, before, List.foldl_cons, List.foldl_nil,
      push_of_settled (by simpa using settled), List.reverse_cons, List.reverse_reverse]

/-- One step of a walk puts nothing on the stack but its own component. -/
theorem mem_push {d : List Char} (h : d ∈ push rooted stack c) : d ∈ stack ∨ d = c := by
  unfold push at h
  split at h
  · exact Or.inl h
  · split at h
    next up =>
      cases stack with
      | nil =>
        dsimp only at h
        split at h
        · cases h
        · exact Or.inr ((List.mem_singleton.mp h).trans up.symm)
      | cons top rest =>
        dsimp only at h
        split at h
        · exact (List.mem_cons.mp h).symm.imp_right fun h => h.trans up.symm
        · exact Or.inl (List.mem_cons_of_mem _ h)
    · exact (List.mem_cons.mp h).symm

/-- A walk leaves components that it went through. -/
theorem mem_of_mem_walk (h : c ∈ walk rooted cs) : c ∈ cs := by
  induction cs using List.reverseRecOn generalizing c with
  | nil => simp [walk] at h
  | append_singleton cs d ih =>
    rw [walk, List.foldl_append, List.mem_reverse] at h
    rcases mem_push h with h | rfl
    · exact List.mem_append_left _ (ih (List.mem_reverse.mpr h))
    · simp

/-! ### Written components -/

/-- The path that components are **written** as: with slashes between them, and `.` if there are
none. -/
def written (cs : List (List Char)) : List Char := if cs = [] then here else joined cs

@[simp] theorem written_nil : written [] = here := rfl

theorem written_of_ne_nil (more : cs ≠ []) : written cs = joined cs := if_neg more

/-- What leads somewhere is not empty. -/
theorem ne_nil_of_isIdle_eq_false (h : isIdle c = false) : c ≠ [] := by
  rintro rfl
  exact absurd h (by decide)

/-- The join of components that lead somewhere starts like the first of them. -/
theorem head?_joined (moves : ∀ c ∈ cs, isIdle c = false) :
    (joined cs).head? = cs.head?.bind List.head? := by
  match cs with
  | [] => rfl
  | [c] => rfl
  | c :: d :: cs =>
    obtain ⟨a, as, rfl⟩ :=
      List.exists_cons_of_ne_nil (ne_nil_of_isIdle_eq_false (moves c List.mem_cons_self))
    rfl

/-- A path that does not start with a slash has no root. -/
theorem root_eq_nil (relative : path.head? ≠ some '/') : root path = [] := by
  unfold root
  split
  · simp at relative
  · simp at relative
  · simp at relative
  · rfl

/-- **The normal form of a path without a root** is what its walk is written as. -/
theorem normalize_eq_written (relative : path.head? ≠ some '/') :
    normalize path = written (walk false (components path)) := by
  have front := root_eq_nil relative
  simp only [normalize, front, bne_self_eq_false, List.nil_append]
  generalize hcs : walk false (components path) = cs
  have moves := hcs ▸ settled_walk.moves
  match cs with
  | [] => rfl
  | c :: cs =>
    have first := head?_joined moves
    obtain ⟨a, as, rfl⟩ :=
      List.exists_cons_of_ne_nil (ne_nil_of_isIdle_eq_false (moves c List.mem_cons_self))
    obtain ⟨rest, text⟩ := List.head?_eq_some_iff.mp (first.trans rfl)
    simp [text, written]

/-- **What settled components are written as is a normal form.** -/
theorem normalize_written (settled : Settled cs) (plain : ∀ c ∈ cs, '/' ∉ c) :
    normalize (written cs) = written cs := by
  rcases eq_or_ne cs [] with rfl | more
  · decide
  · have relative : (joined cs).head? ≠ some '/' := by
      rw [head?_joined settled.moves]
      intro slash
      obtain ⟨c, hc, first⟩ := Option.bind_eq_some_iff.mp slash
      exact plain c (List.mem_of_head? hc) (List.mem_of_head? first)
    rw [written_of_ne_nil more, normalize_eq_written relative, components_joined more plain,
      walk_eq_self settled, written_of_ne_nil more]

/-- What is written after components goes to the last one. -/
theorem joined_concat_append : joined (cs ++ [c]) ++ e = joined (cs ++ [c ++ e]) := by
  rcases eq_or_ne cs [] with rfl | more
  · rfl
  · simp [joined_concat more]

end Path

end DepGraph
