import DepGraph.Proofs.Ignore.Below
import DepGraph.Proofs.Path.Normal
import Mathlib.Data.List.TakeWhile

/-!
# From place to place

A **place** is the list of the components that lead to it, first to last. A component leads from one
place to the next (`DepGraph.Path.proceed`), and where a path without a root leads, component by
component, is its normal form (`DepGraph.Path.normalize_eq_written_foldl`). So walks can be told
from the front, in the order in which they are written, and without a stack.

Walks come in pieces: the path of a file leads through its **folders** (`DepGraph.Path.folders`),
and what is joined to the directory of the file goes on from there
(`DepGraph.Path.foldl_join_directory`). Going up as often as a walk went down leads back to where it
began (`DepGraph.Path.foldl_proceed_up`), so that every place is reached from every other one
(`DepGraph.Path.foldl_proceed_between`).
-/

namespace DepGraph

namespace Path

variable {path file dir c : List Char} {cs place start goal : List (List Char)}

/-! ### Places -/

/-- The place to which a component leads. The directory above is that of the last component, and
where there is none to take back, what leads up is kept. -/
def proceed (place : List (List Char)) (c : List Char) : List (List Char) :=
  if c = [] ∨ c = here then place
  else if c = above then
    if ∀ d ∈ place, d = above then place ++ [above] else place.dropLast
  else place ++ [c]

/-- What is idle is nothing or the directory itself. -/
theorem isIdle_iff : isIdle c = true ↔ c = [] ∨ c = here := by
  simp [isIdle]

/-- What is idle leads nowhere. -/
theorem proceed_of_isIdle (idle : isIdle c = true) : proceed place c = place :=
  if_pos (isIdle_iff.mp idle)

/-- **One step of a walk**, told from the front: the stack is the place in reverse. -/
theorem reverse_push (settled : Settled place) :
    (push false place.reverse c).reverse = proceed place c := by
  unfold push
  split
  next idle => rw [List.reverse_reverse, proceed_of_isIdle idle]
  next moves =>
    have moves : ¬(c = [] ∨ c = here) := fun idle => moves (isIdle_iff.mpr idle)
    rw [proceed, if_neg moves]
    split
    next up =>
      rcases List.eq_nil_or_concat place with rfl | ⟨front, top, rfl⟩
      · simp
      · -- the place is all `..` if its last component is one: that is what settled means
        rw [List.concat_eq_append] at settled ⊢
        rw [List.reverse_append, List.reverse_singleton, List.singleton_append]
        dsimp only
        split
        next high =>
          have all : ∀ d ∈ front ++ [top], d = above :=
            List.forall_mem_append.mpr
              ⟨(settled_concat_iff.mp settled).2.2 high, by simpa using high⟩
          rw [if_pos all]
          simp
        next low =>
          rw [if_neg fun all => low (all top (by simp))]
          simp
    next down => simp

/-- A place that is settled leads to settled places. -/
theorem Settled.proceed (settled : Settled place) (c : List Char) : Settled (proceed place c) := by
  rw [← reverse_push settled]
  exact Settled.push (by rwa [List.reverse_reverse]) c

/-- Where components lead from a settled place is settled. -/
theorem Settled.foldl_proceed (settled : Settled place) (cs : List (List Char)) :
    Settled (cs.foldl Path.proceed place) := by
  induction cs generalizing place with
  | nil => exact settled
  | cons c cs ih => exact ih (settled.proceed c)

/-- A walk goes on from place to place. -/
theorem reverse_foldl_push (settled : Settled place) :
    (cs.foldl (push false) place.reverse).reverse = cs.foldl proceed place := by
  induction cs generalizing place with
  | nil => exact List.reverse_reverse place
  | cons c cs ih =>
    have next : push false place.reverse c = (proceed place c).reverse :=
      List.reverse_eq_iff.mp (reverse_push settled)
    rw [List.foldl_cons, List.foldl_cons, next, ih (settled.proceed c)]

/-- **A walk is where its components lead**, one after the other. -/
theorem walk_eq_foldl_proceed : walk false cs = cs.foldl proceed [] :=
  reverse_foldl_push settled_nil

/-- **The normal form of a path without a root** is where its components lead. -/
theorem normalize_eq_written_foldl (relative : path.head? ≠ some '/') :
    normalize path = written ((components path).foldl proceed []) := by
  rw [normalize_eq_written relative, walk_eq_foldl_proceed]

/-- Settled components lead to themselves. -/
theorem foldl_proceed_of_settled (settled : Settled cs) : cs.foldl proceed [] = cs := by
  rw [← walk_eq_foldl_proceed, walk_eq_self settled]

/-! ### Down and up -/

/-- Components that all **lead down**. -/
def LeadDown (cs : List (List Char)) : Prop := ∀ c ∈ cs, isIdle c = false ∧ c ≠ above

instance : Decidable (LeadDown cs) :=
  inferInstanceAs (Decidable (∀ c ∈ cs, isIdle c = false ∧ c ≠ above))

/-- What leads down is settled. -/
theorem LeadDown.settled (down : LeadDown cs) : Settled cs :=
  ⟨fun c hc => (down c hc).1,
    List.pairwise_of_forall_mem_list fun _ _ d hd up => absurd up (down d hd).2⟩

/-- Of settled components all lead down if the first one does. -/
theorem Settled.leadDown (settled : Settled (c :: cs)) (down : c ≠ above) :
    LeadDown (c :: cs) := by
  refine fun d hd => ⟨settled.moves d hd, ?_⟩
  rcases List.mem_cons.mp hd with rfl | hd
  · exact down
  · exact fun up => down ((List.pairwise_cons.mp settled.upFirst).1 d hd up)

/-- A component that leads down is one more. -/
theorem proceed_of_leadsDown (moves : isIdle c = false) (down : c ≠ above) :
    proceed place c = place ++ [c] := by
  have moves : ¬(c = [] ∨ c = here) := fun idle => by
    rw [isIdle_iff.mpr idle] at moves
    cases moves
  rw [proceed, if_neg moves, if_neg down]

/-- The directory above what leads down is where that began. -/
theorem proceed_above (down : c ≠ above) : proceed (place ++ [c]) above = place := by
  have moves : ¬(above = [] ∨ above = here) := by decide
  have low : ¬∀ d ∈ place ++ [c], d = above := fun all => down (all c (by simp))
  rw [proceed, if_neg moves, if_pos rfl, if_neg low, List.dropLast_concat]

/-- **Down**: components that lead down are added one by one. -/
theorem foldl_proceed_down (down : LeadDown cs) : cs.foldl proceed place = place ++ cs := by
  induction cs generalizing place with
  | nil => simp
  | cons c cs ih =>
    obtain ⟨⟨moves, low⟩, rest⟩ := List.forall_mem_cons.mp down
    rw [List.foldl_cons, proceed_of_leadsDown moves low, ih rest, List.append_assoc,
      List.singleton_append]

/-- **And up again**: as many components that lead up lead back. -/
theorem foldl_proceed_up (down : LeadDown cs) :
    (List.replicate cs.length above).foldl proceed (place ++ cs) = place := by
  induction cs using List.reverseRecOn with
  | nil => simp
  | append_singleton cs c ih =>
    obtain ⟨rest, last⟩ := List.forall_mem_append.mp down
    have low : c ≠ above := (last c (List.mem_singleton_self c)).2
    rw [List.length_append, List.length_singleton, List.replicate_succ, List.foldl_cons,
      ← List.append_assoc, proceed_above low, ih rest]

/-- The components that lead **between** two places: up as far as is needed, and down from there. -/
def between : List (List Char) → List (List Char) → List (List Char)
  | a :: start, b :: goal =>
    if a = b then between start goal
    else List.replicate (start.length + 1) above ++ b :: goal
  | start, goal => List.replicate start.length above ++ goal

/-- The way between two places leads up what comes after the components that they share, and down
what comes after them in the other. -/
theorem exists_between (start goal : List (List Char)) :
    ∃ shared up down, start = shared ++ up ∧ goal = shared ++ down ∧
      between start goal = List.replicate up.length above ++ down := by
  induction start generalizing goal with
  | nil => exact ⟨[], [], goal, rfl, rfl, by simp [between]⟩
  | cons a start ih =>
    cases goal with
    | nil => exact ⟨[], a :: start, [], rfl, rfl, by simp [between]⟩
    | cons b goal =>
      by_cases same : a = b
      · obtain ⟨shared, up, down, rfl, rfl, way⟩ := ih goal
        exact ⟨a :: shared, up, down, rfl, by simp [same], by simp [between, same, way]⟩
      · exact ⟨[], a :: start, b :: goal, rfl, rfl, by simp [between, same]⟩

/-- **The way between two places leads from one to the other.** -/
theorem foldl_proceed_between (fromStart : LeadDown start) (toGoal : LeadDown goal) :
    (between start goal).foldl proceed start = goal := by
  obtain ⟨shared, up, down, rfl, rfl, way⟩ := exists_between start goal
  have climbs : LeadDown up := (List.forall_mem_append.mp fromStart).2
  have falls : LeadDown down := (List.forall_mem_append.mp toGoal).2
  rw [way, List.foldl_append, foldl_proceed_up climbs, foldl_proceed_down falls]

/-! ### Files and their folders -/

/-- The **folders** through which the path of a file leads: its components, but for the last. -/
def folders (file : List Char) : List (List Char) := (components file).dropLast

/-- A slash at the end of a path leads nowhere. -/
theorem foldl_components_concat_slash :
    (components (path ++ ['/'])).foldl proceed place = (components path).foldl proceed place := by
  rw [components_append_cons_slash, List.foldl_append]
  exact proceed_of_isIdle (c := []) rfl

/-- Nor do more of them. -/
theorem foldl_components_dropEndSlashes :
    (components (dropEndSlashes path)).foldl proceed place =
      (components path).foldl proceed place := by
  induction path using List.reverseRecOn with
  | nil => rfl
  | append_singleton path a ih =>
    by_cases slash : a = '/'
    · have shorter : dropEndSlashes (path ++ [a]) = dropEndSlashes path := by
        simp [dropEndSlashes, slash]
      rw [shorter, ih, slash, foldl_components_concat_slash]
    · have itself : dropEndSlashes (path ++ [a]) = path ++ [a] := by
        simp [dropEndSlashes, slash]
      rw [itself]

/-- **The directory of a file is where its folders lead.** -/
theorem foldl_components_directory (relative : file.head? ≠ some '/') :
    (components (directory file)).foldl proceed place = (folders file).foldl proceed place := by
  obtain ⟨cs, last, parts⟩ :=
    (List.eq_nil_or_concat (components file)).resolve_left (components_ne_nil file)
  rw [List.concat_eq_append] at parts
  have plain {d : List Char} (hd : d ∈ cs ++ [last]) : '/' ∉ d :=
    slash_not_mem_of_mem_components (parts ▸ hd)
  have noSlash : ∀ a ∈ last.reverse, (a != '/') = true := fun a ha => by
    rw [bne_iff_ne]
    rintro rfl
    exact plain (by simp) (List.mem_reverse.mp ha)
  rw [folders, parts, List.dropLast_concat]
  rcases eq_or_ne cs [] with rfl | more
  · -- without a folder the directory is empty
    have itself : file = last := by rw [← joined_components file, parts]; rfl
    have top : directory file = [] := by
      simp [directory, itself, List.dropWhile_eq_nil_iff.mpr noSlash]
    rw [top]
    rfl
  · -- what stands before the last slash is the folders, and they are not all slashes, since the
    -- first of them would be a root
    have front : file = joined cs ++ '/' :: last := by
      rw [← joined_components file, parts, joined_concat more]
    have head : (file.reverse.dropWhile (· != '/')).reverse = joined cs ++ ['/'] := by
      rw [front, List.reverse_append, List.reverse_cons, List.append_assoc,
        List.dropWhile_append_of_pos noSlash]
      simp
    have low : (joined cs ++ ['/']).all (· == '/') = false := by
      rw [Bool.eq_false_iff]
      intro all
      cases chars : joined cs with
      | nil => simp [front, chars] at relative
      | cons a as =>
        rw [chars] at all
        have first : a = '/' := by simpa using List.all_eq_true.mp all a (by simp)
        simp [front, chars, first] at relative
    simp only [directory, head, low, Bool.false_eq_true, if_false]
    rw [foldl_components_dropEndSlashes, foldl_components_concat_slash,
      components_joined more fun d hd => plain (List.mem_append_left _ hd)]

/-- What is joined to a directory goes on from there. -/
theorem foldl_components_join (relative : path.head? ≠ some '/') :
    (components (join dir path)).foldl proceed place =
      (components path).foldl proceed ((components dir).foldl proceed place) := by
  unfold join
  rw [if_neg relative]
  split
  next ends =>
    rcases List.eq_nil_or_concat dir with rfl | ⟨front, a, rfl⟩
    · rfl
    · obtain rfl : a = '/' := by simpa using ends
      rw [List.concat_eq_append, List.append_assoc, List.singleton_append,
        components_append_cons_slash, List.foldl_append, foldl_components_concat_slash]
  next => rw [components_append_cons_slash, List.foldl_append]

/-- **What is joined to the directory of a file** goes on from the folders of that file. -/
theorem foldl_join_directory (ofFile : file.head? ≠ some '/') (relative : path.head? ≠ some '/') :
    (components (join (directory file) path)).foldl proceed place =
      (components path).foldl proceed ((folders file).foldl proceed place) := by
  rw [foldl_components_join relative, foldl_components_directory ofFile]

/-! ### The shape of normal forms -/

/-- Only the place at the root is written as the directory itself. -/
theorem written_eq_here_iff (settled : Settled cs) (plain : ∀ c ∈ cs, '/' ∉ c) :
    written cs = here ↔ cs = [] := by
  refine ⟨fun empty => ?_, fun none => none ▸ rfl⟩
  by_contra more
  have itself : components here = cs := by
    rw [← empty, written_of_ne_nil more, components_joined more plain]
  exact absurd (settled.moves here (by rw [← itself]; decide)) (by decide)

/-- A path without a root is **normal** if nothing in it can be left out: it neither starts nor ends
with a slash, what leads up in it stands before all else, and nothing in it is idle, unless it is
the directory itself. -/
structure IsNormal (path : List Char) : Prop where
  /-- The path does not start with a slash. -/
  noRoot : path.head? ≠ some '/'
  /-- The path does not end with a slash. -/
  noEnd : path.getLast? ≠ some '/'
  /-- What leads up comes after nothing that leads down. -/
  upFirst : (components path).Pairwise fun c d => d = above → c = above
  /-- No component leads nowhere, but for a single one. -/
  moves : path = here ∨ ∀ c ∈ components path, c ≠ [] ∧ c ≠ here

/-- A join ends like its last component. -/
theorem getLast?_joined_concat (filled : c ≠ []) :
    (joined (cs ++ [c])).getLast? = c.getLast? := by
  rcases eq_or_ne cs [] with rfl | more
  · rfl
  · obtain ⟨a, as, rfl⟩ := List.exists_cons_of_ne_nil filled
    rw [joined_concat more, List.getLast?_append_of_ne_nil _ (by simp), List.getLast?_cons_cons]

/-- **Settled components are written as a normal path.** -/
theorem isNormal_written (settled : Settled cs) (plain : ∀ c ∈ cs, '/' ∉ c) :
    IsNormal (written cs) := by
  rcases List.eq_nil_or_concat cs with rfl | ⟨front, last, rfl⟩
  · exact ⟨by decide, by decide, by simp [written, here, components], Or.inl rfl⟩
  · rw [List.concat_eq_append] at settled plain ⊢
    have more : front ++ [last] ≠ [] := by simp
    have filled : last ≠ [] := ne_nil_of_isIdle_eq_false (settled.moves last (by simp))
    rw [written_of_ne_nil more]
    refine ⟨?_, fun slash => ?_, ?_, Or.inr ?_⟩
    · rw [head?_joined settled.moves]
      intro slash
      obtain ⟨c, hc, first⟩ := Option.bind_eq_some_iff.mp slash
      exact plain c (List.mem_of_head? hc) (List.mem_of_head? first)
    · rw [getLast?_joined_concat filled] at slash
      exact plain last (by simp) (List.mem_of_getLast? slash)
    · rw [components_joined more plain]
      exact settled.upFirst
    · rw [components_joined more plain]
      intro c hc
      have moves := settled.moves c hc
      exact not_or.mp fun idle => by simp [isIdle_iff.mpr idle] at moves

end Path

end DepGraph
