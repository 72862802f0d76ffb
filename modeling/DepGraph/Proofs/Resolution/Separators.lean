import DepGraph.Proofs.Resolution.Route

/-!
# Slashes and backslashes

A specifier may be written with backslashes for slashes, and mostly it makes no difference: the
steps of both spellings are the same. But a specifier that starts at the root of the sources is
taken as it is written, and whether it does is told before anything is replaced. With backslashes
after the marker it is not the path that its slashes would spell, and with one in the marker it is a
specifier like any other.

Two specifiers have the same target, whatever is known, if and only if they have the same base
(`DepGraph.Resolution.forall_target?_eq_iff`). So it is told exactly where the two spellings are
interchangeable (`DepGraph.Resolution.forall_target?_withSlashes_iff`).
-/

namespace DepGraph

namespace Path

variable {path : List Char}

/-- A rooted path has a root that starts with a slash. -/
theorem exists_root_eq_cons (rooted : path.head? = some '/') : ∃ rest, root path = '/' :: rest := by
  obtain ⟨path, rfl⟩ := List.head?_eq_some_iff.mp rooted
  unfold root
  split
  · exact ⟨_, rfl⟩
  · exact ⟨_, rfl⟩
  · exact ⟨_, rfl⟩
  next other => exact absurd rfl (other path)

/-- The normal form of a rooted path is rooted. -/
theorem head?_normalize (rooted : path.head? = some '/') :
    (normalize path).head? = some '/' := by
  obtain ⟨rest, front⟩ := exists_root_eq_cons rooted
  simp [normalize, front]

/-- The directory of a rooted path is rooted. -/
theorem head?_directory (rooted : path.head? = some '/') :
    (directory path).head? = some '/' := by
  have some : directory path ≠ [] := by
    have slash : '/' ∈ path := List.mem_of_head? rooted
    simp only [directory]
    split
    next =>
      rw [Ne, List.reverse_eq_nil_iff, List.dropWhile_eq_nil_iff]
      intro none
      simpa using none '/' (List.mem_reverse.mpr slash)
    next low =>
      rw [dropEndSlashes, Ne, List.reverse_eq_nil_iff, List.dropWhile_eq_nil_iff]
      intro all
      refine low (List.all_eq_true.mpr fun a ha => ?_)
      exact all a (List.mem_reverse.mpr ha)
  obtain ⟨rest, whole⟩ := Resolution.directory_prefix path
  rw [← whole, List.head?_append_of_ne_nil _ some] at rooted
  exact rooted

end Path

namespace Resolution

open DepGraph.Path (Settled LeadDown proceed folders components joined written above here normalize
  directory)

/-! ### Two specifiers -/

section Bases

variable {known : String → Bool} {importer spec other : String}

/-- **Specifiers with one base**, and no others, have the same target whatever is known. -/
theorem forall_target?_eq_iff :
    (∀ known, target? known importer spec = target? known importer other) ↔
      base importer spec = base importer other := by
  constructor
  · intro same
    -- where both bases are known each of them is a target
    have one := same fun path => path == base importer spec || path == base importer other
    rw [target?_of_known (by simp), target?_of_known (by simp)] at one
    exact Option.some.inj one
  · intro one known
    have chars : baseChars importer.toList spec.toList = baseChars importer.toList other.toList :=
      String.ofList_inj.mp one
    rw [target?, target?, candidates, candidates, chars]

end Bases

/-! ### Two spellings of one specifier -/

section Spellings

variable {importer spec : List Char}

/-- Replacing backslashes leaves none of them. -/
theorem backslash_not_mem_replaceBackslashes : '\\' ∉ replaceBackslashes spec := by
  intro back
  obtain ⟨c, -, same⟩ := List.mem_map.mp back
  split at same
  · cases same
  next other => exact other same

/-- The slashed form of a specifier is that of its other spelling. -/
theorem slashed_replaceBackslashes : slashed (replaceBackslashes spec) = slashed spec := by
  have once := replaceBackslashes_eq_self_iff.mpr (@backslash_not_mem_replaceBackslashes spec)
  rw [slashed, ← replaceBackslashes, once]
  rfl

/-- A specifier that starts at the root of the sources still does so with slashes. -/
theorem marked_replaceBackslashes (marked : rootMarker.isPrefixOf spec = true) :
    rootMarker.isPrefixOf (replaceBackslashes spec) = true := by
  obtain ⟨rest, rfl⟩ := List.isPrefixOf_iff_prefix.mp marked
  refine List.isPrefixOf_iff_prefix.mpr ⟨replaceBackslashes rest, ?_⟩
  rw [replaceBackslashes, replaceBackslashes, List.map_append]
  rfl

/-- What starts at the root of the sources is its own slashed form, if it has slashes only. -/
theorem slashed_of_marked (marked : rootMarker.isPrefixOf (replaceBackslashes spec) = true) :
    slashed spec = replaceBackslashes spec := by
  obtain ⟨rest, whole⟩ := List.isPrefixOf_iff_prefix.mp marked
  rw [slashed, ← replaceBackslashes, ← whole]
  rfl

/-- The directory of a file is the root of the repository if its folders lead there. -/
theorem normalize_directory_eq_here_iff (relative : importer.head? ≠ some '/') :
    normalize (directory importer) = here ↔ (folders importer).foldl proceed [] = [] := by
  have inner : (directory importer).head? ≠ some '/' := fun rooted => by
    obtain ⟨rest, whole⟩ := directory_prefix importer
    refine relative ?_
    rw [← whole, List.head?_append_of_ne_nil _ (fun none => by simp [none] at rooted), rooted]
  rw [Path.normalize_eq_written_foldl inner, Path.foldl_components_directory relative]
  refine Path.written_eq_here_iff (Path.settled_nil.foldl_proceed _) fun c hc => ?_
  rw [← Path.walk_eq_foldl_proceed] at hc
  exact Path.slash_not_mem_of_mem_components (List.dropLast_subset _ (Path.mem_of_mem_walk hc))

/-- Where a specifier with a backslash in its marker leads: it leads to what it spells if it starts
at the root of the repository and is normal, and otherwise elsewhere. -/
theorem written_destination_eq_iff (relative : importer.head? ≠ some '/')
    (marked : rootMarker.isPrefixOf (replaceBackslashes spec) = true) :
    written (destination importer spec) = replaceBackslashes spec ↔
      normalize (directory importer) = here ∧
        normalize (replaceBackslashes spec) = replaceBackslashes spec := by
  have steps : stepsOf spec = components (replaceBackslashes spec) := by
    rw [← components_slashed, slashed_of_marked marked]
  obtain ⟨rest, whole⟩ := List.isPrefixOf_iff_prefix.mp marked
  have noRoot : (replaceBackslashes spec).head? ≠ some '/' := by
    simp [← whole, rootMarker]
  have parts : components (replaceBackslashes spec) = "src".toList :: components rest := by
    rw [← whole]
    exact Path.components_append_slash (c := "src".toList) (by decide) rest
  rw [normalize_directory_eq_here_iff relative, Path.normalize_eq_written_foldl noRoot]
  constructor
  · intro leads
    have more : destination importer spec ≠ [] := by
      intro none
      rw [none] at leads
      rw [← leads] at whole
      exact absurd (congrArg List.head? whole) (by simp [rootMarker, here])
    have itself : components (replaceBackslashes spec) = destination importer spec := by
      rw [← leads, Path.written_of_ne_nil more,
        Path.components_joined more fun _ => slash_not_mem_of_mem_destination]
    have settled : Settled (components (replaceBackslashes spec)) :=
      itself ▸ settled_destination
    -- the steps all lead down, so that they are only added to where they begin
    have down : LeadDown (components (replaceBackslashes spec)) := by
      rw [parts] at settled ⊢
      exact settled.leadDown (by decide)
    have top : (folders importer).foldl proceed [] = [] := by
      rw [destination, steps, Path.foldl_proceed_down down] at itself
      exact List.append_left_eq_self.mp itself.symm
    rw [destination, steps, top] at leads
    exact ⟨top, leads⟩
  · rintro ⟨top, normal⟩
    rw [destination, steps, top, normal]

end Spellings

/-! ### Interchangeable spellings -/

/-- A specifier with slashes for its backslashes. -/
def withSlashes (spec : String) : String := String.ofList (replaceBackslashes spec.toList)

/-- The two spellings of a specifier, with and without backslashes, are **interchangeable** in a
file. -/
inductive Interchangeable (importer spec : String) : Prop
  /-- The specifier has no backslashes. -/
  | same (noBackslash : '\\' ∉ spec.toList)
  /-- With slashes the specifier does not start at the root of the sources. -/
  | unmarked (relative : rootMarker.isPrefixOf (withSlashes spec).toList = false)
  /-- The specifier starts at the root of the sources only once its backslashes are slashes, but the
  file is in the root directory of the repository, and what the specifier spells is normal. -/
  | atRoot (unmarked : rootMarker.isPrefixOf spec.toList = false)
    (top : normalize (directory importer.toList) = here)
    (normal : normal (withSlashes spec) = withSlashes spec)

/-- Spellings that do not start at the root of the sources have one base. -/
theorem baseChars_replaceBackslashes {importer spec : List Char}
    (relative : rootMarker.isPrefixOf (replaceBackslashes spec) = false) :
    baseChars importer (replaceBackslashes spec) = baseChars importer spec := by
  have unmarked : rootMarker.isPrefixOf spec = false :=
    Bool.eq_false_iff.mpr fun marked => by
      simp [marked_replaceBackslashes marked] at relative
  rw [baseChars, baseChars, relative, unmarked, slashed_replaceBackslashes,
    if_neg Bool.false_ne_true, if_neg Bool.false_ne_true]

/-- The base of a specifier with a backslash in its marker, in a rooted file, is rooted. -/
theorem head?_baseChars {importer spec : List Char} (rooted : importer.head? = some '/')
    (unmarked : rootMarker.isPrefixOf spec = false) :
    (baseChars importer spec).head? = some '/' := by
  obtain ⟨rest, dir⟩ := List.head?_eq_some_iff.mp (Path.head?_directory rooted)
  rw [baseChars, unmarked, if_neg Bool.false_ne_true]
  refine Path.head?_normalize ?_
  rw [Path.join, if_neg head?_slashed, dir]
  split <;> rfl

/-- **Where a backslash in the marker makes no difference.** -/
theorem baseChars_eq_replaceBackslashes_iff {importer spec : List Char}
    (unmarked : rootMarker.isPrefixOf spec = false)
    (marked : rootMarker.isPrefixOf (replaceBackslashes spec) = true) :
    baseChars importer spec = replaceBackslashes spec ↔
      normalize (directory importer) = here ∧
        normalize (replaceBackslashes spec) = replaceBackslashes spec := by
  by_cases rooted : importer.head? = some '/'
  · -- a rooted file is nowhere in the repository, and neither is what it leads to
    obtain ⟨rest, whole⟩ := List.isPrefixOf_iff_prefix.mp marked
    refine ⟨fun leads => ?_, fun top => ?_⟩
    · have first := head?_baseChars rooted unmarked
      rw [leads, ← whole] at first
      exact absurd first (by simp [rootMarker])
    · have first := Path.head?_normalize (Path.head?_directory rooted)
      rw [top.1] at first
      exact absurd first (by decide)
  · rw [baseChars_eq_destination rooted unmarked, written_destination_eq_iff rooted marked]

/-- **The two spellings of a specifier have one base** where they are interchangeable, and only
there. -/
theorem base_withSlashes_iff (importer spec : String) :
    base importer spec = base importer (withSlashes spec) ↔ Interchangeable importer spec := by
  have chars : (withSlashes spec).toList = replaceBackslashes spec.toList :=
    String.toList_ofList
  rw [base, base, String.ofList_inj, chars]
  cases marked : rootMarker.isPrefixOf (replaceBackslashes spec.toList) with
  | false =>
    rw [baseChars_replaceBackslashes marked]
    exact iff_of_true rfl (.unmarked (by rwa [chars]))
  | true =>
    have itself : baseChars importer.toList (replaceBackslashes spec.toList) =
        replaceBackslashes spec.toList := by rw [baseChars, if_pos marked]
    rw [itself]
    cases first : rootMarker.isPrefixOf spec.toList with
    | true =>
      rw [baseChars, if_pos first, eq_comm, replaceBackslashes_eq_self_iff]
      refine ⟨.same, fun h => ?_⟩
      cases h with
      | same noBackslash => exact noBackslash
      | unmarked relative => simp [chars, marked] at relative
      | atRoot unmarked => simp [first] at unmarked
    | false =>
      rw [baseChars_eq_replaceBackslashes_iff first marked]
      constructor
      · rintro ⟨top, normal⟩
        exact .atRoot first top (by rw [Resolution.normal, chars, normal, withSlashes])
      · intro h
        cases h with
        | same noBackslash =>
          rw [replaceBackslashes_eq_self_iff.mpr noBackslash, first] at marked
          cases marked
        | unmarked relative => simp [chars, marked] at relative
        | atRoot _ top normal =>
          rw [Resolution.normal, withSlashes, String.ofList_inj, String.toList_ofList] at normal
          exact ⟨top, normal⟩

/-- **Slashes and backslashes** are interchangeable in a specifier, whatever is known, if it has no
backslashes, or if it does not start at the root of the sources once they are slashes, or if the
backslash is in the marker itself, and the file and the specifier leave no difference between the
two ways to read it. In every other specifier they are not. -/
theorem forall_target?_withSlashes_iff (importer spec : String) :
    (∀ known, target? known importer spec = target? known importer (withSlashes spec)) ↔
      Interchangeable importer spec :=
  forall_target?_eq_iff.trans (base_withSlashes_iff importer spec)

/-- **Not every specifier can be written with backslashes**: in a directory other than the root the
marker is read as a folder of that directory. -/
theorem not_forall_target?_withSlashes :
    ¬∀ (known : String → Bool) (importer spec : String),
      target? known importer spec = target? known importer (withSlashes spec) := by
  intro same
  have both := same (· == "src/a.js") "lib/x.js" "src\\a.js"
  exact absurd both (by decide +kernel)

end Resolution

end DepGraph
