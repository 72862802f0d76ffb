import DepGraph.Ignore.Pattern
import DepGraph.Proofs.Survey.Names

/-!
# What lies below a directory of a name

A glob matches a path if its pieces get through a front of it, one after the other: what each piece
may leave is told here by what it takes (`DepGraph.Ignore.mem_rests_leading`,
`DepGraph.Ignore.begins_letters`). So the pattern of a name and a slash
(`DepGraph.Ignore.Pattern.below`) matches the paths that lie below a directory of this name, at any
depth (`DepGraph.Ignore.Pattern.holds_below_iff`), but with one reservation: what stands before the
name has to be on one line.
-/

namespace DepGraph

/-! ### Paths in two parts -/

namespace Path

variable {cs ds : List (List Char)} {a : Char}

/-- The components of a path are those before a slash and those after it. -/
theorem components_append_cons_slash (front rest : List Char) :
    components (front ++ '/' :: rest) = components front ++ components rest := by
  induction front with
  | nil => simp [components]
  | cons a front ih =>
    obtain ⟨d, ds, hc⟩ := List.exists_cons_of_ne_nil (components_ne_nil front)
    by_cases slash : a = '/'
    · simp [components, slash, ih]
    · simp [components, slash, ih, hc]

/-- Between the joins of two lists of components stands a slash. -/
theorem joined_append (first : cs ≠ []) (second : ds ≠ []) :
    joined (cs ++ ds) = joined cs ++ '/' :: joined ds := by
  induction cs with
  | nil => exact absurd rfl first
  | cons c cs ih =>
    rcases eq_or_ne cs [] with rfl | more
    · exact joined_cons c second
    · rw [List.cons_append, joined_cons c (by simp [more]), ih more, joined_cons c more]
      simp

/-- A character other than a slash is in a path if it is in one of its components. -/
theorem mem_joined (other : a ≠ '/') : a ∈ joined cs ↔ ∃ c ∈ cs, a ∈ c := by
  induction cs with
  | nil => simp [joined]
  | cons c cs ih =>
    rcases eq_or_ne cs [] with rfl | more
    · simp [joined]
    · simp [joined_cons c more, other, ih]

end Path

namespace Ignore

open DepGraph.Path (IsName components joined ofNames)

/-! ### Globs of names -/

section Globs

variable {k : Char → Bool} {cs rest text path : List Char} {more : List Piece}

/-- What one character of a kind leaves. -/
theorem mem_restsOne : rest ∈ restsOne k cs ↔ ∃ c, cs = c :: rest ∧ k c = true := by
  cases cs with
  | nil => simp [restsOne]
  | cons c cs =>
    simp only [restsOne, List.cons.injEq]
    split
    next h => exact ⟨fun mem => ⟨c, ⟨rfl, (List.mem_singleton.mp mem).symm⟩, h⟩, by simp_all⟩
    next h => simp_all

/-- What characters of a kind may leave. -/
theorem mem_restsWhile :
    rest ∈ restsWhile k cs ↔ ∃ front, cs = front ++ rest ∧ ∀ c ∈ front, k c = true := by
  induction cs with
  | nil =>
    rw [restsWhile, List.mem_singleton]
    refine ⟨fun h => ⟨[], h.symm, List.forall_mem_nil _⟩, ?_⟩
    rintro ⟨front, split, -⟩
    exact (List.append_eq_nil_iff.mp split.symm).2
  | cons c cs ih =>
    rw [restsWhile, List.mem_cons]
    constructor
    · rintro (rfl | h)
      · exact ⟨[], rfl, by simp⟩
      · split at h
        · obtain ⟨front, rfl, kinds⟩ := ih.mp h
          exact ⟨c :: front, rfl, by simp_all⟩
        · cases h
    · rintro ⟨front, split, kinds⟩
      cases front with
      | nil => exact Or.inl split.symm
      | cons d front =>
        obtain ⟨rfl, inner⟩ := List.cons.inj split
        obtain ⟨first, kinds⟩ := List.forall_mem_cons.mp kinds
        rw [if_pos first]
        exact Or.inr (ih.mpr ⟨front, inner, kinds⟩)

/-- What directories at the front may leave: everything, or what follows a slash that is not the
first character and comes before any line break. -/
theorem mem_rests_leading :
    rest ∈ Piece.leading.rests cs ↔
      rest = cs ∨ ∃ front, front ≠ [] ∧ '\n' ∉ front ∧ cs = front ++ '/' :: rest := by
  simp only [Piece.rests, List.mem_cons, List.mem_flatMap, restsSlash, mem_restsOne,
    mem_restsWhile]
  refine or_congr_right ⟨?_, ?_⟩
  · rintro ⟨_, ⟨_, ⟨c, rfl, first⟩, front, rfl, others⟩, d, rfl, slash⟩
    obtain rfl : d = '/' := by simpa using slash
    refine ⟨c :: front, List.cons_ne_nil _ _, fun h => ?_, rfl⟩
    rcases List.mem_cons.mp h with rfl | h
    · simp [inLine] at first
    · simpa [inLine] using others _ h
  · rintro ⟨front, more, line, rfl⟩
    obtain ⟨c, front, rfl⟩ := List.exists_cons_of_ne_nil more
    have kinds : ∀ d ∈ c :: front, inLine d = true := fun d hd => by
      have other : d ≠ '\n' := fun h => line (h ▸ hd)
      simpa [inLine] using other
    obtain ⟨first, others⟩ := List.forall_mem_cons.mp kinds
    exact ⟨'/' :: rest, ⟨front ++ '/' :: rest, ⟨c, rfl, first⟩, front, rfl, others⟩, '/', rfl, rfl⟩

/-- Letters are matched one by one. -/
theorem begins_letters :
    begins (text.map Piece.letter ++ more) path = true ↔
      ∃ rest, path = text ++ rest ∧ begins more rest = true := by
  induction text generalizing path with
  | nil => simp
  | cons c text ih =>
    simp only [List.map_cons, List.cons_append, begins, List.any_eq_true, Piece.rests,
      mem_restsOne, beq_iff_eq]
    constructor
    · rintro ⟨_, ⟨_, rfl, rfl⟩, h⟩
      obtain ⟨rest, rfl, last⟩ := ih.mp h
      exact ⟨rest, rfl, last⟩
    · rintro ⟨rest, rfl, last⟩
      exact ⟨_, ⟨c, rfl, rfl⟩, ih.mpr ⟨rest, rfl, last⟩⟩

end Globs

/-! ### Directories of a name -/

section Directories

variable {dirs : List String} {last name : String} {path : List Char}

/-- The pattern of what lies **below** a directory of this name. -/
def Pattern.below (name : String) : Pattern :=
  ⟨false, .glob (.leading :: (name.toList.map .letter ++ [.slash]))⟩

/-- A path lies below a directory of a name if the name stands in it before a slash: at its start,
or after a slash that is not the first character and comes before any line break. -/
theorem Pattern.holds_below :
    (Pattern.below name).holds path = true ↔
      ∃ rest, path = name.toList ++ '/' :: rest ∨
        ∃ front, front ≠ [] ∧ '\n' ∉ front ∧
          path = front ++ '/' :: (name.toList ++ '/' :: rest) := by
  have inner (cs : List Char) : begins (name.toList.map .letter ++ [.slash]) cs = true ↔
      ∃ rest, cs = name.toList ++ '/' :: rest := by
    rw [begins_letters]
    simp only [begins, Piece.rests, restsSlash, List.any_eq_true, mem_restsOne, beq_iff_eq]
    constructor
    · rintro ⟨_, rfl, rest, ⟨_, rfl, rfl⟩, -⟩
      exact ⟨rest, rfl⟩
    · rintro ⟨rest, rfl⟩
      exact ⟨_, rfl, rest, ⟨_, rfl, rfl⟩, trivial⟩
  simp only [Pattern.holds, Pattern.below, begins, List.any_eq_true, mem_rests_leading, inner]
  constructor
  · rintro ⟨_, rfl | ⟨front, more, line, rfl⟩, rest, rfl⟩
    · exact ⟨rest, Or.inl rfl⟩
    · exact ⟨rest, Or.inr ⟨front, more, line, rfl⟩⟩
  · rintro ⟨rest, rfl | ⟨front, more, line, rfl⟩⟩
    · exact ⟨_, Or.inl rfl, rest, rfl⟩
    · exact ⟨_, Or.inr ⟨front, more, line, rfl⟩, rest, rfl⟩

/-- **A path lies below a directory of a name** if one of its components is the name, and not the
last one. What stands before has to be on one line, and may not be a single empty component. -/
theorem Pattern.holds_below_iff (plain : '/' ∉ name.toList) :
    (Pattern.below name).holds path = true ↔
      ∃ above more, components path = above ++ name.toList :: more ∧ more ≠ [] ∧
        above ≠ [[]] ∧ ∀ c ∈ above, '\n' ∉ c := by
  rw [Pattern.holds_below]
  constructor
  · rintro ⟨rest, rfl | ⟨front, ne, line, rfl⟩⟩
    · exact ⟨[], components rest, Path.components_append_slash plain rest,
        Path.components_ne_nil rest, by simp, by simp⟩
    · refine ⟨components front, components rest, ?_, Path.components_ne_nil rest, fun nothing => ?_,
        fun c hc ends => ?_⟩
      · rw [Path.components_append_cons_slash, Path.components_append_slash plain]
      · exact ne (by rw [← Path.joined_components front, nothing]; rfl)
      · rw [← Path.joined_components front] at line
        exact line ((Path.mem_joined (by decide)).mpr ⟨c, hc, ends⟩)
  · rintro ⟨above, more, parts, ne, filled, line⟩
    have text : path = joined (above ++ name.toList :: more) := by
      rw [← parts, Path.joined_components]
    rw [text]
    refine ⟨joined more, ?_⟩
    -- what stands above is put together again, and is no text at all only if it is one empty part
    rcases eq_or_ne above [] with rfl | first
    · exact Or.inl (Path.joined_cons _ ne)
    · refine Or.inr ⟨joined above, fun nothing => filled ?_, fun ends => ?_, ?_⟩
      · have slashFree : ∀ c ∈ above, '/' ∉ c := fun c hc =>
          Path.slash_not_mem_of_mem_components (parts ▸ List.mem_append_left _ hc)
        rw [← Path.components_joined first slashFree, nothing]
        rfl
      · obtain ⟨c, hc, ends⟩ := (Path.mem_joined (by decide)).mp ends
        exact line c hc ends
      · rw [Path.joined_append first (List.cons_ne_nil _ _), Path.joined_cons _ ne]

/-- A path of names lies below a directory of a name if the name is one of them but the last, and no
name before it has a line break. -/
theorem Pattern.holds_below_ofNames (proper : ∀ n ∈ dirs, IsName n)
    (plain : '/' ∉ last.toList) (slashFree : '/' ∉ name.toList) :
    (Pattern.below name).holds (ofNames (dirs ++ [last])).toList = true ↔
      ∃ above more, dirs = above ++ name :: more ∧ ∀ n ∈ above, '\n' ∉ n.toList := by
  have parts : components (ofNames (dirs ++ [last])).toList =
      (dirs ++ [last]).map String.toList := by
    rw [ofNames, String.toList_ofList]
    refine Path.components_joined (by simp) fun c hc => ?_
    obtain ⟨n, hn, rfl⟩ := List.mem_map.mp hc
    rcases List.mem_append.mp hn with hn | hn
    · exact (proper n hn).noSlash
    · exact List.mem_singleton.mp hn ▸ plain
  rw [Pattern.holds_below_iff slashFree, parts]
  constructor
  · rintro ⟨_, _, split, ne, -, line⟩
    obtain ⟨above, rest, names, rfl, tail⟩ := List.map_eq_append_iff.mp split
    obtain ⟨n, rest, rfl, same, rfl⟩ := List.map_eq_cons_iff.mp tail
    obtain rfl : n = name := String.toList_inj.mp same
    -- the name is not the last one, so that the last one goes from both sides
    rcases List.eq_nil_or_concat rest with rfl | ⟨more, final, rfl⟩
    · exact absurd rfl ne
    · rw [List.concat_eq_append, ← List.cons_append, ← List.append_assoc] at names
      exact ⟨above, more, (List.append_inj' names rfl).1, by simpa using line⟩
  · rintro ⟨above, more, rfl, line⟩
    refine ⟨above.map String.toList, (more ++ [last]).map String.toList, by simp, by simp, ?_, ?_⟩
    · intro nothing
      obtain ⟨n, rfl, empty⟩ := List.map_eq_singleton_iff.mp nothing
      exact (proper n (by simp)).ne_empty (String.toList_eq_nil_iff.mp empty)
    · simpa using line

end Directories

end Ignore

end DepGraph
