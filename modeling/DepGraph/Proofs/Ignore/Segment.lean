import DepGraph.Ignore.Rules
import DepGraph.Proofs.Ignore.Extent

/-!
# What the pattern of a line looks like

A line is split at its slashes, and what is written between two of them becomes pieces of a name
(`DepGraph.Ignore.isOfName_of_segment`). A pattern that ends in a slash is spelled out first, so
that the last segment is never empty (`DepGraph.Ignore.SpelledOut`), and a boundary is put after it
only if it is not the one that stands for any number of directories. The pattern of a line is
therefore closed (`DepGraph.Ignore.isClosed_of_ofLine`). It is negated only if the line takes back,
which it does by an exclamation mark at its start.
-/

namespace DepGraph.Ignore

/-! ### Segments -/

section Segments

variable {s cs : List Char} {ps : List Piece} {segments rest : List (List Char)}
variable {skip : Nat} {escaped : Bool}

/-- What is written between two slashes is made of pieces of a name. -/
theorem isOfName_of_segmentFrom (plain : '/' ∉ cs) (h : segmentFrom skip escaped cs = some ps) :
    ∀ p ∈ ps, p.IsOfName := by
  induction cs generalizing skip escaped ps with
  | nil =>
    cases escaped with
    | true => cases h
    | false =>
      obtain rfl : [] = ps := by simpa [segmentFrom] using h
      exact List.forall_mem_nil _
  | cons c cs ih =>
    obtain ⟨other, plain⟩ := List.ne_and_not_mem_of_not_mem_cons plain
    -- one piece of a name comes before those of the rest
    have more {skip : Nat} (piece : Piece) (first : piece.IsOfName)
        (h : (piece :: ·) <$> segmentFrom skip false cs = some ps) : ∀ p ∈ ps, p.IsOfName := by
      obtain ⟨ps, rest, rfl⟩ := Option.map_eq_some_iff.mp h
      exact List.forall_mem_cons.mpr ⟨first, ih plain rest⟩
    have letter : (Piece.letter c).IsOfName := other.symm
    cases skip with
    | succ skip => exact ih plain h
    | zero =>
      simp only [segmentFrom] at h
      split at h
      · exact more _ letter h
      split at h
      · exact ih plain h
      split at h
      · exact more .run trivial h
      split at h
      · exact more .glyph trivial h
      split at h
      · cases bracket : bracket? cs with
        | none => exact more _ letter (by simpa only [bracket] using h)
        | some found => exact more (.oneOf _ _) trivial (by simpa only [bracket] using h)
      · exact more _ letter h

/-- A segment with something in it has pieces. -/
theorem ne_nil_of_segmentFrom (filled : cs ≠ []) (h : segmentFrom 0 escaped cs = some ps) :
    ps ≠ [] := by
  induction cs generalizing escaped with
  | nil => exact absurd rfl filled
  | cons c cs ih =>
    have more {skip : Nat} (piece : Piece)
        (h : (piece :: ·) <$> segmentFrom skip false cs = some ps) : ps ≠ [] := by
      obtain ⟨ps, -, rfl⟩ := Option.map_eq_some_iff.mp h
      exact List.cons_ne_nil _ _
    simp only [segmentFrom] at h
    split at h
    · exact more _ h
    split at h
    · -- a backslash needs something to stand before
      rcases eq_or_ne cs [] with rfl | filled
      · cases h
      · exact ih filled h
    split at h
    · exact more _ h
    split at h
    · exact more _ h
    split at h
    · cases bracket : bracket? cs with
      | none => exact more _ (by simpa only [bracket] using h)
      | some found => exact more _ (by simpa only [bracket] using h)
    · exact more _ h

/-- **A segment becomes pieces of a name.** -/
theorem isOfName_of_segment (plain : '/' ∉ s) (h : segment s = some ps) :
    ∀ p ∈ ps, p.IsOfName := by
  unfold segment at h
  split at h
  · obtain rfl : [.name] = ps := by simpa using h
    exact List.forall_mem_singleton.mpr trivial
  · exact isOfName_of_segmentFrom plain h

/-- The pieces of a segment with something in it have a last one. -/
theorem exists_last_of_segment (filled : s ≠ []) (h : segment s = some ps) :
    ∃ front last, ps = front ++ [last] := by
  have some : ps ≠ [] := by
    unfold segment at h
    split at h
    · obtain rfl : [.name] = ps := by simpa using h
      exact List.cons_ne_nil _ _
    · exact ne_nil_of_segmentFrom filled h
  rcases List.eq_nil_or_concat ps with rfl | ⟨front, last, rfl⟩
  · exact absurd rfl some
  · exact ⟨front, last, List.concat_eq_append⟩

/-! ### Segments that are spelled out -/

/-- Segments are **spelled out** if there is no slash in one of them, and something in the last. -/
structure SpelledOut (segments : List (List Char)) : Prop where
  /-- A slash is between segments and not in one. -/
  noSlash : ∀ s ∈ segments, '/' ∉ s
  /-- What comes after the last slash is not empty. -/
  filled : segments.getLast? ≠ some []

/-- What counts from the top are segments of the line, and the one for any number of directories. -/
theorem mem_fromTop (h : s ∈ fromTop segments) : s ∈ segments ∨ s = anyDepth := by
  have deeper (h : s ∈ anyDepth :: segments) : s ∈ segments ∨ s = anyDepth :=
    (List.mem_cons.mp h).symm
  unfold fromTop at h
  split at h
  · exact Or.inl (List.mem_cons_of_mem _ h)
  · split at h
    · exact Or.inl h
    · exact deeper h
  · split at h
    · exact Or.inl h
    · exact deeper h
  · exact Or.inl h

/-- Spelling out the end brings in nothing but the segment for any number of directories. -/
theorem mem_spellEnd (h : s ∈ spellEnd segments) : s ∈ segments ∨ s = anyDepth := by
  fun_induction spellEnd segments with
  | case1 => cases h
  | case2 => exact Or.inr (List.mem_singleton.mp h)
  | case3 first rest other ih =>
    rcases List.mem_cons.mp h with rfl | h
    · exact Or.inl List.mem_cons_self
    · exact (ih h).imp_left (List.mem_cons_of_mem _)

/-- After spelling out the end there is something in the last segment. -/
theorem getLast?_spellEnd (segments : List (List Char)) :
    (spellEnd segments).getLast? ≠ some [] := by
  fun_induction spellEnd segments with
  | case1 => simp
  | case2 => decide
  | case3 first rest other ih =>
    rw [List.getLast?_cons]
    cases last : (spellEnd rest).getLast? with
    | some s => simpa [last] using ih
    | none =>
      -- nothing comes after the first segment, which is not the empty one then
      have nothing : rest = [] := by
        cases rest with
        | nil => rfl
        | cons s more => cases s <;> cases more <;> simp_all [spellEnd]
      rw [nothing] at other
      simpa using other

/-- Of segments that are repeated one is left. -/
theorem mem_onceDeep (h : s ∈ onceDeep segments) : s ∈ segments := by
  fun_induction onceDeep segments with
  | case1 => cases h
  | case2 first rest nothing ih => simp_all
  | case3 first rest t more found both ih =>
    exact List.mem_cons_of_mem _ (ih (by rwa [found]))
  | case4 first rest t more found apart ih =>
    rcases List.mem_cons.mp h with rfl | h
    · exact List.mem_cons_self
    · exact List.mem_cons_of_mem _ (ih (by rwa [found]))

/-- The last segment stays the last one. -/
theorem getLast?_onceDeep (segments : List (List Char)) :
    (onceDeep segments).getLast? = segments.getLast? := by
  have last (first : List Char) (rest : List (List Char)) :
      (first :: rest).getLast? = some (rest.getLast?.getD first) := List.getLast?_cons
  fun_induction onceDeep segments with
  | case1 => rfl
  | case2 first rest nothing ih =>
    rw [last first rest, ← ih, nothing]
    rfl
  | case3 first rest t more found both ih =>
    rw [last first rest, ← ih, found, last t more]
    rfl
  | case4 first rest t more found apart ih =>
    rw [last first rest, ← ih, found, last first (t :: more)]

/-- **The segments of a line are spelled out** before they become a glob. -/
theorem spelledOut_components (line : List Char) :
    SpelledOut (onceDeep (spellEnd (fromTop (Path.components line)))) where
  noSlash s h := by
    rcases mem_spellEnd (mem_onceDeep h) with h | rfl
    · rcases mem_fromTop h with h | rfl
      · exact Path.slash_not_mem_of_mem_components h
      · decide
    · decide
  filled := by
    rw [getLast?_onceDeep]
    exact getLast?_spellEnd _

/-! ### Closed globs -/

/-- More pieces in front of a closed glob leave it closed, if they do not look at the end. -/
theorem IsClosed.append (closed : IsClosed ps) {front : List Piece} (loose : .boundary ∉ front) :
    IsClosed (front ++ ps) := by
  obtain ⟨inner, loose', rfl | ⟨last, ofName, rfl⟩⟩ := closed
  · exact ⟨front ++ ps, by simp [loose, loose'], Or.inl rfl⟩
  · exact ⟨front ++ inner, by simp [loose, loose'], Or.inr ⟨last, ofName, by simp⟩⟩

/-- Pieces of names do not look at the end. -/
theorem boundary_notMem (ofName : ∀ p ∈ ps, p.IsOfName) : .boundary ∉ ps :=
  fun h => ofName _ h

/-- All segments but the first one are spelled out if there are such. -/
theorem SpelledOut.tail (spelled : SpelledOut (s :: rest)) (more : rest ≠ []) :
    SpelledOut rest where
  noSlash t ht := spelled.noSlash t (List.mem_cons_of_mem s ht)
  filled := by
    have last := spelled.filled
    rwa [List.getLast?_cons_of_ne_nil more] at last

/-- **The pieces of segments are closed** after the first of them, which is not a boundary. -/
theorem isClosed_of_pieces (spelled : SpelledOut segments) (ne : segments ≠ [])
    (h : pieces segments = some ps) :
    ∃ first more, ps = first :: more ∧ first ≠ .boundary ∧ IsClosed more := by
  induction segments generalizing ps with
  | nil => exact absurd rfl ne
  | cons s rest ih =>
    rw [pieces] at h
    split at h
    next deep =>
      split at h
      next last =>
        obtain rfl : [.slash] = ps := by simpa using h
        exact ⟨.slash, [], rfl, by decide, [], by simp, Or.inl rfl⟩
      next more =>
        obtain ⟨ps, inner, rfl⟩ := Option.map_eq_some_iff.mp h
        obtain ⟨first, after, rfl, other, closed⟩ := ih (spelled.tail more) more inner
        have loose : .boundary ∉ [first] := by simpa using other.symm
        exact ⟨.between, first :: after, rfl, by decide, closed.append loose⟩
    next named =>
      split at h
      next ps' more here inner =>
        obtain rfl : .slash :: ps' ++ more = ps := by simpa using h
        have ofName := isOfName_of_segment (spelled.noSlash s List.mem_cons_self) here
        refine ⟨.slash, ps' ++ more, rfl, by decide, ?_⟩
        rcases eq_or_ne rest [] with rfl | further
        · -- the boundary stands after the last segment, which is not empty
          obtain rfl : [.boundary] = more := by simpa [pieces] using inner
          have filled : s ≠ [] := fun empty => spelled.filled (by rw [empty]; rfl)
          obtain ⟨front, last, rfl⟩ := exists_last_of_segment filled here
          obtain ⟨before, ends⟩ := List.forall_mem_append.mp ofName
          exact ⟨front, boundary_notMem before,
            Or.inr ⟨last, List.forall_mem_singleton.mp ends, by simp⟩⟩
        · obtain ⟨first, after, rfl, other, closed⟩ := ih (spelled.tail further) further inner
          have loose : .boundary ∉ ps' ++ [first] := by
            simpa [other.symm] using boundary_notMem ofName
          simpa using closed.append loose
      next => cases h

/-- The pieces of segments from the first one on are closed. -/
theorem isClosed_of_topPieces (spelled : SpelledOut segments) (h : topPieces segments = some ps) :
    IsClosed ps := by
  cases segments with
  | nil => cases h
  | cons s rest =>
    rw [topPieces] at h
    split at h
    · obtain ⟨_, tail, rfl⟩ := Option.map_eq_some_iff.mp h
      obtain ⟨ps, inner, rfl⟩ := Option.map_eq_some_iff.mp tail
      have leading : .boundary ∉ [Piece.leading] := by decide
      rcases eq_or_ne rest [] with rfl | more
      · obtain rfl : [.boundary] = ps := by simpa [pieces] using inner
        exact ⟨[.leading], leading, Or.inl rfl⟩
      · obtain ⟨first, after, rfl, -, closed⟩ := isClosed_of_pieces (spelled.tail more) more inner
        exact closed.append leading
    · obtain ⟨ps, inner, rfl⟩ := Option.map_eq_some_iff.mp h
      obtain ⟨first, after, rfl, -, closed⟩ := isClosed_of_pieces spelled (by simp) inner
      exact closed

/-- A line with a glob is one whose segments have pieces. -/
theorem topPieces_of_shape? {belowOnly : Bool} (h : shape? belowOnly segments = some (.glob ps)) :
    topPieces (onceDeep (spellEnd (fromTop segments))) = some ps := by
  rw [shape?] at h
  split at h
  · cases h
  · -- the three forms without a glob come first
    split at h
    · split at h <;> cases h
    split at h
    · cases h
    split at h
    · cases h
    · obtain ⟨pieces, top, same⟩ := Option.map_eq_some_iff.mp h
      obtain rfl : pieces = ps := by simpa using same
      exact top

end Segments

/-! ### Lines -/

section Lines

variable {line : String} {lines : List String} {p : Pattern} {ps : List Pattern} {negated : Bool}
variable {body : List Char}

/-- A line **takes back** what others ignore if it starts with an exclamation mark. -/
def TakesBack (line : String) : Prop := line.toList.head? = some '!'

instance (line : String) : Decidable (TakesBack line) :=
  inferInstanceAs (Decidable (line.toList.head? = some '!'))

/-- **The pattern of a text is closed**, and negated as the mark before the text says. -/
theorem isClosed_of_ofBody (h : ofBody line negated body = .ok p) :
    p.IsClosed ∧ p.negated = negated := by
  rw [ofBody] at h
  split at h
  · cases h
  next ps shape =>
    split at h
    · cases h
    · obtain rfl : ⟨negated, .glob ps⟩ = p := Except.ok.inj h
      refine ⟨fun pieces glob => ?_, rfl⟩
      obtain rfl : ps = pieces := by simpa using glob
      exact isClosed_of_topPieces (spelledOut_components body) (topPieces_of_shape? shape)
  next shape other _ =>
    obtain rfl : ⟨negated, shape⟩ = p := Except.ok.inj h
    exact ⟨fun pieces glob => absurd glob (other pieces), rfl⟩

/-- What is left of a line without the blanks at its end is a front of it. -/
theorem trimEnd_prefix (line : List Char) : trimEnd line <+: line := by
  unfold trimEnd
  split
  · exact List.prefix_rfl
  · rw [← List.reverse_suffix, List.reverse_reverse]
    exact List.dropWhile_suffix _

/-- **The pattern of a line is closed**, and negated only if the line takes back. -/
theorem isClosed_of_ofLine (h : ofLine line = .ok (some p)) :
    p.IsClosed ∧ (p.negated = true → TakesBack line) := by
  have ofBody? {mark : Bool} {body : List Char}
      (h : some <$> ofBody line mark body = .ok (some p)) : p.IsClosed ∧ p.negated = mark := by
    cases read : ofBody line mark body with
    | error refusal => simp [read, Functor.map, Except.map] at h
    | ok q =>
      obtain rfl : q = p := by simpa [read, Functor.map, Except.map] using h
      exact isClosed_of_ofBody read
  rw [ofLine] at h
  split at h
  · cases h
  · cases h
  · cases h
  next body kept =>
    refine ⟨(ofBody? h).1, fun _ => ?_⟩
    obtain ⟨rest, whole⟩ := kept ▸ trimEnd_prefix line.toList
    rw [TakesBack, ← whole]
    rfl
  next body _ _ _ _ =>
    obtain ⟨closed, plain⟩ := ofBody? h
    exact ⟨closed, fun negated => by simp [plain] at negated⟩

/-- **The patterns of lines are those of each line.** -/
theorem mem_ofLines (valid : ofLines lines = .ok ps) :
    p ∈ ps ↔ ∃ line ∈ lines, ofLine line = .ok (some p) := by
  induction lines generalizing ps with
  | nil =>
    obtain rfl : [] = ps := Except.ok.inj valid
    simp
  | cons line lines ih =>
    rw [ofLines] at valid
    cases read : ofLine line with
    | error refusal => simp [read] at valid
    | ok pattern? =>
      cases pattern? with
      | none =>
        simp only [read] at valid
        simp [ih valid, read]
      | some q =>
        simp only [read] at valid
        cases more : ofLines lines with
        | error refusal => simp [more, Functor.map, Except.map] at valid
        | ok qs =>
          obtain rfl : q :: qs = ps := by simpa [more, Functor.map, Except.map] using valid
          simp [ih more, read, eq_comm]

/-- Lines are valid if each of them is. -/
theorem exists_ofLines_iff :
    (∃ ps, ofLines lines = .ok ps) ↔ ∀ line ∈ lines, ∃ pattern?, ofLine line = .ok pattern? := by
  induction lines with
  | nil => simp [ofLines]
  | cons line lines ih =>
    rw [ofLines, List.forall_mem_cons, ← ih]
    cases ofLine line with
    | error refusal => simp
    | ok pattern? =>
      cases pattern? with
      | none => simp
      | some p => cases ofLines lines <;> simp [Functor.map, Except.map]

/-- **Some of the lines have some of the patterns**, in whatever order they stand. -/
theorem exists_ofLines_of_subset {some : List String} (within : ∀ line ∈ some, line ∈ lines)
    (valid : ofLines lines = .ok ps) : ∃ qs, ofLines some = .ok qs ∧ ∀ q ∈ qs, q ∈ ps := by
  obtain ⟨qs, read⟩ := exists_ofLines_iff.mpr fun line hl =>
    exists_ofLines_iff.mp ⟨ps, valid⟩ line (within line hl)
  refine ⟨qs, read, fun q hq => ?_⟩
  obtain ⟨line, hl, pattern⟩ := (mem_ofLines read).mp hq
  exact (mem_ofLines valid).mpr ⟨line, within line hl, pattern⟩

end Lines

end DepGraph.Ignore
