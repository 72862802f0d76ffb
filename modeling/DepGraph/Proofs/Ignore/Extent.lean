import DepGraph.Proofs.Ignore.Below
import Mathlib.Data.List.TakeWhile

/-!
# How far a glob gets

A piece of a glob **takes** a part of a path (`DepGraph.Ignore.Piece.Takes`) and leaves what follows
it, whatever that is. Only the boundary looks at what follows: it is content with the end of the
path. So a glob that matches a front of a path matches the path as well
(`DepGraph.Ignore.begins_append`), unless the front ends where the boundary stands.

A directory is tested as its path with a slash at the end, and what is in it has that path in front.
A pattern that matches the directory therefore matches what is in it
(`DepGraph.Ignore.Pattern.holds_append_or_swallows`), with one exception: the last piece of the glob
is a list between brackets that has the slash among its characters, and takes the one at the end.
The pattern then **swallows** the slash (`DepGraph.Ignore.Pattern.Swallows`), and the end that it
goes on to is not there in a longer path.
-/

namespace DepGraph.Ignore

/-! ### What pieces take -/

/-- The texts that a piece **takes**. At the end of a path a boundary takes nothing, which is not
counted here. -/
def Piece.Takes : Piece → List Char → Prop
  | .letter c, text => text = [c]
  | .glyph, text => ∃ c, text = [c] ∧ inName c = true
  | .run, text => ∀ c ∈ text, inName c = true
  | .name, text => text ≠ [] ∧ ∀ c ∈ text, inName c = true
  | .oneOf negated listed, text => ∃ c, text = [c] ∧ (lists listed c != negated) = true
  | .slash, text => text = ['/']
  | .leading, text => text = [] ∨ ∃ front, front ≠ [] ∧ '\n' ∉ front ∧ text = front ++ ['/']
  | .between, text => text = [] ∨ ∃ rest, rest ≠ [] ∧ '\n' ∉ rest ∧ text = '/' :: rest
  | .boundary, text => text = ['/']

/-- Pieces **span** a text if each takes its part of it, one after the other. -/
inductive Spans : List Piece → List Char → Prop
  /-- No pieces span nothing. -/
  | nil : Spans [] []
  /-- The first piece takes a front, and the others span the rest. -/
  | cons {piece : Piece} {pieces : List Piece} {first rest : List Char} :
    piece.Takes first → Spans pieces rest → Spans (piece :: pieces) (first ++ rest)

section Taking

variable {piece : Piece} {front back pieces : List Piece} {cs text path rest : List Char}

/-- What slashes and characters after them may leave: everything, or what follows a slash and some
characters on its line. -/
theorem mem_rests_between :
    rest ∈ Piece.between.rests cs ↔
      rest = cs ∨ ∃ inner, inner ≠ [] ∧ '\n' ∉ inner ∧ cs = '/' :: (inner ++ rest) := by
  simp only [Piece.rests, List.mem_cons, List.mem_flatMap, restsSlash, mem_restsOne,
    mem_restsWhile]
  refine or_congr_right ⟨?_, ?_⟩
  · rintro ⟨_, ⟨_, ⟨d, rfl, slash⟩, c, rfl, first⟩, inner, rfl, others⟩
    obtain rfl : d = '/' := by simpa using slash
    refine ⟨c :: inner, List.cons_ne_nil _ _, fun h => ?_, rfl⟩
    rcases List.mem_cons.mp h with rfl | h
    · simp [inLine] at first
    · simpa [inLine] using others _ h
  · rintro ⟨inner, more, line, rfl⟩
    obtain ⟨c, inner, rfl⟩ := List.exists_cons_of_ne_nil more
    have kinds : ∀ d ∈ c :: inner, inLine d = true := fun d hd => by
      have other : d ≠ '\n' := fun h => line (h ▸ hd)
      simpa [inLine] using other
    obtain ⟨first, others⟩ := List.forall_mem_cons.mp kinds
    exact ⟨inner ++ rest, ⟨c :: (inner ++ rest), ⟨'/', rfl, rfl⟩, c, rfl, first⟩, inner, rfl,
      others⟩

/-- **A piece leaves what follows the text that it takes.** -/
theorem mem_rests_iff (loose : piece ≠ .boundary) :
    rest ∈ piece.rests cs ↔ ∃ text, cs = text ++ rest ∧ piece.Takes text := by
  cases piece with
  | letter c => simp [Piece.rests, Piece.Takes, mem_restsOne]
  | glyph => simp [Piece.rests, Piece.Takes, mem_restsOne]
  | run => simp [Piece.rests, Piece.Takes, mem_restsWhile]
  | name =>
    simp only [Piece.rests, Piece.Takes, List.mem_flatMap, mem_restsOne, mem_restsWhile]
    constructor
    · rintro ⟨_, ⟨c, rfl, first⟩, text, rfl, others⟩
      exact ⟨c :: text, rfl, List.cons_ne_nil _ _, List.forall_mem_cons.mpr ⟨first, others⟩⟩
    · rintro ⟨text, rfl, more, kinds⟩
      obtain ⟨c, text, rfl⟩ := List.exists_cons_of_ne_nil more
      obtain ⟨first, others⟩ := List.forall_mem_cons.mp kinds
      exact ⟨text ++ rest, ⟨c, rfl, first⟩, text, rfl, others⟩
  | oneOf negated listed => simp [Piece.rests, Piece.Takes, mem_restsOne]
  | slash => simp [Piece.rests, Piece.Takes, restsSlash, mem_restsOne]
  | leading =>
    rw [mem_rests_leading]
    constructor
    · rintro (rfl | ⟨front, more, line, rfl⟩)
      · exact ⟨[], rfl, Or.inl rfl⟩
      · exact ⟨front ++ ['/'], by simp, Or.inr ⟨front, more, line, rfl⟩⟩
    · rintro ⟨_, rfl, rfl | ⟨front, more, line, rfl⟩⟩
      · exact Or.inl rfl
      · exact Or.inr ⟨front, more, line, by simp⟩
  | between =>
    rw [mem_rests_between]
    constructor
    · rintro (rfl | ⟨inner, more, line, rfl⟩)
      · exact ⟨[], rfl, Or.inl rfl⟩
      · exact ⟨'/' :: inner, rfl, Or.inr ⟨inner, more, line, rfl⟩⟩
    · rintro ⟨_, rfl, rfl | ⟨inner, more, line, rfl⟩⟩
      · exact Or.inl rfl
      · exact Or.inr ⟨inner, more, line, rfl⟩
  | boundary => exact absurd rfl loose

/-- **A path begins with pieces if some of them span a front of it** and the rest begins with the
others. The boundary is among the others, as what it takes depends on what follows. -/
theorem begins_append (loose : .boundary ∉ front) :
    begins (front ++ back) path = true ↔
      ∃ text rest, path = text ++ rest ∧ Spans front text ∧ begins back rest = true := by
  induction front generalizing path with
  | nil =>
    constructor
    · exact fun h => ⟨[], path, rfl, .nil, h⟩
    · rintro ⟨_, rest, rfl, ⟨⟩, h⟩
      exact h
  | cons piece front ih =>
    obtain ⟨other, loose⟩ := List.ne_and_not_mem_of_not_mem_cons loose
    simp only [List.cons_append, begins, List.any_eq_true, mem_rests_iff other.symm, ih loose]
    constructor
    · rintro ⟨_, ⟨first, rfl, takes⟩, text, rest, rfl, spans, h⟩
      exact ⟨first ++ text, rest, by simp, .cons takes spans, h⟩
    · rintro ⟨_, rest, rfl, spans, h⟩
      obtain - | @⟨_, _, first, text, takes, spans⟩ := spans
      exact ⟨text ++ rest, ⟨first, by simp, takes⟩, text, rest, rfl, spans, h⟩

/-- One piece spans what it takes. -/
theorem spans_singleton : Spans [piece] text ↔ piece.Takes text := by
  constructor
  · rintro (- | @⟨_, _, first, _, takes, ⟨⟩⟩)
    simpa using takes
  · intro takes
    simpa using Spans.cons takes .nil

/-- A boundary is at the end of a path, before a line break at the end, or at a slash. -/
theorem begins_boundary :
    begins [.boundary] path = true ↔ path = [] ∨ path = ['\n'] ∨ ∃ rest, path = '/' :: rest := by
  simp only [begins, List.any_eq_true, Piece.rests]
  split
  next ends =>
    rw [Bool.or_eq_true, beq_iff_eq, beq_iff_eq] at ends
    exact ⟨fun _ => ends.imp_right Or.inl, fun _ => ⟨path, List.mem_singleton_self _, trivial⟩⟩
  next inner => simp_all [restsSlash, mem_restsOne]

end Taking

/-! ### Patterns that swallow a slash -/

/-- A piece of a **name**: what is written between two slashes of a pattern is made of them. -/
def Piece.IsOfName : Piece → Prop
  | .letter c => c ≠ '/'
  | .glyph | .run | .name | .oneOf _ _ => True
  | .slash | .leading | .between | .boundary => False

/-- A glob is **closed** if it looks at the end of a path only where it ends, after a piece of a
name. -/
def IsClosed (pieces : List Piece) : Prop :=
  ∃ front, .boundary ∉ front ∧
    (pieces = front ∨ ∃ last : Piece, last.IsOfName ∧ pieces = front ++ [last, .boundary])

/-- A pattern is **closed** if its glob is. -/
def Pattern.IsClosed (p : Pattern) : Prop :=
  ∀ pieces, p.shape = .glob pieces → Ignore.IsClosed pieces

/-- A pattern **swallows** the slash after a path if its last piece is a list between brackets that
takes the slash, while all the others span the path. -/
def Pattern.Swallows (p : Pattern) (path : List Char) : Prop :=
  ∃ front negated listed,
    p.shape = .glob (front ++ [.oneOf negated listed, .boundary]) ∧ .boundary ∉ front ∧
      Spans front path ∧ (lists listed '/' != negated) = true

/-- A path **ends as a directory's** does if there is a slash at its end, or nothing in it. -/
def EndsInSlash (path : List Char) : Prop := path = [] ∨ ∃ text, path = text ++ ['/']

/-- What is left of such a path ends as it does. -/
theorem EndsInSlash.of_append {text rest : List Char} (ends : EndsInSlash (text ++ rest)) :
    EndsInSlash rest := by
  rcases List.eq_nil_or_concat rest with rfl | ⟨inner, c, rfl⟩
  · exact Or.inl rfl
  · obtain nothing | ⟨outer, whole⟩ := ends
    · simp at nothing
    · rw [List.concat_eq_append, ← List.append_assoc] at whole
      exact Or.inr ⟨inner, by rw [List.concat_eq_append, (List.append_inj' whole rfl).2]⟩

section Swallowing

variable {p : Pattern} {last : Piece} {text path rest : List Char}

/-- Only a run takes nothing of a name. -/
theorem Piece.IsOfName.eq_run (ofName : last.IsOfName) (takes : last.Takes []) : last = .run := by
  cases last <;> simp_all [Piece.IsOfName, Piece.Takes]

/-- Of a name only a list between brackets takes a slash at the end, and it takes nothing else. -/
theorem Piece.IsOfName.exists_oneOf (ofName : last.IsOfName)
    (takes : last.Takes (text ++ ['/'])) :
    text = [] ∧ ∃ negated listed, last = .oneOf negated listed ∧
      (lists listed '/' != negated) = true := by
  cases last with
  | letter c =>
    have same : text ++ ['/'] = [] ++ [c] := takes
    exact absurd (List.append_inj' same rfl).2 (by simpa using Ne.symm ofName)
  | glyph =>
    obtain ⟨c, same, other⟩ := takes
    obtain rfl : '/' = c := by simpa using (List.append_inj' same rfl : text = [] ∧ ['/'] = [c]).2
    exact absurd other (by decide)
  | run => exact absurd (takes '/' (by simp)) (by decide)
  | name => exact absurd (takes.2 '/' (by simp)) (by decide)
  | oneOf negated listed =>
    obtain ⟨c, same, listed'⟩ := takes
    obtain ⟨nothing, ends⟩ : text = [] ∧ ['/'] = [c] := List.append_inj' same rfl
    obtain rfl : '/' = c := by simpa using ends
    exact ⟨nothing, negated, listed, rfl, listed'⟩
  | slash => cases ofName
  | leading => cases ofName
  | between => cases ofName
  | boundary => cases ofName

/-- The last piece of a name takes a text that ends where the boundary stands. -/
theorem begins_last (ofName : last.IsOfName) :
    begins [last, .boundary] path = true ↔ ∃ text rest, path = text ++ rest ∧ last.Takes text ∧
      (rest = [] ∨ rest = ['\n'] ∨ ∃ more, rest = '/' :: more) := by
  have loose : .boundary ∉ [last] := fun h => by
    obtain rfl := List.mem_singleton.mp h
    cases ofName
  have split : [last, .boundary] = [last] ++ [.boundary] := rfl
  rw [split, begins_append loose]
  simp only [spans_singleton, begins_boundary]

/-- A run goes on to the next slash or to the end. -/
theorem begins_run (rest : List Char) : begins [.run, .boundary] rest = true := by
  have split : rest = rest.takeWhile inName ++ rest.dropWhile inName :=
    List.takeWhile_append_dropWhile.symm
  have run : Piece.run.IsOfName := trivial
  refine (begins_last run).mpr ⟨_, _, split, fun c hc => List.mem_takeWhile_imp hc, ?_⟩
  cases left : rest.dropWhile inName with
  | nil => exact Or.inl rfl
  | cons c more =>
    have stops : inName c = false := by
      simpa [left] using List.head?_dropWhile_not inName rest
    obtain rfl : c = '/' := by simpa [inName] using stops
    exact Or.inr (Or.inr ⟨more, rfl⟩)

/-- The last piece of a name matches what is longer as well, unless it is a list between brackets
that takes the slash at the end. -/
theorem begins_last_append_or (ofName : last.IsOfName)
    (ends : EndsInSlash path) (holds : begins [last, .boundary] path = true) :
    (∀ rest, begins [last, .boundary] (path ++ rest) = true) ∨
      path = ['/'] ∧ ∃ negated listed, last = .oneOf negated listed ∧
        (lists listed '/' != negated) = true := by
  obtain ⟨text, after, rfl, takes, rfl | rfl | ⟨more, rfl⟩⟩ := (begins_last ofName).mp holds
  · -- the piece takes the whole path, so that a boundary further on has to be found anew
    rw [List.append_nil] at ends ⊢
    obtain rfl | ⟨inner, rfl⟩ := ends
    · obtain rfl := ofName.eq_run takes
      exact Or.inl begins_run
    · obtain ⟨rfl, bracket⟩ := ofName.exists_oneOf takes
      exact Or.inr ⟨rfl, bracket⟩
  · obtain nothing | ⟨inner, same⟩ := ends
    · simp at nothing
    · exact absurd (List.append_inj' same rfl).2 (by decide)
  · refine Or.inl fun rest => (begins_last ofName).mpr ⟨text, '/' :: (more ++ rest), ?_, takes, ?_⟩
    · simp
    · exact Or.inr (Or.inr ⟨_, rfl⟩)

/-- **A pattern that matches a directory matches what is in it, or swallows the slash** at the end
of the directory's path. -/
theorem Pattern.holds_append_or_swallows (closed : p.IsClosed) (ends : EndsInSlash path)
    (holds : p.holds path = true) :
    (∀ rest, p.holds (path ++ rest) = true) ∨ ∃ text, path = text ++ ['/'] ∧ p.Swallows text := by
  cases shape : p.shape with
  | everything => exact Or.inl fun rest => by simp_all [Pattern.holds]
  | nested => exact Or.inl fun rest => by simp_all [Pattern.holds]
  | glob pieces =>
    have same (path : List Char) : p.holds path = begins pieces path := by rw [Pattern.holds, shape]
    simp only [same] at holds ⊢
    obtain ⟨front, loose, rfl | ⟨last, ofName, rfl⟩⟩ := closed pieces shape
    · -- no piece looks at the end of the path
      rw [← List.append_nil pieces] at holds ⊢
      obtain ⟨text, left, rfl, spans, -⟩ := (begins_append loose).mp holds
      refine Or.inl fun rest => (begins_append loose).mpr ⟨text, left ++ rest, ?_, spans, rfl⟩
      exact List.append_assoc _ _ _
    · obtain ⟨text, left, rfl, spans, holds⟩ := (begins_append loose).mp holds
      rcases begins_last_append_or ofName ends.of_append holds with
        longer | ⟨rfl, negated, listed, rfl, slash⟩
      · refine Or.inl fun rest => (begins_append loose).mpr ⟨text, left ++ rest, ?_, spans, ?_⟩
        · exact List.append_assoc _ _ _
        · exact longer rest
      · exact Or.inr ⟨text, rfl, front, negated, listed, shape, loose, spans, slash⟩

/-- A pattern matches a directory whose slash it swallows. -/
theorem Pattern.Swallows.holds (swallows : p.Swallows text) : p.holds (text ++ ['/']) = true := by
  obtain ⟨front, negated, listed, shape, loose, spans, slash⟩ := swallows
  rw [Pattern.holds, shape]
  have bracket : (Piece.oneOf negated listed).IsOfName := trivial
  refine (begins_append loose).mpr ⟨text, ['/'], rfl, spans, (begins_last bracket).mpr ?_⟩
  exact ⟨['/'], [], rfl, ⟨'/', rfl, slash⟩, Or.inl rfl⟩

end Swallowing

end DepGraph.Ignore
