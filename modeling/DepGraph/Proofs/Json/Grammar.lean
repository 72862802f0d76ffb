import DepGraph.Json.Reader
import Mathlib.Data.List.Basic

/-!
# The grammar of JSON

Which tokens are a JSON text, and of which value, is told here without reading them
(`DepGraph.Json.Denotes`): an array is its items with commas between them, in brackets, and an
object is its fields, in braces. It is told as well how deeply arrays and objects are nested.

The reader reads these texts and no others. A text that denotes a value is read as this value,
wherever it stands, if the reader allows for how deeply it is nested
(`DepGraph.Json.Denotes.readsAs`); and where a value was read, it is denoted by the tokens that were
taken for it (`DepGraph.Json.splits`). So reading is the same as denoting
(`DepGraph.Json.readWithin_eq_ok_iff`).
-/

namespace DepGraph

namespace Json

/-! ### Texts and their values -/

/-- A value with the tokens that spell it. -/
structure Spelled where
  /-- The tokens. -/
  text : List TokenKind
  /-- The value. -/
  value : Json

/-- Lists of tokens with a comma between two of them. -/
def listed : List (List TokenKind) → List TokenKind
  | [] => []
  | first :: rest => first ++ rest.flatMap (.mark ',' :: ·)

/-- The tokens of a field. -/
def fieldText (field : Text × Spelled) : List TokenKind :=
  .string field.1 :: .mark ':' :: field.2.text

/-- The fields of an object with some more, of which a later one replaces an earlier one of the same
name. -/
def withFields (fields : List (Text × Spelled)) (done : Fields) : Fields :=
  fields.foldl (fun done field => Fields.set done field.1 field.2.value) done

/-- Tokens **denote** a value if they are a JSON text of it, with arrays and objects in it nested at
most this deep. -/
inductive Denotes : Nat → List TokenKind → Json → Prop
  /-- A value that is a single token. -/
  | scalar (depth : Nat) (value : Json) : Denotes depth [.scalar value] value
  /-- A string. -/
  | string (depth : Nat) (t : Text) : Denotes depth [.string t] (.str t)
  /-- An array. -/
  | array {depth : Nat} (items : List Spelled)
    (inner : ∀ item ∈ items, Denotes depth item.text item.value) :
    Denotes (depth + 1) (.mark '[' :: (listed (items.map (·.text)) ++ [.mark ']']))
      (.arr (items.map (·.value)))
  /-- An object. -/
  | object {depth : Nat} (fields : List (Text × Spelled))
    (inner : ∀ field ∈ fields, Denotes depth field.2.text field.2.value) :
    Denotes (depth + 1) (.mark '\x7b' :: (listed (fields.map fieldText) ++ [.mark '\x7d']))
      (.obj (withFields fields []))

/-- What a text starts with: it is no mark that closes or divides. -/
def Opens : TokenKind → Prop
  | .scalar _ | .string _ => True
  | .mark c => c = '[' ∨ c = '\x7b'
  | .faulty _ => False

variable {limit stop depth : Nat} {frames : List Frame} {done : Fields} {v w : Json}
variable {kind : TokenKind} {text : List TokenKind} {token : Token} {tokens rest : List Token}
variable {expected : Expected} {state : Expected × List Frame}

/-- A text starts with a token that opens it. -/
theorem Denotes.exists_cons (h : Denotes depth text v) :
    ∃ first more, text = first :: more ∧ Opens first := by
  cases h with
  | scalar => exact ⟨_, _, rfl, trivial⟩
  | string => exact ⟨_, _, rfl, trivial⟩
  | array => exact ⟨_, _, rfl, Or.inl rfl⟩
  | object => exact ⟨_, _, rfl, Or.inr rfl⟩

/-- The kinds of tokens. -/
def kinds (tokens : List Token) : List TokenKind := tokens.map (·.kind)

@[simp] theorem kinds_nil : kinds [] = [] := rfl

@[simp] theorem kinds_cons (token : Token) (tokens : List Token) :
    kinds (token :: tokens) = token.kind :: kinds tokens := rfl

@[simp] theorem kinds_append (tokens rest : List Token) :
    kinds (tokens ++ rest) = kinds tokens ++ kinds rest :=
  List.map_append

/-- Tokens whose kinds are between two others are themselves between two others. -/
theorem exists_of_bracketed {first last : TokenKind}
    (spelled : kinds tokens = first :: (text ++ [last])) :
    ∃ opening inner closing, tokens = opening :: (inner ++ [closing]) ∧ opening.kind = first ∧
      kinds inner = text ∧ closing.kind = last := by
  obtain ⟨opening, tokens, rfl, isFirst, spelled⟩ := List.map_eq_cons_iff.mp spelled
  obtain ⟨inner, tokens, rfl, inside, spelled⟩ := List.map_eq_append_iff.mp spelled
  obtain ⟨closing, rfl, isLast⟩ := List.map_eq_singleton_iff.mp spelled
  exact ⟨opening, inner, closing, rfl, isFirst, inside, isLast⟩

/-! ### The steps of the reader -/

/-- Reads on from a state. -/
def readOn (limit stop : Nat) (state : Expected × List Frame) (tokens : List Token) :
    Except Refusal Json :=
  readFrom limit stop state.1 state.2 tokens

/-- Reading is done where nothing more is expected. -/
theorem readFrom_nil_eq_ok_iff : readFrom limit stop expected frames [] = .ok v ↔
    expected = .finish v := by
  cases expected <;> simp [readFrom]

/-- Reading takes one step, and goes on from there. -/
theorem readFrom_cons (token : Token) (tokens : List Token) :
    readFrom limit stop expected frames (token :: tokens) =
      step limit expected frames token >>= fun state => readOn limit stop state tokens := by
  rw [readFrom]
  cases step limit expected frames token <;> rfl

/-- What was read was read step by step. -/
theorem readFrom_cons_eq_ok_iff :
    readFrom limit stop expected frames (token :: tokens) = .ok v ↔
      ∃ state, step limit expected frames token = .ok state ∧
        readOn limit stop state tokens = .ok v := by
  rw [readFrom_cons]
  cases step limit expected frames token <;> simp [bind, Except.bind]

/-- **How a value begins.** -/
theorem begin_eq_ok_iff : begin limit frames token = .ok state ↔
    (∃ w, token.kind = .scalar w ∧ state = complete w frames) ∨
    (∃ t, token.kind = .string t ∧ state = complete (.str t) frames) ∨
    (token.kind = .mark '[' ∧ frames.length < limit ∧ state = (.firstItem, frames)) ∨
    (token.kind = .mark '\x7b' ∧ frames.length < limit ∧ state = (.firstName, frames)) := by
  unfold begin
  split
  next kind => simp [kind, eq_comm]
  next kind => simp [kind, eq_comm]
  next kind =>
    rcases Nat.lt_or_ge frames.length limit with room | full
    · simp [kind, room, Nat.not_le.mpr room, eq_comm]
    · simp [kind, full, Nat.not_lt.mpr full]
  next kind =>
    rcases Nat.lt_or_ge frames.length limit with room | full
    · simp [kind, room, Nat.not_le.mpr room, eq_comm]
    · simp [kind, full, Nat.not_lt.mpr full]
  next kind => simp_all
  next kind => simp [kind]

/-- What is expected after one more token, told from what was expected before it. -/
theorem step_eq (limit : Nat) (expected : Expected) (frames : List Frame) (token : Token) :
    step limit expected frames token =
      match expected with
      | .value => begin limit frames token
      | .firstItem =>
        match token.kind with
        | .mark ']' => .ok (complete (.arr []) frames)
        | _ => begin limit (.items [] :: frames) token
      | .firstName =>
        match token.kind with
        | .mark '\x7d' => .ok (complete (.obj []) frames)
        | _ => beginName [] frames token
      | .name done => beginName done frames token
      | .colon done name =>
        match token.kind with
        | .mark ':' => .ok (.value, .fields done name :: frames)
        | _ => .error (.malformed .expectedColon token.index)
      | .nextItem done =>
        match token.kind with
        | .mark ']' => .ok (complete (.arr done.reverse) frames)
        | .mark ',' => .ok (.value, .items done :: frames)
        | _ => .error (.malformed .expectedComma token.index)
      | .nextField done =>
        match token.kind with
        | .mark '\x7d' => .ok (complete (.obj done) frames)
        | .mark ',' => .ok (.name done, frames)
        | _ => .error (.malformed .expectedComma token.index)
      | .finish _ => .error (.malformed .extraData token.index) := by
  cases expected <;> (unfold step; split <;> simp_all [Expected.flaw])

/-- Only a string is the name of a field. -/
theorem beginName_eq_ok_iff : beginName done frames token = .ok state ↔
    ∃ t, token.kind = .string t ∧ state = (.colon done t, frames) := by
  unfold beginName
  split <;> simp_all [eq_comm]

theorem step_value : step limit .value frames token = begin limit frames token :=
  step_eq limit .value frames token

theorem step_firstItem : step limit .firstItem frames token = .ok state ↔
    (token.kind = .mark ']' ∧ state = complete (.arr []) frames) ∨
    begin limit (.items [] :: frames) token = .ok state := by
  rw [step_eq]
  dsimp only
  split <;> simp_all [begin, eq_comm]

theorem step_firstName : step limit .firstName frames token = .ok state ↔
    (token.kind = .mark '\x7d' ∧ state = complete (.obj []) frames) ∨
    ∃ t, token.kind = .string t ∧ state = (.colon [] t, frames) := by
  rw [step_eq, ← beginName_eq_ok_iff]
  dsimp only
  split <;> simp_all [beginName, eq_comm]

theorem step_name : step limit (.name done) frames token = .ok state ↔
    ∃ t, token.kind = .string t ∧ state = (.colon done t, frames) := by
  rw [step_eq, ← beginName_eq_ok_iff]

theorem step_colon {name : Text} : step limit (.colon done name) frames token = .ok state ↔
    token.kind = .mark ':' ∧ state = (.value, .fields done name :: frames) := by
  rw [step_eq]
  dsimp only
  split <;> simp_all [eq_comm]

theorem step_nextItem {items : List Json} :
    step limit (.nextItem items) frames token = .ok state ↔
    (token.kind = .mark ']' ∧ state = complete (.arr items.reverse) frames) ∨
    (token.kind = .mark ',' ∧ state = (.value, .items items :: frames)) := by
  rw [step_eq]
  dsimp only
  split <;> simp_all [eq_comm]

theorem step_nextField :
    step limit (.nextField done) frames token = .ok state ↔
    (token.kind = .mark '\x7d' ∧ state = complete (.obj done) frames) ∨
    (token.kind = .mark ',' ∧ state = (.name done, frames)) := by
  rw [step_eq]
  dsimp only
  split <;> simp_all [eq_comm]

theorem step_finish : step limit (.finish v) frames token ≠ .ok state := by
  rw [step_eq]
  nofun

/-! ### Texts are read -/

/-- A step that can be taken is taken. -/
theorem readFrom_cons_of_step (h : step limit expected frames token = .ok state) :
    readFrom limit stop expected frames (token :: tokens) = readOn limit stop state tokens := by
  rw [readFrom_cons, h]
  rfl

/-- Tokens are **read as** a value if, wherever the value is expected, the reader gets past them
with it. -/
def ReadsAs (limit stop depth : Nat) (text : List TokenKind) (v : Json) : Prop :=
  ∀ (frames : List Frame) (tokens rest : List Token), kinds tokens = text →
    frames.length + depth ≤ limit →
      readFrom limit stop .value frames (tokens ++ rest) =
        readOn limit stop (complete v frames) rest

/-- The first item of an array is read as any other value is. -/
theorem readFrom_firstItem (opens : Opens token.kind) :
    readFrom limit stop .firstItem frames (token :: tokens) =
      readFrom limit stop .value (.items [] :: frames) (token :: tokens) := by
  have same : step limit .firstItem frames token =
      step limit .value (.items [] :: frames) token := by
    rw [step_value, step_eq]
    dsimp only
    split <;> simp_all [Opens]
  rw [readFrom_cons, readFrom_cons, same]

/-- The items that follow in an array, each after a comma. -/
theorem readFrom_nextItem {items : List Spelled} {done : List Json} {close : Token}
    (inner : ∀ item ∈ items, ReadsAs limit stop depth item.text item.value)
    (fits : frames.length + 1 + depth ≤ limit)
    (spelled : kinds tokens = items.flatMap fun item => .mark ',' :: item.text)
    (closes : close.kind = .mark ']') :
    readFrom limit stop (.nextItem done) frames (tokens ++ close :: rest) =
      readOn limit stop (complete (.arr (done.reverse ++ items.map (·.value))) frames) rest := by
  induction items generalizing done tokens with
  | nil =>
    obtain rfl : tokens = [] := List.map_eq_nil_iff.mp spelled
    rw [List.nil_append, readFrom_cons_of_step (step_nextItem.mpr (Or.inl ⟨closes, rfl⟩))]
    simp
  | cons item items ih =>
    obtain ⟨first, others⟩ := List.forall_mem_cons.mp inner
    rw [List.flatMap_cons, List.cons_append] at spelled
    obtain ⟨comma, more, rfl, isComma, spelled⟩ := List.map_eq_cons_iff.mp spelled
    obtain ⟨own, more, rfl, ofItem, spelled⟩ := List.map_eq_append_iff.mp spelled
    rw [List.cons_append, List.append_assoc,
      readFrom_cons_of_step (step_nextItem.mpr (Or.inr ⟨isComma, rfl⟩)), readOn,
      first _ _ _ ofItem (by simpa using fits)]
    refine (ih others spelled).trans ?_
    simp

/-- The fields that follow in an object, each after a comma. -/
theorem readFrom_nextField {fields : List (Text × Spelled)} {done : Fields} {close : Token}
    (inner : ∀ field ∈ fields, ReadsAs limit stop depth field.2.text field.2.value)
    (fits : frames.length + 1 + depth ≤ limit)
    (spelled : kinds tokens = fields.flatMap fun field => .mark ',' :: fieldText field)
    (closes : close.kind = .mark '\x7d') :
    readFrom limit stop (.nextField done) frames (tokens ++ close :: rest) =
      readOn limit stop (complete (.obj (withFields fields done)) frames) rest := by
  induction fields generalizing done tokens with
  | nil =>
    obtain rfl : tokens = [] := List.map_eq_nil_iff.mp spelled
    rw [List.nil_append, readFrom_cons_of_step (step_nextField.mpr (Or.inl ⟨closes, rfl⟩))]
    rfl
  | cons field fields ih =>
    obtain ⟨first, others⟩ := List.forall_mem_cons.mp inner
    rw [List.flatMap_cons, List.cons_append] at spelled
    obtain ⟨comma, more, rfl, isComma, spelled⟩ := List.map_eq_cons_iff.mp spelled
    rw [fieldText, List.cons_append, List.cons_append] at spelled
    obtain ⟨name, more, rfl, isName, spelled⟩ := List.map_eq_cons_iff.mp spelled
    obtain ⟨colon, more, rfl, isColon, spelled⟩ := List.map_eq_cons_iff.mp spelled
    obtain ⟨own, more, rfl, ofField, spelled⟩ := List.map_eq_append_iff.mp spelled
    rw [List.cons_append, List.cons_append, List.cons_append, List.append_assoc,
      readFrom_cons_of_step (step_nextField.mpr (Or.inr ⟨isComma, rfl⟩)), readOn,
      readFrom_cons_of_step (step_name.mpr ⟨field.1, isName, rfl⟩), readOn,
      readFrom_cons_of_step (step_colon.mpr ⟨isColon, rfl⟩), readOn,
      first _ _ _ ofField (by simpa using fits)]
    exact ih others spelled

/-- **A text is read as the value that it denotes.** -/
theorem Denotes.readsAs (h : Denotes depth text v) : ReadsAs limit stop depth text v := by
  induction h with
  | scalar depth value =>
    intro frames tokens rest spelled fits
    obtain ⟨token, rfl, kind⟩ := List.map_eq_singleton_iff.mp spelled
    exact readFrom_cons_of_step
      (step_value.trans (begin_eq_ok_iff.mpr (Or.inl ⟨value, kind, rfl⟩)))
  | string depth t =>
    intro frames tokens rest spelled fits
    obtain ⟨token, rfl, kind⟩ := List.map_eq_singleton_iff.mp spelled
    exact readFrom_cons_of_step
      (step_value.trans (begin_eq_ok_iff.mpr (Or.inr (Or.inl ⟨t, kind, rfl⟩))))
  | @array depth items inner ih =>
    intro frames tokens rest spelled fits
    obtain ⟨bracket, tokens, close, rfl, opens, inside, closes⟩ := exists_of_bracketed spelled
    have opened : step limit .value frames bracket = .ok (.firstItem, frames) :=
      step_value.trans
        (begin_eq_ok_iff.mpr (Or.inr (Or.inr (Or.inl ⟨opens, by omega, rfl⟩))))
    have room : frames.length + 1 + depth ≤ limit := by omega
    rw [List.cons_append, readFrom_cons_of_step opened, readOn, List.append_assoc,
      List.singleton_append]
    cases items with
    | nil =>
      obtain rfl : tokens = [] := List.map_eq_nil_iff.mp inside
      exact readFrom_cons_of_step (step_firstItem.mpr (Or.inl ⟨closes, rfl⟩))
    | cons item items =>
      obtain ⟨first, others⟩ := List.forall_mem_cons.mp ih
      rw [List.map_cons, listed, List.flatMap_map] at inside
      obtain ⟨own, more, rfl, ofItem, following⟩ := List.map_eq_append_iff.mp inside
      -- the first token of an item is not the closing bracket
      obtain ⟨kind, text, spelling, starts⟩ := (inner item List.mem_cons_self).exists_cons
      obtain ⟨token, own, rfl, rfl, -⟩ := List.map_eq_cons_iff.mp (ofItem.trans spelling)
      rw [List.append_assoc, List.cons_append, readFrom_firstItem starts, ← List.cons_append,
        first (.items [] :: frames) (token :: own) (more ++ close :: rest) ofItem room]
      exact readFrom_nextItem others room following closes
  | @object depth fields inner ih =>
    intro frames tokens rest spelled fits
    obtain ⟨brace, tokens, close, rfl, opens, inside, closes⟩ := exists_of_bracketed spelled
    have opened : step limit .value frames brace = .ok (.firstName, frames) :=
      step_value.trans
        (begin_eq_ok_iff.mpr (Or.inr (Or.inr (Or.inr ⟨opens, by omega, rfl⟩))))
    have room : frames.length + 1 + depth ≤ limit := by omega
    rw [List.cons_append, readFrom_cons_of_step opened, readOn, List.append_assoc,
      List.singleton_append]
    cases fields with
    | nil =>
      obtain rfl : tokens = [] := List.map_eq_nil_iff.mp inside
      exact readFrom_cons_of_step (step_firstName.mpr (Or.inl ⟨closes, rfl⟩))
    | cons field fields =>
      obtain ⟨first, others⟩ := List.forall_mem_cons.mp ih
      rw [List.map_cons, listed, List.flatMap_map, fieldText, List.cons_append,
        List.cons_append] at inside
      obtain ⟨name, tokens, rfl, isName, inside⟩ := List.map_eq_cons_iff.mp inside
      obtain ⟨colon, tokens, rfl, isColon, inside⟩ := List.map_eq_cons_iff.mp inside
      obtain ⟨own, more, rfl, ofField, following⟩ := List.map_eq_append_iff.mp inside
      rw [List.cons_append, List.cons_append, List.append_assoc,
        readFrom_cons_of_step (step_firstName.mpr (Or.inr ⟨field.1, isName, rfl⟩)), readOn,
        readFrom_cons_of_step (step_colon.mpr ⟨isColon, rfl⟩), readOn,
        first (.fields [] field.1 :: frames) own (more ++ close :: rest) ofField room]
      exact readFrom_nextField others room following closes

end Json

end DepGraph
