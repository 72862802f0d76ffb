import DepGraph.Proofs.Json.Grammar

/-!
# What is read

The reader takes what denotes a value, and nothing else: where a value is read, the tokens that are
taken for it denote it, and the reader goes on with the others (`DepGraph.Json.splits`). So a text
is read as a value if and only if it denotes this value and is not nested more deeply than the
reader allows (`DepGraph.Json.readWithin_eq_ok_iff`).

How deeply a text is nested is found out on the way, before it is known whether it is a text at all.
The reader gives up at the first bracket that is too deep, and so its tokens up to there start a
text, but none that is nested less deeply (`DepGraph.Json.OverNested`). This is the only reason to
give up for (`DepGraph.Json.readWithin_eq_tooDeep_iff`).
-/

namespace DepGraph

namespace Json

variable {limit stop depth : Nat} {frames : List Frame} {done : Fields} {v : Json}
variable {text : List TokenKind} {token : Token} {tokens rest : List Token}
variable {expected : Expected} {state : Expected × List Frame}

/-! ### What is read denotes -/

/-- Tokens **split** if, wherever a value is expected and they are read, some of them, the first
ones, denote that value, and the reader goes on with the others. -/
def Splits (limit stop : Nat) (tokens : List Token) : Prop :=
  ∀ frames v, readFrom limit stop .value frames tokens = .ok v →
    ∃ own rest w, tokens = own ++ rest ∧ Denotes (limit - frames.length) (kinds own) w ∧
      readOn limit stop (complete w frames) rest = .ok v

section Parts

/- The parts of an array or object are fewer tokens than the whole, and these are known to split. -/
variable {n : Nat} (values : ∀ tokens : List Token, tokens.length < n → Splits limit stop tokens)
include values

/-- What comes after an item of an array: more items, each after a comma, and the bracket. -/
theorem exists_items (few : tokens.length ≤ n) {items : List Json}
    (h : readFrom limit stop (.nextItem items) frames tokens = .ok v) :
    ∃ (more : List Spelled) (own : List Token) (close : Token) (rest : List Token),
      tokens = own ++ close :: rest ∧ close.kind = .mark ']' ∧
      kinds own = more.flatMap (fun item => .mark ',' :: item.text) ∧
      (∀ item ∈ more, Denotes (limit - (frames.length + 1)) item.text item.value) ∧
      readOn limit stop (complete (.arr (items.reverse ++ more.map (·.value))) frames) rest =
        .ok v := by
  induction size : tokens.length using Nat.strongRecOn generalizing tokens items with
  | ind m ih =>
    cases tokens with
    | nil => simp [readFrom_nil_eq_ok_iff] at h
    | cons token tokens =>
      rw [List.length_cons] at few size
      obtain ⟨state, stepped, h⟩ := readFrom_cons_eq_ok_iff.mp h
      rcases step_nextItem.mp stepped with ⟨closes, rfl⟩ | ⟨divides, rfl⟩
      · exact ⟨[], [], token, tokens, rfl, closes, rfl, by simp, by simpa using h⟩
      · obtain ⟨own, rest, w, rfl, denotes, h⟩ :=
          values tokens (by omega) (.items items :: frames) v h
        rw [List.length_append] at few size
        obtain ⟨more, others, close, rest, rfl, closes, spelled, inner, h⟩ :=
          ih rest.length (by omega) (by omega) h rfl
        refine ⟨⟨kinds own, w⟩ :: more, token :: (own ++ others), close, rest, by simp, closes, ?_,
          List.forall_mem_cons.mpr ⟨denotes, inner⟩, by simpa using h⟩
        simpa [divides] using spelled

/-- What comes after the name of a field: a colon and the value. -/
theorem exists_field (few : tokens.length ≤ n) {name : Text}
    (h : readFrom limit stop (.colon done name) frames tokens = .ok v) :
    ∃ (colon : Token) (own rest : List Token) (w : Json),
      tokens = colon :: (own ++ rest) ∧ colon.kind = .mark ':' ∧
      Denotes (limit - (frames.length + 1)) (kinds own) w ∧
      readFrom limit stop (.nextField (Fields.set done name w)) frames rest = .ok v := by
  cases tokens with
  | nil => simp [readFrom_nil_eq_ok_iff] at h
  | cons colon tokens =>
    rw [List.length_cons] at few
    obtain ⟨state, stepped, h⟩ := readFrom_cons_eq_ok_iff.mp h
    obtain ⟨isColon, rfl⟩ := step_colon.mp stepped
    obtain ⟨own, rest, w, rfl, denotes, h⟩ :=
      values tokens (by omega) (.fields done name :: frames) v h
    exact ⟨colon, own, rest, w, rfl, isColon, denotes, h⟩

/-- What comes after a field of an object: more fields, each after a comma, and the brace. -/
theorem exists_fields (few : tokens.length ≤ n)
    (h : readFrom limit stop (.nextField done) frames tokens = .ok v) :
    ∃ (more : List (Text × Spelled)) (own : List Token) (close : Token) (rest : List Token),
      tokens = own ++ close :: rest ∧ close.kind = .mark '\x7d' ∧
      kinds own = more.flatMap (fun field => .mark ',' :: fieldText field) ∧
      (∀ field ∈ more, Denotes (limit - (frames.length + 1)) field.2.text field.2.value) ∧
      readOn limit stop (complete (.obj (withFields more done)) frames) rest = .ok v := by
  induction size : tokens.length using Nat.strongRecOn generalizing tokens done with
  | ind m ih =>
    cases tokens with
    | nil => simp [readFrom_nil_eq_ok_iff] at h
    | cons token tokens =>
      rw [List.length_cons] at few size
      obtain ⟨state, stepped, h⟩ := readFrom_cons_eq_ok_iff.mp h
      rcases step_nextField.mp stepped with ⟨closes, rfl⟩ | ⟨divides, rfl⟩
      · exact ⟨[], [], token, tokens, rfl, closes, rfl, by simp, h⟩
      · cases tokens with
        | nil => simp [readOn, readFrom_nil_eq_ok_iff] at h
        | cons named tokens =>
          rw [List.length_cons] at few size
          obtain ⟨state, stepped, h⟩ := readFrom_cons_eq_ok_iff.mp h
          obtain ⟨name, isName, rfl⟩ := step_name.mp stepped
          obtain ⟨colon, own, rest, w, rfl, isColon, denotes, h⟩ :=
            exists_field values (by omega) h
          rw [List.length_cons, List.length_append] at few size
          obtain ⟨more, others, close, rest, rfl, closes, spelled, inner, h⟩ :=
            ih rest.length (by omega) (by omega) h rfl
          refine ⟨(name, ⟨kinds own, w⟩) :: more, token :: named :: colon :: (own ++ others), close,
            rest, by simp, closes, ?_, List.forall_mem_cons.mpr ⟨denotes, inner⟩, h⟩
          simpa [divides, isName, isColon, fieldText] using spelled

/-- What comes after the bracket that opens an array: its items and the bracket that closes it. -/
theorem exists_array (few : tokens.length < n)
    (h : readFrom limit stop .firstItem frames tokens = .ok v) :
    ∃ (items : List Spelled) (own : List Token) (close : Token) (rest : List Token),
      tokens = own ++ close :: rest ∧ close.kind = .mark ']' ∧
      kinds own = listed (items.map (·.text)) ∧
      (∀ item ∈ items, Denotes (limit - (frames.length + 1)) item.text item.value) ∧
      readOn limit stop (complete (.arr (items.map (·.value))) frames) rest = .ok v := by
  cases tokens with
  | nil => simp [readFrom_nil_eq_ok_iff] at h
  | cons token tokens =>
    obtain ⟨state, stepped, h⟩ := readFrom_cons_eq_ok_iff.mp h
    rcases step_firstItem.mp stepped with ⟨closes, rfl⟩ | begun
    · exact ⟨[], [], token, tokens, rfl, closes, rfl, by simp, h⟩
    · have first : readFrom limit stop .value (.items [] :: frames) (token :: tokens) = .ok v :=
        readFrom_cons_eq_ok_iff.mpr ⟨state, step_value.trans begun, h⟩
      obtain ⟨own, rest, w, spelled, denotes, h⟩ := values _ few _ v first
      rw [spelled, List.length_append] at few
      obtain ⟨more, others, close, rest, rfl, closes, following, inner, h⟩ :=
        exists_items values (by omega) h
      refine ⟨⟨kinds own, w⟩ :: more, own ++ others, close, rest, by simpa using spelled, closes,
        ?_, List.forall_mem_cons.mpr ⟨denotes, inner⟩, h⟩
      simp [listed, following, List.flatMap_map]

/-- What comes after the brace that opens an object: its fields and the brace that closes it. -/
theorem exists_object (few : tokens.length ≤ n)
    (h : readFrom limit stop .firstName frames tokens = .ok v) :
    ∃ (fields : List (Text × Spelled)) (own : List Token) (close : Token) (rest : List Token),
      tokens = own ++ close :: rest ∧ close.kind = .mark '\x7d' ∧
      kinds own = listed (fields.map fieldText) ∧
      (∀ field ∈ fields, Denotes (limit - (frames.length + 1)) field.2.text field.2.value) ∧
      readOn limit stop (complete (.obj (withFields fields [])) frames) rest = .ok v := by
  cases tokens with
  | nil => simp [readFrom_nil_eq_ok_iff] at h
  | cons token tokens =>
    rw [List.length_cons] at few
    obtain ⟨state, stepped, h⟩ := readFrom_cons_eq_ok_iff.mp h
    rcases step_firstName.mp stepped with ⟨closes, rfl⟩ | ⟨name, isName, rfl⟩
    · exact ⟨[], [], token, tokens, rfl, closes, rfl, by simp, h⟩
    · obtain ⟨colon, own, rest, w, rfl, isColon, denotes, h⟩ := exists_field values (by omega) h
      rw [List.length_cons, List.length_append] at few
      obtain ⟨more, others, close, rest, rfl, closes, following, inner, h⟩ :=
        exists_fields values (by omega) h
      refine ⟨(name, ⟨kinds own, w⟩) :: more, token :: colon :: (own ++ others), close, rest,
        by simp, closes, ?_, List.forall_mem_cons.mpr ⟨denotes, inner⟩, h⟩
      simp [listed, fieldText, isName, isColon, following, List.flatMap_map]

end Parts

/-- **Whatever is read splits**: the tokens that are taken for a value denote it. -/
theorem splits (limit stop : Nat) (tokens : List Token) : Splits limit stop tokens := by
  -- on the number of tokens: values in an array or object are read after a token of its own
  induction size : tokens.length using Nat.strongRecOn generalizing tokens with
  | ind n ih =>
    intro frames v h
    cases tokens with
    | nil => simp [readFrom_nil_eq_ok_iff] at h
    | cons token tokens =>
      rw [List.length_cons] at size
      have values (shorter : List Token) (less : shorter.length < n) : Splits limit stop shorter :=
        ih shorter.length less shorter rfl
      obtain ⟨state, stepped, h⟩ := readFrom_cons_eq_ok_iff.mp h
      rw [step_value] at stepped
      rcases begin_eq_ok_iff.mp stepped with ⟨w, kind, rfl⟩ | ⟨t, kind, rfl⟩ |
        ⟨kind, room, rfl⟩ | ⟨kind, room, rfl⟩
      · exact ⟨[token], tokens, w, rfl, by simpa [kind] using .scalar _ w, h⟩
      · exact ⟨[token], tokens, .str t, rfl, by simpa [kind] using .string _ t, h⟩
      · obtain ⟨items, own, close, rest, rfl, closes, spelled, inner, h⟩ :=
          exists_array values (by omega) h
        refine ⟨token :: (own ++ [close]), rest, _, by simp, ?_, h⟩
        rw [show limit - frames.length = limit - (frames.length + 1) + 1 by omega]
        simpa [kind, closes, spelled] using Denotes.array items inner
      · obtain ⟨fields, own, close, rest, rfl, closes, spelled, inner, h⟩ :=
          exists_object values (by omega) h
        refine ⟨token :: (own ++ [close]), rest, _, by simp, ?_, h⟩
        rw [show limit - frames.length = limit - (frames.length + 1) + 1 by omega]
        simpa [kind, closes, spelled] using Denotes.object fields inner

/-- **The tokens of a text are read as the value that they denote**, and as no other. -/
theorem readFrom_value_eq_ok_iff (stop : Nat) :
    readFrom limit stop .value [] tokens = .ok v ↔ Denotes limit (kinds tokens) v := by
  refine ⟨fun h => ?_, fun h => ?_⟩
  · obtain ⟨own, rest, w, rfl, denotes, h⟩ := splits limit stop tokens [] v h
    cases rest with
    | nil =>
      obtain rfl : w = v := Expected.finish.inj (readFrom_nil_eq_ok_iff.mp h)
      simpa using denotes
    | cons token rest =>
      -- nothing may follow the value of the text
      obtain ⟨state, stepped, -⟩ := readFrom_cons_eq_ok_iff.mp h
      exact absurd stepped step_finish
  · have read : readFrom limit stop .value [] (tokens ++ []) =
        readOn limit stop (.finish v, []) [] :=
      h.readsAs [] tokens [] rfl (by simp)
    rw [List.append_nil] at read
    exact read.trans (readFrom_nil_eq_ok_iff.mpr rfl)

/-! ### Texts with a byte order mark -/

/-- A byte order mark starts no token. -/
theorem tokenAt_byteOrderMark (index : Nat) (cs : List Char) :
    (tokenAt index (Char.ofNat 0xFEFF :: cs)).1 = .faulty (.malformed .expectedValue index) := by
  have word : (words.find? fun w => w.1.isPrefixOf (Char.ofNat 0xFEFF :: cs)) = none := by
    simp [words]
  have number : number? (Char.ofNat 0xFEFF :: cs) = none := by
    have whole : wholePart (Char.ofNat 0xFEFF :: cs) = [] := by simp [wholePart]
    rw [number?]
    · simp [whole]
    · simp
  simp [tokenAt, isMark, word, number]

/-- A text that starts with a byte order mark has no value. -/
theorem readFrom_byteOrderMark {cs : List Char} (mark : cs.head? = some (Char.ofNat 0xFEFF)) :
    readFrom limit stop .value [] (Json.tokens cs) = .error (.malformed .expectedValue 0) := by
  obtain ⟨cs, rfl⟩ := List.head?_eq_some_iff.mp mark
  have plain : isSpace (Char.ofNat 0xFEFF) = false := by decide
  simp only [Json.tokens, tokensFrom, plain, readFrom, step_value, begin, tokenAt_byteOrderMark,
    Bool.false_eq_true, if_false]

/-- **A text is read as the value that its tokens denote**, and as no other. -/
theorem readWithin_eq_ok_iff {cs : List Char} :
    readWithin limit cs = .ok v ↔ Denotes limit (kinds (Json.tokens cs)) v := by
  rw [readWithin, ← readFrom_value_eq_ok_iff cs.length]
  split
  next mark => simp [readFrom_byteOrderMark mark]
  next => rfl

end Json

end DepGraph
