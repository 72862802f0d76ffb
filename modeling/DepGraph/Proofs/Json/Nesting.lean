import DepGraph.Proofs.Json.Reading

/-!
# Texts that are nested too deeply

A reader with a limit finds out how deeply a text is nested on its way, before it can know whether
it is a text at all. It gives up at the first bracket that is too deep: its tokens up to there start
a text, but none that is nested less deeply (`DepGraph.Json.OverNested`). There is no other reason
to give up, so a reader does it exactly on these texts
(`DepGraph.Json.readWithin_eq_tooDeep_iff`), and it reads exactly the other ones, if they denote a
value at all (`DepGraph.Json.denotes_iff`).

## Why the start of a text is enough

Wherever the reader has got to, there is a way to complete the text
(`DepGraph.Json.exists_completion`): a value is completed by `null`, and what is open can be closed.
So the tokens that the reader has gone through are exactly those that start a text
(`DepGraph.Json.begins_iff`), and the reader with the higher limit goes the same way as the other,
unless that one gives up (`DepGraph.Json.go_of_le`, `DepGraph.Json.go_eq_or_tooDeep`).
-/

namespace DepGraph

namespace Json

variable {limit stop depth : Nat} {frames : List Frame} {v : Json}
variable {token : Token} {tokens rest : List Token} {text : List TokenKind}
variable {expected : Expected} {state next : Expected × List Frame} {done : Fields}

/-! ### Faults of tokens -/

/-- A fault of a token never is that something is nested too deeply. -/
def Token.IsFlat (token : Token) : Prop := token.kind ≠ .faulty .tooDeep

theorem codePointAt_ne_tooDeep {index : Nat} {cs : List Char} {refusal : Refusal}
    (h : codePointAt index cs = .error refusal) : refusal ≠ .tooDeep := by
  unfold codePointAt at h
  repeat' split at h
  all_goals cases h <;> simp

theorem stringFrom_ne_tooDeep (start index skip : Nat) (acc : Text) (cs : List Char) :
    stringFrom start index skip acc cs ≠ .error .tooDeep := by
  fun_induction stringFrom start index skip acc cs
  case case5 fault => simpa using codePointAt_ne_tooDeep fault
  case case7 fault _ => simpa using codePointAt_ne_tooDeep fault
  all_goals simp_all

theorem number?_ne_tooDeep (cs : List Char) (covered : Nat) :
    number? cs ≠ some (.faulty .tooDeep, covered) := by
  unfold number?
  split
  extract_lets sign
  split
  · simp
  extract_lets rest fraction point
  split
  extract_lets power
  by_cases isWhole : (point == 0 && power == 0) = true
  · rw [if_pos isWhole]
    split <;> simp
  · rw [if_neg isWhole]
    simp

theorem tokenAt_ne_tooDeep (index : Nat) (cs : List Char) :
    (tokenAt index cs).1 ≠ .faulty .tooDeep := by
  unfold tokenAt
  split
  next => simp
  next c rest =>
    split
    · simp
    split
    · split
      next => simp
      next refusal fault =>
        rintro ⟨⟩
        exact stringFrom_ne_tooDeep _ _ _ _ _ fault
    split
    next => simp
    next =>
      intro h
      cases found : number? (c :: rest) with
      | none => simp [found] at h
      | some answer =>
        obtain ⟨kind, covered⟩ := answer
        obtain rfl : kind = .faulty .tooDeep := by simpa [found] using h
        exact number?_ne_tooDeep _ _ found

/-- The tokens of a text are flat. -/
theorem isFlat_of_mem_tokensFrom {index skip : Nat} {cs : List Char}
    (h : token ∈ tokensFrom index skip cs) : token.IsFlat := by
  fun_induction tokensFrom index skip cs with
  | case1 => cases h
  | case2 _ _ _ _ ih => exact ih h
  | case3 _ _ _ _ ih => exact ih h
  | case4 index c cs _ kind covered found ih =>
    rcases List.mem_cons.mp h with rfl | h
    · have own := tokenAt_ne_tooDeep index (c :: cs)
      rwa [found] at own
    · exact ih h

/-! ### One step at two limits -/

theorem beginName_ne_tooDeep (flat : token.IsFlat) :
    beginName done frames token ≠ .error .tooDeep := by
  unfold beginName
  split
  case h_4 refusal _ _ fault =>
    rintro ⟨⟩
    exact flat fault
  all_goals simp

/-- A step **either begins a value** inside some frames, **or has nothing to do with the limit**. -/
theorem step_begins_or (expected : Expected) (frames : List Frame) (token : Token) :
    (∃ around, ∀ limit, step limit expected frames token = begin limit around token) ∨
    ∃ result, (∀ limit, step limit expected frames token = result) ∧
      (token.IsFlat → result ≠ .error .tooDeep) := by
  unfold step
  split
  -- a value is expected, or the first item of an array, or the first or next name of an object
  next => exact Or.inl ⟨_, fun _ => rfl⟩
  next => exact Or.inr ⟨_, fun _ => rfl, by simp⟩
  next => exact Or.inl ⟨_, fun _ => rfl⟩
  next => exact Or.inr ⟨_, fun _ => rfl, by simp⟩
  next => exact Or.inr ⟨_, fun _ => rfl, beginName_ne_tooDeep⟩
  next => exact Or.inr ⟨_, fun _ => rfl, beginName_ne_tooDeep⟩
  all_goals exact Or.inr ⟨_, fun _ => rfl, by simp⟩

/-- A value is too deep if a bracket opens it where no more are allowed. -/
theorem begin_eq_tooDeep_iff (flat : token.IsFlat) : begin limit frames token = .error .tooDeep ↔
    (token.kind = .mark '[' ∨ token.kind = .mark '\x7b') ∧ limit ≤ frames.length := by
  unfold begin
  split
  next kind => simp [kind]
  next kind => simp [kind]
  next kind => simp [kind]
  next kind => simp [kind]
  next => simp_all
  next refusal kind =>
    have : refusal ≠ .tooDeep := fun deep => flat (deep ▸ kind)
    simp [kind, this]

/-- A step that can be taken can be taken where more is allowed. -/
theorem step_of_le (more : limit ≤ depth) (h : step limit expected frames token = .ok state) :
    step depth expected frames token = .ok state := by
  rcases step_begins_or expected frames token with ⟨around, begins⟩ | ⟨result, same, -⟩
  · rw [begins] at h ⊢
    refine begin_eq_ok_iff.mpr ((begin_eq_ok_iff.mp h).imp_right (Or.imp_right ?_))
    rintro (⟨kind, room, rfl⟩ | ⟨kind, room, rfl⟩)
    · exact Or.inl ⟨kind, by omega, rfl⟩
    · exact Or.inr ⟨kind, by omega, rfl⟩
  · rw [same] at h ⊢
    exact h

/-- A step that can be taken at one limit is taken, or is too deep, at any other. -/
theorem step_eq_or_tooDeep (limit : Nat) (h : step depth expected frames token = .ok state) :
    step limit expected frames token = .ok state ∨
      step limit expected frames token = .error .tooDeep := by
  rcases step_begins_or expected frames token with ⟨around, begins⟩ | ⟨result, same, -⟩
  · rw [begins] at h ⊢
    rcases begin_eq_ok_iff.mp h with h | h | ⟨kind, room, rfl⟩ | ⟨kind, room, rfl⟩
    · exact Or.inl (begin_eq_ok_iff.mpr (Or.inl h))
    · exact Or.inl (begin_eq_ok_iff.mpr (Or.inr (Or.inl h)))
    · simp only [begin, kind]
      split <;> simp
    · simp only [begin, kind]
      split <;> simp
  · rw [same] at h ⊢
    exact Or.inl h

/-- A step that is too deep can be taken at a higher limit. -/
theorem exists_step_of_tooDeep (flat : token.IsFlat)
    (h : step limit expected frames token = .error .tooDeep) :
    ∃ depth state, limit ≤ depth ∧ step depth expected frames token = .ok state := by
  rcases step_begins_or expected frames token with ⟨around, begins⟩ | ⟨result, same, shallow⟩
  · rw [begins] at h
    obtain ⟨kind | kind, full⟩ := (begin_eq_tooDeep_iff flat).mp h
    · exact ⟨around.length + 1, (.firstItem, around), by omega, (begins _).trans
        (begin_eq_ok_iff.mpr (Or.inr (Or.inr (Or.inl ⟨kind, by omega, rfl⟩))))⟩
    · exact ⟨around.length + 1, (.firstName, around), by omega, (begins _).trans
        (begin_eq_ok_iff.mpr (Or.inr (Or.inr (Or.inr ⟨kind, by omega, rfl⟩))))⟩
  · rw [same] at h
    exact absurd h (shallow flat)

/-! ### Going through tokens -/

/-- **Goes** through tokens, from one state to the next. -/
def go (limit : Nat) (state : Expected × List Frame) (tokens : List Token) :
    Except Refusal (Expected × List Frame) :=
  tokens.foldlM (fun state token => step limit state.1 state.2 token) state

theorem go_cons : go limit state (token :: tokens) =
    step limit state.1 state.2 token >>= fun state => go limit state tokens :=
  List.foldlM_cons

theorem go_append : go limit state (tokens ++ rest) =
    go limit state tokens >>= fun state => go limit state rest :=
  List.foldlM_append

/-- Reading some tokens and more is going through those and reading on. -/
theorem readFrom_append : readFrom limit stop expected frames (tokens ++ rest) =
    go limit (expected, frames) tokens >>= fun state => readOn limit stop state rest := by
  induction tokens generalizing expected frames with
  | nil => rfl
  | cons token tokens ih =>
    rw [List.cons_append, readFrom_cons, go_cons, bind_assoc]
    exact bind_congr fun state => ih

/-- Reading tokens is going through them and finding nothing more. -/
theorem readFrom_eq_go : readFrom limit stop expected frames tokens =
    go limit (expected, frames) tokens >>= fun state => readOn limit stop state [] := by
  rw [← readFrom_append, List.append_nil]

/-- Where it can be gone, it can be gone if more is allowed. -/
theorem go_of_le (more : limit ≤ depth) (h : go limit state tokens = .ok next) :
    go depth state tokens = .ok next := by
  induction tokens generalizing state with
  | nil => exact h
  | cons token tokens ih =>
    rw [go_cons] at h ⊢
    cases stepped : step limit state.1 state.2 token with
    | error refusal => rw [stepped] at h; cases h
    | ok state =>
      rw [stepped] at h
      rw [step_of_le more stepped]
      exact ih h

/-- Where it can be gone at one limit, it is gone, or it is too deep, at any other. -/
theorem go_eq_or_tooDeep (limit : Nat) (h : go depth state tokens = .ok next) :
    go limit state tokens = .ok next ∨ go limit state tokens = .error .tooDeep := by
  induction tokens generalizing state with
  | nil => exact Or.inl h
  | cons token tokens ih =>
    rw [go_cons] at h ⊢
    cases stepped : step depth state.1 state.2 token with
    | error refusal => rw [stepped] at h; cases h
    | ok state =>
      rw [stepped] at h
      rcases step_eq_or_tooDeep limit stepped with same | deep
      · rw [same]
        exact ih h
      · rw [deep]
        exact Or.inr rfl

/-- Where it is too deep, it is so after some of the tokens, at one of them. -/
theorem exists_of_go_eq_tooDeep (h : go limit state tokens = .error .tooDeep) :
    ∃ front token rest middle, tokens = front ++ token :: rest ∧
      go limit state front = .ok middle ∧
      step limit middle.1 middle.2 token = .error .tooDeep := by
  induction tokens generalizing state with
  | nil => cases h
  | cons token tokens ih =>
    rw [go_cons] at h
    cases stepped : step limit state.1 state.2 token with
    | error refusal =>
      rw [stepped] at h
      obtain rfl : refusal = .tooDeep := Except.error.inj h
      exact ⟨[], token, tokens, state, rfl, rfl, stepped⟩
    | ok middle =>
      rw [stepped] at h
      obtain ⟨front, token', rest, middle, rfl, gone, deep⟩ := ih h
      refine ⟨token :: front, token', rest, middle, rfl, ?_, deep⟩
      rw [go_cons, stepped]
      exact gone

/-! ### Starts of texts -/

/-- What is open can be closed. -/
theorem exists_closing (limit stop : Nat) (frames : List Frame) (v : Json) :
    ∃ rest w, readOn limit stop (complete v frames) rest = .ok w := by
  induction frames generalizing v with
  | nil => exact ⟨[], v, rfl⟩
  | cons frame frames ih =>
    cases frame with
    | items done =>
      obtain ⟨rest, w, h⟩ := ih (.arr (v :: done).reverse)
      exact ⟨⟨0, .mark ']'⟩ :: rest, w, h⟩
    | fields done name =>
      obtain ⟨rest, w, h⟩ := ih (.obj (Fields.set done name v))
      exact ⟨⟨0, .mark '\x7d'⟩ :: rest, w, h⟩

/-- **Wherever the reader has got to, the text can be completed.** -/
theorem exists_completion (limit stop : Nat) (state : Expected × List Frame) :
    ∃ rest w, readOn limit stop state rest = .ok w := by
  obtain ⟨expected, frames⟩ := state
  have value (frames : List Frame) : ∃ rest w, readOn limit stop (.value, frames) rest = .ok w := by
    obtain ⟨rest, w, h⟩ := exists_closing limit stop frames .null
    exact ⟨⟨0, .scalar .null⟩ :: rest, w, h⟩
  have colon (done : Fields) (name : Text) :
      ∃ rest w, readOn limit stop (.colon done name, frames) rest = .ok w := by
    obtain ⟨rest, w, h⟩ := value (.fields done name :: frames)
    exact ⟨⟨0, .mark ':'⟩ :: rest, w, h⟩
  cases expected with
  | value => exact value frames
  | firstItem =>
    obtain ⟨rest, w, h⟩ := exists_closing limit stop frames (.arr [])
    exact ⟨⟨0, .mark ']'⟩ :: rest, w, h⟩
  | firstName =>
    obtain ⟨rest, w, h⟩ := exists_closing limit stop frames (.obj [])
    exact ⟨⟨0, .mark '\x7d'⟩ :: rest, w, h⟩
  | name done =>
    obtain ⟨rest, w, h⟩ := colon done []
    exact ⟨⟨0, .string []⟩ :: rest, w, h⟩
  | colon done name => exact colon done name
  | nextItem done =>
    obtain ⟨rest, w, h⟩ := exists_closing limit stop frames (.arr done.reverse)
    exact ⟨⟨0, .mark ']'⟩ :: rest, w, h⟩
  | nextField done =>
    obtain ⟨rest, w, h⟩ := exists_closing limit stop frames (.obj done)
    exact ⟨⟨0, .mark '\x7d'⟩ :: rest, w, h⟩
  | finish v => exact ⟨[], v, rfl⟩

/-- Tokens **begin** a text if some text starts with them, with arrays and objects in it nested at
most this deep. -/
def Begins (depth : Nat) (text : List TokenKind) : Prop :=
  ∃ rest v, Denotes depth (text ++ rest) v

/-- Kinds of tokens are kinds of tokens that stand anywhere. -/
theorem kinds_map_mk (text : List TokenKind) : kinds (text.map (Token.mk 0)) = text := by
  simp [kinds, Function.comp_def]

/-- **The reader gets through exactly those tokens that begin a text.** -/
theorem begins_iff : Begins limit (kinds tokens) ↔
    ∃ state, go limit (.value, []) tokens = .ok state := by
  refine ⟨fun ⟨rest, v, h⟩ => ?_, fun ⟨state, h⟩ => ?_⟩
  · rw [← kinds_map_mk rest, ← kinds_append, ← readFrom_value_eq_ok_iff 0, readFrom_append] at h
    cases gone : go limit (.value, []) tokens with
    | error refusal => rw [gone] at h; cases h
    | ok state => exact ⟨state, rfl⟩
  · obtain ⟨rest, v, completed⟩ := exists_completion limit 0 state
    refine ⟨kinds rest, v, ?_⟩
    rw [← kinds_append, ← readFrom_value_eq_ok_iff 0, readFrom_append, h]
    exact completed

/-! ### The limit -/

/-- Tokens are **nested too deeply** if the first of them begin a text, but none that is nested at
most this deep. -/
def OverNested (limit : Nat) (text : List TokenKind) : Prop :=
  ∃ first, first <+: text ∧ (∃ depth, Begins depth first) ∧ ¬Begins limit first

/-- The reader gives up on tokens that are nested too deeply. -/
theorem go_of_overNested (h : OverNested limit (kinds tokens)) :
    go limit (.value, []) tokens = .error .tooDeep := by
  obtain ⟨first, ⟨more, spelled⟩, ⟨depth, begins⟩, deep⟩ := h
  obtain ⟨front, rest, rfl, rfl, -⟩ := List.map_eq_append_iff.mp spelled.symm
  obtain ⟨state, gone⟩ := begins_iff.mp begins
  rw [go_append]
  rcases go_eq_or_tooDeep limit gone with same | tooDeep
  · exact absurd (begins_iff.mpr ⟨state, same⟩) deep
  · rw [tooDeep]
    rfl

/-- The reader gives up on no other tokens. -/
theorem overNested_of_go (flat : ∀ token ∈ tokens, token.IsFlat)
    (h : go limit (.value, []) tokens = .error .tooDeep) : OverNested limit (kinds tokens) := by
  obtain ⟨front, token, rest, middle, rfl, gone, deep⟩ := exists_of_go_eq_tooDeep h
  obtain ⟨depth, state, more, stepped⟩ := exists_step_of_tooDeep (flat token (by simp)) deep
  -- up to this token, and with it, the tokens begin a text that is nested more deeply
  refine ⟨kinds (front ++ [token]), ⟨kinds rest, by simp⟩, ⟨depth, begins_iff.mpr ⟨state, ?_⟩⟩,
    fun begins => ?_⟩
  · rw [go_append, go_of_le more gone]
    exact go_cons.trans (by rw [stepped]; rfl)
  · obtain ⟨state, through⟩ := begins_iff.mp begins
    have stuck : go limit (.value, []) (front ++ [token]) = .error .tooDeep := by
      rw [go_append, gone]
      exact go_cons.trans (by rw [deep]; rfl)
    rw [stuck] at through
    cases through

/-- **The reader gives up exactly on tokens that are nested too deeply.** The end of the tokens is
no reason to give up for. -/
theorem readFrom_value_eq_tooDeep_iff (stop : Nat) (flat : ∀ token ∈ tokens, token.IsFlat) :
    readFrom limit stop .value [] tokens = .error .tooDeep ↔ OverNested limit (kinds tokens) := by
  rw [readFrom_eq_go]
  refine ⟨fun h => overNested_of_go flat ?_, fun h => ?_⟩
  · cases gone : go limit (.value, []) tokens with
    | error refusal =>
      rw [gone] at h
      exact congrArg Except.error (Except.error.inj h)
    | ok state =>
      obtain ⟨expected, frames⟩ := state
      rw [gone] at h
      cases expected <;> cases h
  · rw [go_of_overNested h]
    rfl

/-- **The reader gives up exactly on texts that are nested too deeply.** -/
theorem readWithin_eq_tooDeep_iff {cs : List Char} : readWithin limit cs = .error .tooDeep ↔
    OverNested limit (kinds (Json.tokens cs)) := by
  have flat (token : Token) (h : token ∈ Json.tokens cs) : token.IsFlat :=
    isFlat_of_mem_tokensFrom h
  rw [readWithin, ← readFrom_value_eq_tooDeep_iff cs.length flat]
  split
  next mark => simp [readFrom_byteOrderMark mark]
  next => rfl

/-- Tokens denote a value, nested at most this deep, if they denote it at all and are not nested too
deeply. -/
theorem denotes_iff : Denotes limit text v ↔
    (∃ depth, Denotes depth text v) ∧ ¬OverNested limit text := by
  refine ⟨fun h => ⟨⟨limit, h⟩, ?_⟩, fun ⟨⟨depth, h⟩, shallow⟩ => ?_⟩
  · rintro ⟨first, ⟨more, rfl⟩, -, deep⟩
    exact deep ⟨more, v, h⟩
  · -- the whole text is a start of a text, so it is one that the limit allows
    have begins : Begins limit text := by
      by_contra deep
      exact shallow ⟨text, List.prefix_rfl, ⟨depth, [], v, by simpa using h⟩, deep⟩
    rw [← kinds_map_mk text] at begins h ⊢
    rw [← readFrom_value_eq_ok_iff 0, readFrom_eq_go] at h ⊢
    obtain ⟨state, gone⟩ := begins_iff.mp begins
    rcases go_eq_or_tooDeep depth gone with same | deep
    · rwa [same, ← gone] at h
    · rw [deep] at h
      cases h

/-! ### Nothing but brackets -/

theorem readFrom_brackets (brackets : ∀ token ∈ tokens, token.kind = .mark '[')
    (room : frames.length ≤ limit) (deep : limit < frames.length + tokens.length) :
    readFrom limit stop .value frames tokens = .error .tooDeep := by
  induction tokens generalizing frames with
  | nil =>
    rw [List.length_nil] at deep
    omega
  | cons token tokens ih =>
    obtain ⟨kind, others⟩ := List.forall_mem_cons.mp brackets
    rcases Nat.lt_or_ge frames.length limit with more | full
    · have opened : step limit .value frames token = .ok (.firstItem, frames) :=
        step_value.trans (begin_eq_ok_iff.mpr (Or.inr (Or.inr (Or.inl ⟨kind, more, rfl⟩))))
      rw [readFrom_cons_of_step opened, readOn]
      cases tokens with
      | nil =>
        rw [List.length_singleton] at deep
        omega
      | cons token tokens =>
        have opens : Opens token.kind := by
          rw [others token List.mem_cons_self]
          exact Or.inl rfl
        rw [readFrom_firstItem opens]
        exact ih others more (by simp only [List.length_cons] at deep ⊢; omega)
    · have refused : step limit .value frames token = .error .tooDeep := by
        rw [step_value, begin]
        simp [kind, full]
      rw [readFrom_cons, refused]
      rfl

/-- Brackets that open more arrays than are allowed are nested too deeply, whether or not they are
closed. -/
theorem overNested_replicate {n : Nat} (deep : limit < n) :
    OverNested limit (List.replicate n (.mark '[')) := by
  rw [← kinds_map_mk (List.replicate n _), ← readFrom_value_eq_tooDeep_iff 0]
  · exact readFrom_brackets (by simp) (by simp) (by simpa using deep)
  · simp [Token.IsFlat]

/-- The tokens of a text of brackets. -/
theorem kinds_tokensFrom_replicate (index n : Nat) :
    kinds (tokensFrom index 0 (List.replicate n '[')) = List.replicate n (.mark '[') := by
  induction n generalizing index with
  | zero => rfl
  | succ n ih =>
    rw [List.replicate_succ, List.replicate_succ, ← ih (index + 1)]
    rfl

end Json

end DepGraph
