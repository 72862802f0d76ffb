import DepGraph.Proofs.Settings.Numeral
import DepGraph.Proofs.Settings.Origin
import DepGraph.Settings.Group

/-!
# Positive settings

Settings of the store that are built should be positive (`DepGraph.StoreSettings.IsPositive`). The
number of connections always is. The two times need not be: a time is refused if it is at most
zero, and what is no number at all is not, so it is accepted
(`DepGraph.StoreSettings.not_forall_isPositive`). The times are positive exactly if the first origin
that has them does not say that they are no number (`DepGraph.StoreSettings.positive_of_build`).

A group is built if all of its values pass their checks (`DepGraph.Settings.Checked.seq_eq_passed`),
so that each setting can be followed alone from its origins to the settings.
-/

namespace DepGraph

namespace Settings

/-! ### What passes -/

section Passing

variable {α β : Type}

/-- Both have to pass. -/
theorem Checked.seq_eq_passed {f : Checked (α → β)} {a : Checked α} {b : β} :
    f <*> a = .passed b ↔ ∃ g x, f = .passed g ∧ a = .passed x ∧ g x = b := by
  change Checked.apply f a = .passed b ↔ _
  cases f <;> cases a <;> simp [Checked.apply]

/-- A function of what is checked passes with it. -/
theorem Checked.map_eq_passed {f : α → β} {a : Checked α} {b : β} :
    f <$> a = .passed b ↔ ∃ x, a = .passed x ∧ f x = b := by
  change Checked.apply (.passed f) a = .passed b ↔ _
  cases a <;> simp [Checked.apply]

/-- A further check passes after the first. -/
theorem Checked.andThen_eq_passed {a : Checked α} {check : α → Checked β} {b : β} :
    a.andThen check = .passed b ↔ ∃ x, a = .passed x ∧ check x = .passed b := by
  cases a <;> simp [Checked.andThen]

/-- What is seen from outside passes as well. -/
theorem Checked.under_eq_passed {step : Step} {a : Checked α} {x : α} :
    a.under step = .passed x ↔ a = .passed x := by
  cases a <;> simp [Checked.under]

/-- A group that passed is built. -/
theorem Checked.orRefuse_eq_ok {group : String} {a : Checked α} {x : α} :
    a.orRefuse group = .ok x ↔ a = .passed x := by
  cases a <;> simp [Checked.orRefuse]

/-- A setting is the usual one, or a value that passes its check. -/
theorem take_eq_passed {values : Json.Fields} {name : String} {usual x : α} {check : Check α} :
    take values name usual check = .passed x ↔
      (Json.Fields.get? values (Text.ofString name) = none ∧ usual = x) ∨
        ∃ j, Json.Fields.get? values (Text.ofString name) = some j ∧ check j = .passed x := by
  unfold take
  cases Json.Fields.get? values (Text.ofString name) <;> simp [Checked.under_eq_passed]

end Passing

/-! ### Numbers and none -/

/-- A value **means no number**: it is none, or a text that spells none. -/
def MeansNaN : Json → Prop
  | .float x => x.isNaN = true
  | .str t => SpellsNaN (Check.characters t)
  | _ => False

namespace Check

variable {j : Json} {name : String} {x : Float} {n : Int}

/-- What a value is taken for is no number if the value means none. -/
theorem isNaN_of_number (h : number j = .passed x) : x.isNaN = true ↔ MeansNaN j := by
  cases j with
  | float y => rw [← Checked.passed.inj h, MeansNaN]
  | str t => exact isNaN_of_readNumber h
  | int n =>
    rw [← Checked.passed.inj h]
    refine iff_of_false ?_ id
    split
    · rw [Binary.isNaN_neg, Decimal.isNaN_toFloat]
      decide
    · rw [Decimal.isNaN_toFloat]
      decide
  | bool b =>
    rw [← Checked.passed.inj h]
    refine iff_of_false ?_ id
    cases b <;> decide
  | null | arr | obj => contradiction

/-- A number passes for positive if it is not at most zero. -/
theorem positiveNumber_eq_passed :
    positiveNumber name j = .passed x ↔ number j = .passed x ∧ ¬ x ≤ 0.0 := by
  rw [positiveNumber, Checked.andThen_eq_passed]
  constructor
  · rintro ⟨y, read, positive⟩
    split at positive
    · contradiction
    next more =>
      obtain rfl := Checked.passed.inj positive
      exact ⟨read, more⟩
  · rintro ⟨read, more⟩
    exact ⟨x, read, if_neg more⟩

/-- A number that passes for positive is more than zero, but for one that is none. -/
theorem zero_lt_of_positiveNumber (h : positiveNumber name j = .passed x) :
    0.0 < x ↔ ¬ MeansNaN j := by
  obtain ⟨read, more⟩ := positiveNumber_eq_passed.mp h
  rw [Binary.zero_lt_iff more, ← isNaN_of_number read, Bool.not_eq_true]

/-- An integer that passes for positive is more than zero. -/
theorem zero_lt_of_positiveInteger (h : positiveInteger name j = .passed n) : 0 < n := by
  obtain ⟨m, -, positive⟩ := Checked.andThen_eq_passed.mp h
  split at positive
  · contradiction
  next more =>
    obtain rfl := Checked.passed.inj positive
    exact Int.not_le.mp more

end Check

/-- The first origin that has a setting **says that it is no number**. -/
def Origins.SaysNaN (o : Origins) (name : String) : Prop :=
  ∃ j, o.first? name = some j ∧ MeansNaN j

/-- The first origin says so if the values of all origins together do: no object means no number. -/
theorem Origins.saysNaN_iff {o : Origins} {fields : List Field} {values : Json.Fields}
    {name : String} (merged : o.values fields = .ok values)
    (flat : ∀ f ∈ fields, f.structured = false) (asked : name ∈ fields.map Field.name) :
    o.SaysNaN name ↔
      ∃ j, Json.Fields.get? values (Text.ofString name) = some j ∧ MeansNaN j := by
  rcases get?_values merged flat asked with same | ⟨us, vs, said, object⟩
  · rw [SaysNaN, same]
  · rw [SaysNaN, said, object]
    simp [MeansNaN]

end Settings

open Settings

/-! ### The settings of the store -/

namespace StoreSettings

/-- Settings are **positive** if the two times and the number of connections are. -/
structure IsPositive (s : StoreSettings) : Prop where
  /-- Connections are kept for some time. -/
  connectionTimeout : 0.0 < s.connectionTimeout
  /-- Some connection is kept. -/
  poolSize : 0 < s.poolSize
  /-- The driver tries again for some time. -/
  retryTime : 0.0 < s.retryTime

variable {o : Origins} {values : Json.Fields} {name : String} {usual x : Float} {s : StoreSettings}

/-- The settings that have to be positive are taken one by one. -/
theorem passed_of_ofValues (h : ofValues values = .passed s) :
    takePositive values "NEO4J_CONNECTION_TIMEOUT" 30.0 = .passed s.connectionTimeout ∧
      take values "NEO4J_MAX_CONNECTION_POOL_SIZE" 50
        (Check.positiveInteger "NEO4J_MAX_CONNECTION_POOL_SIZE") = .passed s.poolSize ∧
      takePositive values "NEO4J_MAX_TRANSACTION_RETRY_TIME" 30.0 = .passed s.retryTime := by
  simp only [ofValues, Checked.seq_eq_passed, Checked.map_eq_passed] at h
  obtain ⟨_, _, ⟨_, _, ⟨_, _, ⟨_, _, ⟨_, _, ⟨_, _, ⟨_, _, rfl⟩, _, rfl⟩, _, rfl⟩, _, rfl⟩,
    timeout, rfl⟩, size, rfl⟩, retry, rfl⟩ := h
  exact ⟨timeout, size, retry⟩

/-- A time among the values of all origins is more than zero, unless the first origin that has it
says that it is no number. -/
theorem zero_lt_of_takePositive (merged : o.values fields = .ok values)
    (asked : name ∈ fields.map Field.name) (positive : 0.0 < usual)
    (h : takePositive values name usual = .passed x) : 0.0 < x ↔ ¬ o.SaysNaN name := by
  rw [Origins.saysNaN_iff merged (by decide) asked]
  rcases take_eq_passed.mp h with ⟨missing, rfl⟩ | ⟨j, taken, check⟩
  · refine iff_of_true positive ?_
    rw [missing]
    rintro ⟨j, there, -⟩
    contradiction
  · rw [Check.zero_lt_of_positiveNumber check, taken]
    simp

/-- Settings are built from the values of all origins. -/
theorem build_eq_ok : build o = .ok s ↔
    ∃ values, o.values fields = .ok values ∧ ofValues values = .passed s := by
  change (o.values fields >>= fun values => (ofValues values).orRefuse group) = .ok s ↔ _
  cases o.values fields with
  | error r => exact iff_of_false (fun h => by contradiction) (fun ⟨_, h, _⟩ => by contradiction)
  | ok values =>
    refine Checked.orRefuse_eq_ok.trans ⟨fun h => ⟨values, rfl, h⟩, ?_⟩
    rintro ⟨_, same, h⟩
    exact Except.ok.inj same ▸ h

/-- **The settings that are built are positive, but for times that the first origin that has them
says to be no number**; the number of connections is positive in any case. -/
theorem positive_of_build (built : build o = .ok s) :
    0 < s.poolSize ∧
      (0.0 < s.connectionTimeout ↔ ¬ o.SaysNaN "NEO4J_CONNECTION_TIMEOUT") ∧
      (0.0 < s.retryTime ↔ ¬ o.SaysNaN "NEO4J_MAX_TRANSACTION_RETRY_TIME") := by
  obtain ⟨values, merged, passed⟩ := build_eq_ok.mp built
  obtain ⟨timeout, size, retry⟩ := passed_of_ofValues passed
  refine ⟨?_, zero_lt_of_takePositive merged (by decide) (by decide) timeout,
    zero_lt_of_takePositive merged (by decide) (by decide) retry⟩
  rcases take_eq_passed.mp size with ⟨-, usual⟩ | ⟨j, -, check⟩
  · omega
  · exact Check.zero_lt_of_positiveInteger check

/-- Origins of which the environment says that the first time is no number. -/
def nanOrigins : Origins := { environment := [("NEO4J_CONNECTION_TIMEOUT", "nan")] }

/-- Such a time is accepted. -/
theorem build_nanOrigins : build nanOrigins = .ok { connectionTimeout := 0.0 / 0.0 } := by
  rfl

/-- The second time is positive then, and the first one is not. -/
theorem positive_of_build_nanOrigins :
    let s : StoreSettings := { connectionTimeout := 0.0 / 0.0 }
    build nanOrigins = .ok s ∧ 0 < s.poolSize ∧
      (0.0 < s.connectionTimeout ↔ ¬ nanOrigins.SaysNaN "NEO4J_CONNECTION_TIMEOUT") ∧
      (0.0 < s.retryTime ↔ ¬ nanOrigins.SaysNaN "NEO4J_MAX_TRANSACTION_RETRY_TIME") :=
  ⟨build_nanOrigins, positive_of_build build_nanOrigins⟩

/-- **Settings that are built need not be positive.** -/
theorem not_forall_isPositive :
    ¬∀ (o : Origins) (s : StoreSettings), build o = .ok s → s.IsPositive := fun h =>
  absurd (h nanOrigins _ build_nanOrigins).connectionTimeout (by decide)

end StoreSettings

end DepGraph
