import DepGraph.Number.Decimal

/-!
# Numbers that are none

A floating point number that is not at most zero need not be more than zero: it can also be none at
all, and then no comparison holds of it (`DepGraph.Binary.not_le_zero_iff`).

What a decimal numeral reads as is always a number (`DepGraph.Decimal.isNaN_toFloat`). Only a
product of zero and infinity and a quotient of two zeros or two infinities are none where the
operands are numbers; reading scales by a power of ten, which is finite and not zero, and rounding
makes zeros and finite numbers only.
-/

namespace DepGraph

namespace Binary

open Float.Model (Format UnpackedFloat)
open Float.Model.UnpackedFloat

/-! ### Packing -/

/-- What is a number in both of two cases is a number. -/
theorem isNaN_dite {c : Prop} [Decidable c] {t : c → UnpackedFloat} {e : ¬c → UnpackedFloat}
    (ht : ∀ h, (t h).isNaN = false) (he : ∀ h, (e h).isNaN = false) :
    (if h : c then t h else e h).isNaN = false := by
  split
  · exact ht _
  · exact he _

/-- What has not all bits of the exponent set is a number. -/
theorem isNaN_unpack_of_ne {b : BitVec Format.binary64.numBits} (h : unpackExponent b ≠ -1#_) :
    (unpack .binary64 b).isNaN = false := by
  refine (congrArg UnpackedFloat.isNaN (if_neg h)).trans ?_
  -- a zero, a subnormal number or a normal one
  exact isNaN_dite (fun _ => isNaN_dite (fun _ => rfl) (fun _ => rfl)) (fun _ => rfl)

/-- Packing makes no number of what is none, and of nothing else. -/
theorem isNaN_pack (u : UnpackedFloat) : (Float.Model.pack u).isNaN = u.isNaN := by
  change (unpack .binary64 (pack .binary64 u)).isNaN = _
  fun_cases pack .binary64 u with
  | case1 => rfl
  | case2 s => cases s <;> rfl
  | case3 s => cases s <;> rfl
  | case4 s m e hm biased big => cases s <;> rfl
  | case5 s m e hm width biased fits normal =>
    refine isNaN_unpack_of_ne ?_
    rw [unpackExponent_packComponents]
    -- the exponent is below the one with all bits set, so that eleven bits hold it
    have below : biased + 1 < 2048 := Nat.lt_of_not_le fits
    clear_value biased
    intro same
    have same : biased % 2048 = 2047 := congrArg BitVec.toNat same
    omega
  | case6 s m e hm width biased fits subnormal =>
    refine isNaN_unpack_of_ne ?_
    rw [unpackExponent_packComponents]
    decide

/-! ### Comparing with zero -/

/-- **What is not at most zero is more than zero or no number.** -/
theorem not_le_zero_iff {x : Float} : ¬ x ≤ 0.0 ↔ 0.0 < x ∨ x.isNaN = true := by
  change ¬ (decide (x.toModel.unpack.le (.zero .positive) = true)) = true ↔
    decide ((UnpackedFloat.zero .positive).lt x.toModel.unpack = true) = true ∨
      x.toModel.unpack.isNaN = true
  generalize x.toModel.unpack = u
  cases u with
  | infinity s => cases s <;> decide
  | notANumber => decide
  | zero s => cases s <;> decide
  | finite s m e hm =>
    cases s with
    | negative =>
      refine iff_of_false (fun more => more rfl) ?_
      rintro (more | none) <;> contradiction
    | positive => exact iff_of_true (fun less => by contradiction) (.inl rfl)

/-- What is more than zero is a number. -/
theorem isNaN_of_zero_lt {x : Float} (h : 0.0 < x) : x.isNaN = false := by
  change decide ((UnpackedFloat.zero .positive).lt x.toModel.unpack = true) = true at h
  change x.toModel.unpack.isNaN = false
  generalize x.toModel.unpack = u at h ⊢
  cases u with
  | notANumber => exact absurd h (by decide)
  | infinity | zero | finite => rfl

/-- A number that is not at most zero is more than zero, if it is a number. -/
theorem zero_lt_iff {x : Float} (h : ¬ x ≤ 0.0) : 0.0 < x ↔ x.isNaN = false := by
  refine ⟨isNaN_of_zero_lt, fun number => ?_⟩
  rcases not_le_zero_iff.mp h with more | none
  · exact more
  · rw [number] at none
    contradiction

/-! ### Operations -/

/-- The negation of a number is a number. -/
theorem isNaN_neg (x : Float) : (-x).isNaN = x.isNaN := by
  change (Float.Model.pack x.toModel.unpack.neg).isNaN = x.toModel.unpack.isNaN
  rw [isNaN_pack]
  cases x.toModel.unpack <;> rfl

/-- Rounding gives a number. -/
theorem isNaN_roundWithAccuracy (f : Format) (s : Sign) (m : Nat) (e : Int)
    (a : Accuracy) : (roundWithAccuracy f s m e a).isNaN = false :=
  isNaN_dite (fun _ => rfl) (fun _ => rfl)

/-- An integer is a number. -/
theorem isNaN_ofInt (f : Format) (n : Int) : (UnpackedFloat.ofInt f n).isNaN = false := by
  unfold UnpackedFloat.ofInt UnpackedFloat.normalize
  split
  · exact isNaN_roundWithAccuracy ..
  · rfl
  · exact isNaN_roundWithAccuracy ..

/-- Whether a number is finite and not zero. -/
def isScale : UnpackedFloat → Bool
  | .finite .. => true
  | _ => false

section Scale

variable {f : Format} {u v : UnpackedFloat}

/-- A number times one that is finite and not zero is a number. -/
theorem isNaN_mul_of_isScale (h : isScale v = true) : (mul f u v).isNaN = u.isNaN := by
  cases v with
  | infinity | notANumber | zero => contradiction
  | finite =>
    cases u with
    | infinity | notANumber | zero => rfl
    | finite => exact isNaN_roundWithAccuracy ..

/-- A number divided by one that is finite and not zero is a number. -/
theorem isNaN_div_of_isScale (h : isScale v = true) : (div f u v).isNaN = u.isNaN := by
  cases v with
  | infinity | notANumber | zero => contradiction
  | finite =>
    cases u with
    | infinity | notANumber | zero => rfl
    | finite => exact isNaN_roundWithAccuracy ..

end Scale

/-- The tabulated powers of ten are finite and not zero. -/
theorem isScale_power : ∀ e : Fin Float.exactlyRepresentablePowersOfTen.size,
    isScale Float.exactlyRepresentablePowersOfTen[e].toModel.unpack = true := by
  decide

/-- The value of a numeral is a number. -/
theorem isNaN_ofScientific_unpacked (f : Format) (m : Nat) (e : Int) :
    (UnpackedFloat.ofScientific f m e).isNaN = false := by
  refine isNaN_dite (fun noDigits => rfl) fun digits => ?_
  refine isNaN_dite (fun tooLarge => rfl) fun bounded => ?_
  refine isNaN_dite (fun tooSmall => rfl) fun bounded' => ?_
  refine isNaN_dite (fun scaledUp => ?_) fun scaledDown => ?_
  · exact isNaN_mul_of_isScale rfl
  · exact isNaN_div_of_isScale rfl

/-- Reading digits scaled by a power of ten gives a number. -/
theorem isNaN_ofScientific (m : Nat) (negative : Bool) (e : Nat) :
    (Float.ofScientific m negative e).isNaN = false := by
  have digits : m.toUInt64.toFloat.toModel.unpack.isNaN = false :=
    (isNaN_pack _).trans (isNaN_ofInt _ _)
  unfold Float.ofScientific
  split
  next small =>
    have power := isScale_power ⟨e, Nat.lt_succ_of_le small.2⟩
    split
    · exact (isNaN_pack _).trans ((isNaN_div_of_isScale power).trans digits)
    · exact (isNaN_pack _).trans ((isNaN_mul_of_isScale power).trans digits)
  next => exact (isNaN_pack _).trans (isNaN_ofScientific_unpacked _ _ _)

end Binary

/-- **A decimal numeral reads as a number.** -/
theorem Decimal.isNaN_toFloat (d : Decimal) : d.toFloat.isNaN = false := by
  unfold toFloat
  split
  · decide
  split
  · decide
  split
  · decide
  split <;> exact Binary.isNaN_ofScientific _ _ _

end DepGraph
