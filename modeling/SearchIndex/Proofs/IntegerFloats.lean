import Mathlib
import SearchIndex.Proofs.Rounding

/-!
# Integers as floats

An integer becomes the float nearest to it; from half a unit of the last place above the largest
float on there is none. What an integer becomes is a number, and lies on the same side of zero as
the integer. It is only not-a-number that is neither above zero nor at most zero.

## Main definitions

* `Binary64.sign?`: the sign of a number that is neither zero nor infinite
* `Number.BeyondFloats n`: no float is nearest to the integer

## Main results

* `Binary64.zero_lt_iff`, `Binary64.zero_le_iff`: the comparisons with zero by their opposites
* `Binary64.sign?_toFloat`: the sign of a magnitude between zero and the infinities
* `Binary64.nearest_one_eq_none_iff`: the natural numbers that no double is nearest to
* `Number.floatOfInt_eq_error_iff`: the integers that no float is nearest to
* `Number.side_of_floatOfInt`: what an integer becomes lies on its side of zero
-/

namespace SearchIndex

open Float.Model (UnpackedFloat)
open Float.Model.Format (binary64)
open Float.Model.UnpackedFloat (Sign unpackSign unpackExponent unpackMantissa)

namespace Binary64

/-! ## Comparisons with zero -/

theorem unpack_zero : (0.0 : Float).toModel.unpack = .zero .positive := rfl

theorem isNaN_eq (x : Float) : x.isNaN = x.toModel.unpack.isNaN := rfl

theorem lt_iff (x y : Float) : x < y ↔ x.toModel.unpack.lt y.toModel.unpack = true := by
  change decide (x.toModel < y.toModel) = true ↔ _
  rw [decide_eq_true_eq]
  rfl

theorem le_iff (x y : Float) : x ≤ y ↔ x.toModel.unpack.le y.toModel.unpack = true := by
  change decide (x.toModel ≤ y.toModel) = true ↔ _
  rw [decide_eq_true_eq]
  rfl

/-- A number is above zero or at most zero, and not-a-number is neither. -/
theorem zero_lt_iff (x : Float) : 0.0 < x ↔ ¬x ≤ 0.0 ∧ x.isNaN = false := by
  rw [lt_iff, le_iff, isNaN_eq, unpack_zero]
  cases x.toModel.unpack with
  | notANumber => decide
  | infinity s | zero s => cases s <;> decide
  | finite s m e h =>
    cases s <;> simp [UnpackedFloat.lt, UnpackedFloat.le, UnpackedFloat.compare,
      UnpackedFloat.isNaN]

/-- A number is at least zero or below zero, and not-a-number is neither. -/
theorem zero_le_iff (x : Float) : 0.0 ≤ x ↔ ¬x < 0.0 ∧ x.isNaN = false := by
  rw [lt_iff, le_iff, isNaN_eq, unpack_zero]
  cases x.toModel.unpack with
  | notANumber => decide
  | infinity s | zero s => cases s <;> decide
  | finite s m e h =>
    cases s <;> simp [UnpackedFloat.lt, UnpackedFloat.le, UnpackedFloat.compare,
      UnpackedFloat.isNaN]

/-! ## The sign of a number -/

/-- The sign of a number that is neither zero nor infinite. -/
def sign? : UnpackedFloat → Option Sign
  | .finite sign .. => some sign
  | _ => none

section Bits

variable {b : BitVec binary64.numBits}

/-- Bits without the largest exponent stand for a float as they are. -/
theorem unpack_pack_unpack (h : unpackExponent b ≠ -1#11) :
    UnpackedFloat.unpack binary64 (UnpackedFloat.pack binary64 (UnpackedFloat.unpack binary64 b)) =
      UnpackedFloat.unpack binary64 b := by
  rw [UnpackedFloat.pack_unpack, if_neg]
  simpa [UnpackedFloat.isNaNBits] using fun h' => absurd h' h

/-- Bits with an exponent or a mantissa, and without the largest exponent, stand for a number that
is neither zero nor infinite. -/
theorem sign?_unpack (h : unpackExponent b ≠ -1#11)
    (hne : ¬(unpackExponent b = 0#11 ∧ unpackMantissa b = 0#52)) :
    sign? (UnpackedFloat.unpack binary64 b) = some (.ofBitVec (unpackSign b)) := by
  simp only [UnpackedFloat.unpack, if_neg h]
  split
  · next hzero =>
    split
    · next hmantissa => exact absurd ⟨hzero, hmantissa⟩ hne
    · rfl
  · rfl

end Bits

/-- The bits of a word. -/
def word (n : Nat) : BitVec binary64.numBits := (UInt64.ofNat n).toBitVec

theorem toNat_unpackSign (n : Nat) : (unpackSign (word n)).toNat = n / 2 ^ 63 % 2 := by
  simp [UnpackedFloat.unpackSign_def, BitVec.extractLsb', Nat.shiftRight_eq_div_pow, word]
  omega

theorem toNat_unpackExponent (n : Nat) :
    (unpackExponent (word n)).toNat = n / 2 ^ 52 % 2 ^ 11 := by
  simp [UnpackedFloat.unpackExponent_def, BitVec.extractLsb', Nat.shiftRight_eq_div_pow, word]
  omega

theorem toNat_unpackMantissa (n : Nat) : (unpackMantissa (word n)).toNat = n % 2 ^ 52 := by
  simp [UnpackedFloat.unpackMantissa_def, BitVec.extractLsb', word]

/-- **A magnitude between zero and the infinities is a number with the sign it is given.** The
largest exponent is that of the infinities. -/
theorem sign?_toFloat {d : Magnitude} (hpos : 0 < d.bits) (h : d.bits < 2047 * twoTo 52)
    (negative : Bool) :
    sign? (Signed.toFloat ⟨negative, d⟩).toModel.unpack =
      some (if negative then .negative else .positive) := by
  generalize hn : d.bits + (if negative then twoTo 63 else 0) = n
  have hsign := toNat_unpackSign n
  have hexponent := toNat_unpackExponent n
  have hmantissa := toNat_unpackMantissa n
  simp only [twoTo, Nat.pow_eq] at h hn
  have hlarge : unpackExponent (word n) ≠ -1#11 := by
    intro hall
    rw [hall] at hexponent
    cases negative <;> simp at hexponent hn <;> omega
  have hzero : ¬(unpackExponent (word n) = 0#11 ∧ unpackMantissa (word n) = 0#52) := by
    rintro ⟨he, hm⟩
    rw [he] at hexponent
    rw [hm] at hmantissa
    cases negative <;> simp at hexponent hmantissa hn <;> omega
  have hs : Sign.ofBitVec (unpackSign (word n)) = if negative then .negative else .positive := by
    simp only [Sign.ofBitVec, ← BitVec.toNat_inj, hsign]
    cases negative <;> simp at hn ⊢ <;> omega
  have hunpack : (Signed.toFloat ⟨negative, d⟩).toModel.unpack =
      UnpackedFloat.unpack binary64 (word n) := by
    rw [← unpack_pack_unpack hlarge]
    simp only [← hn]
    rfl
  rw [hunpack, ← hs]
  exact sign?_unpack hlarge hzero

/-- A number that is neither zero nor infinite lies on the side of zero that its sign tells. -/
theorem side_of_sign? {x : Float} {s : Sign} (h : sign? x.toModel.unpack = some s) :
    (0.0 < x ↔ s = .positive) ∧ (x < 0.0 ↔ s = .negative) ∧ x.isNaN = false := by
  rw [lt_iff, lt_iff, isNaN_eq, unpack_zero]
  cases hx : x.toModel.unpack with
  | notANumber | infinity | zero => simp [hx, sign?] at h
  | finite sign m e hm =>
    obtain rfl : sign = s := by simpa [hx, sign?] using h
    cases sign <;> simp [UnpackedFloat.lt, UnpackedFloat.compare, UnpackedFloat.isNaN]

/-! ## The double nearest to a natural number -/

theorem inUnits_one {n places above below : Nat} (h : n ≠ 0)
    (hunits : inUnits n 1 ((n.log2 : Int) - places) = (above, below)) :
    0 < below ∧ twoTo places * below ≤ above ∧ above < twoTo (places + 1) * below :=
  inUnits_bounds Nat.one_pos (Nat.pos_of_ne_zero h) (by rwa [Nat.div_one])

theorem nearest_one {n above below : Nat} (h : n ≠ 0)
    (hunits : inUnits n 1 ((n.log2 : Int) - 52) = (above, below)) :
    nearest n 1 = if 1024 ≤ n.log2 ∨ (n.log2 = 1023 ∧ twoTo 53 ≤ roundDiv above below) then none
      else some ⟨roundDiv above below, (n.log2 : Int) - 52⟩ := by
  simpa only [Nat.div_one] using
    nearest_eq Nat.one_pos (Nat.pos_of_ne_zero h) (by rwa [Nat.div_one])

/-- **A natural number has no nearest double** from half a unit of the last place above the largest
one on. Rounding decides only for numbers that have as many digits as that one. -/
theorem nearest_one_eq_none_iff (n : Nat) : nearest n 1 = none ↔ twoTo 1024 ≤ n + twoTo 970 := by
  have hunit : twoTo 971 = 2 * twoTo 970 := by rw [Nat.mul_comm, ← twoTo_succ]
  have hhalf : twoTo 1023 = twoTo 53 * twoTo 970 := by rw [← twoTo_add]
  have hall : twoTo 1024 = twoTo 54 * twoTo 970 := by rw [← twoTo_add]
  have hpositive : 0 < twoTo 970 := twoTo_pos 970
  generalize twoTo 970 = half at *
  simp only [show twoTo 53 = 2 ^ 53 from rfl, show twoTo 54 = 2 ^ 54 from rfl] at hhalf hall
  by_cases h : n = 0
  · simp [nearest, h]
    omega
  rcases hunits : inUnits n 1 ((n.log2 : Int) - 52) with ⟨above, below⟩
  obtain ⟨hbelow, -, habove⟩ := @inUnits_one n 52 above below h hunits
  have hlow : twoTo n.log2 ≤ n := Nat.log2_self_le h
  have hhigh : n < twoTo (n.log2 + 1) := Nat.lt_log2_self
  rw [nearest_one h hunits, ite_eq_left_iff]
  simp only [reduceCtorEq, imp_false, Decidable.not_not]
  obtain hfew | hlast | hmany : n.log2 ≤ 1022 ∨ n.log2 = 1023 ∨ 1024 ≤ n.log2 := by omega
  · have hsmall : twoTo (n.log2 + 1) ≤ twoTo 1023 := twoTo_le_twoTo (by omega)
    omega
  · obtain ⟨rfl, rfl⟩ : n = above ∧ twoTo 971 = below := by simpa [inUnits, hlast] using hunits
    rw [le_roundDiv_iff hbelow rfl habove, show twoTo 53 = 2 ^ 53 from rfl]
    omega
  · have hbig : twoTo 1024 ≤ twoTo n.log2 := twoTo_le_twoTo hmany
    omega

/-- The double nearest to a natural number other than zero lies between zero and the
infinities. -/
theorem bits_of_nearest_one {n : Nat} {d : Magnitude} (hn : n ≠ 0) (h : nearest n 1 = some d) :
    0 < d.bits ∧ d.bits < 2047 * twoTo 52 := by
  rcases hunits : inUnits n 1 ((n.log2 : Int) - 52) with ⟨above, below⟩
  obtain ⟨-, -, habove⟩ := @inUnits_one n 52 above below hn hunits
  have hmantissa : roundDiv above below ≤ twoTo 53 := roundDiv_le habove
  rw [nearest_one hn hunits] at h
  split at h
  · cases h
  · obtain rfl := Option.some.inj h
    have hplace : twoTo 52 = 2 ^ 52 := rfl
    have hdigits : twoTo 53 = 2 ^ 53 := rfl
    simp only [Magnitude.bits, hplace]
    omega

end Binary64

/-! ## Integers -/

namespace Number

open Binary64

/-- No float is nearest to the integer: it is at least half a unit of the last place above the
largest one, or as far below zero. -/
def BeyondFloats (n : Int) : Prop := twoTo 1024 ≤ n.natAbs + twoTo 970

instance (n : Int) : Decidable (BeyondFloats n) := inferInstanceAs (Decidable (_ ≤ _))

theorem floatOfInt_eq_error_iff {n : Int} {fault : Fault} :
    floatOfInt n = .error fault ↔ BeyondFloats n ∧ fault = .tooLargeForFloat := by
  rw [BeyondFloats, ← nearest_one_eq_none_iff]
  cases h : nearest n.natAbs 1 with
  | none => simp [floatOfInt, h, eq_comm]
  | some d => simp [floatOfInt, h]

/-- **What an integer becomes is a number on its side of zero.** -/
theorem side_of_floatOfInt {n : Int} {x : Float} (h : floatOfInt n = .ok x) :
    (0.0 < x ↔ 0 < n) ∧ (x < 0.0 ↔ n < 0) ∧ x.isNaN = false := by
  by_cases hn : n = 0
  · subst hn
    obtain rfl : (0.0 : Float) = x := Except.ok.inj h
    decide
  cases hd : nearest n.natAbs 1 with
  | none => simp [floatOfInt, hd] at h
  | some d =>
    obtain rfl : Signed.toFloat ⟨decide (n < 0), d⟩ = x := by simpa [floatOfInt, hd] using h
    obtain ⟨hpos, hbits⟩ := bits_of_nearest_one (Int.natAbs_ne_zero.2 hn) hd
    obtain ⟨habove, hbelow, hnumber⟩ := side_of_sign? (sign?_toFloat hpos hbits (decide (n < 0)))
    refine ⟨habove.trans ?_, hbelow.trans ?_, hnumber⟩ <;> by_cases hneg : n < 0 <;> simp [hneg] <;>
      omega

end Number

end SearchIndex
