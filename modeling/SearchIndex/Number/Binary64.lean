import SearchIndex.Number.Power

/-!
# Binary floating-point numbers as exact values

A finite double is a sign and a magnitude `m · 2 ^ e`. This module reads that value off the
bits of a `Float`, and rounds a quotient of two natural numbers to the double nearest to it, a tie
going to the even mantissa. Everything here is exact arithmetic on `Nat` and `Int`, so it can be
evaluated and reasoned about without the operations of `Float`.

## Main definitions

* `Magnitude`: a natural number times a power of two
* `roundDiv num den`: the natural number nearest to `num / den`, a tie going to the even one
* `nearest num den`: the double nearest to `num / den`, `none` when it would exceed the largest
* `Reading`, `read x`: what the bits of a float stand for
* `Signed.ceil`, `Signed.trunc`: the integers above and toward zero

## Main results

* `roundDiv_mul_self`: an exact quotient is not changed by rounding
-/

namespace SearchIndex.Binary64

/-- The value `mantissa · 2 ^ exponent`. -/
structure Magnitude where
  mantissa : Nat
  exponent : Int
deriving DecidableEq, Repr, Inhabited

/-- A magnitude with a sign; zero has two. -/
structure Signed where
  negative : Bool
  size : Magnitude
deriving DecidableEq, Repr, Inhabited

/-- What the bits of a float stand for. -/
inductive Reading where
  | notANumber
  | infinite (negative : Bool)
  | finite (value : Signed)
deriving DecidableEq, Repr, Inhabited

/-- The natural number nearest to `num / den`; a tie goes to the even one. -/
def roundDiv (num den : Nat) : Nat :=
  let quotient := num / den
  let rest := 2 * (num % den)
  if rest < den then quotient
  else if den < rest then quotient + 1
  else if quotient % 2 = 0 then quotient
  else quotient + 1

theorem roundDiv_mul_self (n : Nat) {d : Nat} (h : 0 < d) : roundDiv (n * d) d = n := by
  simp [roundDiv, Nat.mul_div_cancel n h, h]

/-- `num / den` in units of `2 ^ exponent`, as a quotient of natural numbers. -/
def inUnits (num den : Nat) (exponent : Int) : Nat × Nat :=
  if 0 ≤ exponent then (num, den * twoTo exponent.toNat) else (num * twoTo (-exponent).toNat, den)

/-- The exponent of the last place of the doubles around `num / den`: the mantissa then has 53
binary digits, or fewer at the smallest exponent. -/
def lastPlace (num den : Nat) : Int :=
  let estimate : Int := (num.log2 : Int) - den.log2 - 53
  -- The estimate is right or one too small.
  let (above, below) := inUnits num den estimate
  max (-1074) (if twoTo 53 * below ≤ above then estimate + 1 else estimate)

/-- **The double nearest to a quotient**, a tie going to the even mantissa; `none` when it is
`2 ^ 1024` or more. -/
def nearest (num den : Nat) : Option Magnitude :=
  if num = 0 then some ⟨0, -1074⟩
  else
    let exponent := lastPlace num den
    let (above, below) := inUnits num den exponent
    let mantissa := roundDiv above below
    -- The largest double has 53 binary digits in units of 2 ^ 971.
    if 971 < exponent ∨ (exponent = 971 ∧ twoTo 53 ≤ mantissa) then none
    else some ⟨mantissa, exponent⟩

/-- The bits of a magnitude that is a double: the biased exponent and the fraction lie side by
side, so a mantissa of 53 digits carries into the exponent. -/
def Magnitude.bits (d : Magnitude) : Nat :=
  (d.exponent + 1074).toNat * twoTo 52 + d.mantissa

/-- The float of a signed value that is a double. -/
def Signed.toFloat (s : Signed) : Float :=
  Float.ofBits (UInt64.ofNat (s.size.bits + if s.negative then twoTo 63 else 0))

/-- The value of a float, from its bits. -/
def read (x : Float) : Reading :=
  let bits := x.toBits.toNat
  let negative := decide (twoTo 63 ≤ bits)
  let biased : Nat := bits / twoTo 52 % twoTo 11
  let fraction : Nat := bits % twoTo 52
  if biased = 2047 then
    if fraction = 0 then .infinite negative else .notANumber
  else if biased = 0 then .finite ⟨negative, fraction, -1074⟩
  else .finite ⟨negative, fraction + twoTo 52, (biased : Int) - 1075⟩

/-- The value as a quotient of natural numbers. -/
def Magnitude.ratio (d : Magnitude) : Nat × Nat :=
  if 0 ≤ d.exponent then (d.mantissa * twoTo d.exponent.toNat, 1)
  else (d.mantissa, twoTo (-d.exponent).toNat)

theorem Magnitude.ratio_pos (d : Magnitude) : 0 < d.ratio.2 := by
  rw [ratio]
  split
  · exact Nat.one_pos
  · exact twoTo_pos _

/-- The integer next to a signed value in the direction of zero. -/
def Signed.trunc (s : Signed) : Int :=
  let (num, den) := s.size.ratio
  if s.negative then -((num / den : Nat) : Int) else ((num / den : Nat) : Int)

/-- The least integer that is not below a signed value. -/
def Signed.ceil (s : Signed) : Int :=
  let (num, den) := s.size.ratio
  if s.negative then -((num / den : Nat) : Int) else (((num + den - 1) / den : Nat) : Int)

end SearchIndex.Binary64
