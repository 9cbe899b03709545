import SearchIndex.Number.Binary64

/-!
# Decimal text of binary floating-point numbers

The text of a float is the shortest decimal that reads back as it: for one, two, … seventeen
digits the two decimals around the value are tried, and the first that lies in the interval of
numbers rounding to the value is taken (of two the nearer, of two equally near the even one).
Decimal exponents from -4 to 15 are written positionally, all others with an exponent of at least
two digits.

## Main definitions

* `Decimal.Scaled`: a natural number times a power of ten
* `Decimal.shortest d`: the shortest decimal that rounds to the magnitude `d`
* `Decimal.floatText x`: the text of a float
* `Decimal.fixed places x`: the text of a float with a fixed number of places
* `Decimal.nearestFloat`: the double nearest to a decimal

## Main results

* `padLeft_length`: padding reaches the width
-/

namespace SearchIndex.Decimal

open Binary64

/-- The value `digits · 10 ^ exponent`. -/
structure Scaled where
  digits : Nat
  exponent : Int
deriving DecidableEq, Repr, Inhabited

/-- The decimal digits of a natural number. -/
def digitChars (n : Nat) : List Char := Nat.toDigits 10 n

/-- The decimal text of a natural number. -/
def natText (n : Nat) : String := String.ofList (digitChars n)

/-- The decimal text of an integer, with a sign if it is negative. -/
def intText (n : Int) : String :=
  if n < 0 then "-" ++ natText n.natAbs else natText n.natAbs

/-! ## The shortest decimal -/

/-- How the step `10 ^ place` compares with the unit `2 ^ unit`: `10 ^ place / 2 ^ unit` as a
quotient of natural numbers. -/
def stepRatio (place unit : Int) : Nat × Nat :=
  (tenTo place.toNat * twoTo (-unit).toNat, tenTo (-place).toNat * twoTo unit.toNat)

/-- The exponent of the leading decimal digit of a positive magnitude. -/
def leadingPlace (d : Magnitude) : Int :=
  -- The scale leaves no double below one, so the number of digits tells the place.
  let (num, den) := d.ratio
  ((digitChars (num * tenTo 400 / den)).length : Int) - 401

/-- The multiple of `10 ^ place` that is nearest to the value among the two around it that round
to it, as the factor of `10 ^ place`. In units of a quarter of the value's last binary place the
value is `4 m`, and the numbers rounding to it reach two units up and two down, one down at a
power of two; the ends belong to them when `m` is even. -/
def onGrid? (d : Magnitude) (place : Int) : Option Nat :=
  let (step, unit) := stepRatio place (d.exponent - 2)
  let value := 4 * d.mantissa * unit
  let low := (4 * d.mantissa - if d.mantissa = twoTo 52 ∧ -1074 < d.exponent then 1 else 2) * unit
  let high := (4 * d.mantissa + 2) * unit
  let within (n : Nat) : Bool :=
    if d.mantissa % 2 = 0 then low ≤ n * step ∧ n * step ≤ high
    else low < n * step ∧ n * step < high
  let below := value / step
  let above := below + 1
  match within below, within above with
  | false, false => none
  | true, false => some below
  | false, true => some above
  -- Both read back: the nearer one, and of two equally near the even one.
  | true, true =>
    let under := value - below * step
    let excess := above * step - value
    if under < excess then some below
    else if excess < under then some above
    else if below % 2 = 0 then some below
    else some above

/-- **The shortest decimal that rounds to a magnitude.** -/
def shortest (d : Magnitude) : Scaled :=
  if d.mantissa = 0 then ⟨0, 0⟩
  else
    -- Seventeen digits always suffice, so the search succeeds.
    let top := leadingPlace d
    let found := (List.range 17).findSome? fun (count : Nat) =>
      let place := top - (count : Int)
      (onGrid? d place).map fun digits => (⟨digits, place⟩ : Scaled)
    found.getD ⟨0, 0⟩

/-! ## Notation -/

/-- Zeros before the digits up to a width. -/
def padLeft (width : Nat) (digits : List Char) : List Char :=
  List.replicate (width - digits.length) '0' ++ digits

theorem padLeft_length (width : Nat) (digits : List Char) :
    (padLeft width digits).length = max width digits.length := by
  simp [padLeft]; omega

/-- Digits in positional notation: `digits · 10 ^ exponent`, with at least one place. -/
def positional (digits : List Char) (exponent : Int) : List Char :=
  if 0 ≤ exponent then digits ++ List.replicate exponent.toNat '0' ++ ['.', '0']
  else
    let places := (-exponent).toNat
    let padded := padLeft (places + 1) digits
    padded.take (padded.length - places) ++ '.' :: padded.drop (padded.length - places)

/-- Digits in exponent notation: one digit before the point, none after it if there is only one,
and an exponent of at least two digits with a sign. -/
def scientific (digits : List Char) (leading : Int) : List Char :=
  let fraction := if digits.length ≤ 1 then [] else '.' :: digits.drop 1
  let sign := if leading < 0 then '-' else '+'
  digits.take 1 ++ fraction ++ 'e' :: sign :: padLeft 2 (digitChars leading.natAbs)

/-- The text of a decimal without a sign: positional from 10 ^ -4 to below 10 ^ 16. A rounding up
to a power of ten leaves digits `10`, which are the one digit `1`. -/
def Scaled.text (s : Scaled) : List Char :=
  let (digits, exponent) := if s.digits = 10 then (1, s.exponent + 1) else (s.digits, s.exponent)
  let shown := digitChars digits
  let leading := exponent + (shown.length : Int) - 1
  if -4 ≤ leading ∧ leading < 16 then positional shown exponent else scientific shown leading

/-- The text of a signed magnitude. -/
def signedText (s : Signed) : String :=
  String.ofList ((if s.negative then ['-'] else []) ++ (shortest s.size).text)

/-- **The text of a float.** -/
def floatText (x : Float) : String :=
  match read x with
  | .notANumber => "nan"
  | .infinite negative => if negative then "-inf" else "inf"
  | .finite value => signedText value

/-- The text of a float with a fixed number of places, the exact value rounded to nearest and a
tie to the even digit. -/
def fixed (places : Nat) (x : Float) : String :=
  match read x with
  | .notANumber => "nan"
  | .infinite negative => if negative then "-inf" else "inf"
  | .finite value =>
    let (num, den) := value.size.ratio
    let padded := padLeft (places + 1) (digitChars (roundDiv (num * tenTo places) den))
    let sign := if value.negative then ['-'] else []
    String.ofList (sign ++ padded.take (padded.length - places) ++
      '.' :: padded.drop (padded.length - places))

/-! ## Reading decimals -/

/-- The double nearest to a decimal, infinite when it is beyond the largest. Exponents outside the
range of doubles are decided without computing their powers. -/
def nearestFloat (negative : Bool) (s : Scaled) : Float :=
  let leading := s.exponent + ((digitChars s.digits).length : Int)
  let size : Option Magnitude :=
    if s.digits = 0 ∨ leading < -400 then some ⟨0, -1074⟩
    else if 400 < leading then none
    else nearest (s.digits * tenTo s.exponent.toNat) (tenTo (-s.exponent).toNat)
  match size with
  | some d => Signed.toFloat ⟨negative, d⟩
  | none => if negative then -1.0 / 0.0 else 1.0 / 0.0

end SearchIndex.Decimal
