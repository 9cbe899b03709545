import SearchIndex.Number.Decimal

/-!
# Decimal digits by extended arithmetic

Some decimal texts of floats are made by arithmetic on numbers with 64 binary digits: the value is
brought between one and ten, half a unit of the last wanted place is added, and digits are taken
off one by one. Every step is the exact result rounded to 64 binary digits, a tie going to the even
one, so the last digits can differ from those of the exact value.

## Main definitions

* `Extended.nearest num den`: the number of 64 binary digits nearest to a quotient
* `Extended.add`, `Extended.times`, `Extended.quotient`: rounded arithmetic
* `Extended.scaled d`: a positive value between one and ten, and the power of ten taken off it
* `Extended.digits count v`: the leading decimal digits of such a value
* `Extended.leading places d`: the digits of a magnitude up to a number of places after the first

## Main results

* `digits_length`: there are as many digits as are asked for
-/

namespace SearchIndex.Extended

open Binary64

/-- The number of binary digits that are kept. -/
def precision : Nat := 64

/-- **The number of 64 binary digits nearest to a quotient.** -/
def nearest (num den : Nat) : Magnitude :=
  if num = 0 then ⟨0, 0⟩
  else
    let estimate : Int := (num.log2 : Int) - den.log2 - precision
    -- The estimate is right or one too small.
    let (above, below) := inUnits num den estimate
    let exponent := if twoTo precision * below ≤ above then estimate + 1 else estimate
    let (above, below) := inUnits num den exponent
    ⟨roundDiv above below, exponent⟩

/-! ## Rounded arithmetic -/

/-- The sum of two numbers. -/
def add (a b : Magnitude) : Magnitude :=
  let (an, ad) := a.ratio
  let (bn, bd) := b.ratio
  nearest (an * bd + bn * ad) (ad * bd)

/-- The product of two numbers. -/
def times (a b : Magnitude) : Magnitude :=
  let (an, ad) := a.ratio
  let (bn, bd) := b.ratio
  nearest (an * bn) (ad * bd)

/-- The quotient of two numbers. -/
def quotient (a b : Magnitude) : Magnitude :=
  let (an, ad) := a.ratio
  let (bn, bd) := b.ratio
  nearest (an * bd) (ad * bn)

/-- A number is at most another one. -/
def atMost (a b : Magnitude) : Bool :=
  let (an, ad) := a.ratio
  let (bn, bd) := b.ratio
  an * bd ≤ bn * ad

/-- The natural number below a number, and ten times what is left of it. -/
def split (v : Magnitude) : Nat × Magnitude :=
  let (num, den) := v.ratio
  (num / den, nearest (num % den * 10) den)

/-- The double nearest to a decimal fraction, as a number. -/
def double (num den : Nat) : Magnitude := (Binary64.nearest num den).getD ⟨0, 0⟩

/-! ## Between one and ten -/

/-- The power of ten below a value, after one reached so far, by steps of ten to a power. -/
def climb (v : Magnitude) (step : Nat) : Nat → Magnitude × Int → Magnitude × Int
  | 0, reached => reached
  | fuel + 1, (scale, power) =>
    let next := times (double (tenTo step) 1) scale
    if atMost next v then climb v step fuel (next, power + step) else (scale, power)

/-- A value at or above a bound, by multiplying with ten to a power; with it the power of ten that
is left. -/
def lift (bound : Magnitude) (step : Nat) : Nat → Magnitude × Int → Magnitude × Int
  | 0, reached => reached
  | fuel + 1, (v, power) =>
    if atMost bound v then (v, power)
    else lift bound step fuel (times v (double (tenTo step) 1), power - step)

/-- **A positive value between one and ten**, and the power of ten taken off it. -/
def scaled (d : Magnitude) : Magnitude × Int :=
  let one : Magnitude := ⟨1, 0⟩
  let (scale, power) := climb d 1 10 (climb d 10 10 (climb d 100 4 (one, 0)))
  lift one 1 10 (lift (double 1 (tenTo 8)) 8 45 (quotient d scale, power))

/-! ## Digits -/

/-- **The leading decimal digits** of a value below ten. -/
def digits : Nat → Magnitude → List Char
  | 0, _ => []
  | count + 1, v =>
    let (digit, rest) := split v
    Char.ofNat (48 + digit) :: digits count rest

theorem digits_length (count : Nat) (v : Magnitude) : (digits count v).length = count := by
  induction count generalizing v with
  | zero => rfl
  | succ count ih => simp [digits, ih]

/-- Half a unit of a decimal place: the doubles of ten places each, multiplied. -/
def halfUnit (places : Nat) : Float :=
  (List.replicate (places / 10) (1.0e-10 : Float)).foldl (· * ·)
    (Decimal.nearestFloat false ⟨5, -((places % 10 : Nat) : Int) - 1⟩)

/-- **The digits of a positive magnitude** up to a number of places after the first, and the power
of ten of the first. -/
def leading (places : Nat) (d : Magnitude) : List Char × Int :=
  let (v, power) := scaled d
  let half : Magnitude := match read (halfUnit places) with
    | .finite half => half.size
    | _ => ⟨0, 0⟩
  let v := add v half
  let ten : Magnitude := ⟨10, 0⟩
  if atMost ten v then (digits (places + 1) (times v (double 1 10)), power + 1)
  else (digits (places + 1) v, power)

end SearchIndex.Extended
