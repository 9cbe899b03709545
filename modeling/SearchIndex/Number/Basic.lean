import SearchIndex.Number.Decimal

/-!
# Numbers of two kinds

A number is an integer of any size, a float, or a truth value counting as zero or one. Integers and
floats stay apart: they have different texts, and an integer enters float arithmetic by rounding,
which fails when it is too large.

## Main definitions

* `Number`: integers, floats and truth values
* `Number.Fault`: why arithmetic has no answer
* `Number.toFloat`, `Number.divide`, `Number.trunc`: rounding to a float, true division and
  dropping the fraction
* `Number.less`: the order by value
* `Number.minus`, `Number.times`: arithmetic that stays with integers
* `Number.ceilQuotient`, `Number.ceilRatio`: the integer above a rounded quotient

## Main results

* `Number.trunc_of_intEqFloat`: an integer that equals a float is its integer part
* `Number.less_int`: integers have their order
-/

namespace SearchIndex

open Binary64

/-- An integer, a float, or a truth value that counts as zero or one. -/
inductive Number where
  | int (n : Int)
  | float (x : Float)
  | flag (b : Bool)
deriving Repr, Inhabited

/-- Why arithmetic on numbers has no answer. -/
inductive Number.Fault where
  /-- An integer is beyond the largest float. -/
  | tooLargeForFloat
  /-- A quotient of integers is beyond the largest float. -/
  | quotientTooLarge
  /-- A division of integers by zero. -/
  | divisionByZero
  /-- A division of floats by zero. -/
  | floatDivisionByZero
  /-- A function was applied outside its domain. -/
  | outsideDomain
  /-- Not-a-number has no integer part. -/
  | integerOfNotANumber
  /-- An infinity has no integer part. -/
  | integerOfInfinity
deriving DecidableEq, Repr

/-- What is reported about arithmetic without an answer. -/
def Number.Fault.message : Number.Fault → String
  | .tooLargeForFloat => "int too large to convert to float"
  | .quotientTooLarge => "integer division result too large for a float"
  | .divisionByZero => "division by zero"
  | .floatDivisionByZero => "float division by zero"
  | .outsideDomain => "math domain error"
  | .integerOfNotANumber => "cannot convert float NaN to integer"
  | .integerOfInfinity => "cannot convert float infinity to integer"

namespace Number

/-- The truth value as an integer. -/
def ofFlag (b : Bool) : Int := if b then 1 else 0

/-- The text of a number. -/
def text : Number → String
  | .int n => Decimal.intText n
  | .float x => Decimal.floatText x
  | .flag b => if b then "True" else "False"

/-- Whether a number counts as true: all but the zeros do. -/
def truthy : Number → Bool
  | .int n => n != 0
  | .float x => x != 0.0
  | .flag b => b

/-- The number is at most zero; not-a-number is not. -/
def nonpositive : Number → Bool
  | .int n => n ≤ 0
  | .float x => x ≤ 0.0
  | .flag b => !b

/-! ## Equality by value -/

/-- The integer equals the exact value of the float. -/
def intEqFloat (n : Int) (x : Float) : Bool :=
  match read x with
  | .finite s =>
    let (num, den) := s.size.ratio
    num == n.natAbs * den && (n == 0 || s.negative == (n < 0))
  | _ => false

/-- An integer that equals a float is its integer part. -/
theorem trunc_of_intEqFloat {n : Int} {x : Float} {s : Signed} (hx : read x = .finite s)
    (h : intEqFloat n x = true) : s.trunc = n := by
  rw [intEqFloat, hx] at h
  simp only [Bool.and_eq_true, beq_iff_eq, Bool.or_eq_true] at h
  obtain ⟨hnum, hsign⟩ := h
  have hwhole : s.size.ratio.1 / s.size.ratio.2 = n.natAbs := by
    rw [hnum, Nat.mul_div_cancel _ s.size.ratio_pos]
  rw [Signed.trunc]
  dsimp only
  rw [hwhole]
  rcases hsign with rfl | hsign
  · simp
  · rw [hsign]
    by_cases hn : n < 0
    · rw [decide_eq_true hn, if_pos rfl]
      omega
    · rw [decide_eq_false hn, if_neg Bool.false_ne_true]
      omega

/-- Two numbers are equal by value, whatever their kinds. -/
def same : Number → Number → Bool
  | .float x, .float y => x == y
  | .float x, .int n | .int n, .float x => intEqFloat n x
  | .float x, .flag b | .flag b, .float x => intEqFloat (ofFlag b) x
  | .int m, .int n => m == n
  | .int n, .flag b | .flag b, .int n => n == ofFlag b
  | .flag a, .flag b => a == b

/-! ## Order by value -/

/-- The exact value of a number: an integer, or a float. -/
def exact : Number → Int ⊕ Float
  | .int n => .inl n
  | .flag b => .inl (ofFlag b)
  | .float x => .inr x

/-- A signed value as a quotient of an integer and a natural number. -/
def ratioOf (s : Signed) : Int × Nat :=
  let (num, den) := s.size.ratio
  (if s.negative then -(num : Int) else num, den)

/-- The float is below the integer. -/
def floatBelow (x : Float) (n : Int) : Bool :=
  match read x with
  | .notANumber => false
  | .infinite negative => negative
  | .finite s => (ratioOf s).1 < n * (ratioOf s).2

/-- The integer is below the float. -/
def intBelow (n : Int) (x : Float) : Bool :=
  match read x with
  | .notANumber => false
  | .infinite negative => !negative
  | .finite s => n * (ratioOf s).2 < (ratioOf s).1

/-- **A number is below another one**; not-a-number is not comparable. -/
def less (a b : Number) : Bool :=
  match a.exact, b.exact with
  | .inl m, .inl n => m < n
  | .inl m, .inr y => intBelow m y
  | .inr x, .inl n => floatBelow x n
  | .inr x, .inr y => x < y

theorem less_int (m n : Int) : less (.int m) (.int n) = decide (m < n) := rfl

/-- A number is at most another one. -/
def atMost (a b : Number) : Bool := a.less b || a.same b

/-! ## Arithmetic -/

/-- The float nearest to an integer. -/
def floatOfInt (n : Int) : Except Fault Float :=
  match nearest n.natAbs 1 with
  | some size => .ok (Signed.toFloat ⟨decide (n < 0), size⟩)
  | none => .error .tooLargeForFloat

/-- The float nearest to a number. -/
def toFloat : Number → Except Fault Float
  | .int n => floatOfInt n
  | .float x => .ok x
  | .flag b => floatOfInt (ofFlag b)

/-- The rounded quotient of two integers. -/
def intQuotient (num den : Int) : Except Fault Signed :=
  if den = 0 then .error .divisionByZero
  else
    match nearest num.natAbs den.natAbs with
    | some size => .ok ⟨num != 0 && decide (num < 0) != decide (den < 0), size⟩
    | none => .error .quotientTooLarge

/-- The quotient of two floats. -/
def floatQuotient (x y : Float) : Except Fault Float :=
  if y == 0.0 then .error .floatDivisionByZero else .ok (x / y)

/-- True division: of integers the float nearest to the exact quotient, otherwise the quotient of
the two floats. -/
def divide (x y : Number) : Except Fault Float :=
  match x, y with
  | .float x, y => do floatQuotient x (← y.toFloat)
  | x, .float y => do floatQuotient (← x.toFloat) y
  | .int m, .int n => (intQuotient m n).map Signed.toFloat
  | .int m, .flag b => (intQuotient m (ofFlag b)).map Signed.toFloat
  | .flag a, .int n => (intQuotient (ofFlag a) n).map Signed.toFloat
  | .flag a, .flag b => (intQuotient (ofFlag a) (ofFlag b)).map Signed.toFloat

/-- The least integer not below the rounded quotient of two integers. -/
def ceilQuotient (num den : Int) : Except Fault Int := (intQuotient num den).map Signed.ceil

/-- The least integer not below a float. -/
def ceil (x : Float) : Except Fault Int :=
  match read x with
  | .notANumber => .error .integerOfNotANumber
  | .infinite _ => .error .integerOfInfinity
  | .finite value => .ok value.ceil

/-- **The least integer not below a rounded quotient.** -/
def ceilRatio (x y : Number) : Except Fault Int :=
  match x.exact, y.exact with
  | .inl m, .inl n => ceilQuotient m n
  | _, _ => do ceil (← x.divide y)

/-- An operation on integers, and on floats if one of the two is none. -/
def combine (ints : Int → Int → Int) (floats : Float → Float → Float) (x y : Number) :
    Except Fault Number :=
  match x.exact, y.exact with
  | .inl m, .inl n => .ok (.int (ints m n))
  | _, _ => do return .float (floats (← x.toFloat) (← y.toFloat))

/-- The difference of two numbers. -/
def minus : Number → Number → Except Fault Number := combine (· - ·) (· - ·)

/-- The product of two numbers. -/
def times : Number → Number → Except Fault Number := combine (· * ·) (· * ·)

/-- The integer part of a number. -/
def trunc : Number → Except Fault Int
  | .int n => .ok n
  | .flag b => .ok (ofFlag b)
  | .float x =>
    match read x with
    | .notANumber => .error .integerOfNotANumber
    | .infinite _ => .error .integerOfInfinity
    | .finite value => .ok value.trunc

end Number

end SearchIndex
