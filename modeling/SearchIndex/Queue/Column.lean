import SearchIndex.Failure
import SearchIndex.Number.Extended

/-!
# Columns

A text column takes any scalar and keeps its text, a float being written with at most fifteen
digits. An integer column takes what fits into 64 bits.

## Main definitions

* `realText x`: the text of a float in a text column
* `textColumn v`: what a text column keeps of a value, `none` if it is nothing
* `integerColumn n`: an integer that fits into a column

## Main results

* `textColumn_text`: a text is kept as it is
* `integerColumn_eq_ok_iff`: the integers that fit
-/

namespace SearchIndex.Queue

open Binary64 Decimal

/-- Digits with the zeros at their end turned into places. -/
def withoutZeros (digits : List Char) (exponent : Int) : List Char × Int :=
  let kept := (digits.reverse.dropWhile (· = '0')).reverse
  (kept, exponent + ((digits.length - kept.length : Nat) : Int))

/-- The text of a positive magnitude: fifteen digits without the zeros at their end, positional from
10 ^ -4 to below 10 ^ 15, else with one digit before the point and at least one after it. -/
def magnitudeText (d : Magnitude) : List Char :=
  let (all, leading) := Extended.leading 14 d
  let (digits, exponent) := withoutZeros all (leading - 14)
  if -4 ≤ leading ∧ leading < 15 then positional digits exponent
  else scientific (if digits.length ≤ 1 then digits ++ ['0'] else digits) leading

/-- The text of a float in a text column; not-a-number is nothing. -/
def realText (x : Float) : Option String :=
  match Binary64.read x with
  | .notANumber => none
  | .infinite negative => some (if negative then "-Inf" else "Inf")
  | .finite value =>
    if value.size.mantissa = 0 then some "0.0"
    else some (String.ofList ((if value.negative then ['-'] else []) ++ magnitudeText value.size))

/-- The integer fits into 64 bits. -/
def fits (n : Int) : Bool := -(twoTo 63 : Int) ≤ n && n < twoTo 63

/-- **An integer as a column keeps it.** -/
def integerColumn (n : Int) : Except Failure Int :=
  if fits n then .ok n else .error .tooLargeToStore

theorem integerColumn_eq_ok_iff {n m : Int} :
    integerColumn n = .ok m ↔ (-(twoTo 63 : Int) ≤ n ∧ n < twoTo 63) ∧ n = m := by
  simp only [integerColumn, fits, Bool.and_eq_true, decide_eq_true_eq]
  split
  · next h => exact ⟨fun e => ⟨h, Except.ok.inj e⟩, fun e => congrArg Except.ok e.2⟩
  · next h => exact ⟨fun e => (nomatch e), fun e => absurd e.1 h⟩

/-- **What a text column keeps of a value.** -/
def textColumn : Value → Except Failure (Option String)
  | .null => .ok none
  | .text s => .ok (some s)
  | .bool b => .ok (some (intText (Number.ofFlag b)))
  | .int n => (integerColumn n).map fun n => some (intText n)
  | .float x => .ok (realText x)
  | .list _ => .error .unbindable
  | .map _ => .error .unbindable

theorem textColumn_text (s : String) : textColumn (.text s) = .ok (some s) := rfl

end SearchIndex.Queue
