import SearchIndex.Text.PrintableTable
import SearchIndex.Text.Case

/-!
# Quoted text

A text between quotes: single ones, or double ones if it holds a single quote and no double one.
Backslashes, the enclosing quote, and characters without a printable form are escaped.

## Main definitions

* `isPrintable c`: the character has a printable form
* `hexChars width n`: a number in base sixteen
* `quote s`: the text between quotes

## Main results

* `hexChars_length`: a small number has exactly the width
-/

namespace SearchIndex.Text

/-- The character has a printable form. -/
def isPrintable (c : Char) : Bool :=
  if 32 ≤ c.toNat ∧ c.toNat < 127 then true else !inRanges unprintableRanges c.toNat

/-- One digit of base sixteen, in lower case. -/
def hexDigit (n : Nat) : Char :=
  if n % 16 < 10 then Char.ofNat (48 + n % 16) else Char.ofNat (87 + n % 16)

/-- The last `width` digits of a number in base sixteen. -/
def hexChars : Nat → Nat → List Char
  | 0, _ => []
  | width + 1, n => hexChars width (n / 16) ++ [hexDigit n]

theorem hexChars_length (width n : Nat) : (hexChars width n).length = width := by
  induction width generalizing n with
  | zero => rfl
  | succ width ih => simp [hexChars, ih]

/-- A character inside quotes. -/
def quotedChar (mark : Char) (c : Char) : List Char :=
  if c = '\\' ∨ c = mark then ['\\', c]
  else if c = '\n' then ['\\', 'n']
  else if c = '\r' then ['\\', 'r']
  else if c = '\t' then ['\\', 't']
  else if isPrintable c then [c]
  else if c.toNat < 0x100 then '\\' :: 'x' :: hexChars 2 c.toNat
  else if c.toNat < 0x10000 then '\\' :: 'u' :: hexChars 4 c.toNat
  else '\\' :: 'U' :: hexChars 8 c.toNat

/-- The enclosing quote of a text. -/
def quoteMark (cs : List Char) : Char :=
  if cs.contains '\'' && !cs.contains '"' then '"' else '\''

/-- **The text between quotes.** -/
def quote (s : String) : String :=
  let mark := quoteMark s.toList
  String.ofList (mark :: s.toList.flatMap (quotedChar mark) ++ [mark])

end SearchIndex.Text
