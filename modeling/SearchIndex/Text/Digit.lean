import SearchIndex.Text.Blank
import SearchIndex.Text.Quoted

/-!
# Decimal digits and integers in text

A decimal digit is any character that Unicode counts as a digit of a decimal system; each system
is ten consecutive code points. An integer is an optional sign and digits, with single underscores
allowed between digits and white space allowed around it, information separators excepted. An
integer may have any number of digits, where it is read and where it is written.

## Main definitions

* `digitValue? c`: the value of a decimal digit
* `readInt? s`: the integer a text stands for
* `notAnInteger base s`: what is reported about a text that stands for none

## Main results

* `digitValue?_lt`: a digit is less than ten
-/

namespace SearchIndex.Text

/-- The zeros of the decimal systems of Unicode 14.0. -/
def zeroDigits : List Nat :=
  [0x30, 0x660, 0x6f0, 0x7c0, 0x966, 0x9e6, 0xa66, 0xae6, 0xb66, 0xbe6, 0xc66, 0xce6, 0xd66, 0xde6,
   0xe50, 0xed0, 0xf20, 0x1040, 0x1090, 0x17e0, 0x1810, 0x1946, 0x19d0, 0x1a80, 0x1a90, 0x1b50,
   0x1bb0, 0x1c40, 0x1c50, 0xa620, 0xa8d0, 0xa900, 0xa9d0, 0xa9f0, 0xaa50, 0xabf0, 0xff10, 0x104a0,
   0x10d30, 0x11066, 0x110f0, 0x11136, 0x111d0, 0x112f0, 0x11450, 0x114d0, 0x11650, 0x116c0,
   0x11730, 0x118e0, 0x11950, 0x11c50, 0x11d50, 0x11da0, 0x16a60, 0x16ac0, 0x16b50, 0x1d7ce,
   0x1d7d8, 0x1d7e2, 0x1d7ec, 0x1d7f6, 0x1e140, 0x1e2f0, 0x1e950, 0x1fbf0]

/-- The value of a decimal digit. -/
def digitValue? (c : Char) : Option Nat :=
  zeroDigits.findSome? fun base =>
    if base ≤ c.toNat ∧ c.toNat < base + 10 then some (c.toNat - base) else none

theorem digitValue?_lt {c : Char} {n : Nat} (h : digitValue? c = some n) : n < 10 := by
  obtain ⟨base, -, hz⟩ := List.exists_of_findSome?_eq_some h
  split at hz
  · simp only [Option.some.injEq] at hz
    omega
  · simp at hz

/-- The number that digits stand for after a number read so far; an underscore must be followed by
a digit. -/
def readDigits? : Nat → List Char → Option Nat
  | soFar, [] => some soFar
  | soFar, c :: cs =>
    match c, cs with
    | '_', d :: rest => (digitValue? d).bind fun v => readDigits? (10 * soFar + v) rest
    | c, cs => (digitValue? c).bind fun v => readDigits? (10 * soFar + v) cs

/-- The number that a non-empty text of digits stands for. -/
def readNat? : List Char → Option Nat
  | [] => none
  | c :: cs => (digitValue? c).bind fun v => readDigits? v cs

/-- **The integer a text stands for**, if it stands for one, white space at its ends aside. -/
def readInt? (s : String) : Option Int :=
  match trim isSpacing s.toList with
  | '-' :: cs => (readNat? cs).map fun n => -(n : Int)
  | '+' :: cs => (readNat? cs).map fun n => (n : Int)
  | cs => (readNat? cs).map fun n => (n : Int)

/-- The number of characters of a text that are shown in a message. -/
def shownLimit : Nat := 200

/-- What is reported about a text that stands for no integer in a base: the start of the quoted
text. -/
def notAnInteger (base : Nat) (s : String) : String :=
  s!"invalid literal for int() with base {base}: " ++
    String.ofList ((quote s).toList.take shownLimit)

end SearchIndex.Text
