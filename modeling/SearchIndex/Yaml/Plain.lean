import SearchIndex.Config.Tree
import SearchIndex.Text.Case
import SearchIndex.Text.Pieces
import SearchIndex.Yaml.Scalar

/-!
# What plain scalars stand for

A plain scalar stands for a truth value, a number, a date or nothing if it is written like one, and
else for its text. Integers are written in base two, eight, ten or sixteen, or in base sixty with
colons, and underscores may stand between digits. A scalar with a tag can be written in more ways,
but not in all.

## Main definitions

* `Kind`: what a scalar stands for
* `Kind.ofText`: the kind that a plain scalar is written like
* `flag`, `integer`, `float`, `checkDate`: the values of scalars, and the dates of the calendar
-/

namespace SearchIndex.Yaml

/-- What a scalar stands for. -/
inductive Kind where
  | flag
  | float
  | integer
  /-- The key whose value is merged into the mapping. -/
  | merge
  | nothing
  | date
  /-- The key of a default value. -/
  | default
  /-- Bytes in a text. -/
  | binary
  | text
deriving DecidableEq, Repr

namespace Plain

/-! ## Patterns -/

/-- What is left of a text after a pattern, if it starts with it. -/
abbrev Pattern := List Char → Option (List Char)

/-- A character. -/
def one (p : Char → Bool) : Pattern
  | [] => none
  | c :: rest => if p c then some rest else none

/-- Any number of characters. -/
def many (p : Char → Bool) : Pattern := fun cs => some (cs.dropWhile p)

/-- A pattern after another one. -/
def andThen (a b : Pattern) : Pattern := fun cs => (a cs).bind b

/-- Patterns one after the other. -/
def inOrder (ps : List Pattern) : Pattern := ps.foldr andThen some

/-- A pattern, or nothing. -/
def maybe (a : Pattern) : Pattern := fun cs => (a cs).orElse fun _ => some cs

/-- The first of some patterns that fits. -/
def either (ps : List Pattern) : Pattern := fun cs => ps.findSome? fun p => p cs

/-- A text. -/
def word (s : String) : Pattern := Text.afterStart? s.toList

/-- A pattern as often as it fits. -/
def repeated (a : Pattern) : Nat → Pattern
  | 0, cs => some cs
  | fuel + 1, cs =>
    match a cs with
    | some rest => repeated a fuel rest
    | none => some cs

/-- The pattern is the whole text. -/
def fits (a : Pattern) (cs : List Char) : Bool := a cs == some []

/-- The character is one of some. -/
def among (s : String) (c : Char) : Bool := s.toList.contains c

/-- A decimal digit. -/
def digit : Pattern := one Char.isDigit

/-- A sign, or nothing. -/
def sign : Pattern := maybe (one (among "-+"))

/-- Digits with underscores, the first a digit. -/
def digits : Pattern := inOrder [digit, many (among "0123456789_")]

/-- A digit of base sixty after a colon: the number of its decimal digits is one or two. -/
def sixtieth : Pattern :=
  inOrder [word ":", either [inOrder [one (among "012345"), digit], digit]]

/-- Digits of base sixty after colons. -/
def sixtieths (cs : List Char) : Option (List Char) :=
  (sixtieth cs).bind (repeated sixtieth cs.length)

/-- An exponent, or nothing. -/
def exponent : Pattern :=
  maybe (inOrder [one (among "eE"), one (among "-+"), digit, many Char.isDigit])

/-- The patterns of integers. -/
def integers : List Pattern :=
  [inOrder [sign, word "0b", one (among "01_"), many (among "01_")],
    inOrder [sign, word "0", one (among "01234567_"), many (among "01234567_")],
    inOrder [sign, word "0"],
    inOrder [sign, one (among "123456789"), many (among "0123456789_")],
    inOrder [sign, word "0x", one (among "0123456789abcdefABCDEF_"),
      many (among "0123456789abcdefABCDEF_")],
    inOrder [sign, one (among "123456789"), many (among "0123456789_"), sixtieths]]

/-- The patterns of floats. -/
def floats : List Pattern :=
  [inOrder [sign, digits, word ".", many (among "0123456789_"), exponent],
    inOrder [word ".", digits, exponent],
    inOrder [sign, digits, sixtieths, word ".", many (among "0123456789_")],
    inOrder [sign, either [word ".inf", word ".Inf", word ".INF"]],
    either [word ".nan", word ".NaN", word ".NAN"]]

/-- Two digits. -/
def twoDigits : Pattern := inOrder [digit, digit]

/-- One or two digits. -/
def upToTwoDigits : Pattern := inOrder [digit, maybe digit]

/-- Spaces or tabs. -/
def blanks : Pattern := many (among " \t")

/-- The patterns of dates, without and with a time. -/
def dates : List Pattern :=
  [inOrder [twoDigits, twoDigits, word "-", twoDigits, word "-", twoDigits],
    inOrder [twoDigits, twoDigits, word "-", upToTwoDigits, word "-", upToTwoDigits,
      either [one (among "Tt"), inOrder [one (among " \t"), blanks]],
      upToTwoDigits, word ":", twoDigits, word ":", twoDigits,
      maybe (inOrder [word ".", many Char.isDigit]),
      maybe (inOrder [blanks, either [word "Z",
        inOrder [one (among "-+"), upToTwoDigits, maybe (inOrder [word ":", twoDigits])]]])]]

/-- The pattern of a float that has a tag: without a point, or an exponent without a sign. -/
def taggedFloat : Pattern :=
  inOrder [sign,
    either [inOrder [digit, many Char.isDigit, maybe (inOrder [word ".", many Char.isDigit])],
      inOrder [word ".", digit, many Char.isDigit]],
    maybe (inOrder [one (among "eE"), sign, digit, many Char.isDigit])]

/-- The words for truth values. -/
def trueWords : List String := ["yes", "Yes", "YES", "true", "True", "TRUE", "on", "On", "ON"]

/-- The words for truth values that are false. -/
def falseWords : List String :=
  ["no", "No", "NO", "false", "False", "FALSE", "off", "Off", "OFF"]

/-- The words for nothing. -/
def nothingWords : List String := ["", "~", "null", "Null", "NULL"]

end Plain

open Plain

/-- **The kind that a plain scalar is written like.** -/
def Kind.ofText (s : String) : Kind :=
  let cs := s.toList
  if (trueWords ++ falseWords).contains s then .flag
  else if floats.any (fits · cs) then .float
  else if integers.any (fits · cs) then .integer
  else if s = "<<" then .merge
  else if nothingWords.contains s then .nothing
  else if dates.any (fits · cs) then .date
  else if s = "=" then .default
  else .text

namespace Plain

/-! ## Values -/

/-- Whether a minus stands first, and what is after the sign. -/
def unsigned : List Char → Bool × List Char
  | '-' :: cs => (true, cs)
  | '+' :: cs => (false, cs)
  | cs => (false, cs)

/-- The value of a digit in a base. -/
def digitIn? (base : Nat) (c : Char) : Option Nat :=
  ((Text.digitValue? c).orElse fun _ => Scalar.hexDigit? c).filter (· < base)

/-- The digits after the mark of a base, which may stand before them. -/
def withoutMark (base : Nat) : List Char → List Char
  | '0' :: c :: cs =>
    let marked := (base = 2 && among "bB" c) || (base = 8 && among "oO" c) ||
      (base = 16 && among "xX" c)
    if marked then cs else '0' :: c :: cs
  | cs => cs

/-- The integer of digits in a base other than ten. -/
def inBase (base : Nat) (cs : List Char) : Except Fault Int :=
  let (negative, digits) := unsigned (Text.trim Text.isSpacing cs)
  match (withoutMark base digits).mapM (digitIn? base) with
  | some (d :: ds) =>
    let size : Int := ((d :: ds).foldl (fun n d => base * n + d) 0 : Nat)
    .ok (if negative then -size else size)
  | _ => .error (.integer base (String.ofList cs))

/-- The integer of digits in base ten. -/
def inTens (cs : List Char) : Except Fault Int :=
  match Text.readInt? (String.ofList cs) with
  | some n => .ok n
  | none => .error (.integer 10 (String.ofList cs))

/-- The pieces between colons. -/
def sixtiethPieces (cs : List Char) : List (List Char) := Text.splitBy (· == ':') cs

/-- **The integer that a plain scalar stands for.** -/
def integer (s : String) : Except Fault Int := do
  let (negative, cs) := unsigned (s.toList.filter (· ≠ '_'))
  let size ← match cs with
    | [] => throw .noNumber
    | ['0'] => pure 0
    | '0' :: 'b' :: cs => inBase 2 cs
    | '0' :: 'x' :: cs => inBase 16 cs
    -- a zero that more digits follow
    | '0' :: _ => inBase 8 cs
    | cs => do
      let pieces ← (sixtiethPieces cs).mapM inTens
      pure (pieces.foldl (fun n d => 60 * n + d) 0)
  return if negative then -size else size

/-- The float of digits with a point and an exponent. -/
def decimal (negative : Bool) (cs : List Char) : Float :=
  let isExponent (c : Char) : Bool := c = 'e' || c = 'E'
  let whole := cs.takeWhile fun c => c ≠ '.' && !isExponent c
  let fraction := ((cs.dropWhile (· ≠ '.')).drop 1).takeWhile (!isExponent ·)
  let (below, power) := unsigned ((cs.dropWhile (!isExponent ·)).drop 1)
  let number (cs : List Char) : Nat := cs.foldl (fun n c => 10 * n + (c.toNat - 48)) 0
  let exponent : Int := if below then -(number power : Int) else number power
  Decimal.nearestFloat negative ⟨number (whole ++ fraction), exponent - fraction.length⟩

/-- A digit of any decimal system as one of ASCII. -/
def plainDigit (c : Char) : Char := ((Text.digitValue? c).map Nat.digitChar).getD c

/-- The float of digits, or of a word, without colons. -/
def simpleFloat (negative : Bool) (cs : List Char) : Except Fault Float :=
  let (below, size) := unsigned ((Text.trim Text.isSpacing cs).map plainDigit)
  let word := String.ofList size
  let infinity : Float := 1.0 / 0.0
  if word = "inf" || word = "infinity" then .ok (if negative != below then -infinity else infinity)
  else if word = "nan" then .ok (0.0 / 0.0)
  else if fits taggedFloat size && !among "+-" (size.headD ' ') then
    .ok (decimal (negative != below) size)
  else .error (.number (String.ofList cs))

/-- **The float that a plain scalar stands for.** -/
def float (s : String) : Except Fault Float := do
  let given := (Text.lower s).toList.filter (· ≠ '_')
  let (negative, cs) := unsigned given
  if given.isEmpty then throw .noNumber
  else if cs = ".inf".toList then return if negative then -1.0 / 0.0 else 1.0 / 0.0
  else if cs = ".nan".toList then return 0.0 / 0.0
  else
    match sixtiethPieces cs with
    | first :: more@(_ :: _) =>
      let parts ← (first :: more).mapM (simpleFloat false)
      -- The last part counts once, each part before it sixty times the one after.
      let sum := (parts.reverse.foldl (fun (sum, base) part => (sum + part * base, base * 60.0))
        ((0.0 : Float), (1.0 : Float))).1
      return if negative then -1.0 * sum else sum
    | _ => simpleFloat negative cs

/-- **The truth value that a plain scalar stands for.** -/
def flag (s : String) : Except Fault Bool :=
  let word := Text.lower s
  if trueWords.contains word then .ok true
  else if falseWords.contains word then .ok false
  else .error (.word word)

/-- The numbers in a text, one for each run of digits. -/
def numbersIn (cs : List Char) : List Nat :=
  ((Text.splitBy (!·.isDigit) cs).filter (!·.isEmpty)).map fun ds =>
    ds.foldl (fun n c => 10 * n + (c.toNat - 48)) 0

/-- The year has a day more. -/
def isLeap (year : Nat) : Bool := year % 4 = 0 && (year % 100 ≠ 0 || year % 400 = 0)

/-- The number of days of a month. -/
def daysIn (year month : Nat) : Nat :=
  if month = 2 then if isLeap year then 29 else 28
  else if [4, 6, 9, 11].contains month then 30
  else 31

/-- **The date is one of the calendar**, and its time one of a day. -/
def checkDate (s : String) : Except Fault Unit := do
  if !dates.any (fits · s.toList) then throw .noDate
  match numbersIn s.toList with
  | year :: month :: day :: time =>
    if year = 0 then throw (.date .year)
    if month = 0 ∨ 12 < month then throw (.date .month)
    if day = 0 ∨ daysIn year month < day then throw (.date .day)
    match time with
    | hour :: minute :: second :: _ =>
      if 23 < hour then throw (.date .hour)
      if 59 < minute then throw (.date .minute)
      if 59 < second then throw (.date .second)
    | _ => return ()
  | _ => return ()

end Plain

/-- **The value of a scalar of a kind.** -/
def Kind.read (k : Kind) (s : String) : Except Fault Config.Tree :=
  match k with
  | .flag => (Plain.flag s).map .bool
  | .float => (Plain.float s).map .float
  | .integer => (Plain.integer s).map .int
  | .nothing => .ok .null
  | .date => (Plain.checkDate s).map fun _ => .other s
  | .binary => .ok (.other s)
  | .text => .ok (.text s)
  | .merge | .default => .error .content

end SearchIndex.Yaml
