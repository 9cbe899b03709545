import SearchIndex.Text.Digit
import SearchIndex.Value.Basic

/-!
# Reading JSON

A text is read as a value: numbers without a point or exponent are integers of any size, the words
for not-a-number and the infinities are accepted, and of a key given twice the last value counts,
at the place of the first.

Reading walks the remaining characters. Every nested value takes at least one of them, so the
length of the text bounds the depth. Lists and maps that lie too deep in each other are refused; how
deep is too deep is for the place where the program runs to say, as long as it lets three of them
lie in each other.

## Main definitions

* `Json.Limits`: how deep lists and maps may lie in each other
* `Json.Fault`: what was expected, and where, or what is too deep
* `Json.read s`: the value of a text
* `Json.isBlank c`: the white space of JSON

## Main results

* `skipBlank_idem`: skipping white space twice is skipping it once
-/

namespace SearchIndex.Json

/-- How deep lists and maps may lie in each other in a text that is read, which is for the place
where the program runs to say. -/
class Limits where
  depth : Nat
  /-- The texts that a request is compiled into are never too deep. -/
  three_le_depth : 3 ≤ depth

theorem Limits.exists_depth_eq [Limits] : ∃ more, Limits.depth = more + 3 :=
  Nat.exists_eq_add_of_le' three_le_depth

/-- The depth that is usual. -/
@[reducible]
def Limits.usual : Limits := ⟨985, by decide⟩

/-- What is wrong with a text. -/
inductive Fault where
  /-- It is not written like a value, as is noticed with so many characters left. -/
  | malformed (reason : String) (left : Nat)
  /-- A list or a map lies too deep in others. -/
  | tooDeep (what : String)
deriving DecidableEq, Repr

/-- The message about a fault in a text: what is wrong, and where if it is not written like a value:
its line, its column and its offset. -/
def Fault.message (s : String) : Fault → String
  | .malformed reason left =>
    let cs := s.toList
    let before := cs.take (cs.length - left)
    let line := before.count '\n' + 1
    let column := (before.reverse.takeWhile (· ≠ '\n')).length + 1
    s!"{reason}: line {line} column {column} (char {before.length})"
  | .tooDeep what =>
    s!"maximum recursion depth exceeded while decoding a JSON {what} from a unicode string"

/-- A fault at the start of the remaining characters. -/
def expected {α : Type} (reason : String) (cs : List Char) : Except Fault α :=
  .error (.malformed reason cs.length)

/-- The character is white space of JSON. -/
def isBlank (c : Char) : Bool := c == ' ' || c == '\t' || c == '\n' || c == '\r'

/-- The text without the white space at its start. -/
def skipBlank (cs : List Char) : List Char := cs.dropWhile isBlank

theorem skipBlank_idem (cs : List Char) : skipBlank (skipBlank cs) = skipBlank cs :=
  Text.dropWhile_idem isBlank cs

/-! ## Strings -/

/-- The value of a digit of base sixteen. -/
def hexValue? (c : Char) : Option Nat :=
  if '0' ≤ c ∧ c ≤ '9' then some (c.toNat - 48)
  else if 'a' ≤ c ∧ c ≤ 'f' then some (c.toNat - 87)
  else if 'A' ≤ c ∧ c ≤ 'F' then some (c.toNat - 55)
  else none

/-- The UTF-16 unit that four digits stand for. -/
def readUnit? : List Char → Option (Nat × List Char)
  | a :: b :: c :: d :: rest => do
    let a ← hexValue? a
    let b ← hexValue? b
    let c ← hexValue? c
    let d ← hexValue? d
    return (((a * 16 + b) * 16 + c) * 16 + d, rest)
  | _ => none

/-- The character of a single-letter escape. -/
def shortEscape? : Char → Option Char
  | '"' => some '"'
  | '\\' => some '\\'
  | '/' => some '/'
  | 'b' => some (Char.ofNat 8)
  | 'f' => some (Char.ofNat 12)
  | 'n' => some '\n'
  | 'r' => some '\r'
  | 't' => some '\t'
  | _ => none

/-- The unit of the low half of a pair, if an escape of one follows. -/
def lowHalf? : List Char → Option (Nat × List Char)
  | '\\' :: 'u' :: cs =>
    (readUnit? cs).filter fun (n, _) => 0xdc00 ≤ n ∧ n ≤ 0xdfff
  | _ => none

/-- The characters of a string after its opening quote, `opening` characters from the end of the
text; `fuel` bounds their number. -/
def readString (opening : Nat) : Nat → List Char → Except Fault (List Char × List Char)
  | 0, _ => .error (.malformed "Unterminated string starting at" opening)
  | fuel + 1, cs =>
    let more (c : Char) (rest : List Char) : Except Fault (List Char × List Char) := do
      let (tail, rest) ← readString opening fuel rest
      return (c :: tail, rest)
    match cs with
    | [] => .error (.malformed "Unterminated string starting at" opening)
    | '"' :: rest => .ok ([], rest)
    | ['\\'] => .error (.malformed "Unterminated string starting at" opening)
    | '\\' :: 'u' :: rest =>
      match readUnit? rest with
      | none => expected "Invalid \\uXXXX escape" ('u' :: rest)
      | some (high, after) =>
        -- A high half and a low half are one character; a half alone has no character.
        if 0xd800 ≤ high ∧ high ≤ 0xdbff then
          match lowHalf? after with
          | some (low, after) =>
            more (Char.ofNat (0x10000 + (high - 0xd800) * 0x400 + (low - 0xdc00))) after
          | none => more (Char.ofNat 0xfffd) after
        else if 0xdc00 ≤ high ∧ high ≤ 0xdfff then more (Char.ofNat 0xfffd) after
        else more (Char.ofNat high) after
    | '\\' :: e :: rest =>
      match shortEscape? e with
      | some c => more c rest
      | none => expected "Invalid \\escape" ('\\' :: e :: rest)
    | c :: rest =>
      if c.toNat < 32 then expected "Invalid control character at" (c :: rest) else more c rest

/-- The string after an opening quote. -/
def readText (cs : List Char) : Except Fault (String × List Char) := do
  let (chars, rest) ← readString (cs.length + 1) (cs.length + 1) cs
  return (String.ofList chars, rest)

/-! ## Numbers and words -/

/-- The digits at the start of a text. -/
def leadingDigits (cs : List Char) : List Char := cs.takeWhile Char.isDigit

/-- The natural number that digits stand for. -/
def natOfDigits (ds : List Char) : Nat := ds.foldl (fun n d => 10 * n + (d.toNat - 48)) 0

/-- The digits of an exponent with its sign, and what follows it. -/
def readExponent? : List Char → Option (Int × List Char)
  | e :: cs =>
    if e = 'e' ∨ e = 'E' then
      let (negative, cs) := match cs with
        | '-' :: rest => (true, rest)
        | '+' :: rest => (false, rest)
        | cs => (false, cs)
      match leadingDigits cs with
      | [] => none
      | ds =>
        let n : Int := natOfDigits ds
        some (if negative then -n else n, cs.drop ds.length)
    else none
  | [] => none

/-- The digits after a point, and what follows them. -/
def readFraction? : List Char → Option (List Char × List Char)
  | '.' :: cs =>
    match leadingDigits cs with
    | [] => none
    | ds => some (ds, cs.drop ds.length)
  | _ => none

/-- An integer by its digits. -/
def integerOf (negative : Bool) (digits : List Char) : Value :=
  let n : Int := natOfDigits digits
  .int (if negative then -n else n)

/-- A number without its sign: an integer, or a float if it has a point or an exponent. -/
def readNumber? (negative : Bool) (cs : List Char) : Option (Value × List Char) :=
  -- A zero stands alone before the point.
  let whole := match cs with
    | '0' :: _ => ['0']
    | cs => leadingDigits cs
  if whole.isEmpty then none
  else
    let afterWhole := cs.drop whole.length
    let (fraction, afterFraction) := (readFraction? afterWhole).getD ([], afterWhole)
    let exponent := readExponent? afterFraction
    let (power, rest) := exponent.getD (0, afterFraction)
    if fraction.isEmpty && exponent.isNone then
      -- neither a point nor an exponent: an integer
      some (integerOf negative whole, rest)
    else
      -- The places after the point are taken off the exponent.
      let digits := natOfDigits (whole ++ fraction)
      some (.float (Decimal.nearestFloat negative ⟨digits, power - fraction.length⟩), rest)

/-- A value that is a word or a number. -/
def readPlain (cs : List Char) : Except Fault (Value × List Char) :=
  let word (w : String) (v : Value) : Option (Value × List Char) :=
    if w.toList.isPrefixOf cs then some (v, cs.drop w.length) else none
  let found :=
    word "null" .null <|> word "true" (.bool true) <|> word "false" (.bool false) <|>
    word "NaN" (.float (0.0 / 0.0)) <|> word "Infinity" (.float (1.0 / 0.0)) <|>
    word "-Infinity" (.float (-1.0 / 0.0)) <|>
    match cs with
    | '-' :: rest => readNumber? true rest
    | cs => readNumber? false cs
  match found with
  | some found => .ok found
  | none => expected "Expecting value" cs

/-! ## Values -/

mutual

/-- A value, with `depth` more lists and maps allowed in each other; `fuel` bounds the steps. -/
def readValue : Nat → Nat → List Char → Except Fault (Value × List Char)
  | 0, _, cs => expected "Expecting value" cs
  | fuel + 1, depth, cs =>
    match cs, depth with
    | '"' :: rest, _ => do
      let (s, rest) ← readText rest
      return (.text s, rest)
    | '[' :: _, 0 => .error (.tooDeep "array")
    | '[' :: rest, depth + 1 =>
      match skipBlank rest with
      | ']' :: rest => .ok (.list [], rest)
      | rest => do
        let (items, rest) ← readItems fuel depth rest
        return (.list items, rest)
    | '\x7b' :: _, 0 => .error (.tooDeep "object")
    | '\x7b' :: rest, depth + 1 =>
      match skipBlank rest with
      | '\x7d' :: rest => .ok (.map [], rest)
      | rest => do
        let (entries, rest) ← readEntries fuel depth rest
        return (.map ((Keyed.ofList entries).map fun (key, v) => (.text key, v)), rest)
    | cs, _ => readPlain cs

/-- The items of a list up to its closing bracket. -/
def readItems : Nat → Nat → List Char → Except Fault (List Value × List Char)
  | 0, _, cs => expected "Expecting value" cs
  | fuel + 1, depth, cs => do
    let (v, rest) ← readValue fuel depth cs
    match skipBlank rest with
    | ']' :: rest => return ([v], rest)
    | ',' :: rest => do
      let (vs, rest) ← readItems fuel depth (skipBlank rest)
      return (v :: vs, rest)
    | rest => expected "Expecting ',' delimiter" rest

/-- The entries of a map up to its closing brace. -/
def readEntries : Nat → Nat → List Char → Except Fault (List (String × Value) × List Char)
  | 0, _, cs => expected "Expecting value" cs
  | fuel + 1, depth, cs =>
    match cs with
    | '"' :: rest => do
      let (key, rest) ← readText rest
      match skipBlank rest with
      | ':' :: rest => do
        let (v, rest) ← readValue fuel depth (skipBlank rest)
        match skipBlank rest with
        | '\x7d' :: rest => return ([(key, v)], rest)
        | ',' :: rest => do
          let (es, rest) ← readEntries fuel depth (skipBlank rest)
          return ((key, v) :: es, rest)
        | rest => expected "Expecting ',' delimiter" rest
      | rest => expected "Expecting ':' delimiter" rest
    | cs => expected "Expecting property name enclosed in double quotes" cs

end

/-- The text does not start with a byte order mark. -/
def checkStart : List Char → Except Fault Unit
  | '\ufeff' :: cs => expected "Unexpected UTF-8 BOM (decode using utf-8-sig)" ('\ufeff' :: cs)
  | _ => .ok ()

/-- **The value of a text.** -/
def read [Limits] (s : String) : Except Fault Value := do
  let cs := s.toList
  checkStart cs
  let (v, rest) ← readValue (2 * cs.length + 2) Limits.depth (skipBlank cs)
  match skipBlank rest with
  | [] => return v
  | rest => expected "Extra data" rest

end SearchIndex.Json
