import SearchIndex.Text.Quoted
import SearchIndex.Value.Basic

/-!
# Writing data values as JSON

A value is written on one line, and every key of a map as a text. Two things vary: the marks after
items and keys, and whether characters outside ASCII are written raw or escaped as the units of
their UTF-16 form.

## Main definitions

* `Json.Style`: the marks and the treatment of characters
* `Json.compact`, `Json.compactAscii`, `Json.spaced`: the three styles in use
* `Json.write style v`: the text of a value

## Main results

* `escapedChar_length_pos`: every character is written as at least one
-/

namespace SearchIndex.Json

/-- How values are written. -/
structure Style where
  /-- The mark between the items of a list or a map. -/
  itemMark : String
  /-- The mark between a key and its value. -/
  keyMark : String
  /-- Characters outside the printable ASCII ones are escaped. -/
  ascii : Bool

/-- No blanks, other characters raw. -/
def compact : Style := ⟨",", ":", false⟩

/-- No blanks, other characters escaped. -/
def compactAscii : Style := ⟨",", ":", true⟩

/-- A blank after each mark, other characters escaped. -/
def spaced : Style := ⟨", ", ": ", true⟩

/-- The escape of a UTF-16 unit. -/
def unitEscape (n : Nat) : List Char := '\\' :: 'u' :: Text.hexChars 4 n

/-- The escapes of the UTF-16 units of a character. -/
def unitEscapes (c : Char) : List Char :=
  if c.toNat < 0x10000 then unitEscape c.toNat
  else
    let offset := c.toNat - 0x10000
    unitEscape (0xd800 + offset / 0x400) ++ unitEscape (0xdc00 + offset % 0x400)

/-- A character inside a JSON string. -/
def escapedChar (ascii : Bool) (c : Char) : List Char :=
  if c = '"' ∨ c = '\\' then ['\\', c]
  else if c = '\n' then ['\\', 'n']
  else if c = '\r' then ['\\', 'r']
  else if c = '\t' then ['\\', 't']
  else if c.toNat = 8 then ['\\', 'b']
  else if c.toNat = 12 then ['\\', 'f']
  else if c.toNat < 32 ∨ (ascii ∧ 126 < c.toNat) then unitEscapes c
  else [c]

theorem escapedChar_length_pos (ascii : Bool) (c : Char) : 0 < (escapedChar ascii c).length := by
  unfold escapedChar unitEscapes unitEscape
  repeat' split
  all_goals simp

/-- A text as a JSON string. -/
def writeText (ascii : Bool) (s : String) : String :=
  String.ofList ('"' :: s.toList.flatMap (escapedChar ascii) ++ ['"'])

/-- A float as a JSON number, or as one of three words. -/
def writeFloat (x : Float) : String :=
  match Binary64.read x with
  | .notANumber => "NaN"
  | .infinite negative => if negative then "-Infinity" else "Infinity"
  | .finite value => Decimal.signedText value

/-- The text of a key: of a number or nothing what is written for it. -/
def keyText : Value.Key → String
  | .text s => s
  | .number (.int n) => Decimal.intText n
  | .number (.float x) => writeFloat x
  | .number (.flag b) => if b then "true" else "false"
  | .nothing => "null"

mutual

/-- **The text of a value.** -/
def write (style : Style) : Value → String
  | .null => "null"
  | .bool b => if b then "true" else "false"
  | .int n => Decimal.intText n
  | .float x => writeFloat x
  | .text s => writeText style.ascii s
  | .list items => "[" ++ style.itemMark.intercalate (writeItems style items) ++ "]"
  | .map entries => "\x7b" ++ style.itemMark.intercalate (writeEntries style entries) ++ "\x7d"
termination_by structural v => v

/-- The texts of the items of a list. -/
def writeItems (style : Style) : List Value → List String
  | [] => []
  | v :: vs => write style v :: writeItems style vs
termination_by structural vs => vs

/-- The text of an entry of a map. -/
def writeEntry (style : Style) : Value.Key × Value → String
  | (key, v) => writeText style.ascii (keyText key) ++ style.keyMark ++ write style v
termination_by structural e => e

/-- The texts of the entries of a map. -/
def writeEntries (style : Style) : List (Value.Key × Value) → List String
  | [] => []
  | e :: es => writeEntry style e :: writeEntries style es
termination_by structural es => es

end

end SearchIndex.Json
