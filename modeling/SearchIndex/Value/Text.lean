import SearchIndex.Text.Quoted
import SearchIndex.Value.Basic

/-!
# Data values as text

A text stands for itself, any other value is written out: nothing and truth values as words,
numbers in decimal, lists in brackets and maps in braces, the texts inside between quotes.

## Main definitions

* `Value.shown v`: the value written out, texts between quotes
* `Value.plain v`: the value as text, a text being itself

## Main results

* `Value.shown_ofKey`: a key is written out as its value is
* `Value.plain_text`: a text is itself
* `Value.plain_of_number`: a number is its decimal text
-/

namespace SearchIndex.Value

/-- A key written out. -/
def Key.shown : Key → String
  | .text s => Text.quote s
  | .number n => n.text
  | .nothing => "None"

mutual

/-- A value written out. -/
def shown : Value → String
  | .null => "None"
  | .bool b => (Number.flag b).text
  | .int n => (Number.int n).text
  | .float x => (Number.float x).text
  | .text s => Text.quote s
  | .list items => "[" ++ ", ".intercalate (shownItems items) ++ "]"
  | .map entries => "\x7b" ++ ", ".intercalate (shownEntries entries) ++ "\x7d"
termination_by structural v => v

/-- The items of a list written out. -/
def shownItems : List Value → List String
  | [] => []
  | v :: vs => v.shown :: shownItems vs
termination_by structural vs => vs

/-- An entry of a map written out. -/
def shownEntry : Key × Value → String
  | (key, v) => key.shown ++ ": " ++ v.shown
termination_by structural e => e

/-- The entries of a map written out. -/
def shownEntries : List (Key × Value) → List String
  | [] => []
  | e :: es => shownEntry e :: shownEntries es
termination_by structural es => es

end

/-- **A value as text.** -/
def plain : Value → String
  | .text s => s
  | v => v.shown

theorem plain_text (s : String) : plain (.text s) = s := rfl

theorem shown_ofKey (k : Key) : (ofKey k).shown = k.shown := by
  cases k with
  | number n => cases n <;> rfl
  | text | nothing => rfl

theorem plain_of_number (n : Number) : plain (ofNumber n) = n.text := by
  cases n <;> rfl

end SearchIndex.Value
