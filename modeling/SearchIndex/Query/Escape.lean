import SearchIndex.Text.Pieces
import SearchIndex.Value.Text

/-!
# Escaping inside quoted literals

A quoted literal ends at the first single quote that no backslash escapes. A text is made safe by
doubling its backslashes first and then putting a backslash before each quote; values that are not
texts need no escaping.

## Main definitions

* `escapeChars cs`: a text as it stands between single quotes
* `escape v`: a value with its text escaped
* `scalarText v`: the text of a value in a query, truth values in lower case

## Main results

* `escape_of_not_text`: values that are not texts are unchanged
-/

namespace SearchIndex.Query

/-- A text as it stands between single quotes: backslashes doubled, then quotes escaped. -/
def escapeChars (cs : List Char) : List Char :=
  Text.replaceChar '\'' ['\\', '\''] (Text.replaceChar '\\' ['\\', '\\'] cs)

/-- An escaped text. -/
def escapeText (s : String) : String := String.ofList (escapeChars s.toList)

/-- A value with its text escaped. -/
def escape : Value → Value
  | .text s => .text (escapeText s)
  | v => v

theorem escape_of_not_text {v : Value} (h : ∀ s, v ≠ .text s) : escape v = v := by
  cases v with
  | text s => exact absurd rfl (h s)
  | _ => rfl

/-- The text of a value in a query. -/
def scalarText : Value → String
  | .bool b => if b then "true" else "false"
  | v => v.plain

end SearchIndex.Query
