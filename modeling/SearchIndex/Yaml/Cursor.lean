/-!
# Places in a text

A cursor stands before the rest of a text and knows its line and column. A line ends at a line
feed, at a next-line character, or at a line or paragraph separator. The end of the text shows as
the character with the number zero, which no document holds.

## Main definitions

* `Cursor`: the rest of a text, and where it starts
* `Cursor.char`, `Cursor.charAt`: the next character, and one further on
* `Cursor.skip n`: the cursor some characters further on
* `Cursor.run p`: the characters ahead that satisfy `p`
* `isBreak`, `isEnd`, `isSpace`: the characters that end lines, and those that end words

## Main results

* `rest_skip`: skipping drops characters
* `length_run_le`: a run is no longer than what is ahead
-/

namespace SearchIndex.Yaml

/-- What stands for the end of a text. -/
def endMark : Char := '\x00'

/-- The character ends a line. -/
def isBreak (c : Char) : Bool := c = '\n' || c = '\x85' || c = '\u2028' || c = '\u2029'

/-- The character ends a line or the text. -/
def isEnd (c : Char) : Bool := isBreak c || c = endMark

/-- The character is a space, or ends a line or the text. -/
def isGap (c : Char) : Bool := c = ' ' || isEnd c

/-- The character ends a word: it is a gap or a tab. -/
def isSpace (c : Char) : Bool := c = '\t' || isGap c

/-- The rest of a text, and where it starts. -/
structure Cursor where
  rest : List Char
  index : Nat := 0
  line : Nat := 0
  column : Nat := 0
deriving Repr, Inhabited

namespace Cursor

/-- The next character. -/
def char (c : Cursor) : Char := c.rest.headD endMark

/-- The character some places further on. -/
def charAt (c : Cursor) (n : Nat) : Char := (c.rest.drop n).headD endMark

/-- The cursor after the next character. -/
def next (c : Cursor) : Cursor :=
  match c.rest with
  | [] => c
  | x :: rest =>
    if isBreak x then ⟨rest, c.index + 1, c.line + 1, 0⟩
    else ⟨rest, c.index + 1, c.line, if x = '\ufeff' then c.column else c.column + 1⟩

/-- The cursor some characters further on. -/
def skip : Nat → Cursor → Cursor
  | 0, c => c
  | n + 1, c => skip n c.next

theorem rest_next (c : Cursor) : c.next.rest = c.rest.drop 1 := by
  rcases h : c.rest with _ | ⟨x, rest⟩
  · simp [next, h]
  · by_cases hx : isBreak x <;> simp [next, h, hx]

theorem rest_skip (n : Nat) (c : Cursor) : (c.skip n).rest = c.rest.drop n := by
  induction n generalizing c with
  | zero => rfl
  | succ n ih => rw [skip, ih, rest_next, List.drop_drop, Nat.add_comm]

/-- **The characters ahead that satisfy `p`**, and the cursor after them. -/
def run (p : Char → Bool) (c : Cursor) : List Char × Cursor :=
  let found := c.rest.takeWhile p
  (found, c.skip found.length)

theorem length_run_le (p : Char → Bool) (c : Cursor) : (c.run p).1.length ≤ c.rest.length :=
  (List.takeWhile_sublist p).length_le

/-- The cursor after the characters that satisfy `p`. -/
def past (p : Char → Bool) (c : Cursor) : Cursor := (c.run p).2

/-- The cursor after a line's end, and what the end counts as: a line feed, except for the
separators. -/
def lineBreak? (c : Cursor) : Option (Char × Cursor) :=
  if isBreak c.char then
    some (if c.char = '\x85' then '\n' else c.char, c.next)
  else none

/-- The cursor after a comment, if there is one. -/
def pastComment (c : Cursor) : Cursor := if c.char = '#' then c.past (!isEnd ·) else c

/-- Three marks stand ahead as a word of their own. -/
def atMarks (mark : Char) (c : Cursor) : Bool :=
  c.rest.take 3 = [mark, mark, mark] && isSpace (c.charAt 3)

/-- The line ahead divides documents. -/
def atDivider (c : Cursor) : Bool := c.atMarks '-' || c.atMarks '.'

end Cursor

end SearchIndex.Yaml
