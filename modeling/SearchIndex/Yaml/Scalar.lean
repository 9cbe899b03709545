import SearchIndex.Yaml.Cursor
import SearchIndex.Yaml.Fault

/-!
# Scalars in a text

A scalar is written plainly, between quotes, or as a block of indented lines. Over the end of a
line a scalar goes on: a single line feed counts as a space, and of more the first is dropped.

## Main definitions

* `Scalar.plain flow indent c`: the plain scalar ahead
* `Scalar.quoted double c`: the scalar ahead between quotes
* `Scalar.block folded indent c`: the scalar of the block ahead

## Main results

* `plainWord_sublist`: a word of a plain scalar stands ahead
-/

namespace SearchIndex.Yaml.Scalar

/-- What the end of a line and the ends of blank lines after it count as. -/
def joinLines (first : Char) (more : List Char) : List Char :=
  if first ≠ '\n' then first :: more
  else if more.isEmpty then [' ']
  else more

/-- The character divides items in brackets or is a bracket. -/
def isBracket (c : Char) : Bool := c ∈ [',', '[', ']', '{', '}']

/-! ## Plain scalars -/

/-- The word of a plain scalar ahead; in brackets it ends at brackets, commas and question marks
too. -/
def plainWord (flow : Bool) : List Char → List Char
  | [] => []
  | c :: rest =>
    let next := rest.headD endMark
    if isSpace c || (c = ':' && (isSpace next || (flow && isBracket next))) ||
        (flow && (isBracket c || c = '?')) then []
    else c :: plainWord flow rest

theorem plainWord_sublist (flow : Bool) (cs : List Char) : (plainWord flow cs).Sublist cs := by
  induction cs with
  | nil => exact .slnil
  | cons c rest ih =>
    simp only [plainWord]
    split
    · exact List.nil_sublist _
    · exact ih.cons_cons c

/-- The ends of the blank lines ahead, unless a divider comes. -/
def plainBlankLines : Nat → Cursor → Option (List Char) × Cursor
  | 0, c => (some [], c)
  | fuel + 1, c =>
    if c.char = ' ' then plainBlankLines fuel c.next
    else
      match c.lineBreak? with
      | none => (some [], c)
      | some (b, c) =>
        if c.atDivider then (none, c)
        else
          let (more, c) := plainBlankLines fuel c
          (more.map (b :: ·), c)

/-- What is between two words of a plain scalar: nothing if the scalar ends, whether a line ended,
and where the next word may start. -/
def plainGap (c : Cursor) : List Char × Bool × Cursor :=
  let (blanks, c) := c.run (· = ' ')
  match c.lineBreak? with
  | none => (blanks, false, c)
  | some (b, c) =>
    if c.atDivider then ([], true, c)
    else
      match plainBlankLines (c.rest.length + 1) c with
      | (none, c) => ([], true, c)
      | (some more, c) => (joinLines b more, true, c)

/-- The words of a plain scalar, with what is between them. -/
def plainFrom (flow : Bool) (indent : Int) : Nat → List Char → Bool → Cursor →
    List Char × Bool × Cursor
  | 0, _, lineEnded, c => ([], lineEnded, c)
  | fuel + 1, gap, lineEnded, c =>
    let word := if c.char = '#' then [] else plainWord flow c.rest
    if word.isEmpty then ([], lineEnded, c)
    else
      let (gap', lineEnded, c) := plainGap (c.skip word.length)
      let text := gap ++ word
      -- The next word may be missing, a comment, or too far to the left.
      if gap'.isEmpty || c.char = '#' || (!flow && c.column < indent) then (text, lineEnded, c)
      else
        let (more, lineEnded, c) := plainFrom flow indent fuel gap' lineEnded c
        (text ++ more, lineEnded, c)

/-- **The plain scalar ahead**: its text, whether it ended with a line, and where it ended. -/
def plain (flow : Bool) (indent : Int) (c : Cursor) : String × Bool × Cursor :=
  let (text, lineEnded, c) := plainFrom flow indent (c.rest.length + 1) [] false c
  (String.ofList text, lineEnded, c)

/-! ## Scalars between quotes -/

/-- What a character after a backslash stands for. -/
def escapes : List (Char × Char) :=
  [('0', '\x00'), ('a', '\x07'), ('b', '\x08'), ('t', '\t'), ('\t', '\t'), ('n', '\n'),
    ('v', '\x0b'), ('f', '\x0c'), ('r', '\r'), ('e', '\x1b'), (' ', ' '), ('"', '"'),
    ('\\', '\\'), ('/', '/'), ('N', '\x85'), ('_', '\u00a0'), ('L', '\u2028'), ('P', '\u2029')]

/-- The number of digits of a code point after a backslash and a letter. -/
def codeWidth? : Char → Option Nat
  | 'x' => some 2
  | 'u' => some 4
  | 'U' => some 8
  | _ => none

/-- The value of a hexadecimal digit. -/
def hexDigit? (c : Char) : Option Nat :=
  if '0' ≤ c ∧ c ≤ '9' then some (c.toNat - 48)
  else if 'a' ≤ c ∧ c ≤ 'f' then some (c.toNat - 87)
  else if 'A' ≤ c ∧ c ≤ 'F' then some (c.toNat - 55)
  else none

/-- The number of some hexadecimal digits. -/
def hexNumber? (cs : List Char) : Option Nat :=
  cs.foldlM (fun n c => (hexDigit? c).map fun d => 16 * n + d) 0

/-- The ends of the blank lines ahead between quotes, where no divider may come. -/
def quotedBlankLines : Nat → Cursor → Except Fault (List Char × Cursor)
  | 0, c => .ok ([], c)
  | fuel + 1, c =>
    if c.atDivider then .error .token
    else
      let c := c.past fun x => x = ' ' || x = '\t'
      match c.lineBreak? with
      | none => .ok ([], c)
      | some (b, c) => do
        let (more, c) ← quotedBlankLines fuel c
        return (b :: more, c)

/-- What a backslash and what is after it stand for. -/
def escaped (c : Cursor) : Except Fault (List Char × Cursor) := do
  match escapes.lookup c.char with
  | some x => return ([x], c.next)
  | none =>
    match codeWidth? c.char with
    | some width =>
      let digits := c.next.rest.take width
      match hexNumber? digits with
      | some n =>
        if digits.length < width then throw .token
        if 0x110000 ≤ n then throw .codePoint
        return ([Char.ofNat n], c.next.skip width)
      | none => throw .token
    | none =>
      match c.lineBreak? with
      -- A backslash at the end of a line joins it to the next.
      | some (_, c) => quotedBlankLines (c.rest.length + 1) c
      | none => throw .token

/-- The text up to the closing quote. -/
def quotedFrom (double : Bool) : Nat → Cursor → Except Fault (List Char × Cursor)
  | 0, _ => .error .token
  | fuel + 1, c => do
    let quote := if double then '"' else '\''
    let x := c.char
    if x = quote then
      -- Between single quotes a quote is written twice.
      if !double && c.charAt 1 = quote then
        let (more, c) ← quotedFrom double fuel (c.skip 2)
        return (quote :: more, c)
      return ([], c.next)
    if double && x = '\\' then
      let (found, c) ← escaped c.next
      let (more, c) ← quotedFrom double fuel c
      return (found ++ more, c)
    if isSpace x then
      -- Blanks count only within a line.
      let (blanks, c) := c.run fun x => x = ' ' || x = '\t'
      if c.char = endMark then throw .token
      match c.lineBreak? with
      | some (b, c) =>
        let (lines, c) ← quotedBlankLines (c.rest.length + 1) c
        let (more, c) ← quotedFrom double fuel c
        return (joinLines b lines ++ more, c)
      | none =>
        let (more, c) ← quotedFrom double fuel c
        return (blanks ++ more, c)
    let (more, c) ← quotedFrom double fuel c.next
    return (x :: more, c)

/-- **The scalar ahead between quotes**, and where it ended. -/
def quoted (double : Bool) (c : Cursor) : Except Fault (String × Cursor) := do
  let (text, c) ← quotedFrom double (c.rest.length + 1) c.next
  return (String.ofList text, c)

/-! ## Blocks of lines -/

/-- What happens to the line feeds at the end of a block. -/
inductive Chomping where
  | clip
  | strip
  | keep
deriving DecidableEq, Repr

/-- The chomping that a character asks for. -/
def Chomping.of? : Char → Option Chomping
  | '+' => some .keep
  | '-' => some .strip
  | _ => none

/-- The depth of indentation that a character asks for. -/
def depthOf? (c : Char) : Except Fault (Option Nat) :=
  if c = '0' then .error .token
  else if '1' ≤ c ∧ c ≤ '9' then .ok (some (c.toNat - 48))
  else .ok none

/-- The chomping and the depth that a block asks for, in either order. -/
def header (c : Cursor) : Except Fault (Chomping × Option Nat × Cursor) := do
  let after (c : Cursor) (chomping : Chomping) (depth : Option Nat) :
      Except Fault (Chomping × Option Nat × Cursor) :=
    if isGap c.char then .ok (chomping, depth, c) else .error .token
  match Chomping.of? c.char with
  | some chomping =>
    match ← depthOf? c.next.char with
    | some depth => after (c.skip 2) chomping (some depth)
    | none => after c.next chomping none
  | none =>
    match ← depthOf? c.char with
    | some depth =>
      match Chomping.of? c.next.char with
      | some chomping => after (c.skip 2) chomping (some depth)
      | none => after c.next .clip (some depth)
    | none => after c .clip none

/-- The cursor after the rest of a line that holds only spaces and a comment. -/
def restOfLine (c : Cursor) : Except Fault Cursor :=
  let c := (c.past (· = ' ')).pastComment
  if isEnd c.char then .ok ((c.lineBreak?.map Prod.snd).getD c) else .error .token

/-- The ends of the blank lines ahead, and the depth of the deepest of them. -/
def deepest : Nat → Nat → Cursor → List Char × Nat × Cursor
  | 0, depth, c => ([], depth, c)
  | fuel + 1, depth, c =>
    if c.char = ' ' then deepest fuel (max depth c.next.column) c.next
    else
      match c.lineBreak? with
      | none => ([], depth, c)
      | some (b, c) =>
        let (more, depth, c) := deepest fuel depth c
        (b :: more, depth, c)

/-- The cursor after the spaces up to a depth. -/
def pastIndent (depth : Nat) (c : Cursor) : Cursor :=
  c.skip (min (depth - c.column) (c.rest.takeWhile (· = ' ')).length)

/-- The ends of the blank lines ahead up to a depth. -/
def blankLines (depth : Nat) : Nat → Cursor → List Char × Cursor
  | 0, c => ([], c)
  | fuel + 1, c =>
    let c := pastIndent depth c
    match c.lineBreak? with
    | none => ([], c)
    | some (b, c) =>
      let (more, c) := blankLines depth fuel c
      (b :: more, c)

/-- The lines of a block, after the ends of blank lines; with them the end of the last line and of
the blank lines after it. -/
def blockFrom (folded : Bool) (depth : Nat) : Nat → List Char → Cursor →
    List Char × List Char × List Char × Cursor
  | 0, _, c => ([], [], [], c)
  | fuel + 1, before, c =>
    if c.column = depth && c.char ≠ endMark then
      let starts := c.char ≠ ' ' && c.char ≠ '\t'
      let (line, c) := c.run (!isEnd ·)
      let (ended, c) : List Char × Cursor := match c.lineBreak? with
        | some (b, c) => ([b], c)
        | none => ([], c)
      let (breaks, c) := blankLines depth (c.rest.length + 1) c
      if c.column = depth && c.char ≠ endMark then
        let between :=
          -- Two lines are folded into one unless either of them starts with a blank.
          if folded && ended = ['\n'] && starts && c.char ≠ ' ' && c.char ≠ '\t' then
            if breaks.isEmpty then [' '] else []
          else ended
        let (more, ended, breaks, c) := blockFrom folded depth fuel breaks c
        (before ++ line ++ between ++ more, ended, breaks, c)
      else (before ++ line, ended, breaks, c)
    else ([], [], before, c)

/-- **The scalar of the block ahead**, inside something indented by `indent`, and where it
ended. -/
def block (folded : Bool) (indent : Int) (c : Cursor) : Except Fault (String × Cursor) := do
  let (chomping, asked, c) ← header c.next
  let c ← restOfLine c
  let least := (max 1 (indent + 1)).toNat
  let (breaks, depth, c) : List Char × Nat × Cursor := match asked with
    | none =>
      let (breaks, depth, c) := deepest (c.rest.length + 1) 0 c
      (breaks, max least depth, c)
    | some extra =>
      let depth := least + extra - 1
      let (breaks, c) := blankLines depth (c.rest.length + 1) c
      (breaks, depth, c)
  let (text, ended, after, c) := blockFrom folded depth (c.rest.length + 1) breaks c
  let tail := match chomping with
    | .strip => []
    | .clip => ended
    | .keep => ended ++ after
  return (String.ofList (text ++ tail), c)

end SearchIndex.Yaml.Scalar
