import SearchIndex.Yaml.Scalar
import SearchIndex.Yaml.Token

/-!
# The tokens of a text

Tokens are found one after the other and given out in their order. What may be a key is held back
until it is known whether the mark of a value follows on the same line, for then the mark of a key
goes before it. Indentation opens and closes sequences and mappings. If the text falls into no
tokens from some place on, the tokens before it are still given out, as far as they are not held
back.

## Main definitions

* `Candidate`: a place where a key may have started
* `State`: the place in the text, the tokens held back, and the open indentations
* `State.fetch`: find the next tokens
* `tokens text`: the tokens of a text, and why there are no more
-/

namespace SearchIndex.Yaml

/-- A place where a key may have started, by the number of its first token; one that is first on
its line in a mapping has to be a key. -/
structure Candidate where
  number : Nat
  required : Bool
  start : Cursor

/-- The place in the text, the tokens held back, and the open indentations. -/
structure State where
  cursor : Cursor
  /-- The tokens that are not given out yet. -/
  held : List Token := [.start]
  /-- The number of tokens that were given out. -/
  given : Nat := 0
  /-- The text has ended. -/
  ended : Bool := false
  /-- How deep in brackets the place is. -/
  depth : Int := 0
  indent : Int := -1
  /-- The indentations around, the innermost first. -/
  outer : List Int := []
  /-- A key may start here. -/
  keyAllowed : Bool := true
  /-- The places where keys may have started, by how deep in brackets they are. -/
  candidates : List (Int × Candidate) := []

namespace State

/-- The place is in brackets. -/
def flow (s : State) : Bool := s.depth ≠ 0

/-- A token more is held back. -/
def emit (t : Token) (s : State) : State := { s with held := s.held ++ [t] }

/-- The candidate can no longer be a key: another line has begun, or too much has passed. -/
def stale (s : State) (k : Candidate) : Bool :=
  k.start.line ≠ s.cursor.line || 1024 < s.cursor.index - k.start.index

/-- Forget the candidates that can no longer be keys. -/
def dropStale (s : State) : Except Fault State :=
  if s.candidates.any fun (_, k) => s.stale k && k.required then .error .token
  else .ok { s with candidates := s.candidates.filter fun (_, k) => !s.stale k }

/-- Forget the candidate of this depth. -/
def forget (s : State) : Except Fault State :=
  if s.candidates.any fun (d, k) => d = s.depth && k.required then .error .token
  else .ok { s with candidates := s.candidates.filter fun (d, _) => d ≠ s.depth }

/-- Remember that a key may start here. -/
def remember (s : State) : Except Fault State :=
  if s.keyAllowed then do
    -- On a line of a mapping that is open, nothing but a key can start here.
    let required := !s.flow && s.indent = s.cursor.column
    let s ← s.forget
    let k : Candidate := ⟨s.given + s.held.length, required, s.cursor⟩
    return { s with candidates := s.candidates ++ [(s.depth, k)] }
  else .ok s

/-- Close the indentations deeper than a column. -/
def dedentTo (column : Int) (s : State) : State :=
  if s.flow then s else close s.outer s
where
  close : List Int → State → State
    | [], s =>
      if column < s.indent then { s.emit .dedent with indent := -1, outer := [] } else s
    | around :: outer, s =>
      if column < s.indent then close outer { s.emit .dedent with indent := around, outer := outer }
      else s

/-- The state with an indentation opened, if it is deeper than the innermost. -/
def indented? (column : Int) (s : State) : Option State :=
  if s.indent < column then some { s with indent := column, outer := s.indent :: s.outer }
  else none

/-- The state at another place. -/
def at' (c : Cursor) (s : State) : State := { s with cursor := c }

/-- The state after spaces, comments and the ends of lines. -/
def skipBlank : Nat → State → State
  | 0, s => s
  | fuel + 1, s =>
    let c := (s.cursor.past (· = ' ')).pastComment
    match c.lineBreak? with
    | some (_, c) =>
      skipBlank fuel { s with cursor := c, keyAllowed := s.keyAllowed || !s.flow }
    | none => { s with cursor := c }

/-- A token made of some characters. -/
def mark (t : Token) (width : Nat) (s : State) : State :=
  (s.at' (s.cursor.skip width)).emit t

/-! ## Directives, names and tags -/

/-- The character may stand in a name. -/
def isNameChar (c : Char) : Bool := c.isAlphanum || c = '-' || c = '_'

/-- The character may stand in the written kind of a part. -/
def isTagChar (c : Char) : Bool := isNameChar c || c ∈ ";/?:@&=+$,.!~*'()[]%".toList

/-- A name and the cursor after it. -/
def name (c : Cursor) : Except Fault (String × Cursor) :=
  let (found, c) := c.run isNameChar
  if found.isEmpty then .error .token else .ok (String.ofList found, c)

/-- A decimal number and the cursor after it. -/
def number (c : Cursor) : Except Fault (Nat × Cursor) :=
  let (found, c) := c.run Char.isDigit
  if found.isEmpty then .error .token
  else .ok (found.foldl (fun n d => 10 * n + (d.toNat - 48)) 0, c)

/-- The bytes written with percent signs, and the cursor after them. -/
def bytes : Nat → Cursor → Except Fault (List Nat × Cursor)
  | 0, c => .ok ([], c)
  | fuel + 1, c =>
    if c.char = '%' then
      match Scalar.hexDigit? (c.charAt 1), Scalar.hexDigit? (c.charAt 2) with
      | some high, some low => do
        let (more, c) ← bytes fuel (c.skip 3)
        return ((16 * high + low) :: more, c)
      | _, _ => .error .token
    else .ok ([], c)

/-- The written kind of a part, from its characters. -/
def suffixFrom : Nat → Cursor → Except Fault (List Char × Cursor)
  | 0, c => .ok ([], c)
  | fuel + 1, c => do
    if c.char = '%' then
      let (found, c) ← bytes (c.rest.length + 1) c
      match String.fromUTF8? ⟨(found.map UInt8.ofNat).toArray⟩ with
      | some s =>
        let (more, c) ← suffixFrom fuel c
        return (s.toList ++ more, c)
      | none => throw .token
    if isTagChar c.char then
      let (more, after) ← suffixFrom fuel c.next
      return (c.char :: more, after)
    return ([], c)

/-- The written kind of a part after its handle. -/
def suffix (c : Cursor) : Except Fault (String × Cursor) := do
  let (found, after) ← suffixFrom (c.rest.length + 1) c
  if after.index = c.index then throw .token
  return (String.ofList found, after)

/-- A handle of kinds: an exclamation mark, or a name between two. -/
def handle (c : Cursor) : Except Fault (String × Cursor) := do
  if c.char ≠ '!' then throw .token
  if c.charAt 1 = ' ' then return ("!", c.next)
  let (found, after) := c.next.run isNameChar
  if after.char ≠ '!' then throw .token
  return (String.ofList ('!' :: found ++ ['!']), after.next)

/-- What is asked for is ahead. -/
def expect (ahead : Bool) : Except Fault Unit := if ahead then .ok () else .error .token

/-- A directive, and the cursor after its line. -/
def directive (c : Cursor) : Except Fault (Token × Cursor) := do
  let (keyword, c) ← name c.next
  expect (isGap c.char)
  let (t, c) ← match keyword with
    | "YAML" =>
      -- the version of the language: two numbers and a point
      let (major, c) ← number (c.past (· = ' '))
      expect (c.char = '.')
      let (_, c) ← number c.next
      expect (isGap c.char)
      pure (Token.version major, c)
    | "TAG" =>
      -- a handle and what it stands for
      let (found, c) ← handle (c.past (· = ' '))
      expect (c.char = ' ')
      let (replacement, c) ← suffix (c.past (· = ' '))
      expect (isGap c.char)
      pure (Token.handle found replacement, c)
    | _ => pure (Token.reserved, c.past (!isEnd ·))
  return (t, ← Scalar.restOfLine c)

/-- The name of an anchor or of an alias. -/
def anchorName (c : Cursor) : Except Fault (String × Cursor) := do
  let (found, c) ← name c.next
  expect (isSpace c.char || c.char ∈ "?:,]\x7d%@`".toList)
  return (found, c)

/-- The written kind of a part. -/
def tagAhead (c : Cursor) : Except Fault (Tag × Cursor) := do
  let (tag, c) ←
    -- A kind in full, then a kind without a name, then one after a handle.
    if c.charAt 1 = '<' then do
      let (found, c) ← suffix (c.skip 2)
      expect (c.char = '>')
      pure (Tag.mk none found, c.next)
    else if isSpace (c.charAt 1) then pure (Tag.mk none "!", c.next)
    else do
      let ahead := c.next.rest.takeWhile (!isGap ·)
      let (found, c) ← if ahead.contains '!' then handle c else pure ("!", c.next)
      let (rest, c) ← suffix c
      pure (Tag.mk (some found) rest, c)
  expect (isGap c.char)
  return (tag, c)

/-! ## The tokens that marks start -/

/-- A token that divides documents. -/
def divide (t : Token) (width : Nat) (s : State) : Except Fault State := do
  let s ← (s.dedentTo (-1)).forget
  return { s with keyAllowed := false }.mark t width

/-- The end of the text. -/
def finish (s : State) : Except Fault State := do
  let s ← (s.dedentTo (-1)).forget
  return { s with keyAllowed := false, candidates := [], ended := true }.emit .finish

/-- A directive. -/
def fetchDirective (s : State) : Except Fault State := do
  let s ← (s.dedentTo (-1)).forget
  let (t, c) ← directive s.cursor
  return ({ s with keyAllowed := false }.at' c).emit t

/-- An opening bracket. -/
def fetchOpen (t : Token) (s : State) : Except Fault State := do
  let s ← s.remember
  return { s with depth := s.depth + 1, keyAllowed := true }.mark t 1

/-- A closing bracket. -/
def fetchClose (t : Token) (s : State) : Except Fault State := do
  let s ← s.forget
  return { s with depth := s.depth - 1, keyAllowed := false }.mark t 1

/-- A comma between brackets. -/
def fetchComma (s : State) : Except Fault State := do
  let s ← { s with keyAllowed := true }.forget
  return s.mark .comma 1

/-- The state with the token of an indentation, if one is opened here. -/
def openIndent (t : Token) (s : State) : State :=
  match s.indented? s.cursor.column with
  | some s => s.emit t
  | none => s

/-- The mark before an item, or before a key that is written. -/
def fetchMark (t opening : Token) (keyAllowed : Bool) (s : State) : Except Fault State := do
  if !s.flow && !s.keyAllowed then throw .token
  let s := if s.flow then s else s.openIndent opening
  let s ← { s with keyAllowed := keyAllowed }.forget
  return s.mark t 1

/-- The mark before a value. What may be a key is one now. -/
def fetchValue (s : State) : Except Fault State := do
  -- What was read since the candidate is its key, so the mark goes before it, ...
  match s.candidates.lookup s.depth with
  | some k =>
    let place := k.number - s.given
    let s := { s with
      candidates := s.candidates.filter fun (d, _) => d ≠ s.depth
      held := s.held.insertIdx place .key
      keyAllowed := false }
    -- ... and so does an indentation that the key opens.
    let s := if s.flow then s else
      match s.indented? k.start.column with
      | some s => { s with held := s.held.insertIdx place .mappingIndent }
      | none => s
    return s.mark .value 1
  -- No key was read: the value has an empty one, or one that was marked.
  | none => s.fetchMark .value .mappingIndent !s.flow

/-- A token that may start a key. -/
def fetchPart (read : Cursor → Except Fault (Token × Cursor)) (s : State) : Except Fault State := do
  let s ← s.remember
  let (t, c) ← read s.cursor
  return ({ s with keyAllowed := false }.at' c).emit t

/-- A scalar of a block. -/
def fetchBlock (folded : Bool) (s : State) : Except Fault State := do
  let s ← { s with keyAllowed := true }.forget
  let (text, c) ← Scalar.block folded s.indent s.cursor
  return (s.at' c).emit (.scalar text false)

/-- A plain scalar. -/
def fetchPlain (s : State) : Except Fault State := do
  let s ← s.remember
  let (text, lineEnded, c) := Scalar.plain s.flow (s.indent + 1) s.cursor
  return ({ s with keyAllowed := lineEnded }.at' c).emit (.scalar text true)

/-- A plain scalar can start here. -/
def plainAhead (s : State) : Bool :=
  let x := s.cursor.char
  !(isSpace x || x ∈ "-?:,[]\x7b\x7d#&*!|>'\"%@`".toList) ||
    (!isSpace (s.cursor.charAt 1) && (x = '-' || (!s.flow && (x = '?' || x = ':'))))

/-- **Find the next tokens.** -/
def fetch (s : State) : Except Fault State := do
  -- A byte order mark may stand before everything else.
  let start := if s.cursor.index = 0 ∧ s.cursor.char = '\ufeff' then s.cursor.next else s.cursor
  let s ← (skipBlank (start.rest.length + 1) (s.at' start)).dropStale
  let s := s.dedentTo s.cursor.column
  let c := s.cursor
  let wordEnds := isSpace (c.charAt 1)
  let first := c.column = 0
  match c.char with
  | '\x00' => s.finish
  | '[' => s.fetchOpen .sequenceOpen
  | '{' => s.fetchOpen .mappingOpen
  | ']' => s.fetchClose .sequenceClose
  | '}' => s.fetchClose .mappingClose
  | ',' => s.fetchComma
  | '*' => s.fetchPart fun c => do
    let (name, c) ← anchorName c
    return (.alias name, c)
  | '&' => s.fetchPart fun c => do
    let (name, c) ← anchorName c
    return (.anchor name, c)
  | '!' => s.fetchPart fun c => do
    let (tag, c) ← tagAhead c
    return (.tag tag, c)
  | '\'' => s.fetchPart fun c => do
    let (text, c) ← Scalar.quoted false c
    return (.scalar text false, c)
  | '"' => s.fetchPart fun c => do
    let (text, c) ← Scalar.quoted true c
    return (.scalar text false, c)
  | x =>
    -- Marks that count only at the start of a line, then those that count only before a gap.
    if x = '%' && first then s.fetchDirective
    else if first && c.atMarks '-' then s.divide .documentStart 3
    else if first && c.atMarks '.' then s.divide .documentEnd 3
    else if x = '-' && wordEnds then s.fetchMark .item .sequenceIndent true
    else if x = '?' && (s.flow || wordEnds) then s.fetchMark .key .mappingIndent !s.flow
    else if x = ':' && (s.flow || wordEnds) then s.fetchValue
    else if x = '|' && !s.flow then s.fetchBlock false
    else if x = '>' && !s.flow then s.fetchBlock true
    else if s.plainAhead then s.fetchPlain
    else throw .token

/-! ## Tokens in order -/

/-- The first token that is held back may still turn out to be a key. -/
def undecided (s : State) : Bool := s.candidates.any fun (_, k) => k.number = s.given

end State

/-- The tokens from a state on, and why there are no more if the text falls into none. -/
def tokensFrom : Nat → State → List Token × Option Fault
  | 0, _ => ([], some .token)
  | fuel + 1, s =>
    match s.held with
    | [] =>
      -- Nothing is held back: look for more, unless the text has ended.
      if s.ended then ([], none)
      else
        match s.fetch with
        | .ok s => tokensFrom fuel s
        | .error f => ([], some f)
    | t :: held =>
      if s.ended then
        let (more, f) := tokensFrom fuel { s with held := held, given := s.given + 1 }
        (t :: more, f)
      else
        match s.dropStale with
        | .error f => ([], some f)
        | .ok s =>
          -- A mark of a key may still have to go before this token.
          if s.undecided then
            match s.fetch with
            | .ok s => tokensFrom fuel s
            | .error f => ([], some f)
          else
            let (more, f) := tokensFrom fuel { s with held := held, given := s.given + 1 }
            (t :: more, f)

/-- **The tokens of a text**, and why there are no more if it falls into none from some place
on. -/
def tokens (text : List Char) : List Token × Option Fault :=
  tokensFrom (16 * (text.length + 4)) { cursor := { rest := text } }

end SearchIndex.Yaml
