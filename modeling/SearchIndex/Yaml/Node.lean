import SearchIndex.Yaml.Tokens

/-!
# Nodes of documents

A document is a node: a scalar, a sequence of nodes or a mapping between nodes, each with a tag if
one is written. A node with an anchor can be referred to by its name.

## Main definitions

* `Node`: the nodes of documents
* `Reading`: the tokens ahead, the anchors so far and the handles of tags
* `Part`: the parts of a document
* `Node.read`: the node of the part ahead
* `Node.ofText`: the node of a text that is one document
-/

namespace SearchIndex.Yaml

/-- The nodes of documents. -/
inductive Node where
  /-- A scalar; an open one may stand for something other than its text. -/
  | scalar (tag : Option String) (unquoted : Bool) (text : String)
  | sequence (tag : Option String) (items : List Node)
  | mapping (tag : Option String) (entries : List (Node × Node))
deriving Repr, Inhabited

/-- A scalar that is not written. -/
def Node.empty : Node := .scalar none true ""

/-- The tokens ahead, why there are no more of them, the anchors so far and the handles of tags. -/
structure Reading where
  ahead : List Token
  stop : Option Fault
  anchors : List (String × Node) := []
  handles : List (String × String) := []

/-- Reading parts of a document. -/
abbrev Read := StateT Reading (Except Fault)

/-- The handles of tags that need no directive. -/
def defaultHandles : List (String × String) := [("!", "!"), ("!!", "tag:yaml.org,2002:")]

namespace Reading

/-- The token ahead. -/
def peek : Read Token := fun r =>
  match r.ahead with
  | t :: _ => .ok (t, r)
  | [] => .error (r.stop.getD .arrangement)

/-- Take the token ahead. -/
def take : Read Token := fun r =>
  match r.ahead with
  | t :: rest => .ok (t, { r with ahead := rest })
  | [] => .error (r.stop.getD .arrangement)

/-- Whether the token ahead is one of some. -/
def at? (ts : List Token) : Read Bool := do return ts.contains (← peek)

/-- Take the token ahead if it is the one that is meant. -/
def take? (t : Token) : Read Bool := do
  if ← at? [t] then
    discard take
    return true
  return false

/-- The anchor and the tag ahead, in either order. -/
def properties : Read (Option String × Option Tag) := do
  match ← peek with
  | .anchor name =>
    discard take
    match ← peek with
    | .tag tag =>
      discard take
      return (some name, some tag)
    | _ => return (some name, none)
  | .tag tag =>
    discard take
    match ← peek with
    | .anchor name =>
      discard take
      return (some name, some tag)
    | _ => return (none, some tag)
  | _ => return (none, none)

/-- The full text of a tag. -/
def resolve (tag : Tag) : Read String := fun r =>
  match tag.handle with
  | none => .ok (tag.suffix, r)
  | some handle =>
    match r.handles.lookup handle with
    | some replacement => .ok (replacement ++ tag.suffix, r)
    | none => .error .arrangement

/-- The node that a name refers to. -/
def anchored (name : String) : Read Node := fun r =>
  match r.anchors.lookup name with
  | some node => .ok (node, r)
  | none => .error .reference

/-- No other node has the anchor, and it refers to something from now on. -/
def reserve (anchor : Option String) : Read Unit := fun r =>
  match anchor with
  | none => .ok ((), r)
  | some name =>
    if (r.anchors.lookup name).isSome then .error .reference
    else .ok ((), { r with anchors := (name, .empty) :: r.anchors })

/-- The anchor refers to a node. -/
def bind (anchor : Option String) (node : Node) : Read Node := fun r =>
  match anchor with
  | none => .ok (node, r)
  | some name => .ok (node, { r with anchors := (name, node) :: r.anchors })

end Reading

/-! ## Parts -/

/-- The parts of a document. -/
inductive Part where
  /-- A node; some may start blocks, and some may be items without an indentation of their own. -/
  | node (block indentless : Bool)
  /-- The items of a block, up to its end. -/
  | blockItems
  /-- The items without an indentation of their own. -/
  | indentlessItems
  /-- The entries of a block, up to its end. -/
  | blockEntries
  /-- The items in brackets; before all but the first goes a comma. -/
  | flowItems (first : Bool)
  /-- The entries in brackets; before all but the first goes a comma. -/
  | flowEntries (first : Bool)

/-- What a part holds: a node, items or entries. -/
structure Contents where
  node : Node := .empty
  items : List Node := []
  entries : List (Node × Node) := []
deriving Inhabited

namespace Node

open Reading

/-- The node of a part unless one of some tokens is ahead. -/
def orEmpty (read : Part → Read Contents) (part : Part) (ts : List Token) : Read Node := do
  if ← at? ts then return .empty
  return (← read part).node

/-- The value of a key: what is after the mark, if the mark is ahead. -/
def valueAhead (read : Part → Read Contents) (part : Part) (ts : List Token) : Read Node := do
  if ← take? .value then orEmpty read part ts else return .empty

/-- A node after its anchor and tag. -/
def body (read : Part → Read Contents) (block indentless : Bool) : Read Node := do
  let (anchor, tag) ← properties
  let tag ← match tag with
    | some tag => do pure (some (← resolve tag))
    | none => pure none
  match ← peek with
  | .item =>
    if indentless then
      reserve anchor
      bind anchor (.sequence tag (← read .indentlessItems).items)
    else fallback anchor tag
  | .scalar text plain =>
    discard take
    reserve anchor
    bind anchor (.scalar tag (plain && tag.isNone || tag = some "!") text)
  | .sequenceOpen =>
    reserve anchor
    discard take
    bind anchor (.sequence tag (← read (.flowItems true)).items)
  | .mappingOpen =>
    reserve anchor
    discard take
    bind anchor (.mapping tag (← read (.flowEntries true)).entries)
  -- Blocks may not start everywhere.
  | .sequenceIndent =>
    if block then
      reserve anchor
      discard take
      bind anchor (.sequence tag (← read .blockItems).items)
    else fallback anchor tag
  | .mappingIndent =>
    if block then
      reserve anchor
      discard take
      bind anchor (.mapping tag (← read .blockEntries).entries)
    else fallback anchor tag
  | _ => fallback anchor tag
where
  fallback (anchor : Option String) (tag : Option String) : Read Node :=
    -- An anchor or a tag alone stands before an empty scalar.
    if anchor.isSome || tag.isSome then do
      reserve anchor
      bind anchor (.scalar tag (tag.isNone || tag = some "!") "")
    else throw .arrangement

/-- An item of a sequence in brackets; a key alone is an entry of its own. -/
def flowItem (read : Part → Read Contents) : Read Node := do
  if ← take? .key then
    let key ← orEmpty read (.node false false) [.value, .comma, .sequenceClose]
    let value ← valueAhead read (.node false false) [.comma, .sequenceClose]
    return .mapping none [(key, value)]
  return (← read (.node false false)).node

/-- An entry of a mapping in brackets; without the mark of a key there is no value. -/
def flowEntry (read : Part → Read Contents) : Read (Node × Node) := do
  if ← take? .key then
    let key ← orEmpty read (.node false false) [.value, .comma, .mappingClose]
    let value ← valueAhead read (.node false false) [.comma, .mappingClose]
    return (key, value)
  return ((← read (.node false false)).node, .empty)

/-- A comma before all but the first of some items in brackets. -/
def separator (first : Bool) : Read Unit := do
  if !first && !(← take? .comma) then throw .arrangement

/-- **The contents of the part ahead**, with at most `fuel` parts inside each other or in a row. -/
def read : Nat → Part → Read Contents
  | 0, _ => throw .arrangement
  | fuel + 1, .node block indentless => do
    match ← peek with
    | .alias name =>
      discard take
      return { node := ← anchored name }
    | _ => return { node := ← body (read fuel) block indentless }
  | fuel + 1, .blockItems => do
    if ← take? .item then
      let item ← orEmpty (read fuel) (.node true false) [.item, .dedent]
      return { items := item :: (← read fuel .blockItems).items }
    if ← take? .dedent then return {}
    throw .arrangement
  | fuel + 1, .indentlessItems => do
    if ← take? .item then
      let item ← orEmpty (read fuel) (.node true false) [.item, .key, .value, .dedent]
      return { items := item :: (← read fuel .indentlessItems).items }
    return {}
  | fuel + 1, .blockEntries => do
    if ← take? .key then
      let key ← orEmpty (read fuel) (.node true true) [.key, .value, .dedent]
      let value ← valueAhead (read fuel) (.node true true) [.key, .value, .dedent]
      return { entries := (key, value) :: (← read fuel .blockEntries).entries }
    if ← take? .dedent then return {}
    throw .arrangement
  | fuel + 1, .flowItems first => do
    if ← take? .sequenceClose then return {}
    separator first
    -- The last item may have a comma after it.
    if ← take? .sequenceClose then return {}
    let item ← flowItem (read fuel)
    return { items := item :: (← read fuel (.flowItems false)).items }
  | fuel + 1, .flowEntries first => do
    if ← take? .mappingClose then return {}
    separator first
    -- The last entry may have a comma after it.
    if ← take? .mappingClose then return {}
    let entry ← flowEntry (read fuel)
    return { entries := entry :: (← read fuel (.flowEntries false)).entries }

/-! ## Documents -/

/-- The directives ahead: whether there was a version, and the handles of tags. -/
def directives : Nat → Bool → List (String × String) → Read (List (String × String))
  | 0, _, _ => throw .arrangement
  | fuel + 1, versioned, handles => do
    match ← peek with
    | .version major =>
      discard take
      if versioned || major ≠ 1 then throw .arrangement
      directives fuel true handles
    | .handle handle replacement =>
      discard take
      if (handles.lookup handle).isSome then throw .arrangement
      directives fuel versioned (handles ++ [(handle, replacement)])
    | .reserved =>
      discard take
      directives fuel versioned handles
    | _ => return handles

/-- Whether another document starts: after marks of ends come its directives and its mark. -/
def documentStarts (fuel : Nat) : Read Bool := do
  discard (skipEnds fuel)
  if ← at? [.finish] then return false
  let handles ← directives fuel false []
  if !(← take? .documentStart) then throw .arrangement
  modify fun r => { r with
    handles := handles ++ defaultHandles.filter fun (h, _) => (handles.lookup h).isNone }
  return true
where
  skipEnds : Nat → Read Unit
    | 0 => pure ()
    | n + 1 => do
      if ← take? .documentEnd then skipEnds n

/-- The token ahead is a directive. -/
def atDirective : Read Bool := do
  match ← peek with
  | .version _ | .handle .. | .reserved => return true
  | _ => return false

/-- The node of a document after its mark. -/
def afterMark (fuel : Nat) : Read Node := do
  if ← atDirective then return .empty
  orEmpty (read fuel) (.node true false) [.documentStart, .documentEnd, .finish]

/-- The node of the first document, if there is one. -/
def first (fuel : Nat) : Read (Option Node) := do
  discard take
  let directive ← atDirective
  let marked ← at? [.documentStart, .finish]
  -- A first document needs no mark, and then has the handles that need no directive.
  if !directive && !marked then
    modify fun r => { r with handles := defaultHandles }
    return some (← read fuel (.node true false)).node
  if ← documentStarts fuel then return some (← afterMark fuel)
  return none

/-- The node of the only document, if there is one. -/
def single (fuel : Nat) : Read (Option Node) := do
  match ← first fuel with
  | none => return none
  | some root =>
    -- A second document is one too many.
    if ← documentStarts fuel then throw .reference
    return some root

/-- **The node of a text that is one document**, if it holds any. -/
def ofText (text : List Char) : Except Fault (Option Node) :=
  let (ts, stop) := tokens text
  ((single (4 * ts.length + 16)).run { ahead := ts, stop := stop }).map Prod.fst

end Node

end SearchIndex.Yaml
