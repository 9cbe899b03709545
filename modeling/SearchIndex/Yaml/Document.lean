import SearchIndex.Yaml.Node
import SearchIndex.Yaml.Plain

/-!
# Documents as configuration trees

A document stands for a configuration tree. A tag or the way it is written says what a scalar
stands for. A mapping can take over the entries of others by a merge key; of two entries with one
key the last one counts, in the place of the first.

## Main definitions

* `Node.toTree`: the tree that a node stands for
* `Tree.ofText`: the tree that a text stands for
-/

namespace SearchIndex.Yaml

open Config (Tree Key Entries)

/-- A text without the ends of lines of other systems. -/
def plainLines : List Char → List Char
  | [] => []
  | '\r' :: '\n' :: cs => '\n' :: plainLines cs
  | '\r' :: cs => '\n' :: plainLines cs
  | c :: cs => c :: plainLines cs

/-- The character may stand in a document. -/
def isPrintable (c : Char) : Bool :=
  let n := c.toNat
  n = 9 || n = 10 || n = 13 || (0x20 ≤ n && n ≤ 0x7e) || n = 0x85 || (0xa0 ≤ n && n ≤ 0xd7ff) ||
    (0xe000 ≤ n && n ≤ 0xfffd) || 0x10000 ≤ n

/-- What all tags of the language start with. -/
def tagSpace : String := "tag:yaml.org,2002:"

namespace Node

/-- The kinds of scalars by their tags. -/
def taggedKinds : List (String × Kind) :=
  [("str", .text), ("null", .nothing), ("bool", .flag), ("int", .integer), ("float", .float),
    ("timestamp", .date), ("binary", .binary)]

/-- The name of a tag of the language. -/
def tagName? (tag : String) : Option String :=
  (Text.afterStart? tagSpace.toList tag.toList).map String.ofList

/-- The kind of a scalar by its tag or the way it is written. -/
def kindOf (tag : Option String) (unquoted : Bool) (text : String) : Except Fault Kind :=
  let written := if unquoted then Kind.ofText text else .text
  match tag with
  | none => .ok written
  | some "!" => .ok written
  | some tag =>
    match (tagName? tag).bind (Keyed.find? · taggedKinds) with
    | some kind => .ok kind
    | none => .error .content

/-- What a collection is by its tag. -/
inductive Shape where
  /-- The sequence or mapping that it is written as. -/
  | written
  /-- A sequence of pairs. -/
  | pairs
  /-- A set. -/
  | members
deriving DecidableEq, Repr

/-- The tag of a sequence says what it is, if there is one. -/
def sequenceShape (tag : Option String) : Except Fault Shape :=
  match tag with
  | none | some "!" => .ok .written
  | some tag =>
    match tagName? tag with
    | some "seq" => .ok .written
    | some "omap" | some "pairs" => .ok .pairs
    | _ => .error .content

/-- The tag of a mapping says what it is, if there is one. -/
def mappingShape (tag : Option String) : Except Fault Shape :=
  match tag with
  | none | some "!" => .ok .written
  | some tag =>
    match tagName? tag with
    | some "map" => .ok .written
    | some "set" => .ok .members
    | _ => .error .content

/-- The node is a mapping with one entry. -/
def isPair : Node → Bool
  | .mapping _ [_] => true
  | _ => false

/-- The node is a merge key. -/
def isMerge : Node → Bool
  | .scalar tag unquoted text => (kindOf tag unquoted text).toOption == some .merge
  | _ => false

/-- The entries that the value of a merge key adds. -/
def merged (flatten : Node → Except Fault (List (Node × Node))) :
    Node → Except Fault (List (Node × Node))
  | n@(.mapping ..) => flatten n
  | .sequence _ items => do
    let found ← items.mapM fun item => match item with
      | .mapping .. => flatten item
      | _ => throw .content
    -- Entries of earlier mappings count over those of later ones, so they go last.
    return found.reverse.flatten
  | .scalar .. => .error .content

/-- The entries of a mapping with those it takes over, which go first. -/
def flatten : Nat → Node → Except Fault (List (Node × Node))
  | fuel + 1, .mapping _ entries => do
    let own := entries.filter fun (key, _) => !key.isMerge
    let taken ← (entries.filter fun (key, _) => key.isMerge).mapM fun (_, value) =>
      merged (flatten fuel) value
    return taken.flatten ++ own
  | _, _ => .ok []

/-- A scalar as the key of a map. -/
def keyOf : Tree → Except Fault Key
  | .text s => .ok (.text s)
  | .null => .ok .nothing
  | .bool b => .ok (.ofNumber (.flag b))
  | .int n => .ok (.ofNumber (.int n))
  | .float x => .ok (.ofNumber (.float x))
  | .other written => .ok (.other written)
  | .list _ | .map _ => .error .content

/-- A key of a mapping; the key of a default value is its text. -/
def toKey (toTree : Node → Except Fault Tree) (key : Node) : Except Fault Key :=
  match key with
  | .scalar none true "=" => .ok (.text "=")
  | key => do keyOf (← toTree key)

/-- **The tree that a node stands for**, with at most `fuel` nodes inside each other. -/
def toTree : Nat → Node → Except Fault Tree
  | 0, _ => .error .content
  | _ + 1, .scalar tag unquoted text => do (← kindOf tag unquoted text).read text
  | fuel + 1, .sequence tag items => do
    let shape ← sequenceShape tag
    if shape = .pairs && !items.all isPair then throw .content
    return .list (← items.mapM (toTree fuel))
  | fuel + 1, .mapping tag entries => do
    let shape ← mappingShape tag
    let entries ← flatten (fuel + 1) (.mapping tag entries)
    let pairs ← entries.mapM fun (key, value) => do
      return (← toKey (toTree fuel) key, ← toTree fuel value)
    let entries := Keyed.ofList pairs
    -- A set has as many members as its mapping has keys.
    return if shape = .members then .list (entries.map Prod.snd) else .map entries

end Node

/-- **The tree that a text stands for**: nothing if it holds no document. -/
def treeOfText (text : String) : Except Fault Tree := do
  let cs := plainLines text.toList
  if !cs.all isPrintable then throw .character
  match ← Node.ofText cs with
  | some node => node.toTree (cs.length + 1)
  | none => return .null

end SearchIndex.Yaml
