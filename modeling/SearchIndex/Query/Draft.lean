import SearchIndex.Query.Expression

/-!
# Drafts of expressions

A draft says how a node is to be built, before anything about it is checked. Building goes from the
children up, and the first node that is refused is reported. A draft that stands for no node leaves
a child missing.

## Main definitions

* `Draft`: a node to be built, or none
* `Draft.term`, `Draft.range`, …: the drafts of the usual nodes
* `Draft.build d`: the node of a draft
-/

namespace SearchIndex.Query

/-- A node to be built. -/
inductive Draft where
  /-- No node. -/
  | absent
  /-- A range, which is no node without a bound. -/
  | bounds (field lower upper : Value)
  /-- A node of the kind a value names, with its attributes and the drafts of its children. -/
  | node (kind field value boost distance lower upper : Value) (children : List Draft)
deriving Repr, Inhabited

namespace Draft

/-- A leaf that asks for a value. -/
def leaf (kind : Kind) (value field boost : Value) (distance : Value := .null) : Draft :=
  .node (.text kind.name) field value boost distance .null .null []

/-- A single value. -/
def term (value : Value) (field boost : Value := .null) : Draft := leaf .term value field boost

/-- Words next to each other, in order. -/
def phrase (value : Value) (field boost : Value := .null) : Draft := leaf .phrase value field boost

/-- Values that start with a text. -/
def leading (value : Value) (field boost : Value := .null) : Draft :=
  leaf .leading value field boost

/-- The distance that is allowed between words when nothing else is said. -/
def defaultDistance : Value := .int 3

/-- Words at most `distance` positions apart. -/
def near (value : Value) (field : Value := .null) (distance : Value := defaultDistance)
    (boost : Value := .null) : Draft :=
  leaf .near value field boost distance

/-- Every document. -/
def everything : Draft := leaf .everything .null .null .null

/-- A literal that is not escaped. -/
def raw (literal : Value) : Draft := leaf .raw literal .null .null

/-- Children combined. -/
def composite (kind : Kind) (children : List Draft) : Draft :=
  .node (.text kind.name) .null .null .null .null .null .null children

mutual

/-- **The node of a draft**, if it stands for one. -/
def build : Draft → Except Fault (Option Expression)
  | .absent => .ok none
  | .bounds field lower upper =>
    if Expression.isNothing lower ∧ Expression.isNothing upper then .ok none
    else do
      let e ← Expression.check
        { kind := .range, field := field, lower := lower, upper := upper }
      return some e
  | .node kind field value boost distance lower upper children =>
    match Kind.ofValue? kind with
    | none => .error (.unknownKind kind.shown)
    | some kind => do
      let children ← buildAll children
      let e ← Expression.check ⟨kind, field, value, boost, distance, lower, upper, children⟩
      return some e
termination_by structural d => d

/-- The nodes of drafts, some of which may be missing. -/
def buildAll : List Draft → Except Fault (List (Option Expression))
  | [] => .ok []
  | d :: ds => do
    let e ← d.build
    let es ← buildAll ds
    return e :: es
termination_by structural ds => ds

end

end Draft

end SearchIndex.Query
