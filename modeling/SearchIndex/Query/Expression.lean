import SearchIndex.Query.Escape

/-!
# Query expressions

A structured query is a tree. Its leaves ask for a value in a field, its inner nodes combine their
children. An expression carries every attribute a node can have; which of them matter depends on
its kind. It is written in prefix form: the kind, the attributes, the quoted value, all between
parentheses, and the children of an inner node one after the other.

## Main definitions

* `Kind`, `Kind.name`: the kinds of nodes
* `Expression`: a node with its attributes and children
* `Expression.check e`: the node, if its own attributes go together
* `Expression.isWhole e`: no child is missing anywhere
* `Expression.text e`, `Expression.render e`: the text of an expression, and of a whole one alone
* `Expression.same`: equality of all attributes

## Main results

* `Kind.ofName?_name`: a kind is read back from its name
* `Expression.check_eq_ok`: a checked expression is unchanged
* `Expression.render_eq_ok_iff`: exactly the whole expressions can be written
-/

namespace SearchIndex.Query

/-- The kinds of nodes. -/
inductive Kind where
  | term
  | phrase
  | leading
  | near
  | range
  | and
  | or
  | not
  | everything
  | raw
deriving DecidableEq, Repr, Inhabited

namespace Kind

/-- The name of a kind in the query language. -/
def name : Kind → String
  | .term => "term"
  | .phrase => "phrase"
  | .leading => "prefix"
  | .near => "near"
  | .range => "range"
  | .and => "and"
  | .or => "or"
  | .not => "not"
  | .everything => "matchall"
  | .raw => "raw"

/-- All kinds. -/
def all : List Kind := [.term, .phrase, .leading, .near, .range, .and, .or, .not, .everything, .raw]

/-- The kind of a name. -/
def ofName? (s : String) : Option Kind := all.find? fun k => k.name == s

theorem ofName?_name (k : Kind) : ofName? k.name = some k := by cases k <;> decide

/-- The kind that a value names. -/
def ofValue? (v : Value) : Option Kind := v.text?.bind ofName?

/-- The kinds with children. -/
def isComposite : Kind → Bool
  | .and | .or | .not => true
  | _ => false

end Kind

/-- Why a part of a query is refused. -/
inductive Fault where
  /-- No kind of node has the name that is written out. -/
  | unknownKind (shown : String)
  /-- A node that combines children has none. -/
  | childless (kind : Kind)
  /-- A leaf has children. -/
  | childrenOnLeaf (kind : Kind)
  /-- A range has no bound. -/
  | unbounded
  /-- A boost is zero or less. -/
  | boostNotPositive
  /-- A boost of this type cannot be compared with zero. -/
  | notComparable (typeName : String)
  /-- A child is no node. -/
  | absentChild
  /-- A block is neither a literal nor made of steps. -/
  | notABlock (kind : Kind) (typeName : String)
  /-- Something other than a text was to be joined to a text. -/
  | notText
  /-- A value has no items to go through. -/
  | notIterable
  /-- A value of this type is no key. -/
  | notAKey (typeName : String)
  /-- A coordinate of this type is no number. -/
  | notANumber (typeName : String)
  /-- A value of a type has no such member. -/
  | noMember (typeName member : String)
  /-- Arithmetic on coordinates has no answer. -/
  | arithmetic (fault : Number.Fault)
deriving DecidableEq, Repr

/-- What is reported about a refused part of a query. -/
def Fault.message : Fault → String
  | .unknownKind shown => shown ++ " is not a valid NodeKind"
  | .childless kind => s!"'{kind.name}' expression requires at least one child"
  | .childrenOnLeaf kind => s!"'{kind.name}' expression cannot have children"
  | .unbounded => "range expression requires at least one bound"
  | .boostNotPositive => "boost must be a positive integer"
  | .notComparable typeName =>
    s!"'<=' not supported between instances of '{typeName}' and 'int'"
  | .absentChild => "'NoneType' object has no attribute 'render'"
  | .notABlock kind typeName => s!"{kind.name} block must be a string or a callable, got {typeName}"
  | .notText => "sequence item 0: expected str instance"
  | .notIterable => "object is not iterable"
  | .notAKey typeName => s!"unhashable type: '{typeName}'"
  | .notANumber typeName => s!"must be real number, not {typeName}"
  | .noMember typeName member => s!"'{typeName}' object has no attribute '{member}'"
  | .arithmetic fault => fault.message

/-- A node of a query with every attribute a node can have. An attribute that is not given is
nothing. -/
structure Expression where
  kind : Kind
  field : Value := .null
  value : Value := .null
  boost : Value := .null
  distance : Value := .null
  lower : Value := .null
  upper : Value := .null
  /-- The children in order, some of which may be missing. -/
  children : List (Option Expression) := []
deriving Repr, Inhabited

namespace Expression

/-- A value is absent. -/
def isNothing : Value → Bool
  | .null => true
  | _ => false

/-- Why a boost is refused, if it is: it must be a number above zero, unless it is not given. -/
def boostFault? (boost : Value) : Option Fault :=
  if isNothing boost then none
  else
    match boost.number? with
    | some n => if n.nonpositive then some .boostNotPositive else none
    | none => some (.notComparable boost.typeName)

/-- **The node, if its own attributes go together**: an inner node has children and a leaf has
none, a range has a bound, and a boost is positive. -/
def check (e : Expression) : Except Fault Expression :=
  if e.kind.isComposite ∧ e.children.isEmpty then .error (.childless e.kind)
  else if ¬ e.kind.isComposite ∧ ¬ e.children.isEmpty then .error (.childrenOnLeaf e.kind)
  else if e.kind = .range ∧ isNothing e.lower ∧ isNothing e.upper then .error .unbounded
  else
    match boostFault? e.boost with
    | some f => .error f
    | none => .ok e

theorem check_eq_ok {e e' : Expression} (h : e.check = .ok e') : e' = e := by
  unfold check at h
  repeat' split at h
  all_goals simp_all

/-! ## The text of an expression -/

/-- The text of a bound: texts between quotes, numbers bare. -/
def boundText : Value → String
  | .text s => "'" ++ escapeText s ++ "'"
  | v => scalarText v

/-- The lower side of a range, open with a brace if there is no bound. -/
def lowerSide (bound : Value) : String :=
  if isNothing bound then "\x7b" else "[" ++ boundText bound

/-- The upper side of a range, open with a brace if there is no bound. -/
def upperSide (bound : Value) : String :=
  if isNothing bound then "\x7d" else boundText bound ++ "]"

/-- An attribute between quotes with a blank after it, unless it does not count as true. -/
def attributeText (name : String) (v : Value) : String :=
  if v.truthy then name ++ "='" ++ v.plain ++ "' " else ""

/-- The text of a leaf that asks for a value. -/
def leafText (e : Expression) : String :=
  "(" ++ e.kind.name ++ " " ++ attributeText "field" (escape e.field) ++
    attributeText "distance" e.distance ++ attributeText "boost" e.boost ++
    "'" ++ scalarText (escape e.value) ++ "')"

mutual

/-- **The text of an expression.** -/
def text : Expression → String
  | ⟨kind, field, value, boost, distance, lower, upper, children⟩ =>
    match kind with
    | .everything => "(matchall)"
    | .raw => "'" ++ scalarText value ++ "'"
    | .and | .or | .not => "(" ++ kind.name ++ " " ++ childrenText children ++ ")"
    | .range =>
      "(range field=" ++ (escape field).plain ++ " " ++ lowerSide lower ++ "," ++
        upperSide upper ++ ")"
    | .term | .phrase | .leading | .near =>
      leafText ⟨kind, field, value, boost, distance, lower, upper, []⟩
termination_by structural e => e

/-- The text of a child; a missing one has none. -/
def childText : Option Expression → String
  | none => ""
  | some e => e.text
termination_by structural c => c

/-- The texts of children one after the other. -/
def childrenText : List (Option Expression) → String
  | [] => ""
  | c :: cs => childText c ++ childrenText cs
termination_by structural cs => cs

end

theorem childrenText_append (cs ds : List (Option Expression)) :
    childrenText (cs ++ ds) = childrenText cs ++ childrenText ds := by
  induction cs with
  | nil => simp [childrenText]
  | cons c cs ih => simp [childrenText, ih, String.append_assoc]

mutual

/-- **No child is missing anywhere.** -/
def isWhole : Expression → Bool
  | ⟨_, _, _, _, _, _, _, children⟩ => allWhole children
termination_by structural e => e

/-- The child is there and whole. -/
def childWhole : Option Expression → Bool
  | none => false
  | some e => e.isWhole
termination_by structural c => c

/-- All children are there and whole. -/
def allWhole : List (Option Expression) → Bool
  | [] => true
  | c :: cs => childWhole c && allWhole cs
termination_by structural cs => cs

end

/-- **The text of a whole expression.** -/
def render (e : Expression) : Except Fault String :=
  if e.isWhole then .ok e.text else .error .absentChild

theorem render_eq_ok_iff {e : Expression} {s : String} :
    e.render = .ok s ↔ e.isWhole = true ∧ e.text = s := by
  unfold render
  split <;> simp_all

/-! ## Equality -/

mutual

/-- Two expressions have equal attributes and children. -/
def same : Expression → Expression → Bool
  | ⟨kind, field, value, boost, distance, lower, upper, children⟩, other =>
    kind == other.kind && field.same other.field && value.same other.value &&
      boost.same other.boost && distance.same other.distance &&
      lower.same other.lower && upper.same other.upper && sameAll children other.children
termination_by structural e => e

/-- Two children are equal; missing ones are. -/
def sameChild : Option Expression → Option Expression → Bool
  | none, none => true
  | some a, some b => a.same b
  | _, _ => false
termination_by structural c => c

/-- Two lists of children are equal one by one. -/
def sameAll : List (Option Expression) → List (Option Expression) → Bool
  | [], [] => true
  | a :: as, b :: bs => sameChild a b && sameAll as bs
  | _, _ => false
termination_by structural as => as

end

end Expression

end SearchIndex.Query
