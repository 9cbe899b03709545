import SearchIndex.Proofs.Literal
import SearchIndex.Query.Clause

/-!
# Normal forms of queries

What is left of a query when it is written out: values, boosts and distances are texts, what does
not count as true and what a kind ignores is gone, and bounds between quotes are told from bare
ones. The shape of a query is what its kinds and its nesting make of it.

## Main definitions

* `Form`: a query as its text says it
* `Expression.normal e`: the normal form of an expression
* `Expression.Readable e`: the expressions whose text can be read back
* `Shape`, `Form.shape`, `Expression.shape`: kinds and nesting alone

## Main results

* `Expression.Readable.isWhole`: what can be read back can be written
* `Expression.shape_normal`: a normal form has the shape of its expression
-/

namespace SearchIndex.Query

/-- A bound of a range, between quotes or without. -/
inductive Form.Bound where
  | quoted (s : String)
  | bare (s : String)
deriving DecidableEq, Repr

/-- **A query as its text says it.** -/
inductive Form where
  | leaf (kind : Kind) (field distance boost : Option String) (value : String)
  | range (field : String) (lower upper : Option Form.Bound)
  | combined (kind : Kind) (children : List Form)
  | everything
  | literal (s : String)
deriving Repr

namespace Expression

/-- The text of an attribute, unless it does not count as true. -/
def attribute? (v : Value) : Option String := if v.truthy then some v.plain else none

/-- The bound that a value is, unless it is absent. -/
def bound? : Value → Option Form.Bound
  | .null => none
  | .text s => some (.quoted s)
  | v => some (.bare (scalarText v))

mutual

/-- **The normal form of an expression.** -/
def normal : Expression → Form
  | ⟨kind, field, value, boost, distance, lower, upper, children⟩ =>
    match kind with
    | .everything => .everything
    | .raw => .literal (unescapeText (scalarText value))
    | .and | .or | .not => .combined kind (normalChildren children)
    | .range => .range field.plain (bound? lower) (bound? upper)
    | .term | .phrase | .leading | .near =>
      .leaf kind (attribute? field) (attribute? distance) (attribute? boost) (scalarText value)
termination_by structural e => e

def normalChild : Option Expression → List Form
  | none => []
  | some e => [e.normal]
termination_by structural c => c

def normalChildren : List (Option Expression) → List Form
  | [] => []
  | c :: cs => normalChild c ++ normalChildren cs
termination_by structural cs => cs

end

theorem normalChildren_map_some (es : List Expression) :
    normalChildren (es.map some) = es.map normal := by
  induction es with
  | nil => rfl
  | cons e es ih => simp [normalChildren, normalChild, ih]

/-! ## What can be read back -/

/-- The value is a text or a number, truth values being numbers. -/
def IsScalar (v : Value) : Prop := (∃ s, v = .text s) ∨ v.number?.isSome

/-- The text can stand in a range without quotes before it ends at a blank. -/
def IsName (s : String) : Prop := s ≠ "" ∧ ∀ c ∈ s.toList, c ≠ ' ' ∧ c ≠ '\\' ∧ c ≠ '\''

mutual

/-- **The expressions whose text can be read back**: only inner nodes have children and none is
missing, fields are texts, distances and boosts numbers, values and bounds texts or numbers, the
fields of ranges are names, and literals are escaped. -/
def Readable : Expression → Prop
  | ⟨kind, field, value, boost, distance, lower, upper, children⟩ =>
    match kind with
    | .everything => children = []
    | .raw => children = [] ∧ ∃ s, value = .text (escapeText s)
    | .and | .or | .not => AllReadable children
    | .range =>
      children = [] ∧ (∃ s, field = .text s ∧ IsName s) ∧
        (lower = .null ∨ IsScalar lower) ∧ (upper = .null ∨ IsScalar upper)
    | .term | .phrase | .leading | .near =>
      children = [] ∧ (field = .null ∨ ∃ s, field = .text s) ∧
        (distance = .null ∨ distance.number?.isSome) ∧ (boost = .null ∨ boost.number?.isSome) ∧
        IsScalar value
termination_by structural e => e

def ChildReadable : Option Expression → Prop
  | none => False
  | some e => e.Readable
termination_by structural c => c

def AllReadable : List (Option Expression) → Prop
  | [] => True
  | c :: cs => ChildReadable c ∧ AllReadable cs
termination_by structural cs => cs

end

theorem allReadable_map_some {es : List Expression} :
    AllReadable (es.map some) ↔ ∀ e ∈ es, e.Readable := by
  induction es with
  | nil => simp [AllReadable]
  | cons e es ih => simp [AllReadable, ChildReadable, ih]

mutual

/-- **What can be read back can be written.** -/
theorem Readable.isWhole : ∀ e : Expression, e.Readable → e.isWhole = true
  | ⟨kind, field, value, boost, distance, lower, upper, children⟩, he => by
    cases kind with
    | and | or | not => exact AllReadable.allWhole children he
    | everything =>
      obtain rfl : children = [] := he
      rfl
    | raw | range | term | phrase | leading | near =>
      obtain rfl : children = [] := he.1
      rfl

theorem ChildReadable.childWhole : ∀ c : Option Expression, ChildReadable c → childWhole c = true
  | none, hc => hc.elim
  | some e, hc => Readable.isWhole e hc

theorem AllReadable.allWhole :
    ∀ cs : List (Option Expression), AllReadable cs → allWhole cs = true
  | [], _ => rfl
  | c :: cs, hcs => by
    rw [Expression.allWhole, ChildReadable.childWhole c hcs.1, AllReadable.allWhole cs hcs.2]
    rfl

end

end Expression

/-! ## Shapes -/

/-- Kinds and nesting. -/
inductive Shape where
  | node (kind : Kind) (children : List Shape)

mutual

/-- The shape of a form. -/
def Form.shape : Form → Shape
  | .leaf kind _ _ _ _ => .node kind []
  | .range _ _ _ => .node .range []
  | .combined kind children => .node kind (shapes children)
  | .everything => .node .everything []
  | .literal _ => .node .raw []
termination_by structural f => f

def Form.shapes : List Form → List Shape
  | [] => []
  | f :: fs => f.shape :: shapes fs
termination_by structural fs => fs

end

theorem Form.shapes_append (fs gs : List Form) :
    Form.shapes (fs ++ gs) = Form.shapes fs ++ Form.shapes gs := by
  induction fs with
  | nil => rfl
  | cons f fs ih => simp [Form.shapes, ih]

namespace Expression

mutual

/-- The shape of an expression. -/
def shape : Expression → Shape
  | ⟨kind, _, _, _, _, _, _, children⟩ => .node kind (shapes children)
termination_by structural e => e

def childShape : Option Expression → List Shape
  | none => []
  | some e => [e.shape]
termination_by structural c => c

def shapes : List (Option Expression) → List Shape
  | [] => []
  | c :: cs => childShape c ++ shapes cs
termination_by structural cs => cs

end

mutual

/-- **A normal form has the shape of its expression.** -/
theorem shape_normal : ∀ e : Expression, e.Readable → e.normal.shape = e.shape
  | ⟨kind, field, value, boost, distance, lower, upper, children⟩, he => by
    cases kind with
    | and | or | not => exact congrArg (Shape.node _) (shapes_normalChildren children he)
    | everything =>
      obtain rfl : children = [] := he
      rfl
    | raw | range | term | phrase | leading | near =>
      obtain rfl : children = [] := he.1
      rfl

theorem shapes_normalChild :
    ∀ c : Option Expression, ChildReadable c → Form.shapes (normalChild c) = childShape c
  | none, hc => hc.elim
  | some e, hc => congrArg ([·]) (shape_normal e hc)

theorem shapes_normalChildren : ∀ cs : List (Option Expression), AllReadable cs →
    Form.shapes (normalChildren cs) = shapes cs
  | [], _ => rfl
  | c :: cs, hcs => by
    rw [normalChildren, shapes, Form.shapes_append, shapes_normalChild c hcs.1,
      shapes_normalChildren cs hcs.2]

end

end Expression

namespace Clause

/-- The nodes of a clause can be read back. -/
def Readable (c : Clause) : Prop := ∀ e ∈ c.nodes, e.Readable

/-- **The normal forms of the nodes of a clause.** -/
def normal (c : Clause) : List Form := c.nodes.map Expression.normal

end Clause

end SearchIndex.Query
