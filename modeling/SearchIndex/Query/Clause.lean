import SearchIndex.Query.Draft

/-!
# Clauses

A clause is a list of expressions, which together count as one conjunction. It is grown step by
step: a step adds a node, or a block that combines what it holds. The steps of a block grow a
clause of their own; when they add nothing the block adds nothing, and when one of them is refused
the whole block is.

## Main definitions

* `Clause`: the nodes of a clause
* `Clause.Step`, `Clause.Block`: what a clause is grown by
* `Clause.apply`: a clause after a step
* `Clause.text`: the conjunction of the nodes, nothing if there are none
* `Clause.render`: the text of a clause whose nodes are whole

## Main results

* `Clause.render_eq_ok_iff`: exactly the clauses of whole nodes can be written
* `Clause.applyAll_cons`: steps are applied in order
-/

namespace SearchIndex.Query

/-- The nodes of a clause, in the order they were added. -/
structure Clause where
  nodes : List Expression := []
deriving Repr, Inhabited

namespace Clause

mutual

/-- What a clause is grown by. -/
inductive Step where
  /-- A node. -/
  | add (draft : Draft)
  /-- A block of a kind that combines children. -/
  | block (kind : Kind) (content : Block)

/-- What a block holds. -/
inductive Block where
  /-- A literal, taken as it is. -/
  | literal (s : String)
  /-- Steps that grow the block. -/
  | steps (steps : List Step)
  /-- Something else, of a named type. -/
  | other (typeName : String)

end

instance : Inhabited Step := ⟨.add .absent⟩

instance : Inhabited Block := ⟨.steps []⟩

/-- The clause with a node at its end. -/
def append (c : Clause) (e : Expression) : Clause := ⟨c.nodes ++ [e]⟩

/-- The clause with a block of nodes at its end, unchanged when the block is empty. -/
def close (c : Clause) (kind : Kind) (children : List Expression) : Except Fault Clause :=
  if children.isEmpty then .ok c
  else do
    let e ← Expression.check { kind := kind, children := children.map some }
    return c.append e

mutual

/-- **A clause after a step.** -/
def apply : Step → Clause → Except Fault Clause
  | .add draft, c => do
    match ← draft.build with
    | some e => return c.append e
    | none => return c
  | .block kind content, c => do
    let children ← contentOf kind content
    c.close kind children
termination_by structural step => step

/-- The nodes a block holds. -/
def contentOf (kind : Kind) : Block → Except Fault (List Expression)
  | .literal s => do
    let e ← Expression.check { kind := .raw, value := .text s }
    return [e]
  | .steps steps => do
    let inner ← applyAll steps ⟨[]⟩
    return inner.nodes
  | .other typeName => .error (.notABlock kind typeName)
termination_by structural content => content

/-- A clause after several steps, the first refused one ending them. -/
def applyAll : List Step → Clause → Except Fault Clause
  | [], c => .ok c
  | step :: steps, c => do
    let c ← apply step c
    applyAll steps c
termination_by structural steps => steps

end

theorem applyAll_cons (step : Step) (steps : List Step) (c : Clause) :
    applyAll (step :: steps) c = (apply step c).bind (applyAll steps) := rfl

/-- A clause after a step, unchanged when the step is refused. -/
def attempt (step : Step) (c : Clause) : Clause :=
  match apply step c with
  | .ok c => c
  | .error _ => c

/-! ## The text of a clause -/

/-- **The text of a clause**: the conjunction of its nodes. -/
def text (c : Clause) : String :=
  if c.nodes.isEmpty then ""
  else "(and " ++ Expression.childrenText (c.nodes.map some) ++ ")"

/-- No child of a node is missing anywhere. -/
def isWhole (c : Clause) : Bool := c.nodes.all Expression.isWhole

/-- **The text of a clause whose nodes are whole.** -/
def render (c : Clause) : Except Fault String :=
  if c.isWhole then .ok c.text else .error .absentChild

theorem render_eq_ok_iff {c : Clause} {s : String} :
    c.render = .ok s ↔ c.isWhole = true ∧ c.text = s := by
  unfold render
  split <;> simp_all

/-- A clause written out. -/
def shown (c : Clause) : Except Fault String := do
  return "ClauseBuilder(" ++ Text.quote (← c.render) ++ ")"

end Clause

end SearchIndex.Query
