import SearchIndex.Query.Request

/-!
# Query builders

A builder is a request together with the name of the field that holds the kind of a document. Its
steps are those of a request, and a few that stand for several: restricting to a kind, to a
language, or to values of fields.

## Main definitions

* `Builder`: a request and the field of kinds
* `Builder.Step`, `Builder.Step.expand`: what a builder is changed by, as steps of its request
* `Builder.apply`: a builder after a step
* `leaves v`: the values inside nested lists
* `Builder.build`: the parameters of the request

## Main results

* `leaves_list_append`: the leaves of a list are those of its two parts
-/

namespace SearchIndex.Query

/-- The field that holds the kind of a document when nothing else is said. -/
def defaultTypeField : String := "searchable_type"

/-- The field that holds the language of a document. -/
def localeField : String := "locale"

mutual

/-- **The values inside nested lists**, from left to right; any other value is one leaf. -/
def leaves : Value → List Value
  | .list items => leavesAll items
  | v => [v]
termination_by structural v => v

/-- The leaves of several values one after the other. -/
def leavesAll : List Value → List Value
  | [] => []
  | v :: vs => leaves v ++ leavesAll vs
termination_by structural vs => vs

end

theorem leavesAll_append (vs ws : List Value) :
    leavesAll (vs ++ ws) = leavesAll vs ++ leavesAll ws := by
  induction vs with
  | nil => rfl
  | cons v vs ih => simp [leavesAll, ih]

theorem leaves_list_append (vs ws : List Value) :
    leaves (.list (vs ++ ws)) = leaves (.list vs) ++ leaves (.list ws) :=
  leavesAll_append vs ws

/-! ## Builders -/

/-- A request and the field that holds the kind of a document. -/
structure Builder where
  typeField : Value := .text defaultTypeField
  request : Request := {}
deriving Repr, Inhabited

namespace Builder

/-- A builder with a page size; a field of kinds that does not count as true is as good as none. -/
def new (typeField fallback size : Value) : Builder :=
  ⟨typeField.orElse fallback, { size := size }⟩

/-- What a builder is changed by. -/
inductive Step where
  /-- A step of the request. -/
  | request (step : Request.Step)
  /-- Keep to a kind, and to a language if one is given. -/
  | ofKind (kind locale : Value)
  /-- Keep to a language. -/
  | ofLocale (locale : Value)
  /-- Keep to values of fields. -/
  | having (filters : Value)

/-- The step of the request that filters by a phrase. -/
def filterPhrase (value field : Value) : Request.Step := .filter (.add (.phrase value field))

/-- The step of the request that keeps to a language. -/
def filterLocale (locale : Value) : Request.Step := filterPhrase locale (.text localeField)

/-- The steps of the request that filter a field by the leaves that count as true. -/
def filterLeaves (field : Value.Key) (v : Value) : List Request.Step :=
  ((leaves v).filter Value.truthy).map fun leaf => filterPhrase leaf (.ofKey field)

/-- The steps of the request that a step stands for. -/
def Step.expand (typeField : Value) : Step → Except Fault (List Request.Step)
  | .request step => .ok [step]
  | .ofKind kind locale =>
    .ok (filterPhrase kind typeField :: if locale.truthy then [filterLocale locale] else [])
  | .ofLocale locale => .ok [filterLocale locale]
  | .having (.map filters) => .ok (filters.flatMap fun (field, v) => filterLeaves field v)
  | .having v => .error (.noMember v.typeName "items")

/-- **A builder after a step.** -/
def apply (b : Builder) (step : Step) : Except Fault Builder := do
  let request ← b.request.applyAll (← step.expand b.typeField)
  return { b with request := request }

/-- A builder after a step, unchanged when the step is refused. -/
def attempt (b : Builder) (step : Step) : Builder :=
  match b.apply step with
  | .ok b => b
  | .error _ => b

/-- A builder after several steps, the first refused one ending them. -/
def applyAll (b : Builder) (steps : List Step) : Except Fault Builder := steps.foldlM apply b

/-- The parameters of the request. -/
def build (b : Builder) : Except Fault Fields := b.request.compile

/-- A builder written out. -/
def shown (b : Builder) : Except Fault String := do
  return "QueryBuilder(" ++ (Value.map (← b.build)).shown ++ ")"

end Builder

end SearchIndex.Query
