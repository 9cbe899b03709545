import SearchIndex.Json.Writer
import SearchIndex.Query.Clause
import SearchIndex.Query.Geometry

/-!
# Search requests

A request has a scored clause and a filtering one, facets, named expressions, an order, a window or
a cursor, the fields to return, statistics and options of the query parser. It is changed by steps
and compiled into the ordered parameters that are sent.

## Main definitions

* `Request`: the parts of a search request
* `Request.Step`, `Request.apply`: what a request is changed by
* `Request.parameters`: the parameters of a request, in alphabetical order of their names
* `Request.compile`: the parameters of a request whose clauses can be written

## Main results

* `compile_eq_ok_iff`: exactly the requests with clauses that can be written compile
* `applyAll_append`: applying steps in two lots
-/

namespace SearchIndex.Query

/-- The cursor of the first page. -/
def initialCursor : String := "initial"

/-- The query parser that reads the clauses. -/
def queryParser : String := "structured"

/-- The number of hits asked for when nothing else is said. -/
def defaultSize : Int := 10

/-- What is counted for a field. -/
inductive Facet where
  /-- The most frequent values, or all in order. -/
  | sorted (sort size : Value)
  /-- Given values or ranges. -/
  | buckets (labels : List Value) (method : Value)
deriving Repr

/-- The specification of a facet as a value. -/
def Facet.toValue : Facet → Value
  | .sorted sort size => .map [("sort", sort), ("size", size)]
  | .buckets labels method => .map [("buckets", .list labels), ("method", method)]

/-- The parts of a search request. -/
structure Request where
  query : Clause := {}
  filter : Clause := {}
  cursor : Option String := none
  start : Value := .int 0
  size : Value := .int defaultSize
  expressions : Fields := []
  facets : List (Value.Key × Facet) := []
  options : Fields := []
  returned : Option String := none
  sort : List (Value × Value) := []
  stats : List Value := []
deriving Repr, Inhabited

namespace Request

/-! ## Steps -/

/-- What a request is changed by. -/
inductive Step where
  /-- Page with a cursor; a value that does not count as true stands for the first page. -/
  | setCursor (cursor : Value)
  /-- Start at an offset. -/
  | setStart (start : Value)
  /-- Ask for at most so many hits. -/
  | setSize (size : Value)
  /-- Return only some fields, given as one text or one by one. -/
  | setReturned (fields : Value)
  /-- Set an option of the query parser. -/
  | setOption (key value : Value)
  /-- Name a formula. -/
  | addExpression (name formula : Value)
  /-- Count something for a field, in place of what was counted for it before. -/
  | addFacet (field sort size : Value)
  /-- Count given values, in place of what was counted for the field before. -/
  | addBuckets (field labels method : Value)
  /-- Order by a field after the orders given before. -/
  | addSort (field direction : Value)
  /-- Compute statistics of a field. -/
  | addStats (field : Value)
  /-- Keep to a box around a point, and name the distance from it if `named` counts as true. -/
  | nearPoint (field lat lon radius named : Value)
  /-- Name the distance from a point. -/
  | addDistance (field lat lon : Value)
  /-- Grow the scored clause. -/
  | query (step : Clause.Step)
  /-- Grow the filtering clause. -/
  | filter (step : Clause.Step)

/-- The key a value is, as names and fields must be. -/
def keyOf (v : Value) : Except Fault Value.Key :=
  match v.key? with
  | some key => .ok key
  | none => .error (.notAKey v.typeName)

/-- The request with a formula under a name. -/
def withExpression (r : Request) (name : Value.Key) (formula : Value) : Request :=
  { r with expressions := Keyed.put name formula r.expressions }

/-- The request with the distance from a point named. -/
def withDistance (r : Request) (field lat lon : Value) : Request :=
  r.withExpression "distance" (.text (haversine field lat lon))

/-- The request with something counted for a field. -/
def withFacet (r : Request) (field : Value) (facet : Facet) : Except Fault Request := do
  return { r with facets := Keyed.put (← keyOf field) facet r.facets }

/-- Fields given as one text, or as texts to be joined by commas. -/
def joinFields (fields : Value) : Except Fault String :=
  match fields with
  | .text s => .ok s
  | v =>
    match v.items? with
    | none => .error .notIterable
    | some items =>
      match items.mapM Value.text? with
      | some names => .ok (",".intercalate names)
      | none => .error .notText

/-- **A request after a step.** -/
def apply (r : Request) : Step → Except Fault Request
  | .setCursor cursor =>
    .ok { r with cursor := some (if cursor.truthy then cursor.plain else initialCursor) }
  | .setStart start => .ok { r with start := start }
  | .setSize size => .ok { r with size := size }
  | .setReturned fields => do
    let joined ← joinFields fields
    return { r with returned := some joined }
  | .setOption key value => do
    return { r with options := Keyed.put (← keyOf key) value r.options }
  | .addExpression name formula => do return r.withExpression (← keyOf name) formula
  | .addFacet field sort size => r.withFacet field (.sorted sort size)
  | .addBuckets field labels method =>
    match labels.items? with
    | some labels => r.withFacet field (.buckets labels method)
    | none => .error .notIterable
  | .addSort field direction => .ok { r with sort := r.sort ++ [(field, direction)] }
  | .addStats field => .ok { r with stats := r.stats ++ [field] }
  | .nearPoint field lat lon radius named => do
    let box ← Box.around lat lon radius
    let filter ← Clause.apply
      (.add (.bounds field (.text box.upperLeft.text) (.text box.lowerRight.text))) r.filter
    let r := { r with filter := filter }
    -- The distance is named only after the filter is in place.
    return if named.truthy then r.withDistance field lat lon else r
  | .addDistance field lat lon => .ok (r.withDistance field lat lon)
  | .query step => do
    let query ← Clause.apply step r.query
    return { r with query := query }
  | .filter step => do
    let filter ← Clause.apply step r.filter
    return { r with filter := filter }

/-- A request after a step, unchanged when the step is refused. -/
def attempt (r : Request) (step : Step) : Request :=
  match r.apply step with
  | .ok r => r
  | .error _ => r

/-- A request after several steps, the first refused one ending them. -/
def applyAll (r : Request) (steps : List Step) : Except Fault Request := steps.foldlM apply r

theorem applyAll_append (r : Request) (steps more : List Step) :
    r.applyAll (steps ++ more) = (r.applyAll steps).bind fun r => r.applyAll more := by
  simp only [applyAll, List.foldlM_append]
  rfl

/-! ## Parameters -/

/-- A parameter that is there only if a condition holds. -/
def given (present : Bool) (name : String) (v : Value) : Fields :=
  if present then [(.text name, v)] else []

/-- The text of the named formulas. -/
def expressionsText (r : Request) : String := Json.write Json.compact (.map r.expressions)

/-- The text of the facets. -/
def facetsText (r : Request) : String :=
  Json.write Json.compact (.map (r.facets.map fun (field, facet) => (field, facet.toValue)))

/-- The text of the order. -/
def sortText (r : Request) : String :=
  ",".intercalate (r.sort.map fun (field, direction) => field.plain ++ " " ++ direction.plain)

/-- The text of the fields whose statistics are computed. -/
def statsText (r : Request) : String :=
  "\x7b" ++ ",".intercalate (r.stats.map fun field => "\"" ++ field.plain ++ "\":\x7b\x7d") ++
    "\x7d"

/-- **The parameters of a request**, in alphabetical order of their names. The parser and the size
are always there, a cursor stands in place of the start, and empty parts are left out. -/
def parameters (r : Request) : Fields :=
  given r.cursor.isSome "cursor" (.text (r.cursor.getD "")) ++
  given (!r.expressions.isEmpty) "expr" (.text r.expressionsText) ++
  given (!r.facets.isEmpty) "facet" (.text r.facetsText) ++
  given (!r.filter.nodes.isEmpty) "filterQuery" (.text r.filter.text) ++
  given (!r.query.nodes.isEmpty) "query" (.text r.query.text) ++
  given (!r.options.isEmpty) "queryOptions" (.text (Json.write Json.compact (.map r.options))) ++
  given true "queryParser" (.text queryParser) ++
  given (r.returned.getD "" != "") "return" (.text (r.returned.getD "")) ++
  given true "size" r.size ++
  given (!r.sort.isEmpty) "sort" (.text r.sortText) ++
  given r.cursor.isNone "start" r.start ++
  given (!r.stats.isEmpty) "stats" (.text r.statsText)

/-- Both clauses can be written. -/
def isWhole (r : Request) : Bool := r.filter.isWhole && r.query.isWhole

/-- **The parameters of a request whose clauses can be written.** -/
def compile (r : Request) : Except Fault Fields :=
  if r.isWhole then .ok r.parameters else .error .absentChild

theorem compile_eq_ok_iff {r : Request} {fields : Fields} :
    r.compile = .ok fields ↔ r.isWhole = true ∧ r.parameters = fields := by
  unfold compile
  split <;> simp_all

end Request

end SearchIndex.Query
