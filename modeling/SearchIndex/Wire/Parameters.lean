import SearchIndex.Json.Reader
import SearchIndex.Json.Writer
import SearchIndex.Value.Shape
import SearchIndex.Value.Text

/-!
# Query parameters

The parameters of a request are sent under other names, as text. Facets, named formulas and
statistics, which are compiled into one JSON text each, are spread out again into one parameter for
each field or name.

## Main definitions

* `Parameters.ofRequest compiled`: the query parameters of compiled parameters
* `Parameters.sentName? name`: the name under which a parameter is sent
-/

namespace SearchIndex.Wire.Parameters

/-- The name under which a parameter is sent, if it is sent as it is. -/
def sentName? : String → Option String
  | "query" => some "q"
  | "queryParser" => some "q.parser"
  | "queryOptions" => some "q.options"
  | "filterQuery" => some "fq"
  | "return" => some "return"
  | "size" => some "size"
  | "start" => some "start"
  | "cursor" => some "cursor"
  | "sort" => some "sort"
  | _ => none

/-- The value that a JSON text stands for. -/
def readJson [Json.Limits] (v : Value) : Except Failure Value :=
  match v with
  | .text s => (Json.read s).mapError (.notJson s)
  | _ => .error (.query .notText)

/-- A name after the name of the part it belongs to. -/
def partName (part : String) (name : Value) : Value.Key := .text (part ++ "." ++ name.plain)

/-- The parameters sent for one part of a request. -/
def spread [Json.Limits] (name : String) (v : Value) : Except Failure Fields :=
  match sentName? name, name with
  | some sent, _ => .ok [(.text sent, .text v.plain)]
  | none, "facet" => do
    let facets ← readJson v >>= Value.entriesFor "items"
    return facets.map fun (field, facet) =>
      (partName "facet" (.ofKey field), .text (Json.write Json.compactAscii facet))
  | none, "expr" => do
    let formulas ← readJson v >>= Value.entriesFor "items"
    return formulas.map fun (name, formula) => (partName "expr" (.ofKey name), formula)
  | none, "stats" => do
    let fields ← readJson v >>= Value.itemsOf
    return fields.map fun field => (partName "stats" field, .text "\x7b\x7d")
  | none, _ => .ok [(.text name, .text v.plain)]

/-- The parameters sent for the value of a key; a key that is no text is sent as it is. -/
def spreadKey [Json.Limits] (key : Value.Key) (v : Value) : Except Failure Fields :=
  match key with
  | .text name => spread name v
  | key => .ok [(key, .text v.plain)]

/-- The parameters with others assigned one after the other. -/
def assign (params more : Fields) : Fields := more.foldl (fun m (k, v) => Keyed.put k v m) params

/-- **The query parameters of compiled parameters.** -/
def ofRequest [Json.Limits] (compiled : Fields) : Except Failure Fields :=
  compiled.foldlM (fun params (key, v) => do return assign params (← spreadKey key v)) []

end SearchIndex.Wire.Parameters
