import SearchIndex.Value.Shape

/-!
# Search results

A response holds the number of matching documents, a window of hits, and what was counted. Its
values are read leniently: what is missing or does not count as true has a default, numbers may be
texts, and hits that are no maps are passed over.

## Main definitions

* `Hit`, `Hit.flatten`: a hit, and its fields with the first value of each
* `Result`: the parts of a response
* `Result.ofResponse`: the result a response holds
-/

namespace SearchIndex.Index

/-- A hit of a search. -/
structure Hit where
  id : String := ""
  fields : Fields := []
  exprs : Fields := []
deriving Repr, Inhabited

namespace Hit

/-- The first item of a list, nothing if it is empty; any other value is itself. -/
def firstValue : Value → Value
  | .list [] => .null
  | .list (v :: _) => v
  | v => v

/-- **The fields with the first value of each.** -/
def flatten (h : Hit) : Fields := h.fields.map fun (name, v) => (name, firstValue v)

end Hit

/-- The parts of a response. -/
structure Result where
  found : Int := 0
  start : Int := 0
  hits : List Hit := []
  cursor : Value := .null
  facets : Value := .map []
  stats : Value := .map []
deriving Repr, Inhabited

/-- The integer of an entry, zero if it is missing or does not count as true. -/
def integerAt (entries : Fields) (key : Value.Key) : Except Failure Int :=
  ((Value.lookup entries key).orElse (.int 0)).integerOf

/-- The fields of an entry, none if it is missing or does not count as true. -/
def fieldsAt (entries : Fields) (key : Value.Key) : Except Failure Fields :=
  ((Value.lookup entries key).orElse (.map [])).pairsOf

/-- The hit that an item of a response holds, if it is a map. -/
def hitOf? (item : Value) : Except Failure (Option Hit) :=
  match item with
  | .map entries => do
    let fields ← fieldsAt entries "fields"
    let exprs ← fieldsAt entries "exprs"
    return some ⟨((Value.valueAt? entries "id").getD (.text "")).plain, fields, exprs⟩
  | _ => .ok none

/-- **The result a response holds.** -/
def Result.ofResponse (response : Value) : Except Failure Result := do
  let payload ← response.entriesFor "get"
  let envelope ← ((Value.lookup payload "hits").orElse (.map [])).entriesFor "get"
  let items ← ((Value.lookup envelope "hit").orElse (.list [])).itemsOf
  let hits ← items.mapM hitOf?
  let found ← integerAt envelope "found"
  let start ← integerAt envelope "start"
  return {
    found := found
    start := start
    hits := hits.filterMap id
    cursor := Value.lookup envelope "cursor"
    facets := (Value.lookup payload "facets").orElse (.map [])
    stats := (Value.lookup payload "stats").orElse (.map []) }

end SearchIndex.Index
