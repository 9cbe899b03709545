import SearchIndex.Entity.Repository
import SearchIndex.Index.Hydration
import SearchIndex.Index.Page
import SearchIndex.Log.Note

/-!
# The gateway to the index

The gateway sends document operations and searches to a backend. Records become documents with the
name of their kind in a field of their own; an empty batch is not sent at all. A page is searched
for by its size and offset.

## Main definitions

* `Backend σ`: what the gateway needs in a world of type `σ`
* `Gateway σ`: a backend and the field of kinds
* `Gateway.update`, `Gateway.remove`, `Gateway.deleteIds`: the writing side
* `window`: a request for a page
* `Gateway.execute`, `Gateway.get`, `Gateway.getGrouped`, `Gateway.paginate`: the reading side

## Main results

* `window_int`: the window of a page by whole numbers
-/

namespace SearchIndex.Index

open Entity (Record Repository)

/-- What the gateway needs. -/
structure Backend (σ : Type) where
  /-- The response to compiled parameters. -/
  search : Fields → Act σ Value
  /-- The response to a batch of operations. -/
  upload : List Value → Act σ Fields
  /-- Take a note. -/
  note : Log.Note → Act σ Unit

/-- A backend and the field that holds the kind of a document. -/
structure Gateway (σ : Type) where
  backend : Backend σ
  typeField : Value := .text Query.defaultTypeField

/-! ## Documents of records -/

/-- The operation that adds a record, unless it has no fields. -/
def documentOf? (typeField kind : Value) (repository : Repository) (record : Record) :
    Except Failure (Option Document) := do
  let document ← repository.document record
  if !document.truthy then return none
  let fields ← document.entriesFor "items"
  let typeField ← typeField.keyOf
  let id ← repository.searchableId record
  return some (.add id (Document.indexedFields typeField kind fields))

/-- **The operations that add records**, without those that have no fields. -/
def buildDocuments (typeField kind : Value) (records : List Record) (repository : Repository) :
    Except Failure (List Document) := do
  let documents ← records.mapM (documentOf? typeField kind repository)
  return documents.filterMap id

/-- The number of a page that is asked for: numbers up to one mean the first. -/
def pageNumber (n : Number) : Number := if (Number.int 1).less n then n else .int 1

theorem pageNumber_int (n : Int) : pageNumber (.int n) = .int (max 1 n) := by
  by_cases h : 1 < n
  · simp [pageNumber, Number.less_int, h, Int.max_eq_right (Int.le_of_lt h)]
  · simp [pageNumber, Number.less_int, h, Int.max_eq_left (Int.not_lt.1 h)]

/-- The offset of a page: the size once for each page before it. -/
def offsetOf (size : Value) (number : Number) : Except Failure Value := do
  let before ← (number.minus (.int 1)).mapError .arithmetic
  size.times before

theorem offsetOf_int (size number : Int) :
    offsetOf (.int size) (.int number) = .ok (.int ((number - 1) * size)) := rfl

/-- **A request for a window of the results**, with the number of the page: pages have a size and
are counted from one. -/
def window (r : Query.Request) (size number : Value) :
    Except Failure (Query.Request × Number) := do
  let number := pageNumber (← number.numberOf)
  let start ← offsetOf size number
  return ({ r with size := size, start := start }, number)

theorem window_int (r : Query.Request) (size number : Int) :
    window r (.int size) (.int number) =
      .ok ({ r with size := .int size, start := .int ((max 1 number - 1) * size) },
        .int (max 1 number)) := by
  simp only [window, Value.numberOf, Value.number?, bind, Except.bind, pageNumber_int, offsetOf_int]
  rfl

namespace Gateway

variable {σ : Type}

/-- Send a batch of operations, unless it is empty. -/
def send (g : Gateway σ) (kind : Value) (documents : List Document) : Act σ (Option Fields) :=
  match documents with
  | [] => pure none
  | first :: _ => do
    g.backend.note (.debug ("Uploading " ++ Decimal.natText documents.length ++ " " ++
      first.action ++ " document operation(s) for " ++ kind.plain))
    return some (← g.backend.upload (documents.map Document.toValue))

/-- **Add or replace records.** -/
def update (g : Gateway σ) (kind : Value) (records : List Record) (repository : Repository) :
    Act σ (Option Fields) := do
  g.send kind (← Act.ofExcept (buildDocuments g.typeField kind records repository))

/-- **Delete documents by their ids.** -/
def deleteIds (g : Gateway σ) (kind : Value) (ids : List String) : Act σ (Option Fields) :=
  g.send kind (ids.map .delete)

/-- **Delete the documents of records.** -/
def remove (g : Gateway σ) (kind : Value) (records : List Record) (repository : Repository) :
    Act σ (Option Fields) := do
  g.deleteIds kind (← Act.ofExcept (records.mapM repository.searchableId))

/-- **The result of a request.** -/
def execute (g : Gateway σ) (r : Query.Request) : Act σ Result := do
  let compiled ← Act.ofExcept (r.compile.mapError .query)
  g.backend.note (.debug ("Search request: " ++ (Value.map compiled).shown))
  let response ← g.backend.search compiled
  Act.ofExcept (Result.ofResponse response)

/-- The entities of a request's hits. -/
def get (g : Gateway σ) (r : Query.Request) (factory : Factory) : Act σ (List Value) := do
  let result ← g.execute r
  Act.ofExcept (hydrateHits factory g.typeField result.hits)

/-- The entities of a request's hits by the short names of their kinds. -/
def getGrouped (g : Gateway σ) (r : Query.Request) (factory : Factory) :
    Act σ (List (String × List Value)) := do
  let result ← g.execute r
  Act.ofExcept (groupHits factory g.typeField result.hits)

/-- **A page of the entities of a request's hits.** -/
def paginate (g : Gateway σ) (r : Query.Request) (size number : Value) (factory : Factory) :
    Act σ (Page Value) := do
  let (r, number) ← Act.ofExcept (window r size number)
  let result ← g.execute r
  let items ← Act.ofExcept (hydrateHits factory g.typeField result.hits)
  return ⟨items, .int result.found, .ofNumber number, size⟩

end Gateway

end SearchIndex.Index
