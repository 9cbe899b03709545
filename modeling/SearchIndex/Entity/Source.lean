import SearchIndex.Entity.Repository

/-!
# Repositories over a list of records

A source describes a repository whose records are held in a list: which attribute is the key, which
attributes are indexed, and what else the repository offers.

## Main definitions

* `Source`: the description of such a repository
* `Source.repository`: the repository
-/

namespace SearchIndex.Entity

/-- Which attributes of a record are indexed. -/
inductive Indexed where
  /-- Some attributes, nothing for those a record lacks. -/
  | fields (names : List Value.Key)
  /-- All of them. -/
  | record
deriving Repr

/-- How a source makes an entity from a hit. -/
inductive Revival where
  /-- Its title. -/
  | title
  /-- Its attributes, marked. -/
  | wrapped
  /-- Nothing. -/
  | nothing
deriving Repr

/-- A repository whose records are held in a list. -/
structure Source where
  records : List Record := []
  keyField : Value.Key := "id"
  indexed : Indexed := .fields ["title"]
  localeField : Option Value.Key := none
  listed : Bool := true
  revival : Option Revival := none
deriving Repr

namespace Source

/-- The value of an attribute, nothing if the record lacks it. -/
def valueOf (record : Record) (name : Value.Key) : Except Failure Value := do
  return Value.lookup (← record.entriesFor "get") name

/-- The key of a record. -/
def keyOf (s : Source) : Record → Except Failure Value
  | .map entries =>
    match Value.valueAt? entries s.keyField with
    | some key => .ok key
    | none => .error (.missingKey s.keyField)
  | record => .error (.noEntries record.typeName)

/-- What a record is indexed with. -/
def documentOf (s : Source) (record : Record) : Except Failure Value :=
  match s.indexed with
  | .record => .ok record
  | .fields names => do
    let fields ← names.mapM fun name => do return (name, ← valueOf record name)
    return .map (Keyed.ofList fields)

/-- The records with an id: the text of their key. -/
def recordsWith (s : Source) (id : Value) : Except Failure (List Record) :=
  s.records.filterM fun record => do
    let key ← s.keyOf record
    return id.text? == some key.plain

/-- For each id in order, the records that have it. -/
def fetch (s : Source) (ids : List Value) : Except Failure (List Record) := do
  let found ← ids.mapM s.recordsWith
  return found.flatten

/-- The entity of a hit's attributes. -/
def revive (attributes : Value) : Revival → Except Failure Value
  | .title => do return Value.lookup (← attributes.entriesFor "get") "title"
  | .wrapped => .ok (.list [.text "wrapped", attributes])
  | .nothing => .ok .null

/-- **The repository of a source.** -/
def repository (s : Source) : Repository where
  fetch := s.fetch
  all := .ok (if s.listed then s.records else [])
  key := s.keyOf
  locale := s.localeField.map fun field record => valueOf record field
  document := s.documentOf
  hydrate := s.revival.map fun revival attributes => revive attributes revival

end Source

end SearchIndex.Entity
