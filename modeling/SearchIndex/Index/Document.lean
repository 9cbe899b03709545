import SearchIndex.Value.Basic

/-!
# Document operations

The index is changed by operations on documents: adding one with its fields, in place of the one
with its id, or deleting one by its id.

## Main definitions

* `Document`: an operation on a document
* `Document.toValue`: the operation as it is sent
* `Document.indexedFields`: the fields of a record as they are indexed

## Main results

* `find?_indexedFields`: the field of kinds holds the kind
-/

namespace SearchIndex.Index

/-- An operation on a document. -/
inductive Document where
  | add (id : String) (fields : Fields)
  | delete (id : String)
deriving Repr

namespace Document

/-- The name of an operation. -/
def action : Document → String
  | .add .. => "add"
  | .delete _ => "delete"

/-- The id of the document. -/
def id : Document → String
  | .add id _ => id
  | .delete id => id

/-- The operation as it is sent. -/
def toValue : Document → Value
  | .add id fields => .map [("type", .text "add"), ("id", .text id), ("fields", .map fields)]
  | .delete id => .map [("type", .text "delete"), ("id", .text id)]

/-- A value with nothing replaced by the empty text. -/
def blankNull : Value → Value
  | .null => .text ""
  | v => v

/-- The fields of a record as they are indexed: nothing becomes the empty text, and the field of
kinds holds the kind. -/
def indexedFields (typeField : Value.Key) (kind : Value) (fields : Fields) : Fields :=
  Keyed.put typeField kind (fields.map fun (name, v) => (name, blankNull v))

theorem find?_indexedFields {typeField : Value.Key} (h : (typeField == typeField) = true)
    (kind : Value) (fields : Fields) :
    Value.valueAt? (indexedFields typeField kind fields) typeField = some kind :=
  Keyed.find?_put_self h ..

end Document

end SearchIndex.Index
