import SearchIndex.Act
import SearchIndex.Index.Document
import SearchIndex.Value.Shape
import SearchIndex.Value.Text

/-!
# Repositories

A repository gives access to the records of one kind: it loads records by their keys, walks all of
them in chunks, and says under which id and with which fields a record is indexed.

## Main definitions

* `Repository`: access to the records of a kind
* `slices size l`, `chunked l size`: consecutive pieces of a list
* `walk size l`: the chunks of a list that is gone through item by item
* `localizedId key locale`: the id of a document
* `Repository.searchableId`: the id under which a record is indexed

## Main results

* `slices_nil`: no items give no chunks
* `pieceSize_int`: a positive integer is a size
* `flatten_slices`, `flatten_of_chunked`, `flatten_walkFrom`: no item is lost, and the order is
  kept
-/

namespace SearchIndex.Entity

/-- A record of the application, as a rule a map of its attributes. -/
abbrev Record := Value

/-- Access to the records of one kind. -/
structure Repository where
  /-- The records with some ids, those that still exist. -/
  fetch : List Value → Except Failure (List Record)
  /-- All records, none if they cannot be listed. -/
  all : Except Failure (List Record) := .ok []
  /-- The key of a record. -/
  key : Record → Except Failure Value
  /-- The language of a record, if the kind has languages. -/
  locale : Option (Record → Except Failure Value) := none
  /-- What a record is indexed with, as a rule a map of fields. -/
  document : Record → Except Failure Value
  /-- How an entity is made from the attributes of a hit, if the kind has its own way. -/
  hydrate : Option (Value → Except Failure Value) := none

section Chunks

variable {α : Type}

/-- Consecutive pieces of at most `size + 1` items. -/
def slices (size : Nat) (l : List α) : List (List α) :=
  match l with
  | [] => []
  | a :: l => (a :: l.take size) :: slices size (l.drop size)
termination_by l.length
decreasing_by rw [List.length_drop, List.length_cons]; omega

theorem slices_nil (size : Nat) : slices size ([] : List α) = [] := by simp [slices]

/-- The pieces of a list join up to it. -/
theorem flatten_slices (size : Nat) (l : List α) : (slices size l).flatten = l := by
  fun_induction slices size l with
  | case1 => rfl
  | case2 a l ih => rw [List.flatten_cons, ih, List.cons_append, List.take_append_drop]

/-- The number of items that a size of pieces stands for; it must be a positive integer. -/
def pieceSize (size : Value) : Except Failure Int := do
  let n ← size.numberOf
  if n.nonpositive then throw .chunkSize
  else
    match n.exact with
    | .inl n => return n
    | .inr _ => throw (.notASize size.typeName)

theorem pieceSize_int {n : Int} (h : 0 < n) : pieceSize (.int n) = .ok n := by
  have hn : (Number.int n).nonpositive = false := decide_eq_false (Int.not_le.2 h)
  simp only [pieceSize, Value.numberOf, Value.number?, bind, Except.bind, hn]
  rfl

/-- **Consecutive pieces of at most `size` items**, a size that is not positive being refused. -/
def chunked (l : List α) (size : Value) : Except Failure (List (List α)) := do
  return slices ((← pieceSize size).toNat - 1) l

theorem flatten_of_chunked {l : List α} {size : Value} {chunks : List (List α)}
    (h : chunked l size = .ok chunks) : chunks.flatten = l := by
  rcases hn : pieceSize size with _ | n <;>
    simp only [chunked, hn, bind, Except.bind, reduceCtorEq] at h
  cases h
  exact flatten_slices _ l

/-- The chunks of a list that is gone through item by item, after those collected so far: a chunk
ends when it has `size` items. -/
def walkFrom (size : Number) : List α → List α → List (List α)
  | [], [] => []
  | a :: collected, [] => [a :: collected]
  | collected, a :: l =>
    let chunk := collected ++ [a]
    if size.atMost (.int chunk.length) then chunk :: walkFrom size [] l else walkFrom size chunk l

/-- **The chunks of a list that is gone through item by item.** -/
def walk (size : Number) (l : List α) : List (List α) := walkFrom size [] l

/-- The chunks join up to what was collected and the rest of the list. -/
theorem flatten_walkFrom (size : Number) (collected l : List α) :
    (walkFrom size collected l).flatten = collected ++ l := by
  fun_induction walkFrom size collected l with
  | case1 => rfl
  | case2 a collected => simp
  | case3 collected a l chunk h ih => simp [chunk, ih]
  | case4 collected a l chunk h ih => simp [chunk, ih]

end Chunks

/-- The id of a document: the key, with the language before it if there is one. -/
def localizedId (key locale : Value) : String :=
  if locale.truthy then locale.plain ++ "-" ++ key.plain else key.plain

namespace Repository

/-- The chunks in which all records are walked. The size is first looked at with a record. -/
def chunks (r : Repository) (size : Value) : Except Failure (List (List Record)) := do
  match ← r.all with
  | [] => return []
  | records => return walk (← size.numberOf) records

/-- **The id under which a record is indexed.** -/
def searchableId (r : Repository) (record : Record) : Except Failure String := do
  let locale ← match r.locale with
    | some locale => locale record
    | none => pure .null
  let key ← r.key record
  return localizedId key locale

end Repository

end SearchIndex.Entity
