import SearchIndex.Failure
import SearchIndex.Text.Digit

/-!
# Taking values apart

A value that is expected to have a shape is taken apart, or the wrong shape is the failure.

## Main definitions

* `Value.entriesFor member v`: the entries of a map, which alone has the member
* `Value.itemsOf v`: the items of a value that can be gone through
* `Value.textFor member v`, `Value.textOf v`: the text a value is
* `Value.numberOf v`, `Value.integerOf v`: the number a value is, and the integer it stands for
* `Value.times v n`: a value a number of times
* `Value.keyOf v`: the key a value is
* `Value.pairsOf v`: the keys and values a value holds

## Main results

* `entriesFor_map`, `itemsOf_list`, `pairsOf_map`, `keyOf_ofKey`: values of the right shape
-/

namespace SearchIndex.Value

/-- The entries of a map, which alone has the member. -/
def entriesFor (member : String) : Value → Except Failure Fields
  | .map entries => .ok entries
  | v => .error (.noMember v.typeName member)

theorem entriesFor_map (member : String) (entries : Fields) :
    entriesFor member (.map entries) = .ok entries := rfl

/-- The items of a value that can be gone through. -/
def itemsOf (v : Value) : Except Failure (List Value) :=
  match v.items? with
  | some items => .ok items
  | none => .error (.notIterable v.typeName)

theorem itemsOf_list (items : List Value) : itemsOf (.list items) = .ok items := rfl

/-- The text a value is, which alone has the member. -/
def textFor (member : String) : Value → Except Failure String
  | .text s => .ok s
  | v => .error (.noMember v.typeName member)

/-- The text a value is. -/
def textOf : Value → Except Failure String
  | .text s => .ok s
  | v => .error (.notAText v.typeName)

/-- The number a value is. -/
def numberOf (v : Value) : Except Failure Number :=
  match v.number? with
  | some n => .ok n
  | none => .error (.notANumber v.typeName)

/-- The integer a value stands for: numbers lose their fraction, texts are read. -/
def integerOf (v : Value) : Except Failure Int :=
  match v with
  | .text s =>
    match Text.readInt? s with
    | some n => .ok n
    | none => .error (.badInteger s)
  | v =>
    match v.number? with
    | some n => n.trunc.mapError .arithmetic
    | none => .error (.notAnInteger v.typeName)

/-- The number of items that copies can have in all. -/
def copyLimit : Nat := twoTo 32

/-- The items of a list a number of times. -/
def copies {α : Type} (items : List α) (n : Nat) : Except Failure (List α) :=
  if twoTo 63 ≤ n ∨ copyLimit ≤ n * items.length then .error .tooManyCopies
  else if items.isEmpty then .ok []
  else .ok (List.replicate n items).flatten

/-- A value a number of times: numbers are multiplied, texts and lists repeated. -/
def times (v : Value) (n : Number) : Except Failure Value :=
  match v.number?, n.exact, v with
  | some m, _, _ => ((n.times m).map ofNumber).mapError .arithmetic
  | none, .inl n, .text s => (copies s.toList n.toNat).map fun cs => .text (String.ofList cs)
  | none, .inl n, .list items => (copies items n.toNat).map .list
  | none, _, _ => .error (.notANumber v.typeName)

/-- The key a value is. -/
def keyOf (v : Value) : Except Failure Key :=
  match v.key? with
  | some key => .ok key
  | none => .error (.notAKey v.typeName)

theorem keyOf_ofKey (key : Key) : (ofKey key).keyOf = .ok key := by rw [keyOf, key?_ofKey]

/-- The key and value that an item at a position stands for: its two items. -/
def pairOf (index : Nat) (item : Value) : Except Failure (Key × Value) :=
  match item.items? with
  | none => .error (.notAPair index)
  | some [key, v] => do return (← key.keyOf, v)
  | some items => .error (.badPair index items.length)

/-- The keys and values of items, counted from a position on. -/
def pairsFrom (index : Nat) : List Value → Except Failure Fields
  | [] => .ok []
  | item :: items => do
    let pair ← pairOf index item
    let pairs ← pairsFrom (index + 1) items
    return pair :: pairs

/-- The keys and values a value holds: of a map its entries, of other values their items as
pairs. -/
def pairsOf (v : Value) : Except Failure Fields :=
  match v with
  | .map entries => .ok entries
  | v => do
    let items ← v.itemsOf
    return Keyed.ofList (← pairsFrom 0 items)

theorem pairsOf_map (entries : Fields) : pairsOf (.map entries) = .ok entries := rfl

end SearchIndex.Value
