import SearchIndex.Value.Key

/-!
# Data values

The values of document fields, query options, responses and configuration: nothing, truth values,
integers, floats, texts, lists, and maps in insertion order.

## Main definitions

* `Value`: a data value
* `Value.truthy`: all values count as true but nothing, the zeros and what is empty
* `Value.same`: equality by value, in which `1`, `1.0` and `true` are one and the order of a map
  does not matter
* `Value.number?`, `Value.ofNumber`, `Value.key?`, `Value.ofKey`: numbers and keys as values
* `Value.items?`, `Value.valueAt?`, `Value.lookup`: what lists, texts and maps hold

## Main results

* `Value.number?_ofNumber`, `Value.key?_ofKey`: a number or key is read back from its value
-/

namespace SearchIndex

/-- A data value. -/
inductive Value where
  | null
  | bool (b : Bool)
  | int (n : Int)
  | float (x : Float)
  | text (s : String)
  | list (items : List Value)
  | map (entries : List (Value.Key × Value))
deriving Repr, Inhabited

/-- The fields of a map, in insertion order. -/
abbrev Fields := List (Value.Key × Value)

namespace Value

/-- The number a value is. -/
def number? : Value → Option Number
  | .bool b => some (.flag b)
  | .int n => some (.int n)
  | .float x => some (.float x)
  | _ => none

/-- A number as a value. -/
def ofNumber : Number → Value
  | .flag b => .bool b
  | .int n => .int n
  | .float x => .float x

theorem number?_ofNumber (n : Number) : (ofNumber n).number? = some n := by cases n <;> rfl

/-- The key a value is; lists and maps are none. -/
def key? : Value → Option Key
  | .null => some .nothing
  | .bool b => some (.number (.flag b))
  | .int n => some (.number (.int n))
  | .float x => some (.number (.float x))
  | .text s => some (.text s)
  | .list _ | .map _ => none

/-- A key as a value. -/
def ofKey : Key → Value
  | .text s => .text s
  | .number n => ofNumber n
  | .nothing => .null

theorem key?_ofKey (k : Key) : (ofKey k).key? = some k := by
  cases k with
  | number n => cases n <;> rfl
  | text | nothing => rfl

/-- Whether a value counts as true. -/
def truthy : Value → Bool
  | .null => false
  | .bool b => b
  | .int n => (Number.int n).truthy
  | .float x => (Number.float x).truthy
  | .text s => s != ""
  | .list items => !items.isEmpty
  | .map entries => !entries.isEmpty

/-- The value, or another one if it does not count as true. -/
def orElse (v other : Value) : Value := if v.truthy then v else other

/-- The value is a map. -/
def isMap : Value → Bool
  | .map _ => true
  | _ => false

/-- The items of a value that can be gone through: of a list its items, of a text its characters,
of a map its keys. -/
def items? : Value → Option (List Value)
  | .list items => some items
  | .text s => some (s.toList.map fun c => .text (String.singleton c))
  | .map entries => some (entries.map fun (key, _) => ofKey key)
  | _ => none

/-- The text a value is, if it is one. -/
def text? : Value → Option String
  | .text s => some s
  | _ => none

/-- The value of a key in a map's entries, if it has one. -/
def valueAt? (entries : Fields) (key : Key) : Option Value := Keyed.find? key entries

/-- The value of a key in a map's entries, nothing if it has none. -/
def lookup (entries : Fields) (key : Key) : Value := (valueAt? entries key).getD .null

/-- The name of a value's type in messages about values of a wrong type. -/
def typeName : Value → String
  | .null => "NoneType"
  | .bool _ => "bool"
  | .int _ => "int"
  | .float _ => "float"
  | .text _ => "str"
  | .list _ => "list"
  | .map _ => "dict"

/-! ## Equality -/

/-- The value is the number. -/
def sameNumber (a : Number) (b : Value) : Bool :=
  match b.number? with
  | some n => a.same n
  | none => false

mutual

/-- Equality by value. -/
def same : Value → Value → Bool
  | .null, .null => true
  | .text a, .text b => a == b
  | .list as, .list bs => sameItems as bs
  | .map as, .map bs => as.length == bs.length && sameEntries as bs
  | .bool a, b => sameNumber (.flag a) b
  | .int a, b => sameNumber (.int a) b
  | .float a, b => sameNumber (.float a) b
  | _, _ => false
termination_by structural a => a

/-- Two lists are equal item by item. -/
def sameItems : List Value → List Value → Bool
  | [], [] => true
  | a :: as, b :: bs => a.same b && sameItems as bs
  | _, _ => false
termination_by structural as => as

/-- The entry is in the map. -/
def sameEntry : Key × Value → Fields → Bool
  | (key, a), bs =>
    match Keyed.find? key bs with
    | some b => a.same b
    | none => false
termination_by structural a => a

/-- Every entry is in the map. -/
def sameEntries : List (Key × Value) → Fields → Bool
  | [], _ => true
  | a :: as, bs => sameEntry a bs && sameEntries as bs
termination_by structural as => as

end

end Value

end SearchIndex
