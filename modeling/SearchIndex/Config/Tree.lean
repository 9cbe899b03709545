import SearchIndex.Value.Text

/-!
# Configuration trees

A configuration is a tree of maps, lists and scalars. The keys of a map are texts as a rule, but a
document can have others, and scalars of kinds that no setting takes, such as dates. Keys that are
numbers are told apart by their values: `1`, `1.0` and the truth value of one are the same key.

## Main definitions

* `Key`: a key of a map
* `Key.ofNumber`: a number as a key
* `Tree`: a configuration tree
* `Tree.ofValue`, `Tree.toValue`: a data value as a tree, and back
* `Tree.merge base over`: the entries of two maps, the second over the first

## Main results

* `Key.ofNumber_eq_integer_iff`: a number is the key of the integer that it equals
* `merge_nil`: nothing over a map is the map
* `mergeTree_of_not_map`: what is no map replaces what is there
-/

namespace SearchIndex.Config

/-- A key of a map. -/
inductive Key where
  | text (s : String)
  /-- A number that equals an integer. -/
  | integer (n : Int)
  /-- Another float by its bits. -/
  | fraction (bits : UInt64)
  | nothing
  /-- A scalar of another kind as it is written. -/
  | other (written : String)
deriving DecidableEq, Repr, Inhabited

namespace Key

/-- The integer that a float equals, if it equals one. -/
def whole? (x : Float) : Option Int :=
  match Binary64.read x with
  | .finite s => if Number.intEqFloat s.trunc x then some s.trunc else none
  | _ => none

/-- **A number as a key.** -/
def ofNumber : Number → Key
  | .int n => .integer n
  | .flag b => .integer (Number.ofFlag b)
  | .float x =>
    match whole? x with
    | some n => .integer n
    | none => .fraction x.toBits

theorem whole?_eq_some_iff {x : Float} {n : Int} :
    whole? x = some n ↔ Number.intEqFloat n x = true := by
  rw [whole?]
  cases hx : Binary64.read x with
  | notANumber | infinite => simp [Number.intEqFloat, hx]
  | finite s =>
    dsimp only
    constructor
    · intro h
      split at h
      · next heq => exact Option.some.inj h ▸ heq
      · cases h
    · intro h
      rw [Number.trunc_of_intEqFloat hx h, if_pos h]

/-- **A number is the key of the integer that it equals**, whatever its kind. -/
theorem ofNumber_eq_integer_iff {m : Number} {n : Int} :
    ofNumber m = .integer n ↔ m.same (.int n) = true := by
  cases m with
  | int k => simp [ofNumber, Number.same]
  | flag b =>
    rw [ofNumber, Key.integer.injEq, eq_comm]
    simp [Number.same]
  | float x =>
    rw [Number.same, ← whole?_eq_some_iff, ofNumber]
    cases whole? x <;> simp

end Key

/-- A configuration tree. -/
inductive Tree where
  | null
  | bool (b : Bool)
  | int (n : Int)
  | float (x : Float)
  | text (s : String)
  /-- A scalar of another kind as it is written. -/
  | other (written : String)
  | list (items : List Tree)
  | map (entries : List (Key × Tree))
deriving Repr, Inhabited

/-- The entries of a map. -/
abbrev Entries := List (Key × Tree)

namespace Tree

/-- Whether a tree counts as true. -/
def truthy : Tree → Bool
  | .null => false
  | .bool b => b
  | .int n => n != 0
  | .float x => x != 0.0
  | .text s => s != ""
  | .other _ => true
  | .list items => !items.isEmpty
  | .map entries => !entries.isEmpty

/-! ## Data values as trees -/

/-- A key of a data value as a key of a tree. -/
def ofKey : Value.Key → Key
  | .text s => .text s
  | .number n => .ofNumber n
  | .nothing => .nothing

mutual

/-- A data value as a tree. -/
def ofValue : Value → Tree
  | .null => .null
  | .bool b => .bool b
  | .int n => .int n
  | .float x => .float x
  | .text s => .text s
  | .list items => .list (ofItems items)
  | .map entries => .map (ofEntries entries)
termination_by structural v => v

/-- The items of a list as trees. -/
def ofItems : List Value → List Tree
  | [] => []
  | v :: vs => ofValue v :: ofItems vs
termination_by structural vs => vs

/-- An entry of a map with a tree. -/
def ofEntry : Value.Key × Value → Key × Tree
  | (key, v) => (ofKey key, ofValue v)
termination_by structural e => e

/-- The entries of a map with trees. -/
def ofEntries : List (Value.Key × Value) → Entries
  | [] => []
  | e :: es => ofEntry e :: ofEntries es
termination_by structural es => es

end

/-- A key of a tree as a key of a data value. -/
def toKey : Key → Value.Key
  | .text s => .text s
  | .integer n => .number (.int n)
  | .fraction bits => .number (.float (Float.ofBits bits))
  | .nothing => .nothing
  | .other written => .text written

mutual

/-- A tree as a data value. -/
def toValue : Tree → Value
  | .null => .null
  | .bool b => .bool b
  | .int n => .int n
  | .float x => .float x
  | .text s => .text s
  | .other _ => .null
  | .list items => .list (toItems items)
  | .map entries => .map (toFields entries)
termination_by structural t => t

/-- The items of a list as data values. -/
def toItems : List Tree → List Value
  | [] => []
  | t :: ts => toValue t :: toItems ts
termination_by structural ts => ts

/-- An entry of a map as a field. -/
def toField : Key × Tree → Value.Key × Value
  | (key, t) => (toKey key, toValue t)
termination_by structural e => e

/-- The entries of a map as fields. -/
def toFields : List (Key × Tree) → Fields
  | [] => []
  | e :: es => toField e :: toFields es
termination_by structural es => es

end

mutual

/-- A tree over what is there: a map is merged into a map, anything else replaces it. -/
def mergeTree (base : Option Tree) : Tree → Tree
  | .map upper =>
    match base with
    | some (.map entries) => .map (merge entries upper)
    | _ => .map upper
  | t => t
termination_by structural t => t

/-- An entry over the entries that are there. -/
def mergeEntry (base : Entries) : Key × Tree → Entries
  | (key, t) => Keyed.put key (mergeTree (Keyed.find? key base) t) base
termination_by structural e => e

/-- **The entries of two maps, the second over the first.** -/
def merge (base : Entries) : List (Key × Tree) → Entries
  | [] => base
  | e :: es => merge (mergeEntry base e) es
termination_by structural es => es

end

theorem merge_nil (base : Entries) : merge base [] = base := by rfl

theorem mergeTree_of_not_map {t : Tree} (h : ∀ entries, t ≠ .map entries) (base : Option Tree) :
    mergeTree base t = t := by
  cases t with
  | map entries => exact absurd rfl (h entries)
  | null | bool | int | float | text | other | list => rfl

end Tree

end SearchIndex.Config
