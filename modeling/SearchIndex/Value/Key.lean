import SearchIndex.Keyed
import SearchIndex.Number.Basic

/-!
# Keys of maps

A key of a map is a text, as a rule, but can be a number or nothing. Numbers are told apart by their
values, so that `1`, `1.0` and the truth value of one are the same key; not-a-number is no key that
is found again.

## Main definitions

* `Value.Key`: a key of a map
* `Value.Key.same`: equality of keys by value

## Main results

* `Value.Key.beq_text_iff`, `Value.Key.exact_text`: no other key equals a text
-/

namespace SearchIndex

/-- A key of a map. -/
inductive Value.Key where
  | text (s : String)
  | number (n : Number)
  | nothing
deriving Repr, Inhabited

namespace Value.Key

/-- Equality by value. -/
def same : Key → Key → Bool
  | .text a, .text b => a == b
  | .number m, .number n => m.same n
  | .nothing, .nothing => true
  | _, _ => false

instance : BEq Key := ⟨same⟩

instance : Coe String Key := ⟨.text⟩

theorem beq_text_iff {k : Key} {s : String} : (k == .text s) = true ↔ k = .text s := by
  cases k <;> simp [BEq.beq, same]

theorem exact_text (s : String) : Keyed.Exact (Key.text s) := fun _ => beq_text_iff

end Value.Key

end SearchIndex
