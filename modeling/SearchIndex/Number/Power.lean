/-!
# Powers of two and ten

## Main definitions

* `twoTo n`, `tenTo n`: the powers

## Main results

* `twoTo_pos`: powers of two are positive
* `twoTo_succ`: the next power of two
-/

namespace SearchIndex

/-- Two to a power. -/
def twoTo (n : Nat) : Nat := Nat.pow 2 n

/-- Ten to a power. -/
def tenTo (n : Nat) : Nat := Nat.pow 10 n

theorem twoTo_pos (n : Nat) : 0 < twoTo n := Nat.two_pow_pos n

theorem twoTo_succ (n : Nat) : twoTo (n + 1) = twoTo n * 2 := rfl

end SearchIndex
