import SearchIndex.Queue.Access

/-!
# Operations of the queue

What can be asked of a queue, as data.

## Main definitions

* `Operation`: what can be asked
* `Reply`: what is answered
* `Access.answer`: the answer to an operation
-/

namespace SearchIndex.Queue

/-- What can be asked of a queue. -/
inductive Operation where
  /-- An action on a record is asked for. -/
  | push (action id kind : Value)
  /-- A record was saved. -/
  | saved (kind id : Value)
  /-- A record was deleted. -/
  | deleted (kind id : Value)
  /-- A deleted record was restored. -/
  | restored (kind id : Value)
  | claim
  | flush
  | requeue
  | counts
  | entries
deriving Repr, Inhabited

/-- What is answered. -/
inductive Reply where
  | done
  | claimed (batch : Batch)
  | number (n : Nat)
  | counted (waiting running : Nat)
  | listed (entries : List Entry)
deriving DecidableEq, Repr

/-- **The answer to an operation.** -/
def Access.answer {σ : Type} (q : Access σ) : Operation → Act σ Reply
  | .push action id kind => do
    q.push action id kind
    return .done
  | .saved kind id => do
    q.saved kind id
    return .done
  | .deleted kind id => do
    q.deleted kind id
    return .done
  | .restored kind id => do
    q.restored kind id
    return .done
  | .claim => do return .claimed (← q.claim)
  | .flush => do return .number (← q.flush)
  | .requeue => do return .number (← q.requeue)
  | .counts => do
    let (waiting, running) ← q.counts
    return .counted waiting running
  | .entries => do return .listed (← q.entries)

end SearchIndex.Queue
