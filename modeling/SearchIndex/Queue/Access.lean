import SearchIndex.Log.Note
import SearchIndex.Queue.Store

/-!
# Access to the queue

A world that holds the queue's store can use it and take notes of what was done. Changes of the
application's records are told to the queue as intents: what is saved or restored is to be updated,
what is deleted is to be deleted.

## Main definitions

* `Access σ`: where a world of type `σ` holds the store, and how notes are taken in it
* `Access.push`, `Access.claim`, `Access.flush`, `Access.requeue`, `Access.counts`,
  `Access.entries`: the operations of the queue
* `Access.saved`, `Access.deleted`, `Access.restored`: what happened to a record

## Main results

* `Access.push_of_unknown`: an unknown action is refused before anything is done
-/

namespace SearchIndex.Queue

/-- Where a world holds the store of the queue, and how notes are taken in it. -/
structure Access (σ : Type) where
  /-- The store in a world. -/
  store : σ → Store
  /-- A world with another store. -/
  withStore : Store → σ → σ
  /-- Take a note. -/
  note : Log.Note → Act σ Unit

namespace Access

variable {σ α : Type} (q : Access σ)

/-- An operation on the store. -/
def use (a : Act Store α) : Act σ α := a.within q.store q.withStore

/-- **Ask for an action on the record with an id and a kind.** -/
def push (action id kind : Value) : Act σ Unit := do
  let action ← Act.ofExcept (Action.read action)
  q.use (Store.push action id kind)
  q.note (.debug ("Queued " ++ action.name ++ " " ++ kind.plain ++ ":" ++ id.plain))

theorem push_of_unknown {action : Value} {f : Failure} (h : Action.read action = .error f)
    (id kind : Value) (s : σ) : (q.push action id kind).attempt s = (.error f, s) := by
  rw [push, Act.attempt_bind, Act.attempt_ofExcept, h]

/-- **Claim every waiting entry**: the running entries by their actions. -/
def claim : Act σ Batch := do
  let running ← q.use Store.claim
  q.note (.info ("Claimed " ++ Decimal.natText running.length ++ " queued changes"))
  return batch running

/-- **Remove the running entries**: their number. -/
def flush : Act σ Nat := do
  let removed ← q.use Store.flush
  q.note (.info ("Flushed " ++ Decimal.natText removed ++ " processed changes"))
  return removed

/-- **Let the running entries wait again**: their number. -/
def requeue : Act σ Nat := do
  let reset ← q.use Store.requeue
  q.note (.info ("Requeued " ++ Decimal.natText reset ++ " stuck changes"))
  return reset

/-- The numbers of waiting and of running entries. -/
def counts : Act σ (Nat × Nat) := q.use Store.counts

/-- The entries, those asked for longest ago first. -/
def entries : Act σ Table := q.use Store.entries

/-- A record was saved. -/
def saved (kind id : Value) : Act σ Unit := q.push (.text Action.update.name) id kind

/-- A record was deleted. -/
def deleted (kind id : Value) : Act σ Unit := q.push (.text Action.delete.name) id kind

/-- A deleted record was restored. -/
def restored (kind id : Value) : Act σ Unit := q.saved kind id

end Access

end SearchIndex.Queue
