import SearchIndex.Index.Rehearsal
import SearchIndex.Queue.Delivery
import SearchIndex.Queue.Operation

/-!
# Rehearsed queues

A rehearsed queue stands beside a rehearsed backend and goes through steps: records change, batches
are claimed or delivered, another connection takes and releases the write lock, commits are refused.
Steps can also be set to happen during the next upload of a delivery.

## Main definitions

* `Step`: what can happen to the queue
* `Answer`: what a step answers
* `Rehearsal`: a store, the script of a backend, and the steps set for the next upload
* `Rehearsal.perform`: the answer to a step
-/

namespace SearchIndex.Queue

open Entity (Registry)

/-- What can happen to the queue. -/
inductive Step where
  /-- The clock shows another time. -/
  | clock (now : Value)
  /-- An operation is asked for. -/
  | ask (operation : Operation)
  /-- The connection is closed and opened again. -/
  | reopen
  /-- Another connection takes the write lock. -/
  | lock
  /-- The other connection goes away. -/
  | unlock
  /-- A batch is delivered, with steps that happen during its first upload. -/
  | run (size : Value) (during : Option (List Step))
  /-- A step whose commits are refused. -/
  | refusing (step : Step)
deriving Inhabited

mutual

/-- The number of steps in a step. -/
def Step.weight : Step → Nat
  | .run _ (some steps) => 1 + weightAll steps
  | .refusing step => 1 + step.weight
  | _ => 1
termination_by structural step => step

/-- The number of steps in a list. -/
def weightAll : List Step → Nat
  | [] => 0
  | step :: steps => step.weight + weightAll steps
termination_by structural steps => steps

end

/-- What a step answers. -/
inductive Answer where
  | reply (reply : Reply)
  | reported (report : Report)
deriving DecidableEq, Repr

/-- A store, the script of a backend, and the steps set for the next upload. -/
structure Rehearsal where
  store : Store := {}
  script : Index.Script := {}
  pending : List Step := []

namespace Rehearsal

/-- The queue of a rehearsal; notes are not kept. -/
def access : Access Rehearsal where
  store := Rehearsal.store
  withStore store r := { r with store := store }
  note _ := pure ()

/-- Change the rehearsal. -/
def adjust (f : Rehearsal → Rehearsal) : Act Rehearsal Answer :=
  Act.ofStep fun r => (.ok (.reply .done), f r)

/-- The rehearsal with other obstacles. -/
def obstruct (r : Rehearsal) (f : Obstacles → Obstacles) : Rehearsal :=
  { r with store := { r.store with obstacles := f r.store.obstacles } }

/-- The backend of a rehearsal: what is set for the next upload happens after the upload was
received and before it is answered. -/
def backend (perform : Step → Act Rehearsal Answer) : Index.Backend Rehearsal where
  search compiled := (Index.Script.search compiled).within script fun s r => { r with script := s }
  upload documents := do
    let before ← Act.ofStep fun r =>
      let script := r.script.record documents
      (.ok (script, r.pending), { r with script := script, pending := [] })
    -- A step that fails ends the upload with its failure.
    before.2.forM fun step => do discard (perform step)
    Act.ofExcept (before.1.verdict documents)
  note _ := pure ()

/-- **The answer to a step**, with at most `fuel` steps inside each other. -/
def perform (registry : Registry) : Nat → Step → Act Rehearsal Answer
  | 0, _ => pure (.reply .done)
  | fuel + 1, step =>
    match step with
    | .clock now => adjust fun r => { r with store := { r.store with clock := .ok now } }
    | .ask operation => do return .reply (← access.answer operation)
    | .reopen => return .reply .done
    | .lock => adjust fun r => r.obstruct fun o => { o with opening := some .databaseLocked }
    | .unlock => adjust fun r => r.obstruct fun o => { o with opening := none }
    | .run size during => do
      discard (adjust fun r => { r with pending := during.getD r.pending })
      let gateway : Index.Gateway Rehearsal := ⟨backend (perform registry fuel),
        .text Query.defaultTypeField⟩
      return .reported (← (Courier.ofParts access gateway registry size).run)
    | .refusing step =>
      Act.ofStep fun r =>
        let refused := r.obstruct fun o => { o with commit := some .commitRefused }
        let (outcome, r') := (perform registry fuel step).attempt refused
        (outcome, r'.obstruct fun o => { o with commit := r.store.obstacles.commit })

end Rehearsal

end SearchIndex.Queue
