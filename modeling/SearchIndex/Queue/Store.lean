import SearchIndex.Act
import SearchIndex.Queue.Column
import SearchIndex.Queue.Table
import SearchIndex.Value.Shape

/-!
# The store of the queue

A store keeps the table of intents and changes it in transactions. A transaction works on a draft
of the table, which becomes the table when it is committed. Beginning, each statement, committing
and reading the clock may be obstructed; whatever fails in a transaction, its draft is dropped and
the failure goes on to the caller. One operation uses the store at a time.

## Main definitions

* `Statement`: what a transaction asks of the store
* `Obstacles`: what stands in the way of the operations of a store
* `Store`: a table, the draft of an open transaction, the clock, and the obstacles
* `Store.transaction body`: a body between beginning and committing
* `Store.push`, `Store.claim`, `Store.flush`, `Store.requeue`: the operations that write
* `Store.counts`, `Store.entries`: the operations that read

## Main results

* `attempt_exclusively`: an operation that leaves the table and no draft leaves the store free
-/

namespace SearchIndex.Queue

/-- What a transaction asks of a store. -/
inductive Statement where
  /-- Add an entry or reset it. -/
  | record
  /-- Move entries to another status. -/
  | mark
  /-- Look at entries. -/
  | select
  /-- Remove entries. -/
  | remove
deriving DecidableEq, Repr

/-- What stands in the way of the operations of a store. -/
structure Obstacles where
  /-- Why no transaction can begin. -/
  opening : Option Failure := none
  /-- Why a statement fails. -/
  statement : Statement → Option Failure := fun _ => none
  /-- Why no transaction can be committed. -/
  commit : Option Failure := none

/-- One reason, if there is one, stands in the way of everything. -/
def Obstacles.always (reason : Option Failure) : Obstacles where
  opening := reason
  statement _ := reason
  commit := reason

/-- A table that is changed in transactions. -/
structure Store where
  /-- The table as it was last committed. -/
  table : Table := []
  /-- The table as the open transaction sees it, if one is open. -/
  draft : Option Table := none
  /-- The store is in use. -/
  held : Bool := false
  /-- What reading the clock gives. -/
  clock : Except Failure Value := .ok (.int 0)
  /-- What stands in the way. -/
  obstacles : Obstacles := {}

namespace Store

variable {α : Type}

/-- The table as a statement sees it. -/
def current (s : Store) : Table := s.draft.getD s.table

/-! ## Transactions -/

/-- Open a transaction on a draft of the table. -/
def begin : Act Store Unit :=
  Act.ofStep fun s =>
    match s.obstacles.opening with
    | some f => (.error f, s)
    | none => (.ok (), { s with draft := some s.table })

/-- The draft becomes the table. -/
def commit : Act Store Unit :=
  Act.ofStep fun s =>
    match s.obstacles.commit with
    | some f => (.error f, s)
    | none => (.ok (), { s with table := s.current, draft := none })

/-- Drop the draft. -/
def rollback (s : Store) : Store := { s with draft := none }

/-- Read with a statement. -/
def query (statement : Statement) (look : Table → Except Failure α) : Act Store α :=
  Act.ofStep fun s =>
    match s.obstacles.statement statement with
    | some f => (.error f, s)
    | none => (look s.current, s)

/-- Change the draft with a statement. -/
def change (statement : Statement) (edit : Table → Except Failure (α × Table)) : Act Store α :=
  Act.ofStep fun s =>
    match s.obstacles.statement statement with
    | some f => (.error f, s)
    | none =>
      match edit s.current with
      | .error f => (.error f, s)
      | .ok (a, t) => (.ok a, { s with draft := some t })

/-- The time, in whole seconds. -/
def now : Act Store Int :=
  Act.ofStep fun s => (s.clock.bind Value.integerOf, s)

/-- Use the store alone, and free it however the operation ends. -/
def exclusively (a : Act Store α) : Act Store α :=
  Act.ofStep fun s =>
    let (outcome, s) := a.attempt { s with held := true }
    (outcome, { s with held := false })

/-- Drop the draft if the operation fails. -/
def orRollback (a : Act Store α) : Act Store α :=
  Act.ofStep fun s =>
    match a.attempt s with
    | (.ok a, s) => (.ok a, s)
    | (.error f, s) => (.error f, s.rollback)

/-- **A body between beginning and committing**: if the body or the commit fails, nothing has
changed. -/
def transaction (body : Act Store α) : Act Store α :=
  exclusively do
    begin
    orRollback do
      let a ← body
      commit
      return a

theorem attempt_exclusively (a : Act Store α) (s : Store) :
    (exclusively a).attempt s =
      ((a.attempt { s with held := true }).1,
        { (a.attempt { s with held := true }).2 with held := false }) := rfl

/-! ## Operations -/

/-- The row for an intent: its kind must be something, and its time must not lie before the
epoch. -/
def row (id : String) (action : Action) (kind : Value) (time : Int) :
    Except Failure (Intent × Int) := do
  let kind ← textColumn kind
  let time ← integerColumn time
  match kind with
  | none => throw (.missingColumn "entry_type")
  | some kind =>
    if time < 0 then throw .negativeTime
    return (⟨id, kind, action⟩, time)

/-- **Ask for an action on the record with an id and a kind.** -/
def push (action : Action) (id kind : Value) : Act Store Unit :=
  transaction do
    let time ← now
    change .record fun t => do
      -- A row that is refused is not recorded.
      let (intent, time) ← row id.plain action kind time
      return ((), t.push intent time)

/-- **Claim every waiting entry**: the entries that now run. -/
def claim : Act Store Table :=
  transaction do
    change .mark fun t => .ok ((), t.claim)
    query .select fun t => .ok (t.withStatus .running)

/-- **Remove the running entries**: their number. -/
def flush : Act Store Nat :=
  transaction (change .remove fun t => .ok (t.count .running, t.flush))

/-- **Let the running entries wait again**: their number. -/
def requeue : Act Store Nat :=
  transaction (change .mark fun t => .ok (t.count .running, t.requeue))

/-- **The numbers of waiting and of running entries.** -/
def counts : Act Store (Nat × Nat) :=
  exclusively (query .select fun t => .ok (t.count .waiting, t.count .running))

/-- **The entries**, those asked for longest ago first. -/
def entries : Act Store Table :=
  exclusively (query .select fun t => .ok t.byTime)

end Store

end SearchIndex.Queue
