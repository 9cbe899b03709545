import SearchIndex.Storage.Disk

/-!
# The shared manager

All queues of a process share one manager of a connection. The first that asks for a manager makes
it: it is shared from the moment it exists, then gets its path, its connection and its lock, and
last brings the schema of its database up to date. Whoever asks while a manager is shared gets that
one, whatever the path. Closing a manager that has a connection ends the sharing.

## Main definitions

* `Manager`: a path, a connection, and whether the lock is there
* `Pool`: the disk, all managers so far, and the one that is shared
* `Keeper σ`: where a world holds the pool, and how notes are taken in it
* `Keeper.acquire path`: the manager for a path
* `Keeper.close`: close a manager
* `Keeper.queue`, `Keeper.access`: the connection for a queue on a manager, and the queue over it

## Main results

* `acquire_of_shared`: the shared manager is given for every path
-/

namespace SearchIndex.Storage

/-- A path, a connection, and whether the lock is there. -/
structure Manager where
  path : String
  link : Option Nat := none
  locked : Bool := false
deriving DecidableEq, Repr, Inhabited

/-- The disk, all managers so far by their numbers, and the one that is shared. -/
structure Pool where
  disk : Disk := {}
  managers : List Manager := []
  shared : Option Nat := none

namespace Pool

/-- A pool with one manager changed. -/
def edit (manager : Nat) (f : Manager → Manager) (p : Pool) : Pool :=
  { p with managers := p.managers.modify manager f }

/-- The pool with a new manager, which is shared from now on. -/
def allocate (path : String) (p : Pool) : Pool :=
  { p with managers := p.managers ++ [{ path := path }], shared := some p.managers.length }

/-- The connection of a manager. -/
def link? (p : Pool) (manager : Nat) : Option Nat := (p.managers[manager]?).bind Manager.link

/-- **The pool with a manager closed.** -/
def close (manager : Nat) (p : Pool) : Pool :=
  match p.link? manager with
  | some link => { p with disk := p.disk.disconnect link, shared := none }
  | none => p

end Pool

/-- Where a world holds the pool, and how notes are taken in it. -/
structure Keeper (σ : Type) where
  /-- The pool in a world. -/
  pool : σ → Pool
  /-- A world with another pool. -/
  withPool : Pool → σ → σ
  /-- Take a note. -/
  note : Log.Note → Act σ Unit

namespace Keeper

variable {σ α : Type} (k : Keeper σ)

/-- Change the pool. -/
def change (f : Pool → Pool) : Act σ Unit :=
  Act.ofStep fun s => (.ok (), k.withPool (f (k.pool s)) s)

/-- Access to the tables over a connection. -/
def tables (link : Nat) : Schema.Access σ Schema.Tables where
  connection s := (k.pool s).disk.schema link
  withConnection c s :=
    let p := k.pool s
    k.withPool { p with disk := p.disk.withSchema link c } s
  note := k.note

/-- Give a new manager what it needs. -/
def furnish (manager : Nat) (path : String) : Act σ Unit := do
  let link ← (Disk.connect path).within (fun s => (k.pool s).disk) fun d s =>
    k.withPool { k.pool s with disk := d } s
  k.change (Pool.edit manager fun m => { m with link := some link })
  k.change (Pool.edit manager fun m => { m with locked := true })
  let library ← Act.ofStep fun s => (.ok (k.pool s).disk.library, s)
  (k.tables link).upgrade Schema.Tables.engine library Schema.queueMigrations

/-- **The manager for a path**: the shared one if there is one, else a new one. -/
def acquire (path : String) : Act σ Nat := do
  let p ← Act.ofStep fun s => (.ok (k.pool s), s)
  match p.shared with
  | some manager => return manager
  | none =>
    -- It is shared before it has a connection, and stays so if something fails from here on.
    k.change (Pool.allocate (Path.normal path))
    k.furnish p.managers.length (Path.normal path)
    return p.managers.length

theorem acquire_of_shared {s : σ} {manager : Nat} (h : (k.pool s).shared = some manager)
    (path : String) : (k.acquire path).attempt s = (.ok manager, s) := by
  simp only [acquire, Act.attempt_bind, Act.attempt_ofStep, h]
  rfl

/-- **Close a manager.** -/
def close (manager : Nat) : Act σ Unit := k.change (Pool.close manager)

/-- The queue over a connection. -/
def access (link : Nat) : Queue.Access σ where
  store s := (k.pool s).disk.store link
  withStore store s :=
    let p := k.pool s
    k.withPool { p with disk := p.disk.withStore link store } s
  note := k.note

/-- **The connection for a queue on a manager**: the one that the manager has now. -/
def queue (manager : Nat) : Act σ Nat := do
  k.note (.debug "Initializing DocumentQueue")
  let p ← Act.ofStep fun s => (.ok (k.pool s), s)
  match p.link? manager with
  | some link => return link
  | none => throw (.noMember "DatabaseManager" "conn")

end Keeper

end SearchIndex.Storage
