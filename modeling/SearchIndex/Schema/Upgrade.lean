import SearchIndex.Act
import SearchIndex.Log.Note
import SearchIndex.Schema.Migration

/-!
# Upgrading a database

A database records the version of its schema. An upgrade applies the migrations with higher
versions in their order, each in a transaction of its own together with the new version, so that a
migration that fails leaves no trace. Any statement may run into trouble.

## Main definitions

* `Engine δ`: what the statements of an upgrade do to databases of type `δ`
* `Connection δ`: a database, the draft of an open transaction, and the trouble statements run into
* `Access σ δ`: where a world holds a connection, and how notes are taken in it
* `pending version ms`: the migrations with higher versions
* `apply e m`: one migration in a transaction
* `Access.upgrade`: the whole upgrade
-/

namespace SearchIndex.Schema

/-- What the statements of an upgrade do to a database. -/
structure Engine (δ : Type) where
  /-- A statement of a migration. -/
  execute : String → δ → Except Failure δ
  /-- Add the record of the version if there is none. -/
  prepare : δ → Except Failure δ
  /-- The recorded version, zero if none was recorded yet. -/
  version : δ → Except Failure Int
  /-- Record a version. -/
  record : Int → δ → Except Failure δ

/-! ## Connections -/

/-- A database in use. -/
structure Connection (δ : Type) where
  /-- The database as it was last committed. -/
  content : δ
  /-- The database as the open transaction sees it, if one is open. -/
  draft : Option δ := none
  /-- The number of statements so far. -/
  count : Nat := 0
  /-- The trouble that a statement runs into, by its number. -/
  trouble : Nat → Option Failure := fun _ => none

namespace Connection

variable {δ α : Type}

/-- A statement: it fails if there is trouble, else does what it does. -/
def ask (act : Connection δ → Except Failure (α × Connection δ)) : Act (Connection δ) α :=
  Act.ofStep fun c =>
    let asked := { c with count := c.count + 1 }
    match c.trouble c.count with
    | some f => (.error f, asked)
    | none =>
      match act asked with
      | .ok (a, c) => (.ok a, c)
      | .error f => (.error f, asked)

/-- The database as a statement sees it. -/
def current (c : Connection δ) : δ := c.draft.getD c.content

/-- A change of the database: of the draft in a transaction, else for good. -/
def change (edit : δ → Except Failure δ) : Act (Connection δ) Unit :=
  ask fun c => do
    let d ← edit c.current
    return ((), match c.draft with
      | some _ => { c with draft := some d }
      | none => { c with content := d })

/-- A look at the database. -/
def look (read : δ → Except Failure α) : Act (Connection δ) α :=
  ask fun c => do return (← read c.current, c)

/-- Open a transaction. -/
def begin : Act (Connection δ) Unit := ask fun c => .ok ((), { c with draft := some c.content })

/-- The draft becomes the database. -/
def commit : Act (Connection δ) Unit :=
  ask fun c => .ok ((), { c with content := c.current, draft := none })

/-- Drop the draft if the operation fails. -/
def orRollback (a : Act (Connection δ) α) : Act (Connection δ) α :=
  Act.ofStep fun c =>
    match a.attempt c with
    | (.ok a, c) => (.ok a, c)
    | (.error f, c) => (.error f, { c with draft := none })

end Connection

/-! ## Migrations in order -/

/-- The migrations with higher versions. -/
def pending (version : Int) (ms : List Migration) : List Migration :=
  ms.filter fun m => version < m.version

/-- **One migration in a transaction**: its statements, and the record of its version. -/
def apply {δ : Type} (e : Engine δ) (m : Migration) : Act (Connection δ) Unit := do
  Connection.begin
  Connection.orRollback do
    -- The version goes into the same transaction as the statements.
    m.statements.forM fun statement => Connection.change (e.execute statement)
    Connection.change (e.record m.version)
    Connection.commit

/-- Where a world holds a connection, and how notes are taken in it. -/
structure Access (σ δ : Type) where
  /-- The connection in a world. -/
  connection : σ → Connection δ
  /-- A world with another connection. -/
  withConnection : Connection δ → σ → σ
  /-- Take a note. -/
  note : Log.Note → Act σ Unit

namespace Access

variable {σ δ α : Type} (q : Access σ δ)

/-- An operation on the connection. -/
def use (a : Act (Connection δ) α) : Act σ α := a.within q.connection q.withConnection

/-- Apply migrations one after the other. -/
def applyAll (e : Engine δ) : List Migration → Act σ Unit
  | [] => pure ()
  | m :: ms => do
    q.use (apply e m)
    q.note (.info ("applied migration v" ++ Decimal.intText m.version ++ ": " ++ m.description))
    applyAll e ms

/-- **Upgrade a database**: nothing is touched before the storage library and the versions are
checked. -/
def upgrade (e : Engine δ) (library : String) (ms : List Migration) : Act σ Unit := do
  Act.ofExcept (checkLibrary library)
  Act.ofExcept (checkVersions ms)
  q.use (Connection.change e.prepare)
  let version ← q.use (Connection.look e.version)
  match pending version ms with
  | [] =>
    q.note (.debug ("schema already at version " ++ Decimal.intText version ++
      ", no migrations to run"))
  | m :: ms => q.applyAll e (m :: ms)

end Access

end SearchIndex.Schema
