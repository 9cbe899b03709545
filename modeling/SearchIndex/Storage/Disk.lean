import SearchIndex.Keyed
import SearchIndex.Queue.Access
import SearchIndex.Schema.Tables
import SearchIndex.Storage.Files

/-!
# Database files

A database lies in a file and holds its tables and the entries of the queue. It is used over
connections, each of them to one file; a connection that was closed refuses everything, and so does
one to a file with a text. A database that has no file is new for each connection to it.

## Main definitions

* `Database`: the tables and the entries of the queue
* `Disk`: the databases by their files, and the connections to them
* `Disk.present`: all files on the disk
* `Disk.connect`, `Disk.disconnect`: opening and closing connections
* `Disk.store`, `Disk.schema`: the queue and the tables as a connection sees them

## Main results

* `connected_disconnect_self`: a closed connection is no longer open
* `withStore_store`: putting back what was seen changes nothing that is seen
-/

namespace SearchIndex.Storage

/-- The tables and the entries of the queue. -/
structure Database where
  schema : Schema.Tables := []
  entries : Queue.Table := []

/-- A connection to the file at a place. -/
structure Link where
  place : String
  connected : Bool := true
deriving DecidableEq, Repr

/-- The databases by the places of their files, and the connections to them. -/
structure Disk where
  /-- The files with texts. -/
  files : Files := []
  databases : List (String × Database) := []
  /-- The connections by their numbers. -/
  links : List Link := []
  /-- What reading the clock gives. -/
  clock : Except Failure Value := .ok (.int 0)
  /-- The trouble that statements of an upgrade run into. -/
  trouble : Nat → Option Failure := fun _ => none
  /-- The version of the storage library. -/
  library : String := "3.40.1"

namespace Disk

/-- The path of a database without a file. -/
def fileless : String := ":memory:"

/-- All files on the disk, those of databases without texts. -/
def present (d : Disk) : Files :=
  d.files ++ (d.databases.filter fun (place, _) => place ≠ fileless).map fun (place, _) =>
    (place, "")

/-- The disk with an empty file where a path leads. -/
def withFile (path : String) (d : Disk) : Disk :=
  { d with files := Keyed.put (Path.place path) "" d.files }

/-- A text lies at a place, where a database should be; one byte is as good as none. -/
def holdsText (d : Disk) (place : String) : Bool :=
  1 < ((Keyed.find? place d.files).getD "").utf8ByteSize

/-- The database at a place. -/
def database (d : Disk) (place : String) : Database := (Keyed.find? place d.databases).getD {}

/-- **Open a connection to a file**: its number. -/
def connect (path : String) : Act Disk Nat :=
  Act.ofStep fun d =>
    match if path = fileless then none else d.present.databaseRefusal? path with
    | some f => (.error f, d)
    | none =>
      let place := Path.place path
      let content := if path = fileless then {} else d.database place
      (.ok d.links.length,
        { d with
          databases := Keyed.put place content d.databases, links := d.links ++ [⟨place, true⟩] })

/-- **Close a connection.** -/
def disconnect (link : Nat) (d : Disk) : Disk :=
  { d with links := d.links.modify link fun l => { l with connected := false } }

/-- The connection is open. -/
def connected (d : Disk) (link : Nat) : Bool :=
  match d.links[link]? with
  | some l => l.connected
  | none => false

theorem connected_disconnect_self (link : Nat) (d : Disk) :
    (d.disconnect link).connected link = false := by
  simp only [connected, disconnect, List.getElem?_modify_eq]
  cases d.links[link]? <;> rfl

/-- The place of the file of a connection. -/
def placeOf (d : Disk) (link : Nat) : String := ((d.links[link]?).map Link.place).getD ""

/-- Why a connection refuses everything, if it does. -/
def refusal? (d : Disk) (link : Nat) : Option Failure :=
  if !d.connected link then some .connectionClosed
  else if d.holdsText (d.placeOf link) then some .notADatabase
  else none

/-- **The queue as a connection sees it.** -/
def store (link : Nat) (d : Disk) : Queue.Store :=
  { table := (d.database (d.placeOf link)).entries
    clock := d.clock
    obstacles := .always (d.refusal? link) }

/-- The disk with the database of a connection changed. -/
def edit (link : Nat) (f : Database → Database) (d : Disk) : Disk :=
  let place := d.placeOf link
  { d with databases := Keyed.put place (f (d.database place)) d.databases }

/-- The disk with another queue. -/
def withStore (link : Nat) (s : Queue.Store) (d : Disk) : Disk :=
  d.edit link fun b => { b with entries := s.table }

theorem withStore_store (link : Nat) (d : Disk) :
    (d.withStore link (d.store link)).store link = d.store link := by
  have h (place : String) (b : Database) :=
    Keyed.find?_put_self (beq_self_eq_true place) b d.databases
  simp only [store, withStore, edit, database, refusal?, holdsText, placeOf, connected, h,
    Option.getD_some]
  rfl

/-- **The tables as a connection sees them.** -/
def schema (link : Nat) (d : Disk) : Schema.Connection Schema.Tables :=
  { content := (d.database (d.placeOf link)).schema
    trouble := fun statement => (d.refusal? link).orElse fun _ => d.trouble statement }

/-- The disk with other tables. -/
def withSchema (link : Nat) (c : Schema.Connection Schema.Tables) (d : Disk) : Disk :=
  d.edit link fun b => { b with schema := c.content }

end Disk

end SearchIndex.Storage
