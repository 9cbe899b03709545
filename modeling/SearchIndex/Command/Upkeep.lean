import SearchIndex.Config.Settings
import SearchIndex.Queue.Delivery
import SearchIndex.Storage.Pool

/-!
# Upkeep of the queue

The commands that work on the queue: one batch is delivered, the entries are counted, or running
entries are made to wait again. The database is open only while a command works on it.

## Main definitions

* `withQueue`: work on the queue of a database
* `deliver`, `showCounts`, `putBack`: the three commands
-/

namespace SearchIndex.Command

open Queue (Access Courier Report)

variable {σ α : Type}

/-- **Work on the queue of a database**, which is closed afterwards. -/
def withQueue (k : Storage.Keeper σ) (path : String) (work : Access σ → Act σ α) : Act σ α := do
  let manager ← k.acquire path
  k.note (.debug ("Queue storage: " ++ Storage.Path.normal path))
  let link ← k.queue manager
  (work (k.access link)).ensuring (k.close manager)

/-- The notes about a run. -/
def reportNotes (r : Report) : List Log.Note :=
  if r.claimed = 0 then [.info "Queue is empty"]
  else
    (r.groups.map fun (action, kind, count) =>
      .info (action.name ++ " " ++ kind ++ ": " ++ Decimal.natText count)) ++
      [.info ("Processed " ++ Decimal.natText r.claimed ++ " queued change(s): " ++
        Decimal.natText r.updated ++ " uploaded, " ++ Decimal.natText r.deleted ++ " deleted, " ++
        Decimal.natText r.flushed ++ " flushed")]

/-- **Deliver one batch.** -/
def deliver (c : Courier σ) : Act σ Report := do
  let report ← c.run
  (reportNotes report).forM c.note
  return report

/-- **Print how many entries wait and run.** -/
def showCounts (q : Access σ) (print : String → Act σ Unit) : Act σ (Nat × Nat) := do
  let (waiting, running) ← q.counts
  print ("waiting: " ++ Decimal.natText waiting)
  print ("running: " ++ Decimal.natText running)
  if running ≠ 0 then
    q.note (.warning (Decimal.natText running ++
      " entries are running; if no batch is in progress, run `requeue`"))
  return (waiting, running)

/-- A number of running entries. -/
def entriesWord (count : Nat) : String :=
  Decimal.natText count ++ " running entr" ++ (if count = 1 then "y" else "ies")

/-- **Make running entries wait again**: their number. -/
def putBack (q : Access σ) : Act σ Nat := do
  let reset ← q.requeue
  q.note (.info ("Requeued " ++ entriesWord reset))
  return reset

end SearchIndex.Command
