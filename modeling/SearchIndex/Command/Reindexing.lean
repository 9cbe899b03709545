import SearchIndex.Entity.Registry
import SearchIndex.Index.Gateway

/-!
# Reindexing

All records of a kind are brought into the index, or taken out of it, chunk by chunk. A note after
each chunk tells how many records were handled so far.

## Main definitions

* `Reindexing`: whether records are brought in or taken out
* `Reindexing.send`: one chunk
* `Reindexing.run`: all records of a kind
-/

namespace SearchIndex.Command

open Entity (Record Repository Registry)

/-- What is done with the records of a kind. -/
inductive Reindexing where
  /-- They are brought into the index. -/
  | bring
  /-- They are taken out of it. -/
  | take
deriving DecidableEq, Repr

namespace Reindexing

/-- What was done with a record. -/
def done : Reindexing → String
  | bring => "Indexed"
  | take => "Removed"

variable {σ : Type}

/-- **One chunk.** -/
def send (r : Reindexing) (g : Index.Gateway σ) (kind : String) (repository : Repository)
    (records : List Record) : Act σ Unit :=
  match r with
  | bring => discard (g.update (.text kind) records repository)
  | take => discard (g.remove (.text kind) records repository)

/-- Chunks one after the other, `total` records having been handled before: the number of records
handled in the end. -/
def sendAll (r : Reindexing) (g : Index.Gateway σ) (kind : String) (repository : Repository)
    (total : Nat) : List (List Record) → Act σ Nat
  | [] => pure total
  | chunk :: chunks => do
    r.send g kind repository chunk
    let total := total + chunk.length
    g.backend.note (.info (r.done ++ " " ++ Decimal.natText total ++ " " ++ kind ++ " record(s)"))
    sendAll r g kind repository total chunks

/-- **All records of a kind**, in chunks of a size: their number. -/
def run (r : Reindexing) (g : Index.Gateway σ) (registry : Registry) (kind : String) (size : Int) :
    Act σ Nat := do
  let repository ← Act.ofExcept (registry.get (.text kind))
  let chunks ← Act.ofExcept (repository.chunks (.int size))
  let total ← r.sendAll g kind repository 0 chunks
  if total = 0 then
    g.backend.note (.info ("No " ++ kind ++ " records found"))
  return total

end Reindexing

end SearchIndex.Command
