import SearchIndex.Entity.Registry
import SearchIndex.Index.Gateway
import SearchIndex.Queue.Access

/-!
# Delivery of a batch

A run claims the batch of the queue, brings it to the index and flushes the queue. Updates go
before deletions, each kind by kind; the ids of a kind go in chunks. The records of a chunk are
fetched and sent, those that no longer exist being left out. A failure ends the run without a
flush, so the entries stay running.

## Main definitions

* `Courier σ`: what a run needs in a world of type `σ`
* `Courier.run`: one run
* `Report`: what a run did
* `Courier.ofParts`: the courier between a queue and a gateway
-/

namespace SearchIndex.Queue

open Entity (Record Repository Registry chunked)

/-- The number of ids in a chunk, if nothing else is said. -/
def defaultBatchingSize : Int := 100

/-- What a run needs. -/
structure Courier (σ : Type) where
  /-- Claim the batch. -/
  claim : Act σ Batch
  /-- Remove what was claimed: the number of entries. -/
  flush : Act σ Nat
  /-- The repository of a kind. -/
  lookup : String → Act σ Repository
  /-- The records with some keys. -/
  fetch : Repository → List String → Act σ (List Record)
  /-- Bring records of a kind into the index. -/
  update : String → List Record → Repository → Act σ Unit
  /-- Remove the documents of a kind with some ids from the index. -/
  delete : String → List String → Act σ Unit
  /-- Take a note. -/
  note : Log.Note → Act σ Unit
  /-- The number of ids in a chunk. -/
  size : Value := .int defaultBatchingSize

/-- What a run did: how many entries it claimed, how many records it sent, how many deletions it
asked for, how many entries it flushed, and the number of ids by action and kind. -/
structure Report where
  claimed : Nat := 0
  updated : Nat := 0
  deleted : Nat := 0
  flushed : Nat := 0
  groups : List (Action × String × Nat) := []
deriving DecidableEq, Repr

/-- The report with a group that was done. -/
def Report.withGroup (r : Report) (a : Action) (kind : String) (count sent : Nat) : Report :=
  let r := { r with groups := r.groups ++ [(a, kind, count)] }
  match a with
  | .update => { r with updated := r.updated + sent }
  | .delete => { r with deleted := r.deleted + sent }

namespace Courier

variable {σ : Type} (c : Courier σ)

/-- Send the records with the ids of some chunks: the number of records. -/
def updateChunks (kind : String) (repository : Repository) : List (List String) → Act σ Nat
  | [] => pure 0
  | chunk :: chunks => do
    let records ← c.fetch repository chunk
    -- None of the records exists any more.
    if records.isEmpty then
      c.note (.debug ("No live " ++ kind ++ " records among " ++ Decimal.natText chunk.length ++
        " ids"))
      updateChunks kind repository chunks
    else
      c.update kind records repository
      let rest ← updateChunks kind repository chunks
      return records.length + rest

/-- Delete the documents with the ids of some chunks. -/
def deleteChunks (kind : String) : List (List String) → Act σ Unit
  | [] => pure ()
  | chunk :: chunks => do
    c.delete kind chunk
    deleteChunks kind chunks

/-- Do the action for the ids of a kind: the number of records sent, or of deletions. -/
def perform (a : Action) (kind : String) (ids : List String) : Act σ Nat :=
  match a with
  | .update => do
    let repository ← c.lookup kind
    let chunks ← Act.ofExcept (chunked ids c.size)
    c.updateChunks kind repository chunks
  | .delete => do
    let chunks ← Act.ofExcept (chunked ids c.size)
    c.deleteChunks kind chunks
    return ids.length

/-- Do the action for the entries of each kind. -/
def performAll (a : Action) : List (String × List Entry) → Report → Act σ Report
  | [], report => pure report
  | (kind, entries) :: groups, report => do
    let ids := entries.map (·.intent.id)
    c.note (.info ("Processing " ++ a.name ++ " x" ++ Decimal.natText ids.length ++ " for " ++
      kind))
    let sent ← c.perform a kind ids
    performAll a groups (report.withGroup a kind ids.length sent)

/-- **One run**: claim, updates, deletions, flush. -/
def run : Act σ Report := do
  let claimed ← c.claim
  let report : Report := { claimed := (claimed.flatMap Prod.snd).length }
  let report ← c.performAll .update (byKind (claimed.of .update)) report
  let report ← c.performAll .delete (byKind (claimed.of .delete)) report
  let flushed ← c.flush
  return { report with flushed := flushed }

end Courier

/-- **The courier between a queue and a gateway**, for the repositories of a registry. -/
def Courier.ofParts {σ : Type} (q : Access σ) (g : Index.Gateway σ) (registry : Registry)
    (size : Value := .int defaultBatchingSize) : Courier σ where
  claim := q.claim
  flush := q.flush
  lookup kind := Act.ofExcept (registry.get (.text kind))
  fetch repository ids := Act.ofExcept (repository.fetch (ids.map .text))
  update kind records repository := do discard (g.update (.text kind) records repository)
  delete kind ids := do discard (g.deleteIds (.text kind) ids)
  note := q.note
  size := size

end SearchIndex.Queue
