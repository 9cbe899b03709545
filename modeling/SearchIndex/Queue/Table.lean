import SearchIndex.Keyed
import SearchIndex.Queue.Intent

/-!
# The table of intents

The table holds the entries of the queue in the order in which their intents were first asked for;
an intent has at most one entry. Asking again resets the entry in its place. Claiming makes every
entry running, flushing removes the running ones, and requeueing makes them waiting again.

## Main definitions

* `Table`: the entries of the queue
* `Table.push intent time`: ask for an intent
* `Table.mark before after`: move entries from one status to another
* `Table.withStatus`, `Table.count`: the entries with a status
* `Table.flush`: remove the running entries
* `Table.byTime`: the entries, those asked for longest ago first
* `Batch`, `batch`: entries by their actions

## Main results

* `intents_push_of_mem`, `push_of_not_mem`: the intents after one is asked for
* `mem_intents_push`, `nodup_intents_push`: the same by what they hold
* `mem_push`: the entries after one is asked for
* `intents_mark`: moving entries keeps the intents
* `claim_eq_map`, `requeue_eq_map`: after a claim every entry runs, after a requeue every one waits
* `withStatus_running_claim`: after a claim every entry is running
* `mem_flush`: a flush removes exactly the running entries
-/

namespace SearchIndex.Queue

/-- The entries of the queue, in the order in which their intents were first asked for. -/
abbrev Table := List Entry

namespace Table

/-- The intents of the entries. -/
def intents (t : Table) : List Intent := t.map Entry.intent

/-- **Ask for an intent**: its entry, there already or new at the end, waits from now on. -/
def push (i : Intent) (time : Int) : Table → Table
  | [] => [⟨i, .waiting, time⟩]
  | e :: t => if e.intent = i then ⟨i, .waiting, time⟩ :: t else e :: push i time t

/-- Move the entries with one status to another. -/
def mark (before after : Status) (t : Table) : Table :=
  t.map fun e => if e.status = before then { e with status := after } else e

/-- The entries with a status. -/
def withStatus (s : Status) (t : Table) : Table := t.filter (·.status = s)

/-- The number of entries with a status. -/
def count (s : Status) (t : Table) : Nat := (t.withStatus s).length

/-- **Claim**: every waiting entry runs. -/
def claim (t : Table) : Table := t.mark .waiting .running

/-- **Requeue**: every running entry waits. -/
def requeue (t : Table) : Table := t.mark .running .waiting

/-- **Flush**: the running entries are removed. -/
def flush (t : Table) : Table := t.filter (·.status ≠ .running)

/-- The entries, those asked for longest ago first, of two asked for at one time the one that is
longer in the table. -/
def byTime (t : Table) : Table := t.mergeSort fun a b => a.time ≤ b.time

/-! ## The intents of the entries -/

theorem intents_push_of_mem {i : Intent} (time : Int) {t : Table} (h : i ∈ t.intents) :
    (t.push i time).intents = t.intents := by
  induction t with
  | nil => simp [intents] at h
  | cons e t ih =>
    by_cases he : e.intent = i
    · simp [push, intents, he]
    · simp only [intents, List.map_cons, List.mem_cons] at h
      have ht := ih (h.resolve_left (Ne.symm he))
      simp only [intents] at ht
      simp [push, intents, he, ht]

theorem push_of_not_mem {i : Intent} (time : Int) {t : Table} (h : i ∉ t.intents) :
    t.push i time = t ++ [⟨i, .waiting, time⟩] := by
  induction t with
  | nil => rfl
  | cons e t ih =>
    simp only [intents, List.map_cons, List.mem_cons, not_or] at h
    simp [push, Ne.symm h.1, ih h.2]

theorem mem_intents_push {i j : Intent} {time : Int} {t : Table} :
    j ∈ (t.push i time).intents ↔ j ∈ t.intents ∨ j = i := by
  by_cases h : i ∈ t.intents
  · rw [intents_push_of_mem time h]
    refine ⟨.inl, ?_⟩
    rintro (hj | rfl)
    · exact hj
    · exact h
  · rw [push_of_not_mem time h]
    simp [intents]

theorem nodup_intents_push {i : Intent} {time : Int} {t : Table} (ht : t.intents.Nodup) :
    (t.push i time).intents.Nodup := by
  by_cases h : i ∈ t.intents
  · rwa [intents_push_of_mem time h]
  · rw [push_of_not_mem time h, intents, List.map_append, List.nodup_append]
    refine ⟨ht, by simp, ?_⟩
    rintro j hj k hk rfl
    obtain rfl : j = i := List.mem_singleton.1 hk
    exact h hj

theorem mem_push {i : Intent} {time : Int} {e : Entry} {t : Table} (ht : t.intents.Nodup) :
    e ∈ t.push i time ↔ e = ⟨i, .waiting, time⟩ ∨ e ∈ t ∧ e.intent ≠ i := by
  induction t with
  | nil => simp [push]
  | cons x t ih =>
    simp only [intents, List.map_cons, List.nodup_cons] at ht
    by_cases hx : x.intent = i
    · have hne : e ∈ t → e.intent ≠ i := fun h he => ht.1 (List.mem_map.2 ⟨e, h, he.trans hx.symm⟩)
      simp only [push, hx, if_true, List.mem_cons]
      constructor
      · rintro (h | h)
        · exact .inl h
        · exact .inr ⟨.inr h, hne h⟩
      · rintro (h | ⟨rfl | h, he⟩)
        · exact .inl h
        · exact absurd hx he
        · exact .inr h
    · simp only [push, hx, if_false, List.mem_cons, ih ht.2]
      constructor
      · rintro (rfl | h | ⟨h, he⟩)
        · exact .inr ⟨.inl rfl, hx⟩
        · exact .inl h
        · exact .inr ⟨.inr h, he⟩
      · rintro (h | ⟨h | h, he⟩)
        · exact .inr (.inl h)
        · exact .inl h
        · exact .inr (.inr ⟨h, he⟩)

theorem intents_mark (before after : Status) (t : Table) :
    (t.mark before after).intents = t.intents := by
  simp only [intents, mark, List.map_map]
  refine List.map_congr_left fun e _ => ?_
  simp only [Function.comp_apply]
  split <;> rfl

theorem claim_eq_map (t : Table) : t.claim = t.map fun e => { e with status := .running } := by
  refine List.map_congr_left fun e _ => ?_
  rcases e with ⟨i, _ | _, n⟩ <;> rfl

theorem requeue_eq_map (t : Table) :
    t.requeue = t.map fun e => { e with status := .waiting } := by
  refine List.map_congr_left fun e _ => ?_
  rcases e with ⟨i, _ | _, n⟩ <;> rfl

theorem withStatus_running_claim (t : Table) : t.claim.withStatus .running = t.claim := by
  refine List.filter_eq_self.2 fun e he => ?_
  simp only [claim, mark, List.mem_map] at he
  obtain ⟨e', -, rfl⟩ := he
  rcases h : e'.status with _ | _ <;> simp [h]

theorem mem_flush {e : Entry} {t : Table} : e ∈ t.flush ↔ e ∈ t ∧ e.status = .waiting := by
  rcases h : e.status with _ | _ <;> simp [flush, h]

end Table

/-! ## Batches -/

/-- Entries by their actions, in the order the actions are first met. -/
abbrev Batch := List (Action × List Entry)

/-- The entries by their actions. -/
def batch (entries : List Entry) : Batch := Keyed.group (·.intent.action) entries

/-- The entries of a batch with an action. -/
def Batch.of (b : Batch) (a : Action) : List Entry := (Keyed.find? a b).getD []

/-- The entries by the kinds of their records, in the order the kinds are first met. -/
def byKind (entries : List Entry) : List (String × List Entry) :=
  Keyed.group (·.intent.kind) entries

end SearchIndex.Queue
