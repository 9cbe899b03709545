import SearchIndex.Proofs.Outcome
import SearchIndex.Queue.Delivery

/-!
# The parts of a courier

What a run does to the world between its claim and its flush, it does through the parts of the
courier. What every part keeps is kept by all of it, and what no part can tell apart none of it can.

## Main definitions

* `Act.Alike R a`: from related worlds an action has one outcome
* `Courier.afterClaim`: what a run does after its claim
* `Courier.Keeps`, `Courier.Alike`: the same of the parts of a courier
* `Courier.Works`: the parts of a courier never fail

## Main results

* `Courier.perform_update_of_chunked`, `Courier.perform_delete_of_chunked`: what is done for the ids
  of a kind once they are cut into chunks
* `Courier.Keeps.performAll`, `Courier.Keeps.afterClaim`: what the parts keep is kept
* `Courier.Alike.performAll`: what the parts cannot tell apart is not told apart
* `Courier.alike_eq`: a world is not told apart from itself
-/

namespace SearchIndex

namespace Act

variable {σ α β : Type}

/-- **From related worlds the action has one outcome**, and the worlds it leaves are related. -/
def Alike (R : σ → σ → Prop) (a : Act σ α) : Prop :=
  ∀ s s', R s s' → (a.attempt s).1 = (a.attempt s').1 ∧ R (a.attempt s).2 (a.attempt s').2

variable {R : σ → σ → Prop}

theorem alike_pure (x : α) : Alike R (pure x : Act σ α) := fun _ _ h => ⟨rfl, h⟩

theorem alike_ofExcept (x : Except Failure α) : Alike R (ofExcept x : Act σ α) :=
  fun _ _ h => ⟨rfl, h⟩

theorem alike_eq (a : Act σ α) : Alike Eq a := by
  rintro s _ rfl
  exact ⟨rfl, rfl⟩

theorem Alike.bind {a : Act σ α} {k : α → Act σ β} (ha : Alike R a) (hk : ∀ x, Alike R (k x)) :
    Alike R (a >>= k) := by
  intro s s' h
  obtain ⟨hout, hR⟩ := ha s s' h
  rw [attempt_bind, attempt_bind]
  rcases hs : attempt a s with ⟨o, t⟩
  rcases hs' : attempt a s' with ⟨o', t'⟩
  rw [hs, hs'] at hout hR
  obtain rfl : o = o' := hout
  cases o with
  | error f => exact ⟨rfl, hR⟩
  | ok x => exact hk x t t' hR

end Act

namespace Queue

open Act (Ensures)
open Entity (Record Repository chunked)

/-! ## The parts of a courier -/

namespace Courier

variable {σ : Type}

/-- What a run does after it has claimed a batch. -/
def afterClaim (c : Courier σ) (b : Batch) : Act σ Report := do
  let report : Report := { claimed := (b.flatMap Prod.snd).length }
  let report ← c.performAll .update (byKind (b.of .update)) report
  let report ← c.performAll .delete (byKind (b.of .delete)) report
  let flushed ← c.flush
  return { report with flushed := flushed }

theorem run_eq (c : Courier σ) : c.run = c.claim >>= c.afterClaim := rfl

section Chunks

variable {c : Courier σ} {ids : List String} {chunks : List (List String)}

theorem perform_update_of_chunked (h : chunked ids c.size = .ok chunks) (kind : String) :
    c.perform .update kind ids =
      (c.lookup kind >>= fun repository => c.updateChunks kind repository chunks) := by
  rw [perform, h]
  rfl

theorem perform_delete_of_chunked (h : chunked ids c.size = .ok chunks) (kind : String) :
    c.perform .delete kind ids = (c.deleteChunks kind chunks >>= fun _ => pure ids.length) := by
  rw [perform, h]
  rfl

end Chunks

/-- What the parts of a courier keep: they succeed with `P` or fail with `E`, a lookup for certain
kinds. -/
structure Keeps (c : Courier σ) (kinds : String → Prop) (P E : σ → Prop) : Prop where
  lookup : ∀ kind, kinds kind → Ensures P (c.lookup kind) (fun _ => P) E
  fetch : ∀ repository ids, Ensures P (c.fetch repository ids) (fun _ => P) E
  update : ∀ kind records repository,
    Ensures P (c.update kind records repository) (fun _ => P) E
  delete : ∀ kind ids, Ensures P (c.delete kind ids) (fun _ => P) E
  note : ∀ n, Ensures P (c.note n) (fun _ => P) E
  chunks : ∀ ids : List String, Ensures P (Act.ofExcept (chunked ids c.size)) (fun _ => P) E

section Keeps

variable {c : Courier σ} {kinds : String → Prop} {P E : σ → Prop}

theorem Keeps.updateChunks (h : c.Keeps kinds P E) (kind : String) (repository : Repository)
    (chunks : List (List String)) :
    Ensures P (c.updateChunks kind repository chunks) (fun _ => P) E := by
  induction chunks with
  | nil => exact Ensures.pure fun _ hs => hs
  | cons ids chunks ih =>
    rw [Courier.updateChunks]
    refine (h.fetch repository ids).bind fun records => ?_
    split
    · exact (h.note _).bind fun _ => ih
    · exact (h.update kind records repository).bind fun _ => ih.bind fun _ =>
        Ensures.pure fun _ hs => hs

theorem Keeps.deleteChunks (h : c.Keeps kinds P E) (kind : String) (chunks : List (List String)) :
    Ensures P (c.deleteChunks kind chunks) (fun _ => P) E := by
  induction chunks with
  | nil => exact Ensures.pure fun _ hs => hs
  | cons ids chunks ih =>
    rw [Courier.deleteChunks]
    exact (h.delete kind ids).bind fun _ => ih

theorem Keeps.perform (h : c.Keeps kinds P E) (a : Action) (kind : String)
    (hk : a = .update → kinds kind) (ids : List String) :
    Ensures P (c.perform a kind ids) (fun _ => P) E := by
  cases a with
  | update =>
    refine (h.lookup kind (hk rfl)).bind fun repository => (h.chunks ids).bind fun chunks => ?_
    exact h.updateChunks kind repository chunks
  | delete =>
    refine (h.chunks ids).bind fun chunks => (h.deleteChunks kind chunks).bind fun _ => ?_
    exact Ensures.pure fun _ hs => hs

theorem Keeps.performAll (h : c.Keeps kinds P E) (a : Action)
    (groups : List (String × List Entry)) (hk : ∀ g ∈ groups, a = .update → kinds g.1)
    (report : Report) : Ensures P (c.performAll a groups report) (fun _ => P) E := by
  induction groups generalizing report with
  | nil => exact Ensures.pure fun _ hs => hs
  | cons g groups ih =>
    obtain ⟨kind, entries⟩ := g
    obtain ⟨hkind, hgroups⟩ := List.forall_mem_cons.1 hk
    rw [Courier.performAll]
    exact (h.note _).bind fun _ => (h.perform a kind hkind _).bind fun _ => ih hgroups _

/-- What the parts keep is kept after the claim, and then the run flushes. -/
theorem Keeps.afterClaim {Q : σ → Prop} (h : c.Keeps kinds P E) {b : Batch}
    (hk : ∀ g ∈ byKind (b.of .update), kinds g.1)
    (hflush : Ensures P c.flush (fun _ => Q) E) : Ensures P (c.afterClaim b) (fun _ => Q) E := by
  rw [Courier.afterClaim]
  refine (h.performAll .update _ (fun g hg _ => hk g hg) _).bind fun report => ?_
  have hdelete : Action.delete = .update → False := Action.noConfusion
  refine (h.performAll .delete _ (fun _ _ ha => (hdelete ha).elim) report).bind fun report => ?_
  exact hflush.bind fun _ => Ensures.pure fun _ hs => hs

end Keeps

/-- **The courier cannot tell related worlds of its parts apart.** -/
structure Alike (c : Courier σ) (R : σ → σ → Prop) : Prop where
  lookup : ∀ kind, Act.Alike R (c.lookup kind)
  fetch : ∀ repository ids, Act.Alike R (c.fetch repository ids)
  update : ∀ kind records repository, Act.Alike R (c.update kind records repository)
  delete : ∀ kind ids, Act.Alike R (c.delete kind ids)
  note : ∀ n, Act.Alike R (c.note n)

theorem alike_eq (c : Courier σ) : c.Alike Eq where
  lookup _ := Act.alike_eq _
  fetch _ _ := Act.alike_eq _
  update _ _ _ := Act.alike_eq _
  delete _ _ := Act.alike_eq _
  note _ := Act.alike_eq _

section Alike

variable {c : Courier σ} {R : σ → σ → Prop}

theorem Alike.updateChunks (h : c.Alike R) (kind : String) (repository : Repository)
    (chunks : List (List String)) : Act.Alike R (c.updateChunks kind repository chunks) := by
  induction chunks with
  | nil => exact Act.alike_pure 0
  | cons ids chunks ih =>
    rw [Courier.updateChunks]
    refine (h.fetch repository ids).bind fun records => ?_
    split
    · exact (h.note _).bind fun _ => ih
    · exact (h.update kind records repository).bind fun _ => ih.bind fun _ => Act.alike_pure _

theorem Alike.deleteChunks (h : c.Alike R) (kind : String) (chunks : List (List String)) :
    Act.Alike R (c.deleteChunks kind chunks) := by
  induction chunks with
  | nil => exact Act.alike_pure ()
  | cons ids chunks ih =>
    rw [Courier.deleteChunks]
    exact (h.delete kind ids).bind fun _ => ih

theorem Alike.perform (h : c.Alike R) (a : Action) (kind : String) (ids : List String) :
    Act.Alike R (c.perform a kind ids) := by
  cases a with
  | update =>
    refine (h.lookup kind).bind fun repository => (Act.alike_ofExcept _).bind fun chunks => ?_
    exact h.updateChunks kind repository chunks
  | delete =>
    refine (Act.alike_ofExcept _).bind fun chunks => (h.deleteChunks kind chunks).bind fun _ => ?_
    exact Act.alike_pure _

theorem Alike.performAll (h : c.Alike R) (a : Action) (groups : List (String × List Entry))
    (report : Report) : Act.Alike R (c.performAll a groups report) := by
  induction groups generalizing report with
  | nil => exact Act.alike_pure report
  | cons g groups ih =>
    obtain ⟨kind, entries⟩ := g
    rw [Courier.performAll]
    exact (h.note _).bind fun _ => (h.perform a kind _).bind fun _ => ih _

end Alike

/-- **The parts of the courier work**: they never fail, a lookup for certain kinds, and the number
of ids in a chunk is positive. -/
structure Works (c : Courier σ) (kinds : String → Prop) : Prop where
  lookup : ∀ kind s, kinds kind → ((c.lookup kind).attempt s).1.isOk = true
  fetch : ∀ repository ids s, ((c.fetch repository ids).attempt s).1.isOk = true
  update : ∀ kind records repository s,
    ((c.update kind records repository).attempt s).1.isOk = true
  delete : ∀ kind ids s, ((c.delete kind ids).attempt s).1.isOk = true
  note : ∀ n s, ((c.note n).attempt s).1.isOk = true
  size : ∃ n : Int, 0 < n ∧ c.size = .int n

end Courier

end Queue

end SearchIndex
