import SearchIndex.Proofs.Chunks
import SearchIndex.Proofs.Recovery

/-!
# The course of a run

A run goes to its parts in one order. After the claim it visits the repositories of the kinds that
are to be updated, those first asked for first: the ids of a kind are fetched in chunks, and what a
chunk gives is brought into the index before the next is fetched. Then it removes what is to be
deleted, kind by kind and in chunks likewise, and flushes. Only the chunks depend on their size. A
run that fails keeps to this order up to the call that failed.

## Main definitions

* `Errand`: what a run asks of a part
* `Watch τ`: a world in which the calls of a run are recorded, and the errand that failed
* `Courier.watched`: a courier whose calls are recorded
* `Visit`, `Removal`: what is done for the ids of one kind
* `course b visits removals`: the calls of a whole run
* `Covers n t visits removals`: what is done for each kind that a table asks for
* `Watch.StoppedIn f calls`: a call failed, and it was the next of these calls
* `Watch.Makes a P`: the calls of an action, up to the one that fails if one does

## Main results

* `makes_errand`, `Makes.bind`: the calls of an errand and of one action after another
* `makes_performAll`: the calls for all the kinds of one action
* `makes_afterClaim`: the calls of a run after its claim
* `run_keeps_course`: every run keeps to the course
-/

namespace SearchIndex.Queue

open Act (Ensures)
open Entity (Record Repository Tiles chunked chunked_int slices tiles_slices)

/-! ## A run that is watched -/

/-- What a run asks of a part. -/
inductive Errand where
  | claim
  | find (kind : String)
  | fetch (repository : Repository) (ids : List String)
  | update (kind : String) (records : List Record) (repository : Repository)
  | delete (kind : String) (ids : List String)
  | flush

/-- What a run asked for in a call, if the call is one of a run. -/
def Call.errand : Call → Option Errand
  | .pushed _ => none
  | .requeued => none
  | .claimed _ => some .claim
  | .found kind _ => some (.find kind)
  | .fetched repository ids _ => some (.fetch repository ids)
  | .updated kind records repository => some (.update kind records repository)
  | .deleted kind ids => some (.delete kind ids)
  | .flushed => some .flush

/-- A queue, the world of a consumer's parts, and what the parts were asked for. -/
structure Watch (τ : Type) where
  /-- The world of the consumer's parts. -/
  own : τ
  store : Store := {}
  /-- The calls that succeeded, the earliest first. -/
  calls : List Call := []
  /-- The errand that failed, and how. -/
  failed : Option (Errand × Failure) := none

namespace Watch

variable {τ α β : Type}

/-- The queue of a watch; its notes are not kept. -/
def queue : Access (Watch τ) where
  store := Watch.store
  withStore store w := { w with store := store }
  note _ := pure ()

/-- An action of the consumer's parts. -/
def inOwn (a : Act τ α) : Act (Watch τ) α := a.within Watch.own fun own w => { w with own := own }

/-- **A part does an errand**: it becomes a call if it succeeds, and is what failed if it does
not. -/
def errand (e : Errand) (a : Act (Watch τ) α) (call : α → Call) : Act (Watch τ) α :=
  Act.ofStep fun w =>
    match a.attempt w with
    | (.ok x, w) => (.ok x, { w with calls := w.calls ++ [call x] })
    | (.error f, w) => (.error f, { w with failed := some (e, f) })

end Watch

/-- **A courier whose calls are recorded.** It works on the queue of the watch; a note that cannot
be taken stops nothing. -/
def Courier.watched {τ : Type} (c : Courier τ) : Courier (Watch τ) where
  claim := Watch.errand .claim Watch.queue.claim .claimed
  flush := Watch.errand .flush Watch.queue.flush fun _ => .flushed
  lookup kind := Watch.errand (.find kind) (Watch.inOwn (c.lookup kind)) (.found kind)
  fetch repository ids :=
    Watch.errand (.fetch repository ids) (Watch.inOwn (c.fetch repository ids))
      (.fetched repository ids)
  update kind records repository :=
    Watch.errand (.update kind records repository)
      (Watch.inOwn (c.update kind records repository)) fun _ => .updated kind records repository
  delete kind ids :=
    Watch.errand (.delete kind ids) (Watch.inOwn (c.delete kind ids)) fun _ => .deleted kind ids
  note n := Act.ofStep fun w => (.ok (), ((Watch.inOwn (c.note n)).attempt w).2)
  size := c.size

/-! ## The course -/

/-- What is done for the ids of a kind that are to be updated: its repository is looked up, and the
chunks of the ids are passed to it, each giving some records. -/
structure Visit where
  kind : String
  repository : Repository
  stops : List (List String × List Record)

/-- The kind of a visit with its chunks. -/
def Visit.leg (v : Visit) : String × List (List String) := (v.kind, v.stops.map Prod.fst)

/-- The calls for a chunk: what it gave is brought into the index, if it gave something. -/
def Visit.stopCalls (kind : String) (repository : Repository) (ids : List String)
    (records : List Record) : List Call :=
  .fetched repository ids records ::
    if records.isEmpty then [] else [.updated kind records repository]

/-- The calls of a visit. -/
def Visit.calls (v : Visit) : List Call :=
  .found v.kind v.repository ::
    v.stops.flatMap fun stop => stopCalls v.kind v.repository stop.1 stop.2

/-- The records that a visit brings into the index. -/
def Visit.records (v : Visit) : List Record := v.stops.flatMap Prod.snd

/-- What is done for the ids of a kind that are to be deleted. -/
structure Removal where
  kind : String
  chunks : List (List String)

/-- The kind of a removal with its chunks. -/
def Removal.leg (r : Removal) : String × List (List String) := (r.kind, r.chunks)

/-- The calls of a removal: no repository is looked up. -/
def Removal.calls (r : Removal) : List Call := r.chunks.map (.deleted r.kind)

/-- The ids that a removal asks to delete. -/
def Removal.ids (r : Removal) : List String := r.chunks.flatten

/-- **The calls of a whole run.** -/
def course (b : Batch) (visits : List Visit) (removals : List Removal) : List Call :=
  .claimed b :: (visits.flatMap Visit.calls ++ (removals.flatMap Removal.calls ++ [.flushed]))

/-- **What is done for each kind that a table asks for**, all of whose entries a claim takes: the
kinds come in the order they are first asked for, and the chunks of a kind are its ids in their
order, cut into pieces of `n`. -/
structure Covers (n : Nat) (t : Table) (visits : List Visit) (removals : List Removal) : Prop where
  visited : visits.map Visit.kind = t.kindsFor .update
  fetched : ∀ v ∈ visits, Tiles n (t.idsOfKind .update v.kind) (v.stops.map Prod.fst)
  removed : removals.map Removal.kind = t.kindsFor .delete
  deleted : ∀ r ∈ removals, Tiles n (t.idsOfKind .delete r.kind) r.chunks

/-! ## Reports -/

/-- What a report says of the ids that an action was done for. -/
def reported (a : Action) (groups : List (String × List String)) : List (Action × String × Nat) :=
  groups.map fun g => (a, g.1, g.2.length)

/-- The report with groups that were done. -/
def Report.withGroups (r : Report) (a : Action) (groups : List (String × List String))
    (sent : Nat) : Report :=
  let r := { r with groups := r.groups ++ reported a groups }
  match a with
  | .update => { r with updated := r.updated + sent }
  | .delete => { r with deleted := r.deleted + sent }

theorem Report.withGroups_nil (r : Report) (a : Action) : r.withGroups a [] 0 = r := by
  cases a <;> simp [withGroups, reported]

/-- Groups that are done one after the other are done together. -/
theorem Report.withGroups_withGroup (r : Report) (a : Action) (kind : String) (ids : List String)
    (groups : List (String × List String)) (n sent : Nat) :
    (r.withGroup a kind ids.length n).withGroups a groups sent =
      r.withGroups a ((kind, ids) :: groups) (n + sent) := by
  cases a <;> simp [withGroups, withGroup, reported, Nat.add_assoc]

namespace Watch

variable {τ α β : Type}

/-- **A call failed, and it was the next of these calls.** -/
def StoppedIn (w : Watch τ) (f : Failure) (calls : List Call) : Prop :=
  ∃ call rest e, calls = w.calls ++ call :: rest ∧ call.errand = some e ∧ w.failed = some (e, f)

theorem StoppedIn.append {w : Watch τ} {f : Failure} {calls : List Call} (h : w.StoppedIn f calls)
    (more : List Call) : w.StoppedIn f (calls ++ more) := by
  obtain ⟨call, rest, e, rfl, he, hf⟩ := h
  exact ⟨call, rest ++ more, e, by simp, he, hf⟩

/-! ## The calls of an action -/

/-- **The calls of an action are as `P` says of them and of its result**; if one fails, the calls
before it are the first of calls that are so. -/
structure Makes (a : Act (Watch τ) α) (P : α → List Call → Prop) : Prop where
  possible : ∃ x calls, P x calls
  ok : ∀ w w' x, w.failed = none → a.attempt w = (.ok x, w') →
    w'.failed = none ∧ ∃ calls, P x calls ∧ w'.calls = w.calls ++ calls
  error : ∀ w w' f, w.failed = none → a.attempt w = (.error f, w') →
    ∃ x calls, P x calls ∧ w'.StoppedIn f (w.calls ++ calls)

variable {P Q : α → List Call → Prop}

theorem Makes.mono {a : Act (Watch τ) α} (h : Makes a P) (hPQ : ∀ x calls, P x calls → Q x calls) :
    Makes a Q where
  possible := by
    obtain ⟨x, calls, hP⟩ := h.possible
    exact ⟨x, calls, hPQ x calls hP⟩
  ok w w' x hw ha := by
    obtain ⟨hw', calls, hP, hcalls⟩ := h.ok w w' x hw ha
    exact ⟨hw', calls, hPQ x calls hP, hcalls⟩
  error w w' f hw ha := by
    obtain ⟨x, calls, hP, hstopped⟩ := h.error w w' f hw ha
    exact ⟨x, calls, hPQ x calls hP, hstopped⟩

theorem makes_pure (x : α) :
    Makes (pure x : Act (Watch τ) α) fun y calls => y = x ∧ calls = [] where
  possible := ⟨x, [], rfl, rfl⟩
  ok w w' y hw ha := by
    cases ha
    exact ⟨hw, [], ⟨rfl, rfl⟩, (List.append_nil _).symm⟩
  error w w' f hw ha := by cases ha

/-- **The calls of one action after another.** If the first one fails, any calls that the second
could have made come after it. -/
theorem Makes.bind {a : Act (Watch τ) α} {k : α → Act (Watch τ) β} {R : β → List Call → Prop}
    (ha : Makes a P)
    (hk : ∀ x, Makes (k x) fun y more => ∀ calls, P x calls → R y (calls ++ more)) :
    Makes (a >>= k) R where
  possible := by
    obtain ⟨x, calls, hP⟩ := ha.possible
    obtain ⟨y, more, hR⟩ := (hk x).possible
    exact ⟨y, calls ++ more, hR calls hP⟩
  ok w w'' y hw h := by
    obtain ⟨x, w', hx, hy⟩ := Act.attempt_bind_eq_ok_iff.1 h
    obtain ⟨hw', calls, hP, hcalls⟩ := ha.ok w w' x hw hx
    obtain ⟨hw'', more, hR, hmore⟩ := (hk x).ok w' w'' y hw' hy
    refine ⟨hw'', calls ++ more, hR calls hP, ?_⟩
    rw [hmore, hcalls, List.append_assoc]
  error w w'' f hw h := by
    rw [Act.attempt_bind] at h
    rcases hx : a.attempt w with ⟨_ | x, w'⟩ <;> rw [hx] at h
    · cases h
      obtain ⟨x, calls, hP, hstopped⟩ := ha.error w _ f hw hx
      obtain ⟨y, more, hR⟩ := (hk x).possible
      refine ⟨y, calls ++ more, hR calls hP, ?_⟩
      rw [← List.append_assoc]
      exact hstopped.append more
    · obtain ⟨hw', calls, hP, hcalls⟩ := ha.ok w w' x hw hx
      obtain ⟨y, more, hR, hstopped⟩ := (hk x).error w' w'' f hw' h
      refine ⟨y, calls ++ more, hR calls hP, ?_⟩
      rwa [hcalls, List.append_assoc] at hstopped

/-- An action records nothing. -/
def Silent (a : Act (Watch τ) α) : Prop :=
  ∀ w, (a.attempt w).2.calls = w.calls ∧ (a.attempt w).2.failed = w.failed

theorem silent_inOwn (a : Act τ α) : Silent (inOwn a) := fun _ => ⟨rfl, rfl⟩

theorem silent_use (a : Act Store α) : Silent ((queue : Access (Watch τ)).use a) :=
  fun _ => ⟨rfl, rfl⟩

theorem Silent.bind_pure {a : Act (Watch τ) α} (ha : Silent a) {k : α → Act (Watch τ) β} {f : α → β}
    (hk : ∀ x w, (k x).attempt w = (.ok (f x), w)) : Silent (a >>= k) := by
  intro w
  rw [Act.snd_attempt_bind_of_pure hk]
  exact ha w

theorem lawful_queue : (queue : Access (Watch τ)).Lawful where
  table_withStore _ _ := rfl
  table_note _ _ := rfl

theorem silent_claim : Silent (τ := τ) queue.claim :=
  (silent_use Store.claim).bind_pure (f := batch) fun _ _ => rfl

theorem silent_flush : Silent (τ := τ) queue.flush :=
  (silent_use Store.flush).bind_pure (f := id) fun _ _ => rfl

section Errands

variable {e : Errand} {a : Act (Watch τ) α} {call : α → Call} {w w' : Watch τ}

/-- An errand that succeeds is recorded with its answer. -/
theorem errand_eq_ok (ha : Silent a) {x : α} (h : (errand e a call).attempt w = (.ok x, w')) :
    (∃ w₁, a.attempt w = (.ok x, w₁)) ∧ w'.calls = w.calls ++ [call x] ∧ w'.failed = w.failed := by
  obtain ⟨hcalls, hfailed⟩ := ha w
  rw [errand, Act.attempt_ofStep] at h
  rcases hx : a.attempt w with ⟨_ | y, w₁⟩ <;> rw [hx] at h hcalls hfailed <;> cases h
  exact ⟨⟨w₁, rfl⟩, congrArg (· ++ [call x]) hcalls, hfailed⟩

/-- An errand that fails is what failed. -/
theorem errand_eq_error (ha : Silent a) {f : Failure}
    (h : (errand e a call).attempt w = (.error f, w')) :
    w'.calls = w.calls ∧ w'.failed = some (e, f) := by
  obtain ⟨hcalls, -⟩ := ha w
  rw [errand, Act.attempt_ofStep] at h
  rcases hx : a.attempt w with ⟨_ | y, w₁⟩ <;> rw [hx] at h hcalls <;> cases h
  exact ⟨hcalls, rfl⟩

/-- **An errand is one call**, with some answer. -/
theorem makes_errand (ha : Silent a) (hcall : ∀ x, (call x).errand = some e) (answer : α) :
    Makes (errand e a call) fun x calls => calls = [call x] where
  possible := ⟨answer, _, rfl⟩
  ok w w' x hw h := by
    obtain ⟨-, hcalls, hfailed⟩ := errand_eq_ok ha h
    exact ⟨hfailed.trans hw, _, rfl, hcalls⟩
  error w w' f hw h := by
    obtain ⟨hcalls, hfailed⟩ := errand_eq_error ha h
    exact ⟨answer, _, rfl, call answer, [], e, congrArg (· ++ [call answer]) hcalls.symm,
      hcall answer, hfailed⟩

end Errands

/-! ## The calls of a run -/

section Run

variable {c : Courier τ} {m : Nat}

theorem makes_note (n : Log.Note) : Makes (c.watched.note n) fun _ calls => calls = [] where
  possible := ⟨(), [], rfl⟩
  ok w w' x hw h := by
    cases h
    exact ⟨hw, [], rfl, (List.append_nil _).symm⟩
  error w w' f hw h := by cases h

/-- The calls for some chunks of a kind that is to be updated. What was fetched decides whether
there is an update; either way the chunk is one more stop. -/
theorem makes_updateChunks (kind : String) (repository : Repository) (chunks : List (List String)) :
    Makes (c.watched.updateChunks kind repository chunks) fun n calls =>
      ∃ stops : List (List String × List Record), stops.map Prod.fst = chunks ∧
        calls = stops.flatMap (fun stop => Visit.stopCalls kind repository stop.1 stop.2) ∧
        n = (stops.flatMap Prod.snd).length := by
  induction chunks with
  | nil =>
    refine (makes_pure 0).mono ?_
    rintro _ _ ⟨rfl, rfl⟩
    exact ⟨[], rfl, rfl, rfl⟩
  | cons ids chunks ih =>
    rw [Courier.updateChunks]
    refine (makes_errand (silent_inOwn _) (fun _ => rfl) []).bind fun records => ?_
    split
    · next hempty =>
      obtain rfl : records = [] := List.isEmpty_iff.1 hempty
      refine (makes_note _).bind fun _ => ih.mono ?_
      rintro n _ ⟨stops, hstops, rfl, rfl⟩ _ rfl _ rfl
      exact ⟨(ids, []) :: stops, congrArg (ids :: ·) hstops, rfl, rfl⟩
    · next hempty =>
      refine (makes_errand (silent_inOwn _) (fun _ => rfl) ()).bind fun _ =>
        ih.bind fun n => (makes_pure _).mono ?_
      rintro _ _ ⟨rfl, rfl⟩ _ ⟨stops, hstops, rfl, rfl⟩ _ rfl _ rfl
      refine ⟨(ids, records) :: stops, congrArg (ids :: ·) hstops, ?_, List.length_append.symm⟩
      rw [List.flatMap_cons, Visit.stopCalls, if_neg hempty, List.append_nil]
      rfl

/-- The calls for some chunks of a kind that is to be deleted. -/
theorem makes_deleteChunks (kind : String) (chunks : List (List String)) :
    Makes (c.watched.deleteChunks kind chunks) fun _ calls =>
      calls = chunks.map (.deleted kind) := by
  induction chunks with
  | nil =>
    refine (makes_pure ()).mono ?_
    rintro _ _ ⟨rfl, rfl⟩
    rfl
  | cons ids chunks ih =>
    rw [Courier.deleteChunks]
    refine (makes_errand (silent_inOwn _) (fun _ => rfl) ()).bind fun _ => ih.mono ?_
    rintro _ _ rfl _ rfl
    rfl

variable (hsize : c.size = .int (m + 1 : Nat))

include hsize

theorem chunked_watched (ids : List String) :
    chunked ids c.watched.size = .ok (slices m ids) := by
  show chunked ids c.size = _
  rw [hsize, chunked_int]

/-- **The calls for a kind that is to be updated** are a visit. -/
theorem makes_perform_update (kind : String) (ids : List String) :
    Makes (c.watched.perform .update kind ids) fun n calls =>
      ∃ v : Visit, v.leg = (kind, slices m ids) ∧ calls = v.calls ∧ n = v.records.length := by
  rw [Courier.perform_update_of_chunked (chunked_watched hsize ids)]
  refine (makes_errand (silent_inOwn _) (fun _ => rfl) (Repository.stray "")).bind
    fun repository => (makes_updateChunks kind repository (slices m ids)).mono ?_
  rintro _ _ ⟨stops, hstops, rfl, rfl⟩ _ rfl
  exact ⟨⟨kind, repository, stops⟩, congrArg (kind, ·) hstops, rfl, rfl⟩

/-- **The calls for a kind that is to be deleted** are a removal. -/
theorem makes_perform_delete (kind : String) (ids : List String) :
    Makes (c.watched.perform .delete kind ids) fun n calls =>
      ∃ r : Removal, r.leg = (kind, slices m ids) ∧ calls = r.calls ∧ n = r.ids.length := by
  rw [Courier.perform_delete_of_chunked (chunked_watched hsize ids)]
  refine (makes_deleteChunks kind (slices m ids)).bind fun _ => (makes_pure ids.length).mono ?_
  rintro _ _ ⟨rfl, rfl⟩ _ rfl
  refine ⟨⟨kind, slices m ids⟩, rfl, List.append_nil _, ?_⟩
  rw [Removal.ids, Entity.flatten_slices]

omit hsize in
/-- **The calls for all the kinds of one action** are those of one leg for each kind. -/
theorem makes_performAll {γ δ : Type} {a : Action} {leg : γ → String × List (List String)}
    {callsOf : γ → List Call} {sent : γ → List δ}
    (h : ∀ kind ids, Makes (c.watched.perform a kind ids) fun n calls =>
      ∃ x, leg x = (kind, slices m ids) ∧ calls = callsOf x ∧ n = (sent x).length)
    (groups : List (String × List Entry)) (report : Report) :
    Makes (c.watched.performAll a groups report) fun report' calls => ∃ xs : List γ,
      xs.map leg = (idsByKind groups).map (fun g => (g.1, slices m g.2)) ∧
        calls = xs.flatMap callsOf ∧
        report' = report.withGroups a (idsByKind groups) (xs.flatMap sent).length := by
  induction groups generalizing report with
  | nil =>
    refine (makes_pure report).mono ?_
    rintro _ _ ⟨rfl, rfl⟩
    exact ⟨[], rfl, rfl, (Report.withGroups_nil _ a).symm⟩
  | cons g groups ih =>
    obtain ⟨kind, entries⟩ := g
    rw [Courier.performAll]
    refine (makes_note _).bind fun _ => (h kind _).bind fun n => (ih _).mono ?_
    rintro _ _ ⟨xs, hxs, rfl, rfl⟩ _ ⟨x, hx, rfl, rfl⟩ _ rfl
    refine ⟨x :: xs, ?_, rfl, ?_⟩
    · rw [List.map_cons, hx, hxs]
      rfl
    · rw [Report.withGroups_withGroup, List.flatMap_cons, List.length_append]
      rfl

/-- **The calls of a run after its claim.** -/
theorem makes_afterClaim (b : Batch) :
    Makes (c.watched.afterClaim b) fun report calls => ∃ visits removals,
      visits.map Visit.leg =
        (idsByKind (byKind (b.of .update))).map (fun g => (g.1, slices m g.2)) ∧
      removals.map Removal.leg =
        (idsByKind (byKind (b.of .delete))).map (fun g => (g.1, slices m g.2)) ∧
      .claimed b :: calls = course b visits removals ∧
      report.claimed = (b.flatMap Prod.snd).length ∧
      report.updated = (visits.flatMap Visit.records).length ∧
      report.deleted = (removals.flatMap Removal.ids).length ∧
      report.groups = reported .update (idsByKind (byKind (b.of .update))) ++
        reported .delete (idsByKind (byKind (b.of .delete))) := by
  rw [Courier.afterClaim]
  refine (makes_performAll (makes_perform_update hsize) _ _).bind fun _ =>
    (makes_performAll (makes_perform_delete hsize) _ _).bind fun _ =>
      (makes_errand silent_flush (fun _ => rfl) 0).bind fun _ => (makes_pure _).mono ?_
  rintro _ _ ⟨rfl, rfl⟩ _ rfl _ ⟨removals, hremovals, rfl, rfl⟩ _ ⟨visits, hvisits, rfl, rfl⟩
  refine ⟨visits, removals, hvisits, hremovals, rfl, rfl, ?_, ?_, rfl⟩
  · exact Nat.zero_add _
  · exact Nat.zero_add _

end Run

/-! ## Runs that succeed -/

section Free

variable {c : Courier τ} {t : Table}

/-- Nothing stands in the way of the queue. -/
def Free (w : Watch τ) : Prop := w.store.obstacles = {}

/-- A part that works does every errand. -/
theorem ensures_errand {e : Errand} {a : Act τ α} {call : α → Call}
    (ha : ∀ own, (a.attempt own).1.isOk = true) :
    Ensures Free (errand e (inOwn a) call) (fun _ => Free) fun _ => False := by
  intro w hw
  obtain ⟨x, hx⟩ := Act.exists_attempt_eq_ok (ha w.own)
  rw [errand, Act.attempt_ofStep, inOwn, Act.within, Act.attempt_ofStep, hx]
  exact hw

theorem keeps_watched {kinds : String → Prop} (h : c.Works kinds) :
    c.watched.Keeps kinds Free fun _ => False where
  lookup kind hk := ensures_errand fun own => h.lookup kind own hk
  fetch repository ids := ensures_errand (h.fetch repository ids)
  update kind records repository := ensures_errand (h.update kind records repository)
  delete kind ids := ensures_errand (h.delete kind ids)
  note n w hw := hw
  chunks ids w hw := by
    obtain ⟨n, hn, hsize⟩ := h.size
    have hchunks : chunked ids c.watched.size = .ok (slices (n.toNat - 1) ids) := by
      show chunked ids c.size = _
      rw [hsize, chunked, Entity.pieceSize_int hn]
      rfl
    rw [Act.attempt_ofExcept, hchunks]
    exact hw

theorem notesFreely_queue : (queue : Access (Watch τ)).NotesFreely := fun _ _ => rfl

theorem ensures_claim :
    Ensures (fun w : Watch τ => w.store.table = t ∧ w.Free) (errand .claim queue.claim .claimed)
      (fun b w => b = batch t.claim ∧ w.Free) fun _ => False := by
  rintro w ⟨rfl, hw⟩
  obtain ⟨_, hclaim⟩ := notesFreely_queue.attempt_claim hw
  rw [errand, Act.attempt_ofStep, hclaim]
  exact ⟨rfl, hw⟩

theorem ensures_flush :
    Ensures (Free (τ := τ)) (errand .flush queue.flush fun _ => .flushed) (fun _ => Free)
      fun _ => False := by
  intro w hw
  obtain ⟨_, hflush⟩ := notesFreely_queue.attempt_flush hw
  rw [errand, Act.attempt_ofStep, hflush]
  exact hw

/-- **A run succeeds if its parts work** and nothing stands in the way of the queue. -/
theorem ensures_run (hworks : c.Works (SharedStore.updateKinds t)) :
    Ensures (fun w : Watch τ => w.store.table = t ∧ w.Free) c.watched.run (fun _ => Free)
      fun _ => False := by
  rw [Courier.run_eq]
  refine ensures_claim.bind fun b => Ensures.of_and ?_
  rintro rfl
  exact (keeps_watched hworks).afterClaim (fun g hg => SharedStore.updateKinds_of_mem hg)
    ensures_flush

end Free

end Watch

/-! ## Every run -/

section Legs

variable {t : Table} {a : Action} {m : Nat} {γ : Type} {leg : γ → String × List (List String)}
  {xs : List γ}

/-- Legs with the sliced ids of all kinds have the kinds in order, and tile the ids of each. -/
theorem covers_of_legs (h : xs.map leg = (t.groupsFor a).map fun g => (g.1, slices m g.2)) :
    (xs.map fun x => (leg x).1) = t.kindsFor a ∧
      ∀ x ∈ xs, Tiles (m + 1) (t.idsOfKind a (leg x).1) (leg x).2 := by
  rw [Table.groupsFor, List.map_map] at h
  constructor
  · have hkinds := congrArg (List.map Prod.fst) h
    rw [List.map_map, List.map_map] at hkinds
    exact hkinds.trans (List.map_id _)
  · intro x hx
    have hmem : leg x ∈ xs.map leg := List.mem_map_of_mem hx
    rw [h] at hmem
    obtain ⟨kind, -, hleg⟩ := List.mem_map.1 hmem
    rw [← hleg]
    exact tiles_slices m _

/-- The legs have the ids that the action is asked for. -/
theorem flatMap_legs (h : xs.map leg = (t.groupsFor a).map fun g => (g.1, slices m g.2)) :
    (xs.flatMap fun x => (leg x).2.flatten) = (t.groupsFor a).flatMap Prod.snd := by
  have hids := congrArg (List.flatMap fun l : String × List (List String) => l.2.flatten) h
  rw [List.flatMap_map, List.flatMap_map] at hids
  simpa only [Entity.flatten_slices] using hids

end Legs

/-- The last call of a course is its only flush. -/
theorem flushed_not_mem_of_course {b : Batch} {visits : List Visit} {removals : List Removal}
    {calls rest : List Call} {call : Call}
    (h : course b visits removals = calls ++ call :: rest) : .flushed ∉ calls := by
  have hprefix : calls <+: .claimed b :: (visits.flatMap Visit.calls ++
      removals.flatMap Removal.calls) := by
    have hlast := congrArg List.dropLast h
    rw [course, ← List.append_assoc, ← List.cons_append, List.dropLast_concat,
      List.dropLast_append_of_ne_nil (List.cons_ne_nil call rest)] at hlast
    exact ⟨_, hlast.symm⟩
  intro hmem
  have hflush := hprefix.subset hmem
  simp [Visit.calls, Visit.stopCalls, Removal.calls] at hflush

/-- The number of claimed entries is the length of the table. -/
theorem length_batch (t : Table) : ((batch t.claim).flatMap Prod.snd).length = t.length := by
  have hperm : ((batch t.claim).flatMap Prod.snd).Perm t.claim := Keyed.flatMap_group_perm
  rw [hperm.length_eq, Table.claim_eq_map, List.length_map]

section Outcome

variable {τ : Type} {c : Courier τ} {m : Nat} (hsize : c.size = .int (m + 1 : Nat))

include hsize

/-- What a run makes and reports after the claim of a table. -/
theorem makes_afterClaim_batch (t : Table) :
    Watch.Makes (c.watched.afterClaim (batch t.claim)) fun report calls => ∃ visits removals,
      Covers (m + 1) t visits removals ∧
      .claimed (batch t.claim) :: calls = course (batch t.claim) visits removals ∧
      report.claimed = t.length ∧ report.updated = (visits.flatMap Visit.records).length ∧
      report.deleted = (t.idsFor .delete).length ∧
      report.groups = reported .update (t.groupsFor .update) ++
        reported .delete (t.groupsFor .delete) := by
  refine (Watch.makes_afterClaim hsize (batch t.claim)).mono ?_
  rintro report calls ⟨visits, removals, hvisits, hremovals, hcalls, hclaimed, hupdated, hdeleted,
    hgroups⟩
  rw [idsByKind_batch] at hvisits hremovals hgroups
  rw [idsByKind_batch] at hgroups
  obtain ⟨hvisited, hfetched⟩ := covers_of_legs hvisits
  obtain ⟨hremoved, hsent⟩ := covers_of_legs hremovals
  have hcovers : Covers (m + 1) t visits removals := ⟨hvisited, hfetched, hremoved, hsent⟩
  refine ⟨visits, removals, hcovers, hcalls, ?_, hupdated, ?_, hgroups⟩
  · rw [hclaimed, length_batch]
  · have hids : removals.flatMap Removal.ids = (t.groupsFor .delete).flatMap Prod.snd :=
      flatMap_legs hremovals
    rw [hdeleted, hids, (t.flatMap_groupsFor_perm .delete).length_eq]

variable {own : τ} {store : Store} {w : Watch τ}

/-- **A run that succeeds made all the calls of a course**, and reports it. -/
theorem run_eq_ok {report : Report}
    (h : c.watched.run.attempt { own := own, store := store } = (.ok report, w)) :
    ∃ visits removals, Covers (m + 1) store.table visits removals ∧
      w.calls = course (batch store.table.claim) visits removals ∧ w.failed = none ∧
      report.claimed = store.table.length ∧ report.updated = (visits.flatMap Visit.records).length ∧
      report.deleted = (store.table.idsFor .delete).length ∧
      report.groups = reported .update (store.table.groupsFor .update) ++
        reported .delete (store.table.groupsFor .delete) := by
  rw [Courier.run_eq] at h
  obtain ⟨b, w₁, hclaim, hrest⟩ := Act.attempt_bind_eq_ok_iff.1 h
  obtain ⟨⟨w₂, hbatch⟩, hcalls, hfailed⟩ := Watch.errand_eq_ok Watch.silent_claim hclaim
  obtain ⟨rfl, -⟩ := Access.claim_eq_ok Watch.lawful_queue hbatch
  obtain ⟨hfailed', more, ⟨visits, removals, hcovers, hcourse, hreport⟩, hmore⟩ :=
    (makes_afterClaim_batch hsize store.table).ok w₁ w report hfailed hrest
  refine ⟨visits, removals, hcovers, ?_, hfailed', hreport⟩
  rw [hmore, hcalls]
  exact hcourse

/-- **A run that fails kept to a course** up to a call that failed. -/
theorem run_eq_error {f : Failure}
    (h : c.watched.run.attempt { own := own, store := store } = (.error f, w)) :
    ∃ visits removals, Covers (m + 1) store.table visits removals ∧
      w.StoppedIn f (course (batch store.table.claim) visits removals) := by
  have hmakes := makes_afterClaim_batch hsize store.table
  rw [Courier.run_eq, Act.attempt_bind] at h
  rcases hclaim : c.watched.claim.attempt { own := own, store := store } with ⟨f' | b, w₁⟩ <;>
    rw [hclaim] at h
  · cases h
    obtain ⟨report, more, visits, removals, hcovers, hcourse, -⟩ := hmakes.possible
    obtain ⟨hcalls, hfailed⟩ := Watch.errand_eq_error Watch.silent_claim hclaim
    refine ⟨visits, removals, hcovers, .claimed (batch store.table.claim), more, .claim, ?_, rfl,
      hfailed⟩
    rw [← hcourse, hcalls]
    rfl
  · obtain ⟨⟨w₂, hbatch⟩, hcalls, hfailed⟩ := Watch.errand_eq_ok Watch.silent_claim hclaim
    obtain ⟨rfl, -⟩ := Access.claim_eq_ok Watch.lawful_queue hbatch
    obtain ⟨report, more, ⟨visits, removals, hcovers, hcourse, -⟩, hstopped⟩ :=
      hmakes.error w₁ w f hfailed h
    refine ⟨visits, removals, hcovers, ?_⟩
    rw [← hcourse]
    rwa [hcalls] at hstopped

end Outcome

/-- **Every run keeps to the course.** Its chunks have `n` items, a positive number. It succeeds if
its parts work and nothing stands in the way of the queue. If it succeeds it made all the calls of a
course, and its report says the same of every size of chunks; if it fails, a call failed that was
the next of a course, and the queue was not flushed. -/
theorem run_keeps_course {τ : Type} (c : Courier τ) {n : Nat} (hn : 1 ≤ n)
    (hsize : c.size = .int n) (own : τ) (store : Store) :
    let t := store.table
    let outcome := c.watched.run.attempt { own := own, store := store }
    (c.Works (SharedStore.updateKinds t) → store.obstacles = {} → outcome.1.isOk = true) ∧
    ∃ visits removals, Covers n t visits removals ∧
      match outcome with
      | (.ok report, w) =>
        w.calls = course (batch t.claim) visits removals ∧ w.failed = none ∧
        report.claimed = t.length ∧ report.updated = (visits.flatMap Visit.records).length ∧
        report.deleted = (t.idsFor .delete).length ∧
        report.groups = reported .update (t.groupsFor .update) ++
          reported .delete (t.groupsFor .delete)
      | (.error f, w) =>
        w.StoppedIn f (course (batch t.claim) visits removals) ∧ .flushed ∉ w.calls := by
  intro t outcome
  obtain ⟨m, rfl⟩ : ∃ m, n = m + 1 := ⟨n - 1, by omega⟩
  have hworking (hworks : c.Works (SharedStore.updateKinds t)) (hfree : store.obstacles = {}) :=
    Watch.ensures_run hworks { own := own, store := store } ⟨rfl, hfree⟩
  rcases houtcome : c.watched.run.attempt { own := own, store := store } with ⟨f | report, w⟩ <;>
    simp only [outcome, houtcome] at hworking ⊢
  · obtain ⟨visits, removals, hcovers, hstopped⟩ := run_eq_error hsize houtcome
    obtain ⟨call, rest, e, hcourse, hrest⟩ := hstopped
    refine ⟨fun hworks hfree => (hworking hworks hfree).elim, visits, removals, hcovers, ?_⟩
    exact ⟨⟨call, rest, e, hcourse, hrest⟩, flushed_not_mem_of_course hcourse⟩
  · exact ⟨fun _ _ => rfl, run_eq_ok hsize houtcome⟩

/-- Couriers that send the records of two ids at a time: one works, and of one only the first upload
succeeds. -/
theorem run_keeps_course_in_pairs :
    let works : Courier Nat := { SharedStore.unlimited with size := .int 2 }
    let fails : Courier Nat := { SharedStore.throttled with size := .int 2 }
    let store : Store := { table := [⟨⟨"1", "Article", .update⟩, .waiting, 5⟩,
      ⟨⟨"7", "Author", .delete⟩, .waiting, 5⟩, ⟨⟨"4", "Author", .update⟩, .running, 6⟩,
      ⟨⟨"2", "Article", .update⟩, .waiting, 6⟩, ⟨⟨"3", "Article", .update⟩, .waiting, 7⟩] }
    (∃ report w visits removals,
      works.watched.run.attempt { own := 0, store := store } = (.ok report, w) ∧
        Covers 2 store.table visits removals ∧
        w.calls = course (batch store.table.claim) visits removals ∧
        report.groups = [(.update, "Article", 3), (.update, "Author", 1), (.delete, "Author", 1)]) ∧
    ∃ f w visits removals,
      fails.watched.run.attempt { own := 1, store := store } = (.error f, w) ∧
        Covers 2 store.table visits removals ∧
        w.StoppedIn f (course (batch store.table.claim) visits removals) := by
  intro works fails store
  constructor
  · obtain ⟨hok, visits, removals, hcovers, hmade⟩ :=
      run_keeps_course works (by decide : 1 ≤ 2) rfl 0 store
    have hworks : works.Works (SharedStore.updateKinds store.table) :=
      { SharedStore.works_unlimited _ with size := ⟨2, by decide, rfl⟩ }
    have hsucceeds := hok hworks rfl
    rcases hx : works.watched.run.attempt { own := 0, store := store } with ⟨f | report, w⟩
    · rw [hx] at hsucceeds
      cases hsucceeds
    · rw [hx] at hmade
      obtain ⟨hcalls, -, -, -, -, hgroups⟩ := hmade
      refine ⟨report, w, visits, removals, rfl, hcovers, hcalls, hgroups.trans ?_⟩
      decide +kernel
  · obtain ⟨-, visits, removals, hcovers, hmade⟩ :=
      run_keeps_course fails (by decide : 1 ≤ 2) rfl 1 store
    rcases hx : fails.watched.run.attempt { own := 1, store := store } with ⟨f | report, w⟩
    · rw [hx] at hmade
      exact ⟨f, w, visits, removals, rfl, hcovers, hmade.1⟩
    · have hfails : (fails.watched.run.attempt { own := 1, store := store }).1.isOk = false := by
        decide +kernel
      rw [hx] at hfails
      cases hfails

end SearchIndex.Queue
