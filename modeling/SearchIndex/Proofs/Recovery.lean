import SearchIndex.Proofs.Couriers
import SearchIndex.Proofs.Interleaving

/-!
# Recovery from a failed run

A run that fails leaves every entry of the queue, running, and no other. After a requeue all of them
wait, and a run then makes the calls and the report that it would have made had the failed run never
been.

## Main definitions

* `SharedStore.Alone t s`: nobody else uses the queue, nothing stands in its way, and its table is
  `t`
* `SharedStore.Alike R s s'`: worlds that the parts of a consumer cannot tell apart

## Main results

* `ensures_run_alone`: a run empties the queue, or leaves all of it running
* `alike_run`: two runs that claim the same entries are alike
* `recovers`: recovery is complete
-/

namespace SearchIndex.Queue

open Act (Ensures)
open Entity (chunked)

namespace SharedStore

variable {τ α : Type} {t : Table} {s : SharedStore τ}

/-- **Nobody else uses the queue**, nothing stands in its way, and its table is `t`. -/
structure Alone (t : Table) (s : SharedStore τ) : Prop where
  schedule : s.schedule = []
  obstacles : s.store.obstacles = {}
  table : s.store.table = t

/-- The store with a settled table and a call recorded. -/
def noted (s : SharedStore τ) (call : Call) (t : Table) : SharedStore τ :=
  { s with store := s.store.settled t, moments := s.moments ++ [(call, t)] }

theorem Alone.noted (h : s.Alone t) (call : Call) (t' : Table) : (s.noted call t').Alone t' :=
  ⟨h.schedule, h.obstacles, rfl⟩

theorem attempt_call_of_schedule (h : s.schedule = []) (a : Act (SharedStore τ) α)
    (event : α → Call) :
    (call a event).attempt s = (recorded a event).attempt s := by
  rw [call, Act.attempt_bind, interlude, Act.attempt_ofStep]
  have hs : (s.schedule.headD []).foldl happen { s with schedule := s.schedule.tail } = s := by
    obtain ⟨own, store, schedule, moments⟩ := s
    obtain rfl : schedule = [] := h
    rfl
  rw [hs]

theorem notesFreely_queue : (queue : Access (SharedStore τ)).NotesFreely := fun _ _ => rfl

theorem Alone.attempt_claim (h : s.Alone t) :
    (call queue.claim .claimed).attempt s =
      (.ok (batch t.claim), s.noted (.claimed (batch t.claim)) t.claim) := by
  obtain rfl := h.table
  obtain ⟨_, hclaim⟩ := notesFreely_queue.attempt_claim h.obstacles
  rw [attempt_call_of_schedule h.schedule, recorded, Act.attempt_bind, hclaim]
  rfl

theorem Alone.attempt_flush (h : s.Alone t) :
    (call queue.flush fun _ => .flushed).attempt s =
      (.ok (t.count .running), s.noted .flushed t.flush) := by
  obtain rfl := h.table
  obtain ⟨_, hflush⟩ := notesFreely_queue.attempt_flush h.obstacles
  rw [attempt_call_of_schedule h.schedule, recorded, Act.attempt_bind, hflush]
  rfl

theorem Alone.attempt_requeue (h : s.Alone t) :
    queue.requeue.attempt s =
      (.ok (t.count .running), { s with store := s.store.settled t.requeue }) := by
  obtain rfl := h.table
  obtain ⟨_, hrequeue⟩ := notesFreely_queue.attempt_requeue h.obstacles
  exact hrequeue

/-! ## What a run leaves -/

section Run

variable {c : Courier τ} {kinds : String → Prop} {p : Prop}

/-- The parts of the consumer leave the queue alone; they fail only if `p` holds. -/
theorem ensures_inOwn_alone {a : Act τ α} (ha : p ∨ ∀ own, (a.attempt own).1.isOk = true) :
    Ensures (Alone t) (inOwn a) (fun _ => Alone t) (fun s => p ∧ s.Alone t) := by
  intro s hs
  rw [inOwn, Act.within, Act.attempt_ofStep]
  rcases ho : a.attempt s.own with ⟨f | x, own⟩
  · have hp : p := ha.resolve_right fun h => by
      have hok := h s.own
      rw [ho] at hok
      cases hok
    exact ⟨hp, hs.schedule, hs.obstacles, hs.table⟩
  · exact ⟨hs.schedule, hs.obstacles, hs.table⟩

theorem ensures_call_alone {a : Act τ α} (event : α → Call)
    (ha : p ∨ ∀ own, (a.attempt own).1.isOk = true) :
    Ensures (Alone t) (call (inOwn a) event) (fun _ => Alone t) (fun s => p ∧ s.Alone t) := by
  intro s hs
  rw [attempt_call_of_schedule hs.schedule]
  refine (ensures_inOwn_alone ha).bind (k := fun x => Act.ofStep _) (fun x s hs => ?_) s hs
  exact ⟨hs.schedule, hs.obstacles, hs.table⟩

/-- The parts of a courier leave the queue alone; if they work they do not fail. -/
theorem keeps_onShared (hp : p ∨ c.Works kinds) :
    c.onShared.Keeps kinds (Alone t) (fun s => p ∧ s.Alone t) where
  lookup kind hk := ensures_call_alone _ (hp.imp_right fun h own => h.lookup kind own hk)
  fetch repository ids := ensures_call_alone _ (hp.imp_right fun h => h.fetch repository ids)
  update kind records repository :=
    ensures_call_alone _ (hp.imp_right fun h => h.update kind records repository)
  delete kind ids := ensures_call_alone _ (hp.imp_right fun h => h.delete kind ids)
  note n := ensures_inOwn_alone (hp.imp_right fun h => h.note n)
  chunks ids := by
    intro s hs
    rw [Act.attempt_ofExcept]
    cases hc : chunked ids c.onShared.size with
    | ok chunks => exact hs
    | error f =>
      refine ⟨hp.resolve_right fun h => ?_, hs⟩
      obtain ⟨n, hn, hsize⟩ := h.size
      have hsize' : c.onShared.size = .int n := hsize
      rw [hsize', chunked, Entity.pieceSize_int hn] at hc
      cases hc

/-- The kinds of the records that are to be updated. -/
def updateKinds (t : Table) (kind : String) : Prop :=
  ∃ e ∈ t, e.intent.action = .update ∧ e.intent.kind = kind

theorem updateKinds_of_mem {g : String × List Entry}
    (hg : g ∈ byKind ((batch t.claim).of .update)) : updateKinds t g.1 := by
  obtain ⟨kind, items⟩ := g
  obtain ⟨rfl, hne⟩ := mem_byKind_iff.1 hg
  obtain ⟨e, he⟩ := List.exists_mem_of_ne_nil _ hne
  rw [batch_of, Table.claim_eq_map] at he
  simp only [List.mem_filter, List.mem_map, beq_iff_eq] at he
  obtain ⟨⟨⟨x, hx, rfl⟩, haction⟩, hkind⟩ := he
  exact ⟨x, hx, haction, hkind⟩

theorem flush_claim (t : Table) : t.claim.flush = [] := by
  rw [Table.flush, Table.claim_eq_map, List.filter_map, List.map_eq_nil_iff, List.filter_eq_nil_iff]
  intro e _
  simp

/-- **A run empties the queue, or leaves all of it running.** -/
theorem ensures_run_alone (hp : p ∨ c.Works (updateKinds t)) :
    Ensures (Alone t) c.onShared.run (fun _ => Alone []) (fun s => p ∧ s.Alone t.claim) := by
  have hkeeps : c.onShared.Keeps (updateKinds t) (Alone t.claim) (fun s => p ∧ s.Alone t.claim) :=
    keeps_onShared hp
  have hclaim : Ensures (Alone t) c.onShared.claim
      (fun b s => b = batch t.claim ∧ s.Alone t.claim) (fun s => p ∧ s.Alone t.claim) := by
    intro s hs
    have hattempt : c.onShared.claim.attempt s = _ := hs.attempt_claim
    rw [hattempt]
    exact ⟨rfl, hs.noted _ _⟩
  have hflush : Ensures (Alone t.claim) c.onShared.flush (fun _ => Alone [])
      (fun s => p ∧ s.Alone t.claim) := by
    intro s hs
    have hattempt : c.onShared.flush.attempt s = _ := hs.attempt_flush
    rw [hattempt, flush_claim]
    exact hs.noted _ _
  rw [Courier.run_eq]
  refine hclaim.bind fun b => Ensures.of_and ?_
  rintro rfl
  exact hkeeps.afterClaim (fun g hg => updateKinds_of_mem hg) hflush

end Run

/-! ## Two runs that claim the same -/

section Alike

variable {c : Courier τ} {R : τ → τ → Prop}

/-- There is one table and one record of moments, and the rest differs in what the consumer cannot
tell apart. -/
structure Alike (R : τ → τ → Prop) (s s' : SharedStore τ) : Prop where
  own : R s.own s'.own
  alone : ∃ t, s.Alone t ∧ s'.Alone t
  moments : s.moments = s'.moments

theorem alike_inOwn {a : Act τ α} (ha : Act.Alike R a) :
    Act.Alike (SharedStore.Alike R) (inOwn a) := by
  rintro s s' ⟨hown, ⟨t, hs, hs'⟩, hm⟩
  obtain ⟨hout, hown'⟩ := ha s.own s'.own hown
  refine ⟨hout, hown', ⟨t, ?_, ?_⟩, hm⟩
  · exact ⟨hs.schedule, hs.obstacles, hs.table⟩
  · exact ⟨hs'.schedule, hs'.obstacles, hs'.table⟩

theorem alike_call {a : Act (SharedStore τ) α} (ha : Act.Alike (SharedStore.Alike R) a)
    (event : α → Call) :
    Act.Alike (SharedStore.Alike R) (call a event) := by
  intro s s' h
  obtain ⟨t, hs, hs'⟩ := h.alone
  rw [attempt_call_of_schedule hs.schedule, attempt_call_of_schedule hs'.schedule]
  refine ha.bind (fun x s s' ⟨hown, ⟨t, hs, hs'⟩, hm⟩ => ?_) s s' h
  refine ⟨rfl, hown, ⟨t, ?_, ?_⟩, ?_⟩
  · exact ⟨hs.schedule, hs.obstacles, hs.table⟩
  · exact ⟨hs'.schedule, hs'.obstacles, hs'.table⟩
  · simp only [Act.attempt_ofStep, hm, hs.table, hs'.table]

theorem Alike.noted {s s' : SharedStore τ} (h : SharedStore.Alike R s s') (call : Call)
    (t : Table) :
    SharedStore.Alike R (s.noted call t) (s'.noted call t) := by
  obtain ⟨hown, ⟨t', hs, hs'⟩, hm⟩ := h
  exact ⟨hown, ⟨t, hs.noted call t, hs'.noted call t⟩, congrArg (· ++ [(call, t)]) hm⟩

theorem alike_flush : Act.Alike (SharedStore.Alike R) (call queue.flush fun _ => .flushed) := by
  intro s s' h
  obtain ⟨t, hs, hs'⟩ := h.alone
  rw [hs.attempt_flush, hs'.attempt_flush]
  exact ⟨rfl, h.noted _ _⟩

theorem alike_onShared (h : c.Alike R) : c.onShared.Alike (SharedStore.Alike R) where
  lookup kind := alike_call (alike_inOwn (h.lookup kind)) _
  fetch repository ids := alike_call (alike_inOwn (h.fetch repository ids)) _
  update kind records repository := alike_call (alike_inOwn (h.update kind records repository)) _
  delete kind ids := alike_call (alike_inOwn (h.delete kind ids)) _
  note n := alike_inOwn (h.note n)

/-- **Two runs that claim the same entries are alike.** -/
theorem alike_run (h : c.Alike R) {s s' : SharedStore τ} {t t' : Table} (hs : s.Alone t)
    (hs' : s'.Alone t') (ht : t.claim = t'.claim) (hown : R s.own s'.own)
    (hm : s.moments = s'.moments) :
    (c.onShared.run.attempt s).1 = (c.onShared.run.attempt s').1 ∧
      SharedStore.Alike R (c.onShared.run.attempt s).2 (c.onShared.run.attempt s').2 := by
  have hclaim : c.onShared.claim.attempt s = _ := hs.attempt_claim
  have hclaim' : c.onShared.claim.attempt s' = _ := hs'.attempt_claim
  have hclaimed : SharedStore.Alike R (s.noted (.claimed (batch t'.claim)) t'.claim)
      (s'.noted (.claimed (batch t'.claim)) t'.claim) :=
    ⟨hown, ⟨_, hs.noted _ _, hs'.noted _ _⟩, congrArg (· ++ [_]) hm⟩
  have hparts := alike_onShared h
  have hrest (b : Batch) := (hparts.performAll .update (byKind (b.of .update))
    { claimed := (b.flatMap Prod.snd).length }).bind fun report =>
      (hparts.performAll .delete (byKind (b.of .delete)) report).bind fun report =>
        alike_flush.bind fun flushed => Act.alike_pure { report with flushed := flushed }
  rw [Courier.run, Act.attempt_bind, Act.attempt_bind, hclaim, hclaim', ht]
  exact hrest _ _ _ hclaimed

end Alike

/-! ## Recovery -/

theorem count_running_claim (t : Table) : t.claim.count .running = t.length := by
  rw [Table.count, Table.withStatus_running_claim, Table.claim_eq_map, List.length_map]

theorem claim_requeue (t : Table) : t.requeue.claim = t.claim := by
  rw [Table.claim_eq_map, Table.claim_eq_map, Table.requeue_eq_map, List.map_map]
  rfl

theorem claim_claim (t : Table) : t.claim.claim = t.claim := by
  rw [Table.claim_eq_map, Table.claim_eq_map, List.map_map]
  rfl

/-- **Recovery is complete.** A run that fails leaves every entry, running; a requeue makes all of
them wait; and a run does then what it would have done had neither been. -/
theorem recovers {c : Courier τ} {s s' : SharedStore τ} {f : Failure} (hschedule : s.schedule = [])
    (hobstacles : s.store.obstacles = {}) (hrun : c.onShared.run.attempt s = (.error f, s')) :
    s'.store.table = s.store.table.map (fun e => { e with status := .running }) ∧
    ∃ s'' : SharedStore τ, queue.requeue.attempt s' = (.ok s.store.table.length, s'') ∧
      s''.store.table = s.store.table.map (fun e => { e with status := .waiting }) ∧
      ∀ {υ : Type} (c' : Courier υ) (R : υ → υ → Prop) (o o' : υ), c'.Alike R → R o o' →
        let recovered := c'.onShared.run.attempt { own := o, store := s''.store }
        let unharmed := c'.onShared.run.attempt { own := o', store := s.store }
        recovered.1 = unharmed.1 ∧ recovered.2.moments = unharmed.2.moments ∧
          recovered.2.store.table = unharmed.2.store.table ∧
          (c'.Works (updateKinds s.store.table) →
            ∃ report, recovered.1 = .ok report ∧ recovered.2.store.table = []) := by
  have hs : s.Alone s.store.table := ⟨hschedule, hobstacles, rfl⟩
  have hfailed : s'.Alone s.store.table.claim := by
    have hensures := ensures_run_alone (c := c) (p := True) (.inl trivial) s hs
    rw [hrun] at hensures
    exact hensures.2
  have hrequeued : queue.requeue.attempt s' = (.ok s.store.table.length,
      { s' with store := s'.store.settled s.store.table.claim.requeue }) := by
    rw [hfailed.attempt_requeue, count_running_claim]
  refine ⟨hfailed.table.trans (Table.claim_eq_map _), _, hrequeued, ?_, ?_⟩
  · show s.store.table.claim.requeue = _
    rw [Table.requeue_eq_map, Table.claim_eq_map, List.map_map]
    rfl
  · intro υ c' R o o' hc' ho recovered unharmed
    have hwaiting : ({ own := o, store := s'.store.settled s.store.table.claim.requeue } :
        SharedStore υ).Alone s.store.table.claim.requeue := ⟨rfl, hfailed.obstacles, rfl⟩
    have hfresh : ({ own := o', store := s.store } : SharedStore υ).Alone s.store.table :=
      ⟨rfl, hobstacles, rfl⟩
    have hclaims : s.store.table.claim.requeue.claim = s.store.table.claim := by
      rw [claim_requeue, claim_claim]
    obtain ⟨hout, hleft⟩ := alike_run hc' hwaiting hfresh hclaims ho rfl
    obtain ⟨t, ht, ht'⟩ := hleft.alone
    refine ⟨hout, hleft.moments, ht.table.trans ht'.table.symm, fun hworks => ?_⟩
    have hempty := ensures_run_alone (p := False) (.inr hworks) _ hfresh
    rcases hx : c'.onShared.run.attempt { own := o', store := s.store } with ⟨f | report, s₁⟩
    · rw [hx] at hempty
      exact hempty.1.elim
    · rw [hx] at hempty hout ht'
      exact ⟨report, hout, (ht.table.trans ht'.table.symm).trans hempty.table⟩

/-- A courier whose uploads fail when its world is zero, and use it up by one. -/
def throttled : Courier Nat where
  claim := pure []
  flush := pure 0
  lookup _ := pure { fetch := fun _ => .ok [], key := .ok, document := .ok }
  fetch _ ids := pure (ids.map .text)
  update _ _ _ := Act.ofStep fun n =>
    if n = 0 then (.error (.search "Throttled" none), n) else (.ok (), n - 1)
  delete _ _ := pure ()
  note _ := pure ()
  size := .int 1

/-- The same courier without a limit. -/
def unlimited : Courier Nat := { throttled with update := fun _ _ _ => pure () }

theorem works_unlimited (kinds : String → Prop) : unlimited.Works kinds where
  lookup _ _ _ := rfl
  fetch _ _ _ := rfl
  update _ _ _ _ := rfl
  delete _ _ _ := rfl
  note _ _ := rfl
  size := ⟨1, by decide, rfl⟩

/-- The second upload of three fails; after a requeue the rest is done. -/
theorem recovers_throttled :
    let s : SharedStore Nat :=
      { own := 1, store := { table := [⟨⟨"1", "Article", .update⟩, .waiting, 5⟩,
          ⟨⟨"2", "Article", .update⟩, .running, 6⟩, ⟨⟨"3", "Article", .delete⟩, .waiting, 7⟩] } }
    ∃ f s' s'' report, throttled.onShared.run.attempt s = (.error f, s') ∧
      s'.store.table = [⟨⟨"1", "Article", .update⟩, .running, 5⟩,
        ⟨⟨"2", "Article", .update⟩, .running, 6⟩, ⟨⟨"3", "Article", .delete⟩, .running, 7⟩] ∧
      queue.requeue.attempt s' = (.ok 3, s'') ∧
      (unlimited.onShared.run.attempt { own := 0, store := s''.store }).1 = .ok report := by
  intro s
  rcases hrun : throttled.onShared.run.attempt s with ⟨f | report, s'⟩
  · obtain ⟨htable, s'', hrequeue, -, hagain⟩ := recovers rfl rfl hrun
    obtain ⟨-, -, -, hdone⟩ := hagain unlimited Eq 0 0 (Courier.alike_eq unlimited) rfl
    obtain ⟨report, hreport, -⟩ := hdone (works_unlimited _)
    exact ⟨f, s', s'', report, rfl, htable, hrequeue, hreport⟩
  · have hfails : (throttled.onShared.run.attempt s).1.isOk = false := by decide +kernel
    rw [hrun] at hfails
    cases hfails

end SharedStore

end SearchIndex.Queue
