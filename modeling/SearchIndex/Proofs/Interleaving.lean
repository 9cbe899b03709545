import SearchIndex.Proofs.Groups
import SearchIndex.Proofs.Transaction
import SearchIndex.Queue.Delivery

/-!
# A consumer among producers

One consumer works through batches of a queue. Before any of its calls others may push intents or
requeue what is stuck, the clock may move, and the store may become obstructed or free again; any
of its calls may fail, which ends the run. At every moment an intent that was ever pushed is in the
queue, or it was delivered after its latest push.

## Main definitions

* `SharedStore τ`: the store of a queue that others use too, with the world `τ` of the consumer's
  parts
* `Happening`: what happens at the queue without the consumer
* `Call`: what was done successfully, by the consumer or by others
* `Courier.onShared`: a courier that works on a queue that others use too
* `Delivered i calls`: among the calls are those that deliver an intent
* `NothingLost moments`: at every moment each intent is in the queue or was delivered
* `Guarded`, `Underway`: what holds between runs, and what holds during a run

## Main results

* `ensures_call`: what a call of the consumer keeps
* `ensures_run`: a run keeps what holds between runs, however it ends
* `nothing_lost`: no intent is ever lost
-/

namespace SearchIndex.Queue

open Act (Ensures)
open Entity (Record Repository)

/-- What was done successfully, with what it was given and what it gave: others push and requeue,
the consumer does the rest. -/
inductive Call where
  | pushed (intent : Intent)
  | requeued
  | claimed (batch : Batch)
  | found (kind : String) (repository : Repository)
  | fetched (repository : Repository) (ids : List String) (records : List Record)
  | updated (kind : String) (records : List Record) (repository : Repository)
  | deleted (kind : String) (ids : List String)
  | flushed

/-- What happens at the queue without the consumer: others use it, the clock shows something else,
or something else stands in the way of transactions. -/
inductive Happening where
  | push (action : Action) (id : Value) (kind : String)
  | requeue
  | tick (clock : Except Failure Value)
  | obstruct (obstacles : Obstacles)

/-- The store of a queue that others use too, with the world of the consumer's parts. -/
structure SharedStore (τ : Type) where
  /-- The world of the consumer's parts. -/
  own : τ
  store : Store := {}
  /-- What will happen before each of the next calls of the consumer. -/
  schedule : List (List Happening) := []
  /-- What was done so far, the earliest first, with the table after it. -/
  moments : List (Call × Table) := []

namespace SharedStore

variable {τ α β : Type}

/-- The queue of the store; its notes are not kept. -/
def queue : Access (SharedStore τ) where
  store := SharedStore.store
  withStore store s := { s with store := store }
  note _ := pure ()

/-- An action of the consumer's parts. -/
def inOwn (a : Act τ α) : Act (SharedStore τ) α :=
  a.within SharedStore.own fun own s => { s with own := own }

/-- An action that is recorded if it succeeds. -/
def recorded (a : Act (SharedStore τ) α) (call : α → Call) : Act (SharedStore τ) α := do
  let x ← a
  Act.ofStep fun s => (.ok x, { s with moments := s.moments ++ [(call x, s.store.table)] })

/-- The store after something happened. -/
def happen (s : SharedStore τ) : Happening → SharedStore τ
  | .push action id kind =>
    ((recorded (queue.push (.text action.name) id (.text kind)) fun _ =>
      .pushed ⟨id.plain, kind, action⟩).attempt s).2
  | .requeue => ((recorded queue.requeue fun _ => .requeued).attempt s).2
  | .tick clock => { s with store := { s.store with clock := clock } }
  | .obstruct obstacles => { s with store := { s.store with obstacles := obstacles } }

/-- What happens before the next call. -/
def interlude : Act (SharedStore τ) Unit :=
  Act.ofStep fun s =>
    (.ok (), (s.schedule.headD []).foldl happen { s with schedule := s.schedule.tail })

/-- **A call of the consumer**: others go first. -/
def call (a : Act (SharedStore τ) α) (event : α → Call) : Act (SharedStore τ) α := do
  interlude
  recorded a event

end SharedStore

/-- **A courier that works on a queue that others use too**, with the repositories, the index and
the notes it has in a world of its own. -/
def Courier.onShared {τ : Type} (c : Courier τ) : Courier (SharedStore τ) where
  claim := SharedStore.call SharedStore.queue.claim .claimed
  flush := SharedStore.call SharedStore.queue.flush fun _ => .flushed
  lookup kind := SharedStore.call (SharedStore.inOwn (c.lookup kind)) (.found kind)
  fetch repository ids :=
    SharedStore.call (SharedStore.inOwn (c.fetch repository ids)) (.fetched repository ids)
  update kind records repository :=
    SharedStore.call (SharedStore.inOwn (c.update kind records repository)) fun _ =>
      .updated kind records repository
  delete kind ids :=
    SharedStore.call (SharedStore.inOwn (c.delete kind ids)) fun _ => .deleted kind ids
  note n := SharedStore.inOwn (c.note n)
  size := c.size

/-- What goes on at a shared store: others use the queue, or the consumer does a run. -/
inductive Activity (τ : Type) where
  | others (happenings : List Happening)
  | run (courier : Courier τ)

/-- The store after some activities. A run that fails leaves what it did. -/
def SharedStore.after {τ : Type} (s : SharedStore τ) (activities : List (Activity τ)) :
    SharedStore τ :=
  activities.foldl (fun s activity =>
    match activity with
    | .others happenings => happenings.foldl happen s
    | .run courier => (courier.onShared.run.attempt s).2) s

/-! ## Delivery -/

/-- Ids of a kind were sent: they were passed to the repository of the kind, and every record it
gave was brought into the index. -/
def Sent (kind : String) (repository : Repository) (ids : List String) (calls : List Call) : Prop :=
  ∃ records, ([.found kind repository, .fetched repository ids records] ++
    if records.isEmpty then [] else [.updated kind records repository]).Sublist calls

/-- **Among the calls are those that deliver an intent.** -/
def Delivered (i : Intent) (calls : List Call) : Prop :=
  match i.action with
  | .update => ∃ repository ids, i.id ∈ ids ∧ Sent i.kind repository ids calls
  | .delete => ∃ ids, i.id ∈ ids ∧ .deleted i.kind ids ∈ calls

/-- **A run whose claim came after the latest push of an intent delivered it.** -/
def DeliveredSincePush (i : Intent) (calls : List Call) : Prop :=
  ∃ before b during after, calls = before ++ .claimed b :: (during ++ after) ∧
    (∀ b', .claimed b' ∉ during) ∧ .pushed i ∉ during ++ after ∧ Delivered i during

/-- Each intent that was pushed is in the table or was delivered after its latest push. -/
def Safe (calls : List Call) (t : Table) : Prop :=
  ∀ i, .pushed i ∈ calls → i ∈ t.intents ∨ DeliveredSincePush i calls

/-- **At every moment each intent that was pushed is in the queue or was delivered after its latest
push.** -/
def NothingLost (moments : List (Call × Table)) : Prop :=
  ∀ past call t, past ++ [(call, t)] <+: moments → Safe (past.map Prod.fst ++ [call]) t

/-! ## What actions do to the table -/

namespace SharedStore

variable {τ α β : Type} {l : List (Call × Table)} {t : Table}

/-- The store has this record of moments and this table. -/
def At (l : List (Call × Table)) (t : Table) (s : SharedStore τ) : Prop :=
  s.moments = l ∧ s.store.table = t

/-- **An action changes the table as `Q` says or fails and leaves it**, and records nothing. -/
def Does (a : Act (SharedStore τ) α) (Q : α → Table → Table → Prop) : Prop :=
  ∀ l t, Ensures (At l t) a (fun x s => ∃ t', Q x t t' ∧ At l t' s) (At l t)

theorem does_inOwn (a : Act τ α) : Does (inOwn a) fun _ t t' => t' = t := by
  rintro _ _ s ⟨rfl, rfl⟩
  rw [inOwn, Act.within, Act.attempt_ofStep]
  rcases a.attempt s.own with ⟨_ | x, own⟩
  · exact ⟨rfl, rfl⟩
  · exact ⟨_, rfl, rfl, rfl⟩

theorem does_use {body : Act Store α} (hb : Store.Drafting body) :
    Does ((queue : Access (SharedStore τ)).use (Store.transaction body)) fun x t t' =>
      ∃ store store' : Store, (Store.transaction body).attempt store = (.ok x, store') ∧
        t = store.table ∧ t' = store'.table := by
  rintro _ _ s ⟨rfl, rfl⟩
  rw [Access.use, Act.within, Act.attempt_ofStep]
  rcases h : (Store.transaction body).attempt s.store with ⟨f | x, store⟩
  · have h' : (Store.transaction body).attempt (queue.store s) = (.error f, store) := h
    rw [h']
    exact ⟨rfl, (Store.table_of_error hb h).1⟩
  · have h' : (Store.transaction body).attempt (queue.store s) = (.ok x, store) := h
    rw [h']
    exact ⟨_, ⟨_, _, h, rfl, rfl⟩, rfl, rfl⟩

/-- What is done after an action of the queue changes nothing more. -/
theorem Does.bind_pure {a : Act (SharedStore τ) α} {k : α → Act (SharedStore τ) β} {f : α → β}
    {Q : α → Table → Table → Prop} {R : β → Table → Table → Prop} (ha : Does a Q)
    (hk : ∀ x s, (k x).attempt s = (.ok (f x), s)) (hR : ∀ x t t', Q x t t' → R (f x) t t') :
    Does (a >>= k) R := by
  intro l t
  refine (ha l t).bind fun x s => ?_
  rintro ⟨t', hQ, hs⟩
  rw [hk]
  exact ⟨t', hR x t t' hQ, hs⟩

theorem does_push (action : Action) (id : Value) (kind : String) :
    Does (τ := τ) (queue.push (.text action.name) id (.text kind)) fun _ t t' =>
      ∃ time, t' = t.push ⟨id.plain, kind, action⟩ time := by
  rw [Access.push, Action.read_name]
  refine (does_use (Store.drafting_push action id (.text kind))).bind_pure (fun _ _ => rfl) ?_
  rintro _ _ _ ⟨store, store', h, rfl, rfl⟩
  obtain ⟨time, -, rfl⟩ := Store.push_eq_ok h
  exact ⟨time, rfl⟩

theorem does_claim :
    Does (τ := τ) queue.claim fun b t t' => b = batch t.claim ∧ t' = t.claim := by
  refine (does_use Store.drafting_claim).bind_pure (f := batch) (fun _ _ => rfl) ?_
  rintro running _ _ ⟨store, store', h, rfl, rfl⟩
  obtain ⟨rfl, rfl⟩ := Store.claim_eq_ok h
  exact ⟨rfl, rfl⟩

theorem does_flush : Does (τ := τ) queue.flush fun _ t t' => t' = t.flush := by
  refine (does_use (Store.drafting_change _ _)).bind_pure (f := id) (fun _ _ => rfl) ?_
  rintro n _ _ ⟨store, store', h, rfl, rfl⟩
  obtain ⟨-, rfl⟩ := Store.flush_eq_ok h
  rfl

theorem does_requeue : Does (τ := τ) queue.requeue fun _ t t' => t' = t.requeue := by
  refine (does_use (Store.drafting_change _ _)).bind_pure (f := id) (fun _ _ => rfl) ?_
  rintro n _ _ ⟨store, store', h, rfl, rfl⟩
  obtain ⟨-, rfl⟩ := Store.requeue_eq_ok h
  rfl

/-! ## What calls keep -/

/-- The store is as an invariant of what was done and of the table says. -/
def Meets (I : List (Call × Table) → Table → Prop) (s : SharedStore τ) : Prop :=
  I s.moments s.store.table

/-- An invariant that others keep. -/
structure Lasting (I : List (Call × Table) → Table → Prop) : Prop where
  push : ∀ l t i time, I l t → I (l ++ [(.pushed i, t.push i time)]) (t.push i time)
  requeue : ∀ l t, I l t → I (l ++ [(.requeued, t.requeue)]) t.requeue

variable {I : List (Call × Table) → Table → Prop} {J : α → List (Call × Table) → Table → Prop}
  {Q : α → Table → Table → Prop} {event : α → Call}

theorem ensures_recorded {a : Act (SharedStore τ) α} (ha : Does a Q)
    (hJ : ∀ l t x t', I l t → Q x t t' → J x (l ++ [(event x, t')]) t') :
    Ensures (Meets I) (recorded a event) (fun x => Meets (J x)) (Meets I) := by
  intro s hs
  have h := ha s.moments s.store.table s ⟨rfl, rfl⟩
  rw [recorded, Act.attempt_bind]
  rcases hx : a.attempt s with ⟨_ | x, s'⟩ <;> rw [hx] at h
  · obtain ⟨hm, ht⟩ := h
    dsimp only [Meets]
    rwa [hm, ht]
  · obtain ⟨t', hQ, hm, rfl⟩ := h
    dsimp only [Meets, Act.attempt_ofStep]
    rw [hm]
    exact hJ _ _ x _ hs hQ

theorem Lasting.happen (hI : Lasting I) {s : SharedStore τ} (hs : Meets I s) (h : Happening) :
    Meets I (s.happen h) := by
  cases h with
  | push action id kind =>
    refine (ensures_recorded (does_push action id kind) fun l t _ t' hl ht => ?_).snd hs
    obtain ⟨time, rfl⟩ := ht
    exact hI.push l t _ time hl
  | requeue =>
    refine (ensures_recorded does_requeue fun l t _ t' hl ht => ?_).snd hs
    subst ht
    exact hI.requeue l t hl
  | tick clock => exact hs
  | obstruct obstacles => exact hs

theorem Lasting.foldl_happen (hI : Lasting I) (hs : List Happening) {s : SharedStore τ}
    (h : Meets I s) : Meets I (hs.foldl SharedStore.happen s) := by
  induction hs generalizing s with
  | nil => exact h
  | cons x hs ih => exact ih (hI.happen h x)

/-- **A call keeps what others keep until it succeeds.** -/
theorem ensures_call (hI : Lasting I) {a : Act (SharedStore τ) α} (ha : Does a Q)
    (hJ : ∀ l t x t', I l t → Q x t t' → J x (l ++ [(event x, t')]) t') :
    Ensures (Meets I) (call a event) (fun x => Meets (J x)) (Meets I) := by
  refine Ensures.bind (R := fun _ => Meets I) (fun s hs => ?_) fun _ => ensures_recorded ha hJ
  exact hI.foldl_happen _ hs

theorem Does.ensures {a : Act (SharedStore τ) α} (ha : Does a fun _ t t' => t' = t) :
    Ensures (Meets I) a (fun _ => Meets I) (Meets I) := by
  intro s hs
  have h := ha s.moments s.store.table s ⟨rfl, rfl⟩
  rcases hx : a.attempt s with ⟨_ | x, s'⟩ <;> rw [hx] at h
  · obtain ⟨hm, ht⟩ := h
    dsimp only [Meets]
    rwa [hm, ht]
  · obtain ⟨t', rfl, hm, ht⟩ := h
    dsimp only [Meets]
    rwa [hm, ht]

end SharedStore

/-! ## Between runs -/

section Guarded

variable {i : Intent} {calls : List Call} {c : Call} {l : List (Call × Table)} {t t' : Table}

theorem nothingLost_snoc :
    NothingLost (l ++ [(c, t)]) ↔ NothingLost l ∧ Safe (l.map Prod.fst ++ [c]) t := by
  constructor
  · intro h
    refine ⟨fun past c' t' hp => h past c' t' (hp.trans (List.prefix_append _ _)), ?_⟩
    exact h l c t (List.prefix_refl _)
  · rintro ⟨hl, hs⟩ past c' t' hp
    rcases List.prefix_concat_iff.1 hp with he | hp
    · obtain ⟨rfl, hc⟩ := List.append_inj' he rfl
      cases hc
      exact hs
    · exact hl past c' t' hp

/-- A delivery counts until the intent is pushed again. -/
theorem DeliveredSincePush.snoc (hd : DeliveredSincePush i calls) (hc : c ≠ .pushed i) :
    DeliveredSincePush i (calls ++ [c]) := by
  obtain ⟨before, b, during, after, rfl, hb, hi, hd⟩ := hd
  refine ⟨before, b, during, after ++ [c], by simp, hb, ?_, hd⟩
  rw [← List.append_assoc, List.mem_append, List.mem_singleton]
  rintro (h | h)
  · exact hi h
  · exact hc h.symm

theorem Safe.push (hs : Safe calls t) (j : Intent) (time : Int) :
    Safe (calls ++ [.pushed j]) (t.push j time) := by
  intro i hi
  by_cases hij : i = j
  · subst hij
    exact .inl (Table.mem_intents_push.2 (.inr rfl))
  · have hc : Call.pushed j ≠ .pushed i := fun h => hij (Call.pushed.inj h).symm
    have hi : .pushed i ∈ calls := by
      simpa [Ne.symm hc] using hi
    rcases hs i hi with ht | hd
    · exact .inl (Table.mem_intents_push.2 (.inl ht))
    · exact .inr (hd.snoc hc)

/-- What pushes nothing and removes only what was delivered is safe. -/
theorem Safe.snoc (hs : Safe calls t) (hc : ∀ i, c ≠ .pushed i)
    (ht : ∀ i ∈ t.intents, i ∈ t'.intents ∨ DeliveredSincePush i (calls ++ [c])) :
    Safe (calls ++ [c]) t' := by
  intro i hi
  have hi : .pushed i ∈ calls := by
    simpa [(hc i).symm] using hi
  rcases hs i hi with hm | hd
  · exact ht i hm
  · exact .inr (hd.snoc (hc i))

/-- **What holds between runs**: nothing was lost, and the table is the one after the last call. -/
structure Guarded (l : List (Call × Table)) (t : Table) : Prop where
  /-- An intent has one entry at most. -/
  nodup : t.intents.Nodup
  table_eq : t = (l.getLast?.map Prod.snd).getD []
  safe : Safe (l.map Prod.fst) t
  history : NothingLost l

theorem guarded_nil : Guarded [] [] where
  nodup := List.nodup_nil
  table_eq := rfl
  safe _ h := (List.not_mem_nil h).elim
  history past c t h := by simp at h

theorem Guarded.next (hg : Guarded l t) (ht : t'.intents.Nodup)
    (hs : Safe (l.map Prod.fst ++ [c]) t') : Guarded (l ++ [(c, t')]) t' where
  nodup := ht
  table_eq := by simp
  safe := by simpa using hs
  history := nothingLost_snoc.2 ⟨hg.history, hs⟩

theorem Guarded.keep (hg : Guarded l t) (hc : ∀ i, c ≠ .pushed i) (ht : t'.intents = t.intents) :
    Guarded (l ++ [(c, t')]) t' :=
  hg.next (ht ▸ hg.nodup) (hg.safe.snoc hc fun _ hi => .inl (ht ▸ hi))

theorem lasting_guarded : SharedStore.Lasting Guarded where
  push _ _ i time hg := hg.next (Table.nodup_intents_push hg.nodup) (hg.safe.push i time)
  requeue _ t hg := hg.keep (fun _ => nofun) (t.intents_mark _ _)

end Guarded

/-! ## During a run -/

theorem Sent.mono {kind : String} {repository : Repository} {ids : List String}
    {calls calls' : List Call} (h : Sent kind repository ids calls) (hs : calls.Sublist calls') :
    Sent kind repository ids calls' := by
  obtain ⟨records, h⟩ := h
  exact ⟨records, h.trans hs⟩

theorem Delivered.mono {i : Intent} {calls calls' : List Call} (h : Delivered i calls)
    (hs : calls.Sublist calls') : Delivered i calls' := by
  obtain ⟨id, kind, _ | _⟩ := i
  · obtain ⟨repository, ids, hi, h⟩ := h
    exact ⟨repository, ids, hi, h.mono hs⟩
  · obtain ⟨ids, hi, h⟩ := h
    exact ⟨ids, hi, hs.subset h⟩

/-- **What holds during a run**: since it claimed its batch the consumer made the calls `seen`, and
what is running was claimed and not pushed since. -/
structure Underway (b : Batch) (seen : List Call) (l : List (Call × Table)) (t : Table) :
    Prop where
  guarded : Guarded l t
  since : ∃ before later, l.map Prod.fst = before ++ .claimed b :: later ∧
    (∀ b', .claimed b' ∉ later) ∧ seen.Sublist later ∧
    ∀ e ∈ t, e.status = .running →
      .pushed e.intent ∉ later ∧ ∃ x ∈ b.of e.intent.action, x.intent = e.intent

section Underway

variable {b : Batch} {seen : List Call} {c : Call} {l : List (Call × Table)} {t t' : Table}

theorem Underway.next (hu : Underway b seen l t) (own : List Call)
    (hg : Guarded (l ++ [(c, t')]) t') (ho : own.Sublist [c]) (hc : ∀ b', c ≠ .claimed b')
    (ht : ∀ e ∈ t', e.status = .running → e ∈ t ∧ c ≠ .pushed e.intent) :
    Underway b (seen ++ own) (l ++ [(c, t')]) t' := by
  obtain ⟨-, before, later, hl, hb, hs, hr⟩ := hu
  refine ⟨hg, before, later ++ [c], by simp [hl], fun b' h => ?_, hs.append ho, fun e he hrun => ?_⟩
  · rcases List.mem_append.1 h with h | h
    · exact hb b' h
    · exact hc b' (List.mem_singleton.1 h).symm
  · obtain ⟨het, hce⟩ := ht e he hrun
    obtain ⟨hp, hx⟩ := hr e het hrun
    refine ⟨fun h => ?_, hx⟩
    rcases List.mem_append.1 h with h | h
    · exact hp h
    · exact hce (List.mem_singleton.1 h).symm

theorem lasting_underway : SharedStore.Lasting (Underway b seen) where
  push l t i time hu := by
    have hg := lasting_guarded.push l t i time hu.guarded
    have h := hu.next [] hg (List.nil_sublist _) (fun _ => nofun) fun e he hr => ?_
    · rwa [List.append_nil] at h
    · rcases (Table.mem_push hu.guarded.nodup).1 he with rfl | ⟨he, hi⟩
      · cases hr
      · exact ⟨he, fun h => hi (Call.pushed.inj h).symm⟩
  requeue l t hu := by
    have hg := lasting_guarded.requeue l t hu.guarded
    have h := hu.next [] hg (List.nil_sublist _) (fun _ => nofun) fun e he hr => ?_
    · rwa [List.append_nil] at h
    · rw [Table.requeue_eq_map] at he
      obtain ⟨x, -, rfl⟩ := List.mem_map.1 he
      cases hr

/-- After a claim the consumer has called nothing yet, and everything runs. -/
theorem Guarded.claim (hg : Guarded l t) :
    Underway (batch t.claim) [] (l ++ [(.claimed (batch t.claim), t.claim)]) t.claim := by
  refine ⟨hg.keep (fun _ => nofun) (t.intents_mark _ _), l.map Prod.fst, [], by simp, by simp,
    List.Sublist.refl _, fun e he _ => ⟨List.not_mem_nil, e, ?_, rfl⟩⟩
  rw [batch_of, List.mem_filter]
  exact ⟨he, by simp⟩

/-- A flush removes what was delivered. -/
theorem Underway.flush (hu : Underway b seen l t)
    (hd : ∀ a, ∀ x ∈ b.of a, Delivered ⟨x.intent.id, x.intent.kind, a⟩ seen) :
    Guarded (l ++ [(.flushed, t.flush)]) t.flush := by
  obtain ⟨hg, before, later, hl, hb, hs, hr⟩ := hu
  refine hg.next (hg.nodup.sublist (List.filter_sublist.map _)) ?_
  refine hg.safe.snoc (fun _ => nofun) fun i hi => ?_
  obtain ⟨e, he, rfl⟩ := List.mem_map.1 hi
  rcases hw : e.status with _ | _
  · exact .inl (List.mem_map.2 ⟨e, Table.mem_flush.2 ⟨he, hw⟩, rfl⟩)
  · obtain ⟨hp, x, hx, hxe⟩ := hr e he hw
    refine .inr ⟨before, b, later, [.flushed], by simp [hl], hb, ?_, ?_⟩
    · simpa using hp
    · have h := hd _ x hx
      rw [hxe] at h
      exact h.mono hs

end Underway

/-! ## The steps of a run -/

section Run

open SharedStore

variable {τ α : Type} {b : Batch} {seen : List Call} (c : Courier τ)

/-- The run went on from the calls `seen` to calls with `Φ`. -/
def Progress (b : Batch) (seen : List Call) (Φ : List Call → Prop) (s : SharedStore τ) : Prop :=
  ∃ seen', seen.Sublist seen' ∧ Φ seen' ∧ Meets (Underway b seen') s

theorem Progress.mono {seen' : List Call} {Φ Ψ : List Call → Prop} {s : SharedStore τ}
    (h : Progress b seen' Φ s) (hs : seen.Sublist seen')
    (hΨ : ∀ calls, seen'.Sublist calls → Φ calls → Ψ calls) : Progress b seen Ψ s := by
  obtain ⟨calls, hc, hΦ, hu⟩ := h
  exact ⟨calls, hs.trans hc, hΨ calls hc hΦ, hu⟩

theorem ensures_of_progress {Φ : List Call → Prop} {a : Act (SharedStore τ) α}
    {Q : α → SharedStore τ → Prop} {E : SharedStore τ → Prop}
    (h : ∀ seen', seen.Sublist seen' → Φ seen' → Ensures (Meets (Underway b seen')) a Q E) :
    Ensures (Progress b seen Φ) a Q E := by
  rintro s ⟨seen', hs, hΦ, hu⟩
  exact h seen' hs hΦ s hu

theorem ensures_own {a : Act τ α} {event : α → Call} (hp : ∀ x i, event x ≠ .pushed i)
    (hc : ∀ x b', event x ≠ .claimed b') :
    Ensures (Meets (Underway b seen)) (call (inOwn a) event)
      (fun x => Meets (Underway b (seen ++ [event x]))) (Meets Guarded) := by
  refine (ensures_call lasting_underway (does_inOwn a) fun l t x t' hu ht => ?_).mono
    (fun _ h => h) (fun _ _ h => h) fun _ h => h.guarded
  subst ht
  exact hu.next _ (hu.guarded.keep (hp x) rfl) (List.Sublist.refl _) (hc x) fun e he _ =>
    ⟨he, hp x _⟩

theorem ensures_note (n : Log.Note) :
    Ensures (Meets (Underway b seen)) (c.onShared.note n) (fun _ => Meets (Underway b seen))
      (Meets Guarded) :=
  (does_inOwn (c.note n)).ensures.mono (fun _ h => h) (fun _ _ h => h) fun _ h => h.guarded

theorem ensures_updateChunks {kind : String} {repository : Repository}
    (chunks : List (List String)) (hf : .found kind repository ∈ seen) :
    Ensures (Meets (Underway b seen)) (c.onShared.updateChunks kind repository chunks)
      (fun _ => Progress b seen fun calls => ∀ ids ∈ chunks, Sent kind repository ids calls)
      (Meets Guarded) := by
  induction chunks generalizing seen with
  | nil => exact Ensures.pure fun _ hs => ⟨seen, List.Sublist.refl _, by simp, hs⟩
  | cons ids chunks ih =>
    rw [Courier.updateChunks]
    refine Ensures.bind (ensures_own (fun _ _ => nofun) fun _ _ => nofun) fun records => ?_
    have hfetched : [.found kind repository, .fetched repository ids records].Sublist
        (seen ++ [.fetched repository ids records]) :=
      (List.singleton_sublist.2 hf).append (List.Sublist.refl _)
    by_cases hr : records.isEmpty
    · rw [if_pos hr]
      refine (ensures_note c _).bind fun _ => ?_
      refine (ih (List.mem_append_left _ hf)).mono (fun _ h => h) (fun _ _ h => ?_) fun _ h => h
      refine h.mono (List.sublist_append_left _ _) fun calls hs hsent => ?_
      refine List.forall_mem_cons.2 ⟨⟨records, ?_⟩, hsent⟩
      simpa [hr] using hfetched.trans hs
    · rw [if_neg hr]
      refine Ensures.bind (ensures_own (fun _ _ => nofun) fun _ _ => nofun) fun _ => ?_
      refine (ih (List.mem_append_left _ (List.mem_append_left _ hf))).bind fun _ => ?_
      refine Ensures.pure fun _ h => ?_
      refine h.mono ((List.sublist_append_left _ _).trans (List.sublist_append_left _ _))
        fun calls hs hsent => ?_
      refine List.forall_mem_cons.2 ⟨⟨records, ?_⟩, hsent⟩
      simpa [hr] using (hfetched.append (List.Sublist.refl [_])).trans hs

theorem ensures_deleteChunks {kind : String} (chunks : List (List String)) :
    Ensures (Meets (Underway b seen)) (c.onShared.deleteChunks kind chunks)
      (fun _ => Progress b seen fun calls => ∀ ids ∈ chunks, .deleted kind ids ∈ calls)
      (Meets Guarded) := by
  induction chunks generalizing seen with
  | nil => exact Ensures.pure fun _ hs => ⟨seen, List.Sublist.refl _, by simp, hs⟩
  | cons ids chunks ih =>
    rw [Courier.deleteChunks]
    refine Ensures.bind (ensures_own (fun _ _ => nofun) fun _ _ => nofun) fun _ => ?_
    refine ih.mono (fun _ h => h) (fun _ _ h => ?_) fun _ h => h
    refine h.mono (List.sublist_append_left _ _) fun calls hs hdel => ?_
    exact List.forall_mem_cons.2 ⟨hs.subset (by simp), hdel⟩

theorem ensures_chunked {ids : List String} {size : Value} :
    Ensures (Meets (Underway b seen))
      (Act.ofExcept (Entity.chunked ids size) : Act (SharedStore τ) _)
      (fun chunks s => chunks.flatten = ids ∧ Meets (Underway b seen) s) (Meets Guarded) := by
  apply Ensures.ofExcept
  · intro chunks s hc hs
    exact ⟨Entity.flatten_of_chunked hc, hs⟩
  · intro s hs
    exact hs.guarded

/-- **A group is delivered**, or the run fails. -/
theorem ensures_perform (a : Action) (kind : String) (ids : List String) :
    Ensures (Meets (Underway b seen)) (c.onShared.perform a kind ids)
      (fun _ => Progress b seen fun calls => ∀ id ∈ ids, Delivered ⟨id, kind, a⟩ calls)
      (Meets Guarded) := by
  cases a with
  | update =>
    refine Ensures.bind (ensures_own (fun _ _ => nofun) fun _ _ => nofun) fun repository => ?_
    refine Ensures.bind ensures_chunked fun chunks => Ensures.of_and ?_
    rintro rfl
    refine (ensures_updateChunks c chunks (by simp)).mono (fun _ h => h) (fun _ _ h => ?_)
      fun _ h => h
    refine h.mono (List.sublist_append_left _ _) fun calls _ hsent id hid => ?_
    obtain ⟨chunk, hc, hi⟩ := List.mem_flatten.1 hid
    exact ⟨repository, chunk, hi, hsent chunk hc⟩
  | delete =>
    refine Ensures.bind ensures_chunked fun chunks => Ensures.of_and ?_
    rintro rfl
    refine (ensures_deleteChunks c chunks).bind fun _ => Ensures.pure fun _ h => ?_
    refine h.mono (List.Sublist.refl _) fun calls _ hdel id hid => ?_
    obtain ⟨chunk, hc, hi⟩ := List.mem_flatten.1 hid
    exact ⟨chunk, hi, hdel chunk hc⟩

theorem ensures_performAll (a : Action) (groups : List (String × List Entry)) (report : Report) :
    Ensures (Meets (Underway b seen)) (c.onShared.performAll a groups report)
      (fun _ => Progress b seen fun calls =>
        ∀ g ∈ groups, ∀ e ∈ g.2, Delivered ⟨e.intent.id, g.1, a⟩ calls)
      (Meets Guarded) := by
  induction groups generalizing seen report with
  | nil => exact Ensures.pure fun _ hs => ⟨seen, List.Sublist.refl _, by simp, hs⟩
  | cons g groups ih =>
    obtain ⟨kind, entries⟩ := g
    rw [Courier.performAll]
    refine (ensures_note c _).bind fun _ => (ensures_perform c a kind _).bind fun sent => ?_
    refine ensures_of_progress fun seen' hseen hg => ?_
    refine (ih _).mono (fun _ h => h) (fun _ _ h => ?_) fun _ h => h
    refine h.mono hseen fun calls hc hrest => List.forall_mem_cons.2 ⟨fun e he => ?_, hrest⟩
    exact (hg _ (List.mem_map.2 ⟨e, he, rfl⟩)).mono hc

/-- The entries of an action are delivered, or the run fails. -/
theorem ensures_performAll_byKind (a : Action) (report : Report) :
    Ensures (Meets (Underway b seen)) (c.onShared.performAll a (byKind (b.of a)) report)
      (fun _ => Progress b seen fun calls =>
        ∀ x ∈ b.of a, Delivered ⟨x.intent.id, x.intent.kind, a⟩ calls)
      (Meets Guarded) := by
  refine (ensures_performAll c a _ report).mono (fun _ h => h) (fun _ _ h => ?_) fun _ h => h
  refine h.mono (List.Sublist.refl _) fun calls _ hg x hx => ?_
  obtain ⟨⟨kind, entries⟩, hmem, rfl, hxe⟩ := exists_mem_byKind hx
  exact hg _ hmem x hxe

/-- **A run keeps what holds between runs**, however it ends. Its batch is delivered before the
flush, which removes nothing else. -/
theorem ensures_run :
    Ensures (Meets Guarded) c.onShared.run (fun _ => Meets Guarded) (Meets Guarded) := by
  rw [Courier.run]
  refine Ensures.bind (R := fun b => Meets (Underway b [])) ?_ fun b => ?_
  · refine ensures_call lasting_guarded does_claim fun l t b t' hg ht => ?_
    obtain ⟨rfl, rfl⟩ := ht
    exact hg.claim
  refine (ensures_performAll_byKind c .update _).bind fun report => ?_
  refine ensures_of_progress fun updated _ hupdated => ?_
  refine (ensures_performAll_byKind c .delete report).bind fun report => ?_
  refine ensures_of_progress fun seen hseen hdeleted => ?_
  refine Ensures.bind (R := fun _ => Meets Guarded) ?_ fun _ => Ensures.pure fun _ h => h
  refine (ensures_call lasting_underway does_flush fun l t _ t' hu ht => ?_).mono
    (fun _ h => h) (fun _ _ h => h) fun _ h => h.guarded
  subst ht
  refine hu.flush fun a x hx => ?_
  cases a with
  | update => exact (hupdated x hx).mono hseen
  | delete => exact hdeleted x hx

end Run

namespace SharedStore

variable {τ : Type}

theorem guarded_after {s : SharedStore τ} (hs : s.Meets Guarded) (activities : List (Activity τ)) :
    (s.after activities).Meets Guarded := by
  induction activities generalizing s with
  | nil => exact hs
  | cons activity activities ih =>
    cases activity with
    | others happenings => exact ih (lasting_guarded.foldl_happen happenings hs)
    | run courier => exact ih ((ensures_run courier).snd hs)

/-- **No intent is ever lost.** Whatever goes on at a new store, at every moment each intent ever
pushed is in the queue or was delivered after its latest push; and the queue is as it was after the
last call that succeeded. -/
theorem nothing_lost (own : τ) (schedule : List (List Happening))
    (activities : List (Activity τ)) :
    let s := ({ own := own, schedule := schedule } : SharedStore τ).after activities
    NothingLost s.moments ∧ s.store.table = (s.moments.getLast?.map Prod.snd).getD [] := by
  have hg := guarded_after (s := { own := own, schedule := schedule }) guarded_nil activities
  exact ⟨Guarded.history hg, Guarded.table_eq hg⟩

/-- What is pushed again before the flush stays in the queue. -/
example :
    let courier : Courier Unit :=
      { claim := pure [], flush := pure 0, note := fun _ => pure ()
        lookup := fun _ => pure { fetch := fun _ => .ok [], key := .ok, document := .ok }
        fetch := fun _ ids => pure (ids.map .text)
        update := fun _ _ _ => pure (), delete := fun _ _ => pure () }
    let s : SharedStore Unit :=
      { own := (), schedule := [[], [], [], [], [.push .update (.int 1) "Article"]] }
    (s.after [.others [.push .update (.int 1) "Article", .push .delete (.int 2) "Article"],
      .run courier]).store.table = [⟨⟨"1", "Article", .update⟩, .waiting, 0⟩] := by
  decide +kernel

end SharedStore

end SearchIndex.Queue
