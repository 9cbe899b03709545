import SearchIndex.Proofs.Groups
import SearchIndex.Proofs.Transaction

/-!
# The history of the queue

The operations that succeed form a history, in the order of their transactions, whatever client
asked for them. The table is a function of the history: it holds the intents pushed since they were
last removed, each with the time of its latest push, and an entry runs exactly when a claim came
after its latest push and the latest requeue.

## Main definitions

* `Since P Q h`: in the history `h` there was a moment with `P`, and every later one had `Q`
* `Event`, `History`: what clients did to the queue
* `Event.Effect t t'`: what an event does to the table, and what it tells
* `Commits t e t'`, `Run h t`: a successful operation of a client, and the histories of a new queue
* `LatestPush`, `Taken`, `Returned`, `Kept`, `EnteredAt`: what a history says about an intent
* `Recorded h t`: the table is what the history says

## Main results

* `Commits.effect`: a successful operation has its effect
* `Run.recorded`: the table after a run is what the history says
* `Run.table_of_history`: with it, what a claim returns and what a flush removes
-/

namespace SearchIndex.Queue

/-! ## Moments of a history -/

section Since

variable {ε : Type} {P Q : List ε → ε → Prop} {h : List ε} {e : ε}

/-- **There was a moment with `P`, and every later one had `Q`**; of a moment, `P` and `Q` see what
came before it and what happened. -/
def Since (P Q : List ε → ε → Prop) (h : List ε) : Prop :=
  ∃ past e later, h = past ++ e :: later ∧ P past e ∧
    ∀ mid e' rest, later = mid ++ e' :: rest → Q (past ++ e :: mid) e'

theorem not_since_nil : ¬ Since P Q [] := by
  rintro ⟨past, e, later, h, -⟩
  simp at h

/-- A moment of a history with one more event is the last one, or it was there before. -/
theorem eq_or_exists_of_snoc_eq {past later : List ε} {x : ε}
    (heq : h ++ [e] = past ++ x :: later) :
    later = [] ∧ past = h ∧ x = e ∨ ∃ before, later = before ++ [e] ∧ h = past ++ x :: before := by
  rcases List.eq_nil_or_concat later with rfl | ⟨before, y, rfl⟩
  · obtain ⟨rfl, hx⟩ := List.append_inj' heq rfl
    cases hx
    exact .inl ⟨rfl, rfl, rfl⟩
  · rw [List.concat_eq_append] at heq ⊢
    have heq' : h ++ [e] = (past ++ x :: before) ++ [y] := by simpa using heq
    obtain ⟨rfl, hy⟩ := List.append_inj' heq' rfl
    cases hy
    exact .inr ⟨before, rfl, rfl⟩

theorem since_snoc : Since P Q (h ++ [e]) ↔ P h e ∨ Since P Q h ∧ Q h e := by
  constructor
  · rintro ⟨past, x, later, heq, hP, hQ⟩
    rcases eq_or_exists_of_snoc_eq heq with ⟨-, rfl, rfl⟩ | ⟨before, rfl, rfl⟩
    · exact .inl hP
    · refine .inr ⟨⟨past, x, before, rfl, hP, fun mid e' rest hm => ?_⟩, hQ before e [] rfl⟩
      exact hQ mid e' (rest ++ [e]) (by rw [hm]; simp)
  · rintro (hP | ⟨⟨past, x, later, rfl, hP, hQ⟩, hlast⟩)
    · exact ⟨h, e, [], rfl, hP, fun mid _ _ hm => by simp at hm⟩
    · refine ⟨past, x, later ++ [e], by simp, hP, fun mid e' rest hm => ?_⟩
      rcases eq_or_exists_of_snoc_eq hm with ⟨-, rfl, rfl⟩ | ⟨before, -, hm'⟩
      · exact hlast
      · exact hQ mid e' before hm'

end Since

/-! ## Events -/

/-- What a client did to the queue, with what it was told; a push has the time that the client's
clock showed. -/
inductive Event where
  | pushed (intent : Intent) (time : Int)
  | claimed (batch : Batch)
  | flushed (count : Nat)
  | requeued (count : Nat)

namespace Event

def IsPush (i : Intent) : Event → Prop
  | .pushed j _ => j = i
  | _ => False

def IsClaim : Event → Prop
  | .claimed _ => True
  | _ => False

def IsFlush : Event → Prop
  | .flushed _ => True
  | _ => False

def IsRequeue : Event → Prop
  | .requeued _ => True
  | _ => False

/-- The entries were claimed, and that of the intent was returned. -/
def Returns (i : Intent) : Event → Prop
  | .claimed b => ∃ e ∈ b.of i.action, e.intent = i
  | _ => False

end Event

/-- What was done to a queue, the earliest first. -/
abbrev History := List Event

/-- The latest push of the intent was at the time. -/
def LatestPush (i : Intent) (time : Int) : History → Prop :=
  Since (fun _ e => e = .pushed i time) fun _ e => ¬ e.IsPush i

/-- A claim came after the latest push of the intent and the latest requeue. -/
def Taken (i : Intent) : History → Prop :=
  Since (fun _ e => e.IsClaim) fun _ e => ¬ e.IsPush i ∧ ¬ e.IsRequeue

/-- A claim that came after the latest push of the intent returned it. -/
def Returned (i : Intent) : History → Prop :=
  Since (fun _ e => e.Returns i) fun _ e => ¬ e.IsPush i

/-- The intent was pushed, and no flush since then removed it. -/
def Kept (i : Intent) : History → Prop :=
  Since (fun _ e => e.IsPush i) fun past e => e.IsFlush → ¬ Taken i past

/-- The intent was pushed as the `n`-th event, counted from zero, when it was not there, and no
flush since then removed it. -/
def EnteredAt (i : Intent) (n : Nat) : History → Prop :=
  Since (fun past e => e.IsPush i ∧ past.length = n ∧ ¬ Kept i past)
    fun past e => e.IsFlush → ¬ Taken i past

section Moments

variable {i : Intent} {h : History} {n : Nat}

theorem EnteredAt.lt_length (he : EnteredAt i n h) : n < h.length := by
  obtain ⟨past, e, later, rfl, ⟨-, rfl, -⟩, -⟩ := he
  simp

theorem Kept.exists_enteredAt (hk : Kept i h) : ∃ n, EnteredAt i n h := by
  induction h using List.reverseRecOn with
  | nil => exact absurd hk not_since_nil
  | append_singleton h e ih =>
    by_cases hh : Kept i h ∧ (e.IsFlush → ¬ Taken i h)
    · obtain ⟨n, hn⟩ := ih hh.1
      exact ⟨n, since_snoc.2 (.inr ⟨hn, hh.2⟩)⟩
    · have hp : e.IsPush i := (since_snoc.1 hk).resolve_right hh
      have hk' : ¬ Kept i h := by
        intro h'
        refine hh ⟨h', fun hf => ?_⟩
        cases e <;> first | exact hf.elim | exact hp.elim
      exact ⟨h.length, since_snoc.2 (.inl ⟨hp, rfl, hk'⟩)⟩

end Moments

/-! ## Runs of the queue -/

/-- **A successful operation of a client**, which may live in any world and sees the table that all
clients share. -/
inductive Commits : Table → Event → Table → Prop where
  | push {σ : Type} {q : Access σ} (hq : q.Lawful) {s s' : σ} {action id : Value} {kind : String}
      {a : Action} {time : Int} (ha : Action.read action = .ok a)
      (hc : (q.store s).clock.bind Value.integerOf = .ok time)
      (h : (q.push action id (.text kind)).attempt s = (.ok (), s')) :
      Commits (q.store s).table (.pushed ⟨id.plain, kind, a⟩ time) (q.store s').table
  | claim {σ : Type} {q : Access σ} (hq : q.Lawful) {s s' : σ} {b : Batch}
      (h : q.claim.attempt s = (.ok b, s')) :
      Commits (q.store s).table (.claimed b) (q.store s').table
  | flush {σ : Type} {q : Access σ} (hq : q.Lawful) {s s' : σ} {n : Nat}
      (h : q.flush.attempt s = (.ok n, s')) :
      Commits (q.store s).table (.flushed n) (q.store s').table
  | requeue {σ : Type} {q : Access σ} (hq : q.Lawful) {s s' : σ} {n : Nat}
      (h : q.requeue.attempt s = (.ok n, s')) :
      Commits (q.store s).table (.requeued n) (q.store s').table

/-- **The histories of a new queue** and the tables they end in. -/
inductive Run : History → Table → Prop where
  | start : Run [] []
  | next {h : History} {t t' : Table} {e : Event} (r : Run h t) (s : Commits t e t') :
      Run (h ++ [e]) t'

/-- What an event does to the table, and what it tells. -/
def Event.Effect (t t' : Table) : Event → Prop
  | .pushed i time => t' = t.push i time
  | .claimed b => b = batch t.claim ∧ t' = t.claim
  | .flushed n => n = t.count .running ∧ t' = t.flush
  | .requeued n => n = t.count .running ∧ t' = t.requeue

theorem Commits.effect {t t' : Table} {e : Event} (s : Commits t e t') : e.Effect t t' := by
  cases s with
  | push hq ha hc h =>
    obtain ⟨time, hc', ht⟩ := Access.push_eq_ok hq ha h
    obtain rfl : _ = time := Except.ok.inj (hc.symm.trans hc')
    exact ht
  | claim hq h => exact Access.claim_eq_ok hq h
  | flush hq h => exact Access.flush_eq_ok hq h
  | requeue hq h => exact Access.requeue_eq_ok hq h

/-! ## The table after a history -/

/-- **The table is what the history says.** -/
structure Recorded (h : History) (t : Table) : Prop where
  /-- An intent has one entry at most. -/
  nodup : t.intents.Nodup
  /-- The intents are those that were pushed since they were last removed. -/
  mem_iff : ∀ i, i ∈ t.intents ↔ Kept i h
  /-- The time of an entry is that of the latest push. -/
  latest : ∀ e ∈ t, LatestPush e.intent e.time h
  /-- An entry runs if a claim came after the latest push and the latest requeue. -/
  running_iff : ∀ e ∈ t, e.status = .running ↔ Taken e.intent h
  /-- An entry that runs was returned since its latest push. -/
  returned : ∀ e ∈ t, e.status = .running → Returned e.intent h
  /-- The entries stand in the order in which their intents came in since they were last removed. -/
  order : t.intents.Pairwise fun i j => ∃ m n, EnteredAt i m h ∧ EnteredAt j n h ∧ m < n

theorem mem_intents {t : Table} {i : Intent} : i ∈ t.intents ↔ ∃ e ∈ t, e.intent = i :=
  List.mem_map

namespace Recorded

variable {h : History} {t : Table}

theorem start : Recorded [] [] where
  nodup := List.nodup_nil
  mem_iff _ := ⟨fun hi => (List.not_mem_nil hi).elim, fun hk => (not_since_nil hk).elim⟩
  latest _ he := (List.not_mem_nil he).elim
  running_iff _ he := (List.not_mem_nil he).elim
  returned _ he := (List.not_mem_nil he).elim
  order := .nil

/-- An event that removes no intent of a list leaves their order. -/
theorem order_snoc {is : List Intent} {e : Event} (hs : is.Sublist t.intents) (r : Recorded h t)
    (he : ∀ i ∈ is, e.IsFlush → ¬ Taken i h) :
    is.Pairwise fun i j => ∃ m n, EnteredAt i m (h ++ [e]) ∧ EnteredAt j n (h ++ [e]) ∧ m < n := by
  refine (r.order.sublist hs).imp_of_mem fun hi hj => ?_
  rintro ⟨m, n, hm, hn, hlt⟩
  exact ⟨m, n, since_snoc.2 (.inr ⟨hm, he _ hi⟩), since_snoc.2 (.inr ⟨hn, he _ hj⟩), hlt⟩

theorem order_push (r : Recorded h t) (i : Intent) (time : Int) :
    (t.push i time).intents.Pairwise fun j k =>
      ∃ m n, EnteredAt j m (h ++ [.pushed i time]) ∧ EnteredAt k n (h ++ [.pushed i time]) ∧
        m < n := by
  by_cases hi : i ∈ t.intents
  · rw [Table.intents_push_of_mem time hi]
    exact r.order_snoc (List.Sublist.refl _) fun _ _ => False.elim
  · rw [Table.push_of_not_mem time hi, Table.intents, List.map_append, List.pairwise_append]
    refine ⟨r.order_snoc (List.Sublist.refl _) fun _ _ => False.elim, by simp, ?_⟩
    intro j hj k hk
    obtain rfl : k = i := List.mem_singleton.1 hk
    obtain ⟨m, hm⟩ := ((r.mem_iff j).1 hj).exists_enteredAt
    refine ⟨m, h.length, since_snoc.2 (.inr ⟨hm, False.elim⟩), ?_, hm.lt_length⟩
    exact since_snoc.2 (.inl ⟨rfl, rfl, fun hk => hi ((r.mem_iff k).2 hk)⟩)

theorem push (r : Recorded h t) (i : Intent) (time : Int) :
    Recorded (h ++ [.pushed i time]) (t.push i time) where
  nodup := Table.nodup_intents_push r.nodup
  mem_iff j := by
    rw [Table.mem_intents_push, Kept, since_snoc, ← Kept, ← r.mem_iff]
    simp only [Event.IsPush, Event.IsFlush, false_implies, and_true]
    rw [or_comm, eq_comm]
  latest e he := by
    rcases (Table.mem_push r.nodup).1 he with rfl | ⟨he, hi⟩
    · exact since_snoc.2 (.inl rfl)
    · exact since_snoc.2 (.inr ⟨r.latest e he, Ne.symm hi⟩)
  running_iff e he := by
    rw [Taken, since_snoc, ← Taken]
    simp only [Event.IsClaim, false_or, Event.IsPush, Event.IsRequeue, not_false_eq_true, and_true]
    rcases (Table.mem_push r.nodup).1 he with rfl | ⟨he, hi⟩
    · simp
    · simp [r.running_iff e he, Ne.symm hi]
  returned e he hr := by
    rcases (Table.mem_push r.nodup).1 he with rfl | ⟨he, hi⟩
    · cases hr
    · exact since_snoc.2 (.inr ⟨r.returned e he hr, Ne.symm hi⟩)
  order := r.order_push i time

/-- A claim and a requeue change the status of all entries alone. -/
theorem restatus (r : Recorded h t) {e : Event} {s : Status}
    (hp : ∀ i, ¬ e.IsPush i) (hf : ¬ e.IsFlush)
    (hs : ∀ x ∈ t, s = .running ↔ Taken x.intent (h ++ [e]))
    (hr : ∀ x ∈ t, s = .running → Returned x.intent (h ++ [e])) :
    Recorded (h ++ [e]) (t.map fun x => { x with status := s }) := by
  have hi : Table.intents (t.map fun x => { x with status := s }) = t.intents := by
    simp only [Table.intents, List.map_map]
    rfl
  refine ⟨hi ▸ r.nodup, fun i => ?_, ?_, ?_, ?_, ?_⟩
  · rw [hi, r.mem_iff, Kept, since_snoc]
    simp [hp, hf]
  · simp only [List.forall_mem_map]
    exact fun x hx => since_snoc.2 (.inr ⟨r.latest x hx, hp _⟩)
  · simpa only [List.forall_mem_map] using hs
  · simpa only [List.forall_mem_map] using hr
  · rw [hi]
    exact r.order_snoc (List.Sublist.refl _) fun _ _ hf' => absurd hf' hf

theorem claim (r : Recorded h t) : Recorded (h ++ [.claimed (batch t.claim)]) t.claim := by
  have htaken (i : Intent) : Taken i (h ++ [.claimed (batch t.claim)]) :=
    since_snoc.2 (.inl trivial)
  rw [Table.claim_eq_map] at htaken ⊢
  refine r.restatus (fun _ => id) id (fun x _ => by simp [htaken]) fun x hx _ => ?_
  refine since_snoc.2 (.inl ⟨{ x with status := .running }, ?_, rfl⟩)
  rw [batch_of, List.mem_filter]
  exact ⟨List.mem_map.2 ⟨x, hx, rfl⟩, by simp⟩

theorem requeue (r : Recorded h t) (n : Nat) : Recorded (h ++ [.requeued n]) t.requeue := by
  rw [Table.requeue_eq_map]
  refine r.restatus (fun _ => id) id (fun x _ => ?_) fun _ _ => nofun
  rw [Taken, since_snoc]
  simp [Event.IsClaim, Event.IsRequeue]

theorem flush (r : Recorded h t) (n : Nat) : Recorded (h ++ [.flushed n]) t.flush := by
  have htaken (i : Intent) : Taken i (h ++ [.flushed n]) ↔ Taken i h := by
    rw [Taken, since_snoc]
    simp [Event.IsClaim, Event.IsPush, Event.IsRequeue]
  have hsub : t.flush.intents.Sublist t.intents := List.filter_sublist.map _
  refine ⟨r.nodup.sublist hsub, fun i => ?_, fun e he => ?_, fun e he => ?_, fun e he hr => ?_, ?_⟩
  · rw [Kept, since_snoc, ← Kept, ← r.mem_iff]
    simp only [mem_intents, Table.mem_flush, Event.IsPush, false_or, Event.IsFlush, true_implies]
    constructor
    · rintro ⟨e, ⟨he, hw⟩, rfl⟩
      refine ⟨⟨e, he, rfl⟩, fun ht => ?_⟩
      rw [(r.running_iff e he).2 ht] at hw
      cases hw
    · rintro ⟨⟨e, he, rfl⟩, ht⟩
      refine ⟨e, ⟨he, ?_⟩, rfl⟩
      rcases hs : e.status with _ | _
      · rfl
      · exact absurd ((r.running_iff e he).1 hs) ht
  · exact since_snoc.2 (.inr ⟨r.latest e (Table.mem_flush.1 he).1, id⟩)
  · rw [htaken]
    exact r.running_iff e (Table.mem_flush.1 he).1
  · exact since_snoc.2 (.inr ⟨r.returned e (Table.mem_flush.1 he).1 hr, id⟩)
  · refine r.order_snoc hsub fun i hi _ ht => ?_
    obtain ⟨e, he, rfl⟩ := mem_intents.1 hi
    obtain ⟨he, hw⟩ := Table.mem_flush.1 he
    rw [(r.running_iff e he).2 ht] at hw
    cases hw

/-- **Each operation keeps the table what the history says.** -/
theorem step (r : Recorded h t) {t' : Table} {e : Event} (s : Commits t e t') :
    Recorded (h ++ [e]) t' := by
  have he := s.effect
  clear s
  cases e with
  | pushed i time =>
    subst he
    exact r.push i time
  | claimed b =>
    obtain ⟨rfl, rfl⟩ := he
    exact r.claim
  | flushed n =>
    obtain ⟨-, rfl⟩ := he
    exact r.flush n
  | requeued n =>
    obtain ⟨-, rfl⟩ := he
    exact r.requeue n

end Recorded

/-- **The table after a run is what the history says.** -/
theorem Run.recorded {h : History} {t : Table} (r : Run h t) : Recorded h t := by
  induction r with
  | start => exact .start
  | next _ s ih => exact ih.step s

/-- **The table of a run, what its next claim returns, and what its next flush removes.** A claim
lets every entry run and returns each of them once, by its action and in the order of the table; a
flush removes the entries that run, each of which was returned after its latest push. -/
theorem Run.table_of_history {h : History} {t : Table} (r : Run h t) :
    Recorded h t ∧
      (∀ b t', Commits t (.claimed b) t' →
        t' = t.map (fun e => { e with status := .running }) ∧
        (∀ a, b.of a = t'.filter (·.intent.action == a)) ∧
        (b.map Prod.fst).Nodup ∧ (∀ g ∈ b, g.2 ≠ []) ∧ (b.flatMap Prod.snd).Perm t') ∧
      (∀ n t', Commits t (.flushed n) t' →
        t' = t.filter (·.status = .waiting) ∧ n = (t.filter (·.status = .running)).length ∧
        ∀ e ∈ t, e ∉ t' ↔ e.status = .running ∧ Returned e.intent h) := by
  have hr := r.recorded
  refine ⟨hr, fun b t' s => ?_, fun n t' s => ?_⟩
  · obtain ⟨rfl, rfl⟩ := s.effect
    refine ⟨t.claim_eq_map, batch_of _, Keyed.nodup_keys_group _ _, ?_, Keyed.flatMap_group_perm⟩
    rintro ⟨a, es⟩ hg
    exact (Keyed.mem_group_iff.1 hg).2
  · obtain ⟨rfl, rfl⟩ := s.effect
    refine ⟨List.filter_congr fun e _ => ?_, rfl, fun e he => ?_⟩
    · rcases e with ⟨i, _ | _, n⟩ <;> rfl
    · rw [Table.mem_flush]
      rcases hs : e.status with _ | _
      · simp [he]
      · simp [hr.returned e he hs]

/-- An intent pushed again while its batch is under way outlives the flush. -/
theorem Run.table_of_push_during_batch :
    let i : Intent := ⟨"1", "Article", .update⟩
    let h : History := [.pushed i 5, .claimed [(.update, [⟨i, .running, 5⟩])], .pushed i 9,
      .flushed 0]
    Run h [⟨i, .waiting, 9⟩] ∧ Recorded h [⟨i, .waiting, 9⟩] := by
  intro i h
  have lawful := Store.lawful_access
  have first : Commits [] (.pushed i 5) [⟨i, .waiting, 5⟩] :=
    .push lawful (s := { clock := .ok (.int 5) }) (show Action.read (.text "update") = _ from rfl)
      rfl (show (Store.access.push _ (.int 1) (.text "Article")).attempt _ = _ from rfl)
  have claim : Commits [⟨i, .waiting, 5⟩] (.claimed [(.update, [⟨i, .running, 5⟩])])
      [⟨i, .running, 5⟩] :=
    .claim lawful (s := { table := [⟨i, .waiting, 5⟩] }) rfl
  have again : Commits [⟨i, .running, 5⟩] (.pushed i 9) [⟨i, .waiting, 9⟩] :=
    .push lawful (s := { table := [⟨i, .running, 5⟩], clock := .ok (.int 9) })
      (show Action.read (.text "update") = _ from rfl) rfl
      (show (Store.access.push _ (.text "1") (.text "Article")).attempt _ = _ from rfl)
  have flush : Commits [⟨i, .waiting, 9⟩] (.flushed 0) [⟨i, .waiting, 9⟩] :=
    .flush lawful (s := { table := [⟨i, .waiting, 9⟩] }) rfl
  have r : Run h [⟨i, .waiting, 9⟩] := (((Run.start.next first).next claim).next again).next flush
  exact ⟨r, (Run.table_of_history r).1⟩

end SearchIndex.Queue
