import SearchIndex.Proofs.History

/-!
# Several consumers

A queue is made for one consumer at a time: a claim lets every entry run, and a flush removes every
entry that runs, whoever claimed it. With several consumers a flush therefore removes more than what
its consumer claimed: an entry that was pushed after that claim is removed too, if another consumer
claimed it in the meantime. It removes nothing else.

## Main definitions

* `Move κ`: what producers, and consumers of type `κ`, do to a queue
* `Pushed i moves`: an intent was pushed
* `TakenOver k e since`: since a claim of one consumer, another one claimed what was pushed
* `Outstanding k b since t`: what the entries of the table have to do with an earlier claim
* `Owned k past t t'`: what a consumer removes was returned by its latest claim

## Main results

* `Outstanding.step`: each move of a producer or of another consumer keeps the account of a claim
* `Run.outstanding`: the account of a claim after any such moves
* `removed_iff`: what a flush removes with several consumers
* `not_owned_of_two_consumers`: a consumer removes what only another one claimed
-/

namespace SearchIndex.Queue

variable {κ : Type}

/-- **What producers and consumers do to a queue**: intents are pushed, and a consumer claims a
batch or flushes. -/
inductive Move (κ : Type) where
  | push (intent : Intent) (time : Int)
  | claim (consumer : κ) (batch : Batch)
  | flush (consumer : κ) (count : Nat)

/-- A move without the consumer that made it. -/
def Move.event : Move κ → Event
  | .push i time => .pushed i time
  | .claim _ b => .claimed b
  | .flush _ n => .flushed n

/-- The intent was pushed. -/
def Pushed (i : Intent) (moves : List (Move κ)) : Prop := ∃ time, .push i time ∈ moves

/-- **Another consumer claimed the entry after its intent was pushed**, and it was not pushed
again. -/
def TakenOver (k : κ) (e : Entry) : List (Move κ) → Prop :=
  Since
    (fun past m => Pushed e.intent past ∧
      ∃ other b, m = .claim other b ∧ other ≠ k ∧ e ∈ b.of e.intent.action)
    fun _ m => ∀ time, m ≠ .push e.intent time

/-- **What a consumer removes was returned by its latest claim.** -/
def Owned (k : κ) (past : List (Move κ)) (t t' : Table) : Prop :=
  ∃ before b since, past = before ++ .claim k b :: since ∧ (∀ b', .claim k b' ∉ since) ∧
    ∀ e ∈ t, e ∉ t' → e ∈ b.of e.intent.action

section Moves

variable {i : Intent} {e : Entry} {moves : List (Move κ)} {m : Move κ} {k : κ}

theorem pushed_snoc : Pushed i (moves ++ [m]) ↔ Pushed i moves ∨ ∃ time, m = .push i time := by
  simp only [Pushed, List.mem_append, List.mem_singleton, exists_or, eq_comm (a := m)]

theorem not_pushed_nil : ¬ Pushed i ([] : List (Move κ)) := fun ⟨_, h⟩ => List.not_mem_nil h

/-- A move that neither pushes the intent nor claims leaves what is said of its entry. -/
theorem takenOver_snoc_of_not_claim (hp : ∀ time, m ≠ .push e.intent time)
    (hc : ∀ other b, m ≠ .claim other b) :
    TakenOver k e (moves ++ [m]) ↔ TakenOver k e moves := by
  rw [TakenOver, since_snoc]
  constructor
  · rintro (⟨-, other, b, rfl, -⟩ | ⟨h, -⟩)
    · exact absurd rfl (hc other b)
    · exact h
  · exact fun h => .inr ⟨h, hp⟩

end Moves

/-! ## The account of a claim -/

/-- **What the entries have to do with a claim** of a consumer, after some moves of the producers
and of the other consumers: an entry runs since the claim unless its intent was pushed since, and
one that was pushed runs if another consumer has taken it over. -/
structure Outstanding (k : κ) (b : Batch) (since : List (Move κ)) (t : Table) : Prop where
  /-- What was not pushed since the claim was returned by it and runs. -/
  own : ∀ e ∈ t, ¬ Pushed e.intent since → e ∈ b.of e.intent.action ∧ e.status = .running
  /-- What was pushed since the claim runs if another consumer claimed it. -/
  other : ∀ e ∈ t, Pushed e.intent since → (e.status = .running ↔ TakenOver k e since)

namespace Outstanding

variable {k : κ} {b : Batch} {since : List (Move κ)} {t : Table}

theorem start : Outstanding k (batch t.claim) [] t.claim where
  own e he _ := by
    refine ⟨by simp [batch_of, he], ?_⟩
    rw [Table.claim_eq_map, List.mem_map] at he
    obtain ⟨x, -, rfl⟩ := he
    rfl
  other _ _ hp := (not_pushed_nil hp).elim

/-- What was there keeps its place in the account, unless it is what is pushed. -/
theorem push (o : Outstanding k b since t) (ht : t.intents.Nodup) (i : Intent) (time : Int) :
    Outstanding k b (since ++ [.push i time]) (t.push i time) := by
  have kept {e : Entry} (hi : e.intent ≠ i) (n : Int) :
      (.push i time : Move κ) ≠ .push e.intent n := fun h => hi (Move.push.inj h).1.symm
  refine ⟨fun e he hp => ?_, fun e he hp => ?_⟩ <;> rw [pushed_snoc] at hp <;>
    rcases (Table.mem_push ht).1 he with rfl | ⟨he, hi⟩
  · exact absurd (.inr ⟨time, rfl⟩) hp
  · exact o.own e he fun h => hp (.inl h)
  · refine ⟨nofun, fun h => ?_⟩
    rcases since_snoc.1 h with ⟨-, _, _, hm, -⟩ | ⟨-, hne⟩
    · cases hm
    · exact absurd rfl (hne time)
  · rw [takenOver_snoc_of_not_claim (kept hi) fun _ _ => nofun]
    exact o.other e he (hp.resolve_right fun ⟨n, h⟩ => kept hi n h)

/-- What ran before the claim is not changed by it. -/
theorem claim (o : Outstanding k b since t) {other : κ} (hk : other ≠ k) :
    Outstanding k b (since ++ [.claim other (batch t.claim)]) t.claim := by
  have hrun {e : Entry} (he : e ∈ t.claim) : e.status = .running ∧
      ∃ x ∈ t, { x with status := Status.running } = e := by
    rw [Table.claim_eq_map, List.mem_map] at he
    obtain ⟨x, hx, rfl⟩ := he
    exact ⟨rfl, x, hx, rfl⟩
  refine ⟨fun e he hp => ?_, fun e he hp => ?_⟩ <;> rw [pushed_snoc] at hp
  · obtain ⟨-, ⟨i, s, n⟩, hx, rfl⟩ := hrun he
    obtain ⟨hb, hs⟩ := o.own _ hx fun h => hp (.inl h)
    obtain rfl : s = .running := hs
    exact ⟨hb, rfl⟩
  · refine ⟨fun _ => since_snoc.2 (.inl ⟨?_, other, _, rfl, hk, ?_⟩), fun _ => (hrun he).1⟩
    · exact hp.resolve_right nofun
    · simp [batch_of, he]

theorem flush (o : Outstanding k b since t) (other : κ) (n : Nat) :
    Outstanding k b (since ++ [.flush other n]) t.flush where
  own e he hp := o.own e (Table.mem_flush.1 he).1 fun h => hp (pushed_snoc.2 (.inl h))
  other e he hp := by
    rw [takenOver_snoc_of_not_claim (by simp) (by simp)]
    exact o.other e (Table.mem_flush.1 he).1 ((pushed_snoc.1 hp).resolve_right nofun)

/-- **Each move other than a claim of the consumer itself keeps the account of its claim.** -/
theorem step (o : Outstanding k b since t) (ht : t.intents.Nodup) {m : Move κ} {t' : Table}
    (s : Commits t m.event t') (hm : ∀ b', m ≠ .claim k b') :
    Outstanding k b (since ++ [m]) t' := by
  have he := s.effect
  cases m with
  | push i time =>
    obtain rfl : t' = t.push i time := he
    exact o.push ht i time
  | claim other b' =>
    obtain ⟨rfl, rfl⟩ : b' = batch t.claim ∧ t' = t.claim := he
    exact o.claim fun h => hm _ (by rw [h])
  | flush other n =>
    obtain ⟨-, rfl⟩ : _ ∧ t' = t.flush := he
    exact o.flush other n

/-- The entries that run: those of the claim that were not pushed since, and those that were taken
over. -/
theorem running_iff (o : Outstanding k b since t) {e : Entry} (he : e ∈ t) :
    e.status = .running ↔
      (e ∈ b.of e.intent.action ∧ ¬ Pushed e.intent since) ∨ TakenOver k e since := by
  by_cases hp : Pushed e.intent since
  · simp [hp, o.other e he hp]
  · obtain ⟨hb, hs⟩ := o.own e he hp
    simp [hp, hb, hs]

end Outstanding

variable {k : κ} {b : Batch} {before since : List (Move κ)} {t t' : Table} {n : Nat}

/-- The parts of a run that ends with an event. -/
theorem Run.exists_of_snoc {h : History} {e : Event} (r : Run (h ++ [e]) t) :
    ∃ u, Run h u ∧ Commits u e t := by
  generalize hl : h ++ [e] = l at r
  cases r with
  | start => simp at hl
  | next r s =>
    obtain ⟨rfl, he⟩ := List.append_inj' hl rfl
    cases he
    exact ⟨_, r, s⟩

/-- **The account of a consumer's latest claim**, whatever producers and other consumers did
since. -/
theorem Run.outstanding (r : Run ((before ++ .claim k b :: since).map Move.event) t)
    (hk : ∀ b', .claim k b' ∉ since) : Outstanding k b since t := by
  induction since using List.reverseRecOn generalizing t with
  | nil =>
    rw [List.map_append] at r
    obtain ⟨u, -, s⟩ := r.exists_of_snoc
    obtain ⟨rfl, rfl⟩ : b = batch u.claim ∧ t = u.claim := s.effect
    exact .start
  | append_singleton since m ih =>
    rw [← List.cons_append, ← List.append_assoc, List.map_append] at r
    obtain ⟨u, r, s⟩ := r.exists_of_snoc
    have o := ih r fun b' hb => hk b' (List.mem_append_left _ hb)
    exact o.step r.recorded.nodup s fun b' hm => hk b' (by simp [hm])

/-- **What a flush removes with several consumers.** It removes what its consumer's latest claim
returned and what was not pushed since, and besides only what another consumer took over in the
meantime. So a consumer removes nothing but its own if no other one claimed in between. -/
theorem removed_iff (r : Run ((before ++ .claim k b :: since).map Move.event) t)
    (hk : ∀ b', .claim k b' ∉ since) (s : Commits t (.flushed n) t') :
    (∀ e ∈ t, e ∉ t' ↔
      (e ∈ b.of e.intent.action ∧ ¬ Pushed e.intent since) ∨ TakenOver k e since) ∧
    ((∀ other b', .claim other b' ∉ since) → Owned k (before ++ .claim k b :: since) t t') := by
  have o := r.outstanding hk
  have hrem (e : Entry) (he : e ∈ t) : e ∉ t' ↔
      (e ∈ b.of e.intent.action ∧ ¬ Pushed e.intent since) ∨ TakenOver k e since := by
    obtain ⟨-, rfl⟩ : _ ∧ t' = t.flush := s.effect
    rw [← o.running_iff he, Table.mem_flush]
    rcases hs : e.status with _ | _ <;> simp [he]
  refine ⟨hrem, fun halone => ⟨before, b, since, rfl, hk, fun e he hne => ?_⟩⟩
  rcases (hrem e he).1 hne with ⟨hb, -⟩ | ⟨past, m, later, rfl, ⟨-, other, b', rfl, -⟩, -⟩
  · exact hb
  · exact absurd (by simp) (halone other b')

/-! ## Two consumers -/

section TwoConsumers

/-- An intent can be pushed onto every table, at every time that can be kept. -/
theorem commits_push (t : Table) (i : Intent) {time : Int} (h0 : 0 ≤ time) (ht : time < twoTo 63) :
    Commits t (.pushed i time) (t.push i time) := by
  let s : Store := { table := t, clock := .ok (.int time) }
  have hs : (Store.access.push (.text i.action.name) (.text i.id) (.text i.kind)).attempt s =
      (.ok (), s.settled (t.push i time)) := by
    rw [Access.push, Act.attempt_bind, Action.read_name, Act.attempt_ofExcept]
    simp only [Access.use, Act.within, Act.attempt_bind, Act.attempt_ofStep, Store.access,
      Store.attempt_push_of_free (s := s) rfl rfl h0 ht]
    rfl
  exact .push Store.lawful_access (Action.read_name i.action) rfl hs

/-- Every table can be claimed. -/
theorem commits_claim (t : Table) : Commits t (.claimed (batch t.claim)) t.claim := by
  have hnotes : Store.access.NotesFreely := fun _ _ => rfl
  obtain ⟨_, hclaim⟩ := hnotes.attempt_claim (s := { table := t }) rfl
  exact .claim Store.lawful_access hclaim

/-- Every table can be flushed. -/
theorem commits_flush (t : Table) : Commits t (.flushed (t.count .running)) t.flush :=
  .flush Store.lawful_access (s := { table := t }) rfl

/-- What the first of two consumers claims. -/
def firstBatch : Batch := [(.update, [⟨⟨"1", "Article", .update⟩, .running, 5⟩])]

/-- What two consumers and the producers do after the first consumer's claim. -/
def afterFirst : List (Move Bool) :=
  [.push ⟨"2", "Article", .update⟩ 9,
    .claim true [(.update, [⟨⟨"1", "Article", .update⟩, .running, 5⟩,
      ⟨⟨"2", "Article", .update⟩, .running, 9⟩])]]

/-- Of two consumers, one claims before, and the other after, the second record is pushed. -/
def overlap : List (Move Bool) :=
  [.push ⟨"1", "Article", .update⟩ 5] ++ .claim false firstBatch :: afterFirst

/-- The table after that. -/
def overlapped : Table :=
  [⟨⟨"1", "Article", .update⟩, .running, 5⟩, ⟨⟨"2", "Article", .update⟩, .running, 9⟩]

theorem run_overlap : Run (overlap.map Move.event) overlapped :=
  (((Run.start.next (commits_push _ _ (by decide) (by decide))).next (commits_claim _)).next
    (commits_push _ _ (by decide) (by decide))).next (commits_claim _)

theorem flush_overlapped : Commits overlapped (.flushed 2) [] := commits_flush _

/-- The first of two consumers removes what the second one took over. -/
theorem removed_of_two_consumers :
    Run (overlap.map Move.event) overlapped ∧ Commits overlapped (.flushed 2) [] ∧
      TakenOver false ⟨⟨"2", "Article", .update⟩, .running, 9⟩ afterFirst := by
  refine ⟨run_overlap, flush_overlapped, ?_⟩
  have removed := (removed_iff run_overlap (by simp [afterFirst]) flush_overlapped).1
    ⟨⟨"2", "Article", .update⟩, .running, 9⟩ (by simp [overlapped])
  refine (removed.1 (by simp)).resolve_left fun h => absurd h.1 ?_
  simp [Batch.of, Keyed.find?, firstBatch]

/-- **A consumer's flush removes what only another consumer claimed.** -/
theorem not_owned_of_two_consumers :
    Run (overlap.map Move.event) overlapped ∧ Commits overlapped (.flushed 2) [] ∧
      ¬ Owned false overlap overlapped [] := by
  refine ⟨run_overlap, flush_overlapped, ?_⟩
  rintro ⟨before, b, since, heq, -, hown⟩
  have hb : Move.claim false b ∈ overlap := by simp [heq]
  have hmem := hown ⟨⟨"2", "Article", .update⟩, .running, 9⟩ (by simp [overlapped]) (by simp)
  obtain rfl : b = firstBatch := by simpa [overlap, afterFirst] using hb
  simp [Batch.of, Keyed.find?, firstBatch] at hmem

end TwoConsumers

end SearchIndex.Queue
