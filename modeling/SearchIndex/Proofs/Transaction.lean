import SearchIndex.Proofs.Outcome
import SearchIndex.Queue.Access

/-!
# Outcomes of transactions

A transaction that succeeds leaves the table its body made of the table it began with, and one that
fails leaves the table as it was. So each operation of the queue either changes the table in its one
way or not at all. The same holds of a client that uses the queue through its own world.

## Main definitions

* `Store.Drafting a`: an action that touches nothing but the draft
* `Store.settled s t`: a store with the table `t` and no open transaction
* `Access.Lawful q`: the queue of a world is changed by storing it and by nothing else
* `Access.NotesFreely q`: notes are always taken
* `Store.access`: a store on its own, without notes

## Main results

* `Store.table_of_error`: a failed transaction leaves the table
* `Store.push_eq_ok`, `Store.claim_eq_ok`, `Store.flush_eq_ok`, `Store.requeue_eq_ok`: what a
  successful operation does
* `Store.attempt_change_of_free`, `Store.attempt_claim_of_free`, `Store.attempt_push_of_free`: an
  operation succeeds when nothing stands in its way
* `Access.push_eq_ok`, `Access.claim_eq_ok`, `Access.flush_eq_ok`, `Access.requeue_eq_ok`,
  `Access.NotesFreely.attempt_claim`, `Access.NotesFreely.attempt_flush`,
  `Access.NotesFreely.attempt_requeue`: the same for a client
-/

namespace SearchIndex.Queue

namespace Store

variable {α β : Type}

/-- An action that touches nothing but the draft. -/
def Drafting (a : Act Store α) : Prop := ∀ s, ∃ d, (a.attempt s).2 = { s with draft := d }

theorem drafting_now : Drafting now := fun s => ⟨s.draft, rfl⟩

theorem drafting_query (statement : Statement) (look : Table → Except Failure α) :
    Drafting (query statement look) := by
  intro s
  refine ⟨s.draft, ?_⟩
  rw [query, Act.attempt_ofStep]
  split <;> rfl

theorem drafting_change (statement : Statement) (edit : Table → Except Failure (α × Table)) :
    Drafting (change statement edit) := by
  intro s
  rw [change, Act.attempt_ofStep]
  split
  · exact ⟨s.draft, rfl⟩
  · split
    · exact ⟨s.draft, rfl⟩
    · exact ⟨_, rfl⟩

theorem Drafting.bind {a : Act Store α} {k : α → Act Store β} (ha : Drafting a)
    (hk : ∀ x, Drafting (k x)) : Drafting (a >>= k) := by
  intro s
  obtain ⟨d, hd⟩ := ha s
  rw [Act.attempt_bind]
  rcases h : Act.attempt a s with ⟨_ | x, s'⟩ <;> rw [h] at hd
  · exact ⟨d, hd⟩
  · obtain ⟨d', hd'⟩ := hk x s'
    obtain rfl : s' = { s with draft := d } := hd
    exact ⟨d', hd'⟩

/-- The store with a transaction open on its table. -/
def opened (s : Store) : Store := { s with held := true, draft := some s.table }

/-- The store with a table and no transaction open. -/
def settled (s : Store) (t : Table) : Store := { s with table := t, draft := none, held := false }

/-- The stages of a transaction. -/
theorem attempt_transaction (body : Act Store α) (s : Store) :
    (transaction body).attempt s =
      match s.obstacles.opening with
      | some f => (.error f, { s with held := false })
      | none =>
        match body.attempt s.opened with
        | (.error f, s') => (.error f, s'.settled s'.table)
        | (.ok a, s') =>
          match s'.obstacles.commit with
          | some f => (.error f, s'.settled s'.table)
          | none => (.ok a, s'.settled s'.current) := by
  rw [transaction, attempt_exclusively, Act.attempt_bind]
  rcases ho : s.obstacles.opening with _ | f
  · have hb : begin.attempt { s with held := true } = (.ok (), s.opened) := by
      simp [begin, Act.attempt_ofStep, ho, opened]
    simp only [hb, orRollback, Act.attempt_ofStep, Act.attempt_bind]
    rcases body.attempt s.opened with ⟨_ | a, s'⟩
    · rfl
    · rcases hc : s'.obstacles.commit with _ | f <;>
        simp [commit, Act.attempt_ofStep, Act.attempt_pure, hc, settled, rollback]
  · simp [begin, Act.attempt_ofStep, ho]

/-- **A failed transaction leaves the table**, and the clock and the obstacles with it. -/
theorem table_of_error {body : Act Store α} (hb : Drafting body) {s s' : Store} {f : Failure}
    (h : (transaction body).attempt s = (.error f, s')) :
    s'.table = s.table ∧ s'.clock = s.clock ∧ s'.obstacles = s.obstacles := by
  rw [attempt_transaction] at h
  obtain ⟨d, hd⟩ := hb s.opened
  split at h
  · cases h
    exact ⟨rfl, rfl, rfl⟩
  · rcases hx : Act.attempt body s.opened with ⟨_ | a, s₁⟩ <;> rw [hx] at h hd <;>
      obtain rfl : s₁ = { s.opened with draft := d } := hd
    · cases h
      exact ⟨rfl, rfl, rfl⟩
    · dsimp only at h
      split at h <;> cases h
      exact ⟨rfl, rfl, rfl⟩

/-- **A successful transaction settles on the draft of its body.** -/
theorem transaction_eq_ok {body : Act Store α} (hb : Drafting body) {s s' : Store} {a : α}
    (h : (transaction body).attempt s = (.ok a, s')) :
    ∃ s₁, body.attempt s.opened = (.ok a, s₁) ∧ s' = s.settled s₁.current := by
  rw [attempt_transaction] at h
  obtain ⟨d, hd⟩ := hb s.opened
  split at h
  · cases h
  · rcases hx : Act.attempt body s.opened with ⟨_ | b, s₁⟩ <;> rw [hx] at h hd
    · cases h
    · dsimp only at h hd
      split at h <;> cases h
      exact ⟨s₁, rfl, by rw [hd]; rfl⟩

theorem change_eq_ok {statement : Statement} {edit : Table → Except Failure (α × Table)}
    {s s' : Store} {a : α} (h : (change statement edit).attempt s = (.ok a, s')) :
    ∃ t, edit s.current = .ok (a, t) ∧ s'.current = t := by
  rw [change, Act.attempt_ofStep] at h
  split at h
  · cases h
  · split at h
    · cases h
    · next a' t ht =>
      cases h
      exact ⟨t, ht, rfl⟩

theorem query_eq_ok {statement : Statement} {look : Table → Except Failure α} {s s' : Store}
    {a : α} (h : (query statement look).attempt s = (.ok a, s')) :
    look s.current = .ok a ∧ s' = s := by
  rw [query, Act.attempt_ofStep] at h
  split at h
  · cases h
  · obtain ⟨ha, rfl⟩ := Prod.mk.inj h
    exact ⟨ha, rfl⟩

/-! ## The operations -/

theorem row_text_eq_ok {id kind : String} {action : Action} {time : Int} {r : Intent × Int}
    (h : row id action (.text kind) time = .ok r) : r = (⟨id, kind, action⟩, time) := by
  simp only [row, textColumn_text, bind, Except.bind] at h
  rcases ht : integerColumn time with _ | n <;> rw [ht] at h
  · cases h
  · obtain ⟨-, rfl⟩ := integerColumn_eq_ok_iff.1 ht
    dsimp only at h
    split at h <;> cases h
    rfl

theorem drafting_push (action : Action) (id kind : Value) :
    Drafting (do
      let time ← now
      change .record fun t => do
        let (intent, time) ← row id.plain action kind time
        return ((), t.push intent time)) :=
  drafting_now.bind fun _ => drafting_change _ _

/-- **A successful push of a kind**: the intent is pushed at the time the clock shows. -/
theorem push_eq_ok {action : Action} {id : Value} {kind : String} {s s' : Store}
    (h : (push action id (.text kind)).attempt s = (.ok (), s')) :
    ∃ time, s.clock.bind Value.integerOf = .ok time ∧
      s' = s.settled (s.table.push ⟨id.plain, kind, action⟩ time) := by
  obtain ⟨s₁, hb, rfl⟩ := transaction_eq_ok (drafting_push action id (.text kind)) h
  obtain ⟨time, s₂, hn, hc⟩ := Act.attempt_bind_eq_ok_iff.1 hb
  obtain ⟨htime, rfl⟩ := Prod.mk.inj hn
  obtain ⟨t, ht, hcur⟩ := change_eq_ok hc
  rcases hr : row id.plain action (.text kind) time with _ | r <;>
    simp only [hr, bind, Except.bind] at ht
  · cases ht
  · obtain rfl := row_text_eq_ok hr
    cases ht
    exact ⟨time, htime, by rw [hcur]; rfl⟩

theorem drafting_claim :
    Drafting (do
      change .mark fun t => .ok ((), t.claim)
      query .select fun t => .ok (t.withStatus .running)) :=
  (drafting_change _ _).bind fun _ => drafting_query _ _

/-- **A successful claim**: every entry runs, and all of them are returned. -/
theorem claim_eq_ok {s s' : Store} {t : Table} (h : claim.attempt s = (.ok t, s')) :
    t = s.table.claim ∧ s' = s.settled s.table.claim := by
  obtain ⟨s₁, hb, rfl⟩ := transaction_eq_ok drafting_claim h
  obtain ⟨_, s₂, hm, hq⟩ := Act.attempt_bind_eq_ok_iff.1 hb
  obtain ⟨t', ht', hcur⟩ := change_eq_ok hm
  obtain ⟨ht, rfl⟩ := query_eq_ok hq
  cases ht'
  rw [hcur] at ht ⊢
  cases ht
  exact ⟨Table.withStatus_running_claim _, rfl⟩

/-- **A successful flush** removes the running entries and says how many there were. -/
theorem flush_eq_ok {s s' : Store} {n : Nat} (h : flush.attempt s = (.ok n, s')) :
    n = s.table.count .running ∧ s' = s.settled s.table.flush := by
  obtain ⟨s₁, hb, rfl⟩ := transaction_eq_ok (drafting_change _ _) h
  obtain ⟨t, ht, hcur⟩ := change_eq_ok hb
  cases ht
  exact ⟨rfl, by rw [hcur]; rfl⟩

/-- **A successful requeue** makes the running entries wait and says how many there were. -/
theorem requeue_eq_ok {s s' : Store} {n : Nat} (h : requeue.attempt s = (.ok n, s')) :
    n = s.table.count .running ∧ s' = s.settled s.table.requeue := by
  obtain ⟨s₁, hb, rfl⟩ := transaction_eq_ok (drafting_change _ _) h
  obtain ⟨t, ht, hcur⟩ := change_eq_ok hb
  cases ht
  exact ⟨rfl, by rw [hcur]; rfl⟩

/-! ## An unobstructed store -/

section Free

variable {s : Store}

/-- A change goes through when nothing stands in the way. -/
theorem attempt_change_of_free (hs : s.obstacles = {}) {statement : Statement}
    {edit : Table → Except Failure (α × Table)} {x : α} {t : Table}
    (he : edit s.table = .ok (x, t)) :
    (transaction (change statement edit)).attempt s = (.ok x, s.settled t) := by
  rw [attempt_transaction]
  simp [change, Act.attempt_ofStep, hs, opened, current, he, settled]

theorem attempt_claim_of_free (hs : s.obstacles = {}) :
    claim.attempt s = (.ok s.table.claim, s.settled s.table.claim) := by
  rw [claim, attempt_transaction]
  simp [change, query, Act.attempt_bind, Act.attempt_ofStep, hs, opened, current, settled,
    Table.withStatus_running_claim]

/-- An intent is pushed when nothing stands in the way and the clock shows a time that can be
kept. -/
theorem attempt_push_of_free (hs : s.obstacles = {}) {time : Int}
    (hc : s.clock.bind Value.integerOf = .ok time) (h0 : 0 ≤ time) (ht : time < twoTo 63)
    (action : Action) (id : Value) (kind : String) :
    (push action id (.text kind)).attempt s =
      (.ok (), s.settled (s.table.push ⟨id.plain, kind, action⟩ time)) := by
  have hrow : row id.plain action (.text kind) time = .ok (⟨id.plain, kind, action⟩, time) := by
    have hcolumn : integerColumn time = .ok time :=
      integerColumn_eq_ok_iff.2 ⟨⟨by omega, ht⟩, rfl⟩
    simp [row, textColumn_text, hcolumn, bind, Except.bind, pure, Except.pure, Int.not_lt.2 h0]
  rw [push, attempt_transaction]
  simp only [Act.attempt_bind, now, change, Act.attempt_ofStep, opened, hs, hc, hrow]
  simp [bind, Except.bind, pure, Except.pure, current, settled, hs]

end Free

end Store

/-! ## Clients -/

namespace Access

variable {σ α : Type}

/-- **A client's world holds the queue**: the table is the one that was stored last, and notes do
not touch it. -/
structure Lawful (q : Access σ) : Prop where
  table_withStore : ∀ store s, (q.store (q.withStore store s)).table = store.table
  table_note : ∀ n s, (q.store ((q.note n).attempt s).2).table = (q.store s).table

variable {q : Access σ}

theorem Lawful.table_use (hq : q.Lawful) {a : Act Store α} {s s' : σ} {o : Except Failure α}
    (h : (q.use a).attempt s = (o, s')) :
    ∃ t, a.attempt (q.store s) = (o, t) ∧ (q.store s').table = t.table := by
  rw [use, Act.within, Act.attempt_ofStep] at h
  rcases ha : a.attempt (q.store s) with ⟨o', t⟩
  rw [ha] at h
  cases h
  exact ⟨t, rfl, hq.table_withStore t s⟩

theorem Lawful.table_of_noted (hq : q.Lawful) {n : Log.Note} {s s' : σ} {u : Unit}
    (h : (q.note n).attempt s = (.ok u, s')) : (q.store s').table = (q.store s).table := by
  have := hq.table_note n s
  rwa [h] at this

/-- The table after a successful push. -/
theorem push_eq_ok (hq : q.Lawful) {action id : Value} {a : Action} {kind : String} {s s' : σ}
    (ha : Action.read action = .ok a)
    (h : (q.push action id (.text kind)).attempt s = (.ok (), s')) :
    ∃ time, (q.store s).clock.bind Value.integerOf = .ok time ∧
      (q.store s').table = (q.store s).table.push ⟨id.plain, kind, a⟩ time := by
  rw [push, ha] at h
  obtain ⟨a', s₁, ha', h⟩ := Act.attempt_bind_eq_ok_iff.1 h
  obtain ⟨rfl, rfl⟩ : a = a' ∧ s = s₁ := by
    cases ha'
    exact ⟨rfl, rfl⟩
  obtain ⟨_, s₂, hp, hn⟩ := Act.attempt_bind_eq_ok_iff.1 h
  obtain ⟨t, ht, htable⟩ := hq.table_use hp
  obtain ⟨time, hc, rfl⟩ := Store.push_eq_ok ht
  exact ⟨time, hc, (hq.table_of_noted hn).trans htable⟩

/-- The batch of a successful claim, and the table after it. -/
theorem claim_eq_ok (hq : q.Lawful) {s s' : σ} {b : Batch}
    (h : q.claim.attempt s = (.ok b, s')) :
    b = batch (q.store s).table.claim ∧ (q.store s').table = (q.store s).table.claim := by
  obtain ⟨running, s₁, hc, h⟩ := Act.attempt_bind_eq_ok_iff.1 h
  obtain ⟨_, s₂, hn, hb⟩ := Act.attempt_bind_eq_ok_iff.1 h
  obtain ⟨t, ht, htable⟩ := hq.table_use hc
  obtain ⟨rfl, rfl⟩ := Store.claim_eq_ok ht
  cases hb
  exact ⟨rfl, (hq.table_of_noted hn).trans htable⟩

/-- The number of a successful flush, and the table after it. -/
theorem flush_eq_ok (hq : q.Lawful) {s s' : σ} {n : Nat}
    (h : q.flush.attempt s = (.ok n, s')) :
    n = (q.store s).table.count .running ∧ (q.store s').table = (q.store s).table.flush := by
  obtain ⟨removed, s₁, hf, h⟩ := Act.attempt_bind_eq_ok_iff.1 h
  obtain ⟨_, s₂, hn, hb⟩ := Act.attempt_bind_eq_ok_iff.1 h
  obtain ⟨t, ht, htable⟩ := hq.table_use hf
  obtain ⟨rfl, rfl⟩ := Store.flush_eq_ok ht
  cases hb
  exact ⟨rfl, (hq.table_of_noted hn).trans htable⟩

/-- The number of a successful requeue, and the table after it. -/
theorem requeue_eq_ok (hq : q.Lawful) {s s' : σ} {n : Nat}
    (h : q.requeue.attempt s = (.ok n, s')) :
    n = (q.store s).table.count .running ∧ (q.store s').table = (q.store s).table.requeue := by
  obtain ⟨reset, s₁, hr, h⟩ := Act.attempt_bind_eq_ok_iff.1 h
  obtain ⟨_, s₂, hn, hb⟩ := Act.attempt_bind_eq_ok_iff.1 h
  obtain ⟨t, ht, htable⟩ := hq.table_use hr
  obtain ⟨rfl, rfl⟩ := Store.requeue_eq_ok ht
  cases hb
  exact ⟨rfl, (hq.table_of_noted hn).trans htable⟩

/-! ### An unobstructed queue -/

/-- **Notes are always taken.** -/
def NotesFreely (q : Access σ) : Prop := ∀ n s, ((q.note n).attempt s).1 = .ok ()

section Free

variable {s : σ} (hn : q.NotesFreely)

include hn

theorem NotesFreely.attempt_noted {β : Type} {a : Act Store α} {x : α} {store : Store}
    (h : a.attempt (q.store s) = (.ok x, store)) (note : α → Log.Note) (f : α → β) :
    (do let x ← q.use a; q.note (note x); return f x).attempt s =
      (.ok (f x), ((q.note (note x)).attempt (q.withStore store s)).2) := by
  have huse : (q.use a).attempt s = (.ok x, q.withStore store s) := by
    rw [use, Act.within, Act.attempt_ofStep, h]
  have hnote := hn (note x) (q.withStore store s)
  rw [Act.attempt_bind, huse]
  dsimp only
  rw [Act.attempt_bind]
  rcases hx : (q.note (note x)).attempt (q.withStore store s) with ⟨_ | _, s'⟩ <;> rw [hx] at hnote
  · cases hnote
  · rfl

variable (hs : (q.store s).obstacles = {})

include hs

/-- A claim goes through when nothing stands in its way; only a note is taken besides. -/
theorem NotesFreely.attempt_claim : ∃ n, q.claim.attempt s = (.ok (batch (q.store s).table.claim),
    ((q.note n).attempt (q.withStore ((q.store s).settled (q.store s).table.claim) s)).2) :=
  ⟨_, hn.attempt_noted (Store.attempt_claim_of_free hs) _ _⟩

theorem NotesFreely.attempt_flush : ∃ n, q.flush.attempt s =
    (.ok ((q.store s).table.count .running),
      ((q.note n).attempt (q.withStore ((q.store s).settled (q.store s).table.flush) s)).2) :=
  ⟨_, hn.attempt_noted (Store.attempt_change_of_free hs rfl) _ _⟩

theorem NotesFreely.attempt_requeue : ∃ n, q.requeue.attempt s =
    (.ok ((q.store s).table.count .running),
      ((q.note n).attempt (q.withStore ((q.store s).settled (q.store s).table.requeue) s)).2) :=
  ⟨_, hn.attempt_noted (Store.attempt_change_of_free hs rfl) _ _⟩

end Free

end Access

/-- A store that is used on its own; notes are not kept. -/
def Store.access : Access Store where
  store s := s
  withStore t _ := t
  note _ := pure ()

theorem Store.lawful_access : Store.access.Lawful where
  table_withStore _ _ := rfl
  table_note _ _ := rfl

end SearchIndex.Queue
