import SearchIndex.Proofs.Transaction
import SearchIndex.Queue.Operation

/-!
# Operations that fail

An operation of the queue goes by stages: what it is asked is read, a transaction begins, the clock
is read, statements run, and the transaction is committed. The first stage that fails decides the
outcome. An operation that fails leaves no trace: the store is what it was, down to the
transaction that is not open and the lock that is free, so whatever is tried later answers and does
what it would have without it.

## Main definitions

* `Obstacles.around body`: what a transaction fails with, its body failing or not
* `Store.Idle`: no transaction is open, and the store is free
* `Store.AllOrNothing fault a s`: an action fails and changes nothing, or changes the table
* `ObstructedOperation`: an operation with the clock and the obstacles that it meets
* `ObstructedOperation.fault`: what the first stage that fails fails with
* `trace`: what such operations answer one after the other, and the stores after them

## Main results

* `Store.allOrNothing_transaction`: a transaction fails as its first stage that fails
* `ObstructedOperation.allOrNothing`: the same of every operation of the queue
* `ObstructedOperation.leaves_no_trace`: an operation that fails leaves the store, and what comes
  later is the same
-/

namespace SearchIndex.Queue

/-- What a calculation fails with, if it fails. -/
def raised {α : Type} : Except Failure α → Option Failure
  | .error f => some f
  | .ok _ => none

/-- What a transaction fails with, its body failing or not. -/
def Obstacles.around (o : Obstacles) (body : Option Failure) : Option Failure :=
  o.opening.or (body.or o.commit)

namespace Store

variable {α β : Type}

/-- **No transaction is open, and the store is free.** -/
structure Idle (s : Store) : Prop where
  draft : s.draft = none
  held : s.held = false

/-- **An action fails and changes nothing, or it succeeds and changes the table alone.** -/
def AllOrNothing (fault : Option Failure) (a : Act Store α) (s : Store) : Prop :=
  match fault with
  | some f => a.attempt s = (.error f, s)
  | none => ∃ x t, a.attempt s = (.ok x, { s with table := t })

variable {s : Store} {fault : Option Failure}

theorem Idle.settled (hs : s.Idle) (t : Table) : s.settled t = { s with table := t } := by
  obtain ⟨t', d, h, c, o⟩ := s
  obtain ⟨hd, hh⟩ := hs
  simp_all [Store.settled]

/-- What only looks at a result does not add to what can happen. -/
theorem AllOrNothing.bind {a : Act Store α} {k : α → Act Store β} (ha : AllOrNothing fault a s)
    (hk : ∀ x s, ∃ y, (k x).attempt s = (.ok y, s)) : AllOrNothing fault (a >>= k) s := by
  rcases fault with _ | f
  · obtain ⟨x, t, hx⟩ := ha
    obtain ⟨y, hy⟩ := hk x { s with table := t }
    exact ⟨y, t, by rw [Act.attempt_bind, hx]; exact hy⟩
  · have h : a.attempt s = (.error f, s) := ha
    show (a >>= k).attempt s = (.error f, s)
    rw [Act.attempt_bind, h]

/-! ## The stages of an action -/

/-- An action fails as its first step, or else as the others. -/
theorem raised_attempt_bind {a : Act Store α} {k : α → Act Store β} (ha : Drafting a)
    (hk : ∀ x d, (a.attempt s).1 = .ok x →
      raised ((k x).attempt { s with draft := d }).1 = fault) :
    raised ((a >>= k).attempt s).1 = (raised (a.attempt s).1).or fault := by
  obtain ⟨d, hd⟩ := ha s
  rw [Act.attempt_bind]
  rcases h : a.attempt s with ⟨_ | x, s'⟩ <;> rw [h] at hd
  · rfl
  · obtain rfl : s' = { s with draft := d } := hd
    exact hk x d (by rw [h])

theorem raised_query {statement : Statement} {look : Table → α} :
    raised ((query statement fun t => .ok (look t)).attempt s).1 =
      s.obstacles.statement statement := by
  rw [query, Act.attempt_ofStep]
  rcases s.obstacles.statement statement with _ | f <;> rfl

theorem raised_change {statement : Statement} {edit : Table → Except Failure (α × Table)}
    (he : ∀ t, raised (edit t) = fault) :
    raised ((change statement edit).attempt s).1 =
      (s.obstacles.statement statement).or fault := by
  rw [change, Act.attempt_ofStep, ← he s.current]
  rcases s.obstacles.statement statement with _ | f
  · rcases edit s.current with _ | ⟨x, t⟩ <;> rfl
  · rfl

/-- A change that every table allows fails only if the statement does. -/
theorem raised_change_ok {statement : Statement} {edit : Table → α × Table} :
    raised ((change statement fun t => .ok (edit t)).attempt s).1 =
      s.obstacles.statement statement := by
  have h : raised ((change statement fun t => .ok (edit t)).attempt s).1 =
      (s.obstacles.statement statement).or none := raised_change fun _ => rfl
  rwa [Option.or_none] at h

/-- **A transaction fails as its first stage that fails**, and then it has changed nothing. Nothing
began, or the body fails and its draft is dropped, or the commit decides. -/
theorem allOrNothing_transaction (hs : s.Idle) {body : Act Store α} (hb : Drafting body)
    (h : raised (body.attempt s.opened).1 = fault) :
    AllOrNothing (s.obstacles.around fault) (transaction body) s := by
  have hsame : { s with held := false } = s := by
    rw [← hs.held]
  obtain ⟨d, hd⟩ := hb s.opened
  have hat := attempt_transaction body s
  rw [Obstacles.around]
  rcases ho : s.obstacles.opening with _ | f <;> rw [ho] at hat
  · rcases hbody : body.attempt s.opened with ⟨f | x, s'⟩ <;>
      simp only [hbody] at h hd hat <;> subst h <;>
      obtain rfl : s' = { s.opened with draft := d } := hd
    · exact hat.trans (congrArg _ (hs.settled s.table))
    · dsimp only [opened] at hat
      rcases hc : s.obstacles.commit with _ | f <;> simp only [hc] at hat
      · exact ⟨x, _, hat.trans (congrArg _ (hs.settled _))⟩
      · exact hat.trans (congrArg _ (hs.settled s.table))
  · exact hat.trans (congrArg _ hsame)

/-- The same of a look at the table without a transaction. -/
theorem allOrNothing_query (hs : s.Idle) {statement : Statement} {look : Table → α} :
    AllOrNothing (s.obstacles.statement statement)
      (exclusively (query statement fun t => .ok (look t))) s := by
  have hsame : { s with held := false } = s := by
    rw [← hs.held]
  have hat := attempt_exclusively (query statement fun t => .ok (look t)) s
  rw [query, Act.attempt_ofStep] at hat
  rcases hq : s.obstacles.statement statement with _ | f <;> simp only [hq] at hat
  · exact ⟨_, s.table, hat.trans (congrArg _ hsame)⟩
  · exact hat.trans (congrArg _ hsame)

/-! ## The stages of the operations -/

theorem allOrNothing_push (hs : s.Idle) (action : Action) (id kind : Value) :
    AllOrNothing
      (s.obstacles.around ((raised (s.clock.bind Value.integerOf)).or
        ((s.obstacles.statement .record).or
          (raised ((s.clock.bind Value.integerOf).bind (row id.plain action kind))))))
      (push action id kind) s := by
  refine allOrNothing_transaction hs (drafting_push action id kind) ?_
  refine raised_attempt_bind drafting_now fun time d hn => ?_
  rw [show s.clock.bind Value.integerOf = .ok time from hn]
  refine raised_change fun t => ?_
  show raised ((row id.plain action kind time).bind _) = raised (row id.plain action kind time)
  rcases row id.plain action kind time with _ | r <;> rfl

theorem allOrNothing_claim (hs : s.Idle) :
    AllOrNothing
      (s.obstacles.around ((s.obstacles.statement .mark).or (s.obstacles.statement .select)))
      claim s := by
  refine allOrNothing_transaction hs drafting_claim ?_
  have hselect (d : Option Table) :
      raised ((query .select fun t => .ok (t.withStatus .running)).attempt
        { s.opened with draft := d }).1 = s.obstacles.statement .select := raised_query
  rw [raised_attempt_bind (drafting_change _ _) fun _ d _ => hselect d, raised_change_ok]
  rfl

theorem allOrNothing_flush (hs : s.Idle) :
    AllOrNothing (s.obstacles.around (s.obstacles.statement .remove)) flush s :=
  allOrNothing_transaction hs (drafting_change _ _) raised_change_ok

theorem allOrNothing_requeue (hs : s.Idle) :
    AllOrNothing (s.obstacles.around (s.obstacles.statement .mark)) requeue s :=
  allOrNothing_transaction hs (drafting_change _ _) raised_change_ok

end Store

/-! ## Obstructed operations -/

/-- **An operation with the clock and the obstacles that it meets.** -/
structure ObstructedOperation where
  operation : Operation
  /-- What reading the clock gives. -/
  clock : Except Failure Value := .ok (.int 0)
  /-- What stands in the way. -/
  obstacles : Obstacles := {}

namespace ObstructedOperation

/-- The store with what the operation meets. -/
def meet (x : ObstructedOperation) (s : Store) : Store :=
  { s with clock := x.clock, obstacles := x.obstacles }

/-- What the operation answers, and the store after it. -/
def attempt (x : ObstructedOperation) (s : Store) : Except Failure Reply × Store :=
  (Store.access.answer x.operation).attempt (x.meet s)

/-- What the first stage of a push that fails fails with. -/
def pushFault (x : ObstructedOperation) (action id kind : Value) : Option Failure :=
  match Action.read action with
  | .error f => some f
  | .ok a =>
    x.obstacles.around ((raised (x.clock.bind Value.integerOf)).or
      ((x.obstacles.statement .record).or
        (raised ((x.clock.bind Value.integerOf).bind (Store.row id.plain a kind)))))

/-- **What the first stage that fails fails with.** It does not depend on the table. -/
def fault (x : ObstructedOperation) : Option Failure :=
  match x.operation with
  | .push action id kind => x.pushFault action id kind
  | .saved kind id => x.pushFault (.text Action.update.name) id kind
  | .deleted kind id => x.pushFault (.text Action.delete.name) id kind
  | .restored kind id => x.pushFault (.text Action.update.name) id kind
  | .claim =>
    x.obstacles.around ((x.obstacles.statement .mark).or (x.obstacles.statement .select))
  | .flush => x.obstacles.around (x.obstacles.statement .remove)
  | .requeue => x.obstacles.around (x.obstacles.statement .mark)
  | .counts => x.obstacles.statement .select
  | .entries => x.obstacles.statement .select

variable {x : ObstructedOperation} {s : Store}

theorem idle_meet (hs : s.Idle) : (x.meet s).Idle := ⟨hs.draft, hs.held⟩

theorem allOrNothing_push (hs : s.Idle) (action id kind : Value) :
    Store.AllOrNothing (x.pushFault action id kind) (Store.access.push action id kind)
      (x.meet s) := by
  rw [pushFault]
  rcases ha : Action.read action with f | a
  · exact Store.access.push_of_unknown ha id kind (x.meet s)
  · have h := Store.allOrNothing_push (idle_meet (x := x) hs) a id kind
    rw [Access.push, ha]
    exact h.bind fun _ s => ⟨(), rfl⟩

/-- **An operation of the queue fails as its first stage that fails, and then it has changed
nothing.** -/
theorem allOrNothing (hs : s.Idle) :
    Store.AllOrNothing x.fault (Store.access.answer x.operation) (x.meet s) := by
  have hm : (x.meet s).Idle := idle_meet hs
  have hpush (action id kind : Value) := (allOrNothing_push hs action id kind (x := x)).bind
    (k := fun _ => pure Reply.done) fun _ s => ⟨_, rfl⟩
  rw [fault]
  rcases x.operation with ⟨action, id, kind⟩ | ⟨kind, id⟩ | ⟨kind, id⟩ | ⟨kind, id⟩ | _ | _ | _ |
    _ | _
  case push => exact hpush action id kind
  case saved => exact hpush _ id kind
  case deleted => exact hpush _ id kind
  case restored => exact hpush _ id kind
  case claim =>
    exact ((Store.allOrNothing_claim hm).bind fun _ s => ⟨_, rfl⟩).bind fun _ s => ⟨_, rfl⟩
  case flush =>
    exact ((Store.allOrNothing_flush hm).bind fun _ s => ⟨_, rfl⟩).bind fun _ s => ⟨_, rfl⟩
  case requeue =>
    exact ((Store.allOrNothing_requeue hm).bind fun _ s => ⟨_, rfl⟩).bind fun _ s => ⟨_, rfl⟩
  case counts =>
    have h : Store.AllOrNothing _ Store.counts (x.meet s) := Store.allOrNothing_query hm
    exact h.bind fun n s => ⟨.counted n.1 n.2, rfl⟩
  case entries => exact (Store.allOrNothing_query hm).bind fun _ s => ⟨_, rfl⟩

/-- A push at a time before the epoch fails for that, if nothing else stands in its way. -/
example (id : Value) (kind : String) : (⟨.push (.text "update") id (.text kind), .ok (.int (-1)),
    {}⟩ : ObstructedOperation).fault = some .negativeTime := rfl

theorem attempt_of_fault (hs : s.Idle) {f : Failure} (hf : x.fault = some f) :
    x.attempt s = (.error f, x.meet s) := by
  have h := allOrNothing hs (x := x)
  rwa [hf] at h

theorem attempt_of_no_fault (hs : s.Idle) (hf : x.fault = none) :
    ∃ reply t, x.attempt s = (.ok reply, { x.meet s with table := t }) := by
  have h := allOrNothing hs (x := x)
  rwa [hf] at h

end ObstructedOperation

/-! ## Operations one after the other -/

/-- **What operations answer one after the other, and the stores after them.** -/
def trace : List ObstructedOperation → Store → List (Except Failure Reply × Store)
  | [], _ => []
  | x :: later, s => x.attempt s :: trace later (x.attempt s).2

/-- What an operation met is of no concern to those after it. -/
theorem trace_meet (x : ObstructedOperation) (operations : List ObstructedOperation) (s : Store) :
    trace operations (x.meet s) = trace operations s := by
  cases operations <;> rfl

/-- The operations that succeed answer and do what they would without those that fail: a success
leaves an idle store, and a failure the store that was there. -/
theorem filter_trace {s : Store} (hs : s.Idle) (operations : List ObstructedOperation) :
    (trace operations s).filter (·.1.isOk) = trace (operations.filter (·.fault.isNone)) s := by
  induction operations generalizing s with
  | nil => rfl
  | cons x later ih =>
    rcases hf : x.fault with _ | f
    · obtain ⟨reply, t, hx⟩ := ObstructedOperation.attempt_of_no_fault hs hf
      have hok : (x.attempt s).1.isOk = true := by rw [hx]; rfl
      have hnext : (x.attempt s).2.Idle := by rw [hx]; exact ⟨hs.draft, hs.held⟩
      simp only [trace, List.filter_cons, hok, hf, Option.isNone_none, if_true, ih hnext]
    · have hx := ObstructedOperation.attempt_of_fault hs hf
      have hok : (x.attempt s).1.isOk = false := by rw [hx]; rfl
      have hsame : trace later (x.attempt s).2 = trace later s := by rw [hx, trace_meet]
      simp only [trace, List.filter_cons, hok, hf, hsame, ih hs, Option.isNone_some,
        Bool.false_eq_true, if_false]

/-- **An operation that fails leaves no trace.** The failure is that of the first stage that fails;
the table is what it was, no transaction is open and the store is free, and whatever is tried later
answers and does the same as without it. An operation none of whose stages fails succeeds. So of any
operations one after the other, those that succeed answer and do what they would if the others had
never been made. -/
theorem ObstructedOperation.leaves_no_trace {s : Store} (hs : s.Idle) :
    (∀ (x : ObstructedOperation) (f : Failure), x.fault = some f →
      ∃ s', x.attempt s = (.error f, s') ∧ s'.table = s.table ∧ s'.draft = none ∧
        s'.held = false ∧ ∀ later, trace later s' = trace later s) ∧
    (∀ x : ObstructedOperation, x.fault = none →
      ∃ reply s', x.attempt s = (.ok reply, s') ∧ s'.Idle) ∧
    ∀ operations, (trace operations s).filter (·.1.isOk) =
      trace (operations.filter (·.fault.isNone)) s := by
  refine ⟨fun x f hf => ?_, fun x hf => ?_, filter_trace hs⟩
  · exact ⟨_, attempt_of_fault hs hf, rfl, hs.draft, hs.held, fun later => trace_meet x later s⟩
  · obtain ⟨reply, t, hx⟩ := attempt_of_no_fault hs hf
    exact ⟨reply, _, hx, hs.draft, hs.held⟩

/-- A claim that fails after it has let the entries run leaves them waiting, and they can be
claimed. -/
theorem ObstructedOperation.claim_after_failed_claim :
    let e : Entry := ⟨⟨"1", "Article", .update⟩, .waiting, 5⟩
    let failing : ObstructedOperation :=
      { operation := .claim
        obstacles :=
          { statement := fun i => if i = .select then some .databaseLocked else none } }
    ∃ s', failing.attempt { table := [e] } = (.error .databaseLocked, s') ∧ s'.table = [e] ∧
      s'.draft = none ∧ s'.held = false ∧
      (trace [{ operation := .claim }] s').map (·.2.table) = [[{ e with status := .running }]] := by
  intro e failing
  obtain ⟨s', hs', ht, hd, hh, hlater⟩ :=
    (leaves_no_trace (s := { table := [e] }) ⟨rfl, rfl⟩).1 failing .databaseLocked rfl
  refine ⟨s', hs', ht, hd, hh, ?_⟩
  rw [hlater]
  rfl

end SearchIndex.Queue
