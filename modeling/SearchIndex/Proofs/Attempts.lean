import SearchIndex.Proofs.JsonValue
import SearchIndex.Proofs.Outcome
import SearchIndex.Wire.Client

/-!
# Calls that are repeated

An operation makes its call again while what comes of it may pass, up to the last call it is
allowed. So with the outcomes of all calls known beforehand it makes as many calls as there are
outcomes up to the first one that does not pass, all of them alike and with a pause between each two
of them, and what comes of the last call alone decides.

There is one exception. A status that reports a failure is reported with the message in the body,
and a body whose lists and maps lie too deep in each other has no message: such a response ends the
operation at once, with a failure that no operation reports.

## Main definitions

* `Line`: a world with a stream of outcomes, in which calls and pauses are recorded
* `Outcome.passes`: what comes of a call may pass
* `decisive`: the number of repetitions
* `made`: the calls of an operation and the pauses between them
* `Operation`: a search or an upload, with its call, its run and its failures
* `Promised`: an operation makes the calls it should, and its result is what the last one decides

## Main results

* `Json.read_nested`: a text that opens too many lists in each other is refused
* `attempt_sendFrom`: the calls that are made, and the outcome that ends them
* `attempt_run`: an operation makes its calls, and reads the last outcome
* `readable_of_promised`, `promised_of_readable`: what an operation owes to its bodies
* `promised_iff`: the operations that do what they should
-/

namespace SearchIndex

/-! ## Bodies that lie too deep -/

namespace Json

/-- Brackets that each open a list in the one before. A list takes one step for itself and one for
its first item. -/
theorem readValue_nested {depth fuel : Nat} (hf : 2 * depth < fuel) (cs : List Char) :
    readValue fuel depth (List.replicate (depth + 1) '[' ++ cs) = .error (.tooDeep "array") := by
  induction depth generalizing fuel with
  | zero =>
    obtain ⟨fuel, rfl⟩ : ∃ n, fuel = n + 1 := ⟨fuel - 1, by omega⟩
    rfl
  | succ depth ih =>
    obtain ⟨fuel, rfl⟩ : ∃ n, fuel = n + 2 := ⟨fuel - 2, by omega⟩
    rw [List.replicate_succ, List.cons_append, List.replicate_succ, List.cons_append,
      readValue_list (by decide) (by decide), readItems_error (f := .tooDeep "array")]
    · rfl
    · rw [← List.cons_append, ← List.replicate_succ]
      exact ih (by omega)

/-- **A text that opens more lists in each other than may lie so is refused.** -/
theorem read_nested [Limits] (cs : List Char) :
    read (String.ofList (List.replicate (Limits.depth + 1) '[' ++ cs)) =
      .error (.tooDeep "array") := by
  have hlist : List.replicate (Limits.depth + 1) '[' ++ cs =
      '[' :: (List.replicate Limits.depth '[' ++ cs) := by
    rw [List.replicate_succ, List.cons_append]
  have hvalue : readValue (2 * (List.replicate (Limits.depth + 1) '[' ++ cs).length + 2)
      Limits.depth (List.replicate (Limits.depth + 1) '[' ++ cs) = .error (.tooDeep "array") := by
    refine readValue_nested ?_ cs
    rw [List.length_append, List.length_replicate]
    omega
  rw [read, String.toList_ofList]
  rw [hlist] at hvalue ⊢
  simp only [skipBlank_cons (show isBlank '[' = false by decide), hvalue]
  rfl

end Json

namespace Wire

/-! ## A stream of outcomes -/

/-- What is recorded of an operation. -/
inductive Event where
  | called (call : Call)
  | paused (seconds : Float)

/-- A world in which the outcomes of all calls and all random times are known beforehand, and
every call and pause is recorded. -/
structure Line where
  /-- The outcomes of the calls to come. -/
  outcomes : Nat → Outcome
  /-- The random times to come. -/
  jitters : Nat → Float
  /-- The calls and pauses so far, the latest last. -/
  events : List Event := []

namespace Line

/-- A call is recorded and takes the next outcome. -/
def call (c : Call) : Act Line Outcome :=
  Act.ofStep fun l => (.ok (l.outcomes 0),
    { l with outcomes := fun n => l.outcomes (n + 1), events := l.events ++ [.called c] })

/-- A pause is recorded. -/
def pause (seconds : Float) : Act Line Unit :=
  Act.ofStep fun l => (.ok (), { l with events := l.events ++ [.paused seconds] })

/-- **Making calls with outcomes that are known.** -/
def session : Session Line where
  call := call
  pause := pause
  jitter :=
    Act.ofStep fun l => (.ok (l.jitters 0), { l with jitters := fun n => l.jitters (n + 1) })
  note _ := pure ()

end Line

/-! ## The outcome that decides -/

/-- What comes of a call may pass: an interruption of certain kinds, or a certain status. -/
def Outcome.passes : Outcome → Bool
  | .response r => retryableStatuses.contains r.status
  | .interrupted cause _ => cause.transient

/-- **The number of repetitions**, with so many allowed: up to the first outcome that is not
repeated, or all that are allowed. -/
def decisive (repeated : Outcome → Bool) (allowed : Nat) (outcomes : Nat → Outcome) : Nat :=
  ((List.range allowed).find? fun i => !repeated (outcomes i)).getD allowed

section Decisive

variable {repeated repeated' : Outcome → Bool} {allowed : Nat} {outcomes : Nat → Outcome}

theorem decisive_zero : decisive repeated 0 outcomes = 0 := rfl

theorem decisive_succ : decisive repeated (allowed + 1) outcomes =
    if repeated (outcomes 0) then decisive repeated allowed (fun n => outcomes (n + 1)) + 1
    else 0 := by
  rw [decisive, List.range_succ_eq_map, List.find?_cons]
  cases h : repeated (outcomes 0) with
  | false => rfl
  | true =>
    simp only [Bool.not_true, List.find?_map, decisive, if_true]
    show ((List.find? (fun i => !repeated (outcomes (i + 1))) _).map Nat.succ).getD _ = _
    cases List.find? (fun i => !repeated (outcomes (i + 1))) (List.range allowed) <;> rfl

theorem repeated_of_lt_decisive {i : Nat} (h : i < decisive repeated allowed outcomes) :
    repeated (outcomes i) = true := by
  induction allowed generalizing outcomes i with
  | zero => exact absurd h (Nat.not_lt_zero i)
  | succ allowed ih =>
    rw [decisive_succ] at h
    split at h
    · next hfirst =>
      cases i with
      | zero => exact hfirst
      | succ i =>
        have hrest : i < decisive repeated allowed fun n => outcomes (n + 1) :=
          Nat.lt_of_succ_lt_succ h
        have hshifted := ih hrest
        exact hshifted
    · exact absurd h (Nat.not_lt_zero i)

/-- Fewer outcomes that are repeated do not matter if none of the difference is met. -/
theorem decisive_eq_of_subset (hr : ∀ o, repeated' o = true → repeated o = true)
    (h : ∀ i < decisive repeated allowed outcomes, repeated' (outcomes i) = true) :
    decisive repeated' allowed outcomes = decisive repeated allowed outcomes := by
  induction allowed generalizing outcomes with
  | zero => rfl
  | succ allowed ih =>
    rw [decisive_succ] at h
    rw [decisive_succ, decisive_succ]
    cases hfirst : repeated (outcomes 0) with
    | false =>
      have hfirst' : ¬ repeated' (outcomes 0) = true := fun h' => by
        rw [hr _ h'] at hfirst
        cases hfirst
      rw [if_neg hfirst', if_neg Bool.false_ne_true]
    | true =>
      rw [hfirst, if_pos rfl] at h
      rw [if_pos (h 0 (Nat.succ_pos _)), if_pos rfl]
      exact congrArg (· + 1) (ih fun i hi => h (i + 1) (Nat.succ_lt_succ hi))

theorem decisive_le_of_subset (hr : ∀ o, repeated' o = true → repeated o = true) :
    decisive repeated' allowed outcomes ≤ decisive repeated allowed outcomes := by
  induction allowed generalizing outcomes with
  | zero => exact Nat.le_refl _
  | succ allowed ih =>
    rw [decisive_succ, decisive_succ]
    by_cases h : repeated' (outcomes 0) = true
    · rw [if_pos h, if_pos (hr _ h)]
      exact Nat.succ_le_succ ih
    · rw [if_neg h]
      exact Nat.zero_le _

/-- The outcome that ends the repetitions before the last one that is allowed is not repeated. -/
theorem not_repeated_decisive (h : decisive repeated allowed outcomes < allowed) :
    repeated (outcomes (decisive repeated allowed outcomes)) = false := by
  induction allowed generalizing outcomes with
  | zero => exact absurd h (Nat.not_lt_zero _)
  | succ allowed ih =>
    rw [decisive_succ] at h ⊢
    split at h
    · next hfirst =>
      rw [if_pos hfirst]
      exact ih (Nat.lt_of_succ_lt_succ h)
    · next hfirst =>
      rw [if_neg hfirst]
      exact Bool.eq_false_iff.2 hfirst

theorem decisive_le_allowed : decisive repeated allowed outcomes ≤ allowed := by
  induction allowed generalizing outcomes with
  | zero => exact Nat.le_refl _
  | succ allowed ih =>
    rw [decisive_succ]
    split
    · exact Nat.succ_le_succ ih
    · exact Nat.zero_le _

end Decisive

/-! ## What is made of a call -/

/-- **So many calls, all alike, with a pause between each two of them**, counted from one. -/
def made (c : Call) (jitters : Nat → Float) (attempt : Nat) : Nat → List Event
  | 0 => []
  | 1 => [.called c]
  | n + 2 =>
    .called c :: .paused (pauseAfter attempt (jitters 0)) ::
      made c (fun i => jitters (i + 1)) (attempt + 1) (n + 1)

theorem length_made (c : Call) (jitters : Nat → Float) (attempt n : Nat) :
    (made c jitters attempt (n + 1)).length = 2 * n + 1 := by
  induction n generalizing jitters attempt with
  | zero => rfl
  | succ n ih =>
    rw [made, List.length_cons, List.length_cons, ih]
    omega

/-- The line after so many calls. -/
def Line.after (l : Line) (c : Call) (attempt n : Nat) : Line where
  outcomes := fun i => l.outcomes (i + n)
  jitters := fun i => l.jitters (i + (n - 1))
  events := l.events ++ made c l.jitters attempt n

/-- The line after a call and a pause. -/
def Line.afterPause (l : Line) (c : Call) (attempt : Nat) : Line where
  outcomes := fun i => l.outcomes (i + 1)
  jitters := fun i => l.jitters (i + 1)
  events := l.events ++ [.called c] ++ [.paused (pauseAfter attempt (l.jitters 0))]

theorem Line.after_afterPause (l : Line) (c : Call) (attempt n : Nat) :
    (l.afterPause c attempt).after c (attempt + 1) (n + 1) = l.after c attempt (n + 2) := by
  rw [after, after, Line.mk.injEq]
  refine ⟨rfl, rfl, ?_⟩
  simp [afterPause, made]

theorem Line.attempt_call (c : Call) (attempt : Nat) (l : Line) :
    (Line.session.call c).attempt l = (.ok (l.outcomes 0), l.after c attempt 1) := rfl

theorem le_status_of_passes {r : Response} (h : (Outcome.response r).passes = true) :
    400 ≤ r.status := by
  have hmem : r.status ∈ retryableStatuses := List.contains_iff_mem.1 h
  simp only [retryableStatuses, List.mem_cons, List.not_mem_nil, or_false] at hmem
  omega

section Outcomes

variable [Json.Limits]

/-- The outcome lets the call be made again. -/
def Outcome.again (o : Outcome) : Bool :=
  match verdict o with
  | .again _ _ => true
  | _ => false

/-- What a call ends with after its last outcome. -/
def Outcome.ending (o : Outcome) : Except Failure Response :=
  match verdict o with
  | .answer r => .ok r
  | .abort f => .error f
  | .again _ final => .error final

/-- **The calls that are made, and the outcome that ends them.** After a pause the next call is made
with what the line still holds. -/
theorem attempt_sendFrom (c : Call) (attempt left : Nat) (l : Line) :
    let n := decisive Outcome.again left l.outcomes
    (sendFrom Line.session c attempt left).attempt l =
      ((l.outcomes n).ending, l.after c attempt (n + 1)) := by
  induction left generalizing attempt l with
  | zero =>
    rw [sendFrom, Act.attempt_bind, Line.attempt_call c attempt]
    dsimp only [decisive_zero]
    unfold Outcome.ending
    cases verdict (l.outcomes 0) <;> rfl
  | succ left ih =>
    rw [sendFrom, Act.attempt_bind, Line.attempt_call c attempt, decisive_succ]
    dsimp only
    cases hv : verdict (l.outcomes 0) with
    | answer r =>
      have hagain : Outcome.again (l.outcomes 0) = false := by rw [Outcome.again, hv]
      rw [hagain, if_neg Bool.false_ne_true, Outcome.ending, hv]
      rfl
    | abort f =>
      have hagain : Outcome.again (l.outcomes 0) = false := by rw [Outcome.again, hv]
      rw [hagain, if_neg Bool.false_ne_true, Outcome.ending, hv]
      rfl
    | again noted final =>
      have hagain : Outcome.again (l.outcomes 0) = true := by rw [Outcome.again, hv]
      rw [hagain, if_pos rfl]
      refine Eq.trans (b := (sendFrom Line.session c (attempt + 1) left).attempt
        (l.afterPause c attempt)) rfl ((ih (attempt + 1) (l.afterPause c attempt)).trans ?_)
      rw [Line.after_afterPause]
      rfl

/-! ## Messages -/

/-- The body of a response that reports a failure can be read for a message: its lists and maps do
not lie too deep in each other. -/
def Response.Readable (r : Response) : Prop := ∀ what, Json.read r.body ≠ .error (.tooDeep what)

theorem Response.payload_of_tooDeep {r : Response} {what : String}
    (h : Json.read r.body = .error (.tooDeep what)) :
    r.payload = .error (.notJson r.body (.tooDeep what)) := by
  rw [payload, h]

theorem Response.message_of_tooDeep {r : Response} {what : String}
    (h : Json.read r.body = .error (.tooDeep what)) :
    r.message = .error (.notJson r.body (.tooDeep what)) := by
  rw [message, payload_of_tooDeep h]
  rfl

theorem Response.Readable.payload_eq {r : Response} (h : r.Readable) :
    r.payload = .ok (Json.read r.body) := by
  unfold payload
  split
  · next what hdeep => exact absurd hdeep (h what)
  · rfl

theorem Response.Readable.exists_message {r : Response} (h : r.Readable) :
    ∃ message, r.message = .ok message := by
  rw [message, h.payload_eq]
  cases Json.read r.body with
  | ok payload => exact ⟨_, rfl⟩
  | error f => exact ⟨_, rfl⟩

theorem Response.readable_of_message {r : Response} {message : String}
    (h : r.message = .ok message) : r.Readable := by
  intro what hdeep
  rw [message_of_tooDeep hdeep] at h
  nomatch h

/-- What comes of a call is not the report of a failure without a message that can be read. -/
def Outcome.Readable : Outcome → Prop
  | .response r => 400 ≤ r.status → r.Readable
  | .interrupted _ _ => True

/-! ## Verdicts -/

theorem verdict_of_message {r : Response} {message : String}
    (hp : (Outcome.response r).passes = true) (hm : r.message = .ok message) :
    verdict (.response r) =
      .again (.search message (some r.status)) (.search message (some r.status)) := by
  have hrejection : r.rejection = .ok (.search message (some r.status)) := by
    rw [Response.rejection, hm]
    rfl
  refine (if_pos hp).trans ?_
  rw [hrejection]

theorem verdict_of_tooDeep {r : Response} {what : String}
    (hp : (Outcome.response r).passes = true) (h : Json.read r.body = .error (.tooDeep what)) :
    verdict (.response r) = .abort (.notJson r.body (.tooDeep what)) := by
  have hrejection : r.rejection = .error (.notJson r.body (.tooDeep what)) := by
    rw [Response.rejection, Response.message_of_tooDeep h]
    rfl
  refine (if_pos hp).trans ?_
  rw [hrejection]

theorem verdict_of_not_passes {r : Response} (hp : (Outcome.response r).passes = false) :
    verdict (.response r) = .answer r :=
  if_neg (Bool.not_eq_true _ ▸ hp)

namespace Outcome

/-- **A call is made again** after what may pass, unless it reports a failure without a message. -/
theorem again_iff {o : Outcome} : o.again = true ↔ o.passes = true ∧ o.Readable := by
  cases o with
  | interrupted cause text =>
    cases hc : cause.transient <;> simp [again, verdict, passes, Readable, hc]
  | response r =>
    cases hp : (Outcome.response r).passes with
    | false => simp [again, verdict_of_not_passes hp]
    | true =>
      constructor
      · intro h
        refine ⟨rfl, fun _ what hdeep => ?_⟩
        rw [again, verdict_of_tooDeep hp hdeep] at h
        cases h
      · rintro ⟨-, hr⟩
        obtain ⟨message, hm⟩ := (hr (le_status_of_passes hp)).exists_message
        rw [again, verdict_of_message hp hm]

/-- The calls are as many as may pass, if no report of a failure among them is without a message. -/
theorem decisive_again_eq {allowed : Nat} {outcomes : Nat → Outcome}
    (h : ∀ i < decisive passes allowed outcomes, (outcomes i).Readable) :
    decisive again allowed outcomes = decisive passes allowed outcomes := by
  refine decisive_eq_of_subset (fun o ho => (again_iff.1 ho).1) fun i hi => ?_
  exact again_iff.2 ⟨repeated_of_lt_decisive hi, h i hi⟩

end Outcome

end Outcomes

/-! ## Operations -/

/-- What a client does. -/
inductive Operation where
  | search (compiled : Fields)
  | upload (documents : List Value)

namespace Operation

section Operations

variable [Json.Limits]

/-- The call of an operation; parameters that cannot be spread out are not sent. -/
def call (client : Client) : Operation → Except Failure Call
  | .search compiled => (Parameters.ofRequest compiled).map client.searchCall
  | .upload documents => .ok (client.uploadCall documents)

/-- **An operation of a client.** -/
def run {σ : Type} (client : Client) (s : Session σ) : Operation → Act σ Fields
  | .search compiled => client.search s compiled
  | .upload documents => client.upload s documents

/-- What an operation gives for a response. -/
def decoded : Operation → Response → Except Failure Fields
  | .search _ => Client.searchResult
  | .upload _ => Client.uploadResult

/-- The failure of an operation that is rejected. -/
def rejection (message : String) (status : Int) : Operation → Failure
  | .search _ => .search message (some status)
  | .upload _ => .upload message (some status) []

/-- **What the last outcome of an operation decides.** An interruption is the failure, or the
backend is unreachable if it might have passed; a status that reports a failure is the operation's
own failure, or that of a search if it might have passed; any other response is decoded. -/
def Decides (op : Operation) (result : Except Failure Fields) : Outcome → Prop
  | .interrupted cause text =>
    result = .error (if cause.transient then .search ("Search backend unreachable: " ++ text) none
      else .interrupted cause text)
  | .response r =>
    if 400 ≤ r.status then
      ∃ message, r.message = .ok message ∧
        result = .error (if (Outcome.response r).passes then .search message (some r.status)
          else op.rejection message r.status)
    else result = op.decoded r

/-- **An operation does what it should**: its call is made until an outcome does not pass, and no
more often than is allowed; the line goes on with the outcomes that are left; and the last outcome
alone decides the result. -/
structure Promised (op : Operation) (c : Call) (l : Line) (outcome : Except Failure Fields × Line) :
    Prop where
  line : outcome.2 = l.after c 1 (decisive Outcome.passes (maxAttempts - 1) l.outcomes + 1)
  result : op.Decides outcome.1
    (l.outcomes (decisive Outcome.passes (maxAttempts - 1) l.outcomes))

section

variable {op : Operation} {client : Client} {c : Call} {l : Line}

theorem run_eq {σ : Type} (s : Session σ) : op.run client s =
    Act.ofExcept (op.call client) >>= fun c =>
      send s c >>= fun r => Act.ofExcept (op.decoded r) := by
  cases op with
  | upload documents => rfl
  | search compiled =>
    rw [run, Client.search, call]
    cases Parameters.ofRequest compiled <;> rfl

/-- **The calls of an operation**, and the outcome that ends it. -/
theorem attempt_run (hc : op.call client = .ok c) (l : Line) :
    let n := decisive Outcome.again (maxAttempts - 1) l.outcomes
    (op.run client Line.session).attempt l =
      ((l.outcomes n).ending.bind op.decoded, l.after c 1 (n + 1)) := by
  intro n
  have hsend : (send Line.session c).attempt l = ((l.outcomes n).ending, l.after c 1 (n + 1)) :=
    attempt_sendFrom c 1 (maxAttempts - 1) l
  rw [run_eq, Act.ofExcept_bind_of_eq_ok hc, Act.attempt_bind, hsend]
  cases (l.outcomes n).ending <;> rfl

/-- A response that reports a failure ends an operation with its own failure. -/
theorem decoded_of_message {r : Response} {message : String} (h : 400 ≤ r.status)
    (hm : r.message = .ok message) : op.decoded r = .error (op.rejection message r.status) := by
  cases op with
  | search compiled =>
    rw [decoded, Client.searchResult, if_pos h, Response.rejection, hm]
    rfl
  | upload documents =>
    rw [decoded, Client.uploadResult, if_neg (Int.not_lt.2 h)]
    simp only [h, true_or, if_true, hm]
    rfl

theorem decides_of_readable {o : Outcome} (h : o.Readable) :
    op.Decides (o.ending.bind op.decoded) o := by
  cases o with
  | interrupted cause text =>
    cases hc : cause.transient <;> simp [Decides, Outcome.ending, verdict, hc, Except.bind]
  | response r =>
    by_cases hs : 400 ≤ r.status
    · rw [Decides, if_pos hs]
      obtain ⟨message, hm⟩ := (h hs).exists_message
      refine ⟨message, hm, ?_⟩
      cases hp : (Outcome.response r).passes with
      | true =>
        rw [Outcome.ending, verdict_of_message hp hm]
        rfl
      | false =>
        rw [Outcome.ending, verdict_of_not_passes hp]
        exact decoded_of_message hs hm
    · have hp : (Outcome.response r).passes = false :=
        Bool.eq_false_iff.2 fun hp => hs (le_status_of_passes hp)
      rw [Decides, if_neg hs, Outcome.ending, verdict_of_not_passes hp]
      rfl

theorem readable_of_decides {o : Outcome} {result : Except Failure Fields}
    (h : op.Decides result o) : o.Readable := by
  cases o with
  | interrupted => trivial
  | response r =>
    intro hs
    rw [Decides, if_pos hs] at h
    obtain ⟨message, hm, -⟩ := h
    exact Response.readable_of_message hm

/-- **What is promised is kept if the bodies can be read.** -/
theorem promised_of_readable (hc : op.call client = .ok c)
    (h : ∀ i ≤ decisive Outcome.passes (maxAttempts - 1) l.outcomes, (l.outcomes i).Readable) :
    op.Promised c l ((op.run client Line.session).attempt l) := by
  have hn : decisive Outcome.again (maxAttempts - 1) l.outcomes =
      decisive Outcome.passes (maxAttempts - 1) l.outcomes :=
    Outcome.decisive_again_eq fun i hi => h i (Nat.le_of_lt hi)
  rw [attempt_run hc, hn]
  exact ⟨rfl, decides_of_readable (h _ (Nat.le_refl _))⟩

/-- **A body that cannot be read breaks the promise**: it ends the calls too early, or has no
message to report. -/
theorem readable_of_promised (hc : op.call client = .ok c)
    (h : op.Promised c l ((op.run client Line.session).attempt l)) :
    ∀ i ≤ decisive Outcome.passes (maxAttempts - 1) l.outcomes, (l.outcomes i).Readable := by
  obtain ⟨hline, hresult⟩ := h
  rw [attempt_run hc] at hline hresult
  have hn : decisive Outcome.again (maxAttempts - 1) l.outcomes =
      decisive Outcome.passes (maxAttempts - 1) l.outcomes := by
    have hevents := congrArg (fun l : Line => l.events.length) hline
    simp only [Line.after, List.length_append, length_made] at hevents
    omega
  intro i hi
  rcases Nat.lt_or_eq_of_le hi with hi | rfl
  · rw [← hn] at hi
    exact (Outcome.again_iff.1 (repeated_of_lt_decisive hi)).2
  · exact readable_of_decides hresult

end

/-- **The operations that do what they should**, whatever the outcomes and the random times, in any
mixture: exactly those that meet no report of a failure whose body lies too deep. An operation whose
parameters cannot be spread out makes no call. -/
theorem promised_iff (client : Client) (op : Operation) (l : Line) :
    match op.call client with
    | .error f => (op.run client Line.session).attempt l = (.error f, l)
    | .ok c => op.Promised c l ((op.run client Line.session).attempt l) ↔
      ∀ i ≤ decisive Outcome.passes (maxAttempts - 1) l.outcomes, (l.outcomes i).Readable := by
  cases hc : op.call client with
  | error f =>
    rw [run_eq, hc]
    rfl
  | ok c => exact ⟨readable_of_promised hc, promised_of_readable hc⟩

/-- Lists in each other, so many of them. -/
def nestedBody (n : Nat) : String := String.ofList (List.replicate n '[' ++ List.replicate n ']')

theorem read_nestedBody (n : Nat) :
    Json.read (nestedBody (Json.Limits.depth + 1 + n)) = .error (.tooDeep "array") := by
  rw [nestedBody, ← List.replicate_append_replicate, List.append_assoc]
  exact Json.read_nested _

end Operations

/-- A first outcome, and another one from then on. -/
def lineOf (first rest : Outcome) : Line where
  outcomes := fun i => if i = 0 then first else rest
  jitters := fun _ => 0.0

attribute [local instance] Json.Limits.usual

/-- A status that may pass is not tried again when lists lie too deep in the body, and the failure
is that of reading it. -/
theorem not_promised_of_nestedBody :
    let client : Client := ⟨"https://search-x", "https://doc-x", defaultTimeout⟩
    let l := lineOf (.response ⟨503, nestedBody 1200⟩) (.response ⟨200, "\x7b\x7d"⟩)
    let outcome := ((search []).run client Line.session).attempt l
    outcome = (.error (.notJson (nestedBody 1200) (.tooDeep "array")),
        l.after (client.searchCall []) 1 1) ∧
      ¬ (search []).Promised (client.searchCall []) l outcome := by
  intro client l outcome
  have hdeep : Json.read (nestedBody 1200) = .error (.tooDeep "array") := read_nestedBody 214
  have hcall : (search []).call client = .ok (client.searchCall []) := rfl
  have hverdict : verdict (l.outcomes 0) = .abort (.notJson (nestedBody 1200) (.tooDeep "array")) :=
    verdict_of_tooDeep (r := ⟨503, nestedBody 1200⟩) rfl hdeep
  have hagain : ¬ (l.outcomes 0).again = true := by
    rw [Outcome.again, hverdict]
    exact Bool.false_ne_true
  have hn : decisive Outcome.again (maxAttempts - 1) l.outcomes = 0 := by
    rw [maxAttempts, decisive_succ, if_neg hagain]
  refine ⟨?_, fun h => ?_⟩
  · refine (attempt_run hcall l).trans ?_
    rw [hn, Outcome.ending, hverdict]
    rfl
  · exact readable_of_promised hcall h 0 (Nat.zero_le _) (by decide) _ hdeep

end Operation

end Wire

end SearchIndex
