import SearchIndex.Proofs.Attempts

/-!
# Failures that operations report

An operation of a client reports its failures in two forms: a search that was rejected, or a backend
that could not be reached; and an upload that was rejected, with the entries of errors from the
backend. Three kinds of outcomes end an operation with another failure: an interruption that will
not pass, a body whose lists and maps lie too deep in each other, and, for an upload, an envelope
whose errors cannot be gone through.

The entries of errors are taken from the envelope of a response with a status of success. A status
that reports a failure has its body read for the message alone, and its entries are lost.

## Main definitions

* `Failure.isReported`, `Typed`: the failures in one of the two forms, and results without others
* `Internal x`: a calculation has no failure in one of the two forms
* `Operation.Accounts`: what comes of a call leads to a result without other failures
* `Operation.LastResponse`: the response to the last call of an operation

## Main results

* `internal_ofRequest`: parameters that cannot be spread out are no failure in one of the forms
* `typed_ending_iff`: the last outcomes that lead to a result without other failures
* `typed_iff`: the operations that have no other failures
* `uploadResult_of_success`: what an upload makes of an envelope with a status of success
* `lastResponse_iff`: the response to the last call is the one that decides
* `reports_iff`: the rejected uploads that report the entries of the backend
-/

namespace SearchIndex

/-- The failure is in a form that operations of a client report. -/
def Failure.isReported : Failure → Bool
  | .search _ _ | .upload _ _ _ => true
  | _ => false

namespace Wire

/-- **The result has no failure but one that operations report.** -/
def Typed (result : Except Failure Fields) : Prop :=
  ∀ f, result = .error f → f.isReported = true

@[simp] theorem typed_ok (fields : Fields) : Typed (.ok fields) := by
  intro f hf
  nomatch hf

@[simp] theorem typed_error {f : Failure} : Typed (.error f) ↔ f.isReported = true := by
  constructor
  · intro h
    exact h f rfl
  · rintro h _ ⟨⟩
    exact h

theorem typed_itemsOf_bind_throw_iff {v : Value} {message : String} {status : Option Int} :
    Typed (v.itemsOf >>= fun errors => throw (.upload message status errors)) ↔
      ∃ items, v.items? = some items := by
  rw [Value.itemsOf]
  cases v.items? with
  | none =>
    constructor
    · intro h
      nomatch h _ rfl
    · rintro ⟨items, ⟨⟩⟩
  | some items =>
    constructor
    · intro _
      exact ⟨items, rfl⟩
    · intro _ f hf
      cases hf
      rfl

/-! ## Calculations that report nothing -/

section Internal

variable {α β : Type}

/-- A calculation has no failure that operations report. -/
def Internal (x : Except Failure α) : Prop := ∀ f, x = .error f → f.isReported = false

theorem internal_ok (a : α) : Internal (.ok a) := by
  intro f hf
  nomatch hf

theorem internal_error {f : Failure} (h : f.isReported = false) :
    Internal (.error f : Except Failure α) := by
  rintro _ ⟨⟩
  exact h

theorem Internal.bind {x : Except Failure α} {k : α → Except Failure β} (hx : Internal x)
    (hk : ∀ a, Internal (k a)) : Internal (x >>= k) := by
  intro f hf
  cases x with
  | error g =>
    obtain rfl : g = f := Except.error.inj hf
    exact hx g rfl
  | ok a => exact hk a f hf

theorem internal_itemsOf (v : Value) : Internal v.itemsOf := by
  unfold Value.itemsOf
  split
  · exact internal_ok _
  · exact internal_error rfl

theorem internal_entriesFor (member : String) (v : Value) : Internal (v.entriesFor member) := by
  unfold Value.entriesFor
  split
  · exact internal_ok _
  · exact internal_error rfl

namespace Parameters

theorem internal_readJson [Json.Limits] (v : Value) : Internal (readJson v) := by
  unfold readJson
  split
  · next s =>
    cases Json.read s with
    | ok v => exact internal_ok v
    | error f => exact internal_error rfl
  · exact internal_error rfl

/-- A part is read, its entries or items are taken, and the rest cannot fail. -/
theorem internal_spread [Json.Limits] (name : String) (v : Value) : Internal (spread name v) := by
  unfold spread
  split
  · exact internal_ok _
  · exact ((internal_readJson v).bind (internal_entriesFor _)).bind fun _ => internal_ok _
  · exact ((internal_readJson v).bind (internal_entriesFor _)).bind fun _ => internal_ok _
  · exact ((internal_readJson v).bind internal_itemsOf).bind fun _ => internal_ok _
  · exact internal_ok _

theorem internal_spreadKey [Json.Limits] (key : Value.Key) (v : Value) :
    Internal (spreadKey key v) := by
  unfold spreadKey
  split
  · exact internal_spread _ v
  · exact internal_ok _

/-- **Parameters that cannot be spread out are not reported.** -/
theorem internal_ofRequest [Json.Limits] (compiled : Fields) : Internal (ofRequest compiled) := by
  suffices hfold : ∀ params : Fields, Internal (compiled.foldlM
      (fun params (e : Value.Key × Value) => do return assign params (← spreadKey e.1 e.2))
      params) from hfold []
  induction compiled with
  | nil => exact internal_ok
  | cons e compiled ih =>
    intro params
    rw [List.foldlM_cons]
    exact ((internal_spreadKey e.1 e.2).bind fun _ => internal_ok _).bind ih

end Parameters

end Internal

/-! ## What a response is decoded as -/

namespace Response

variable [Json.Limits] {r : Response} {payload : Fields} {what : String}

theorem exists_tooDeep (h : ¬ r.Readable) : ∃ what, Json.read r.body = .error (.tooDeep what) := by
  simpa [Readable] using h

theorem readable_of_read {v : Value} (h : Json.read r.body = .ok v) : r.Readable := by
  intro what hdeep
  rw [h] at hdeep
  nomatch hdeep

theorem decode_of_read (h : Json.read r.body = .ok (.map payload)) : r.decode = .ok payload := by
  rw [decode, (readable_of_read h).payload_eq, h]
  rfl

theorem decode_of_tooDeep (h : Json.read r.body = .error (.tooDeep what)) :
    r.decode = .error (.notJson r.body (.tooDeep what)) := by
  rw [decode, payload_of_tooDeep h]
  rfl

/-- A body that can be read holds fields, or the response is reported as rejected. -/
theorem Readable.decode_cases (h : r.Readable) :
    (∃ payload, Json.read r.body = .ok (.map payload)) ∨
      ∃ text, r.decode = .error (.search text (some r.status)) := by
  have hpayload := h.payload_eq
  cases hread : Json.read r.body with
  | error f =>
    refine .inr ⟨"Invalid JSON response: " ++ f.message r.body, ?_⟩
    rw [decode, hpayload, hread]
    rfl
  | ok v =>
    cases v with
    | map payload => exact .inl ⟨payload, rfl⟩
    | _ =>
      refine .inr ⟨"Unexpected response envelope", ?_⟩
      rw [decode, hpayload, hread]
      rfl

end Response

namespace Client

variable [Json.Limits] {r : Response} {payload : Fields}

/-- What an upload makes of an envelope that comes with a status of success. -/
theorem uploadResult_of_success (hs : r.status < 400)
    (h : Json.read r.body = .ok (.map payload)) :
    ∃ message, uploadResult r =
      if (Value.lookup payload "status").same (.text "error") = true then do
        let errors ← ((Value.lookup payload "errors").orElse (.list [])).itemsOf
        throw (.upload message (some r.status) errors)
      else .ok payload := by
  obtain ⟨message, hm⟩ := (Response.readable_of_read h).exists_message
  refine ⟨message, ?_⟩
  rw [uploadResult, if_pos hs, Response.decode_of_read h]
  have hstatus : ¬ 400 ≤ r.status := Int.not_le.2 hs
  simp only [bind, Except.bind, hm, hstatus, false_or]
  split <;> rfl

end Client

/-! ## The operations that have no other failures -/

namespace Operation

section Results

variable [Json.Limits] {op : Operation} {r : Response}

/-- The errors of an envelope that reports some can be gone through. -/
def Collects : Operation → Response → Prop
  | .search _, _ => True
  | .upload _, r => ∀ payload, Json.read r.body = .ok (.map payload) →
    (Value.lookup payload "status").same (.text "error") = true →
      ∃ items, ((Value.lookup payload "errors").orElse (.list [])).items? = some items

/-- **What comes of a call leads to a result without other failures**: an interruption may pass, and
the body of a response can be read, and has errors that can be gone through if its status is one of
success. -/
def Accounts (op : Operation) : Outcome → Prop
  | .interrupted cause _ => cause.transient = true
  | .response r => r.Readable ∧ (r.status < 400 → op.Collects r)

theorem Accounts.readable {o : Outcome} (h : op.Accounts o) : o.Readable := by
  cases o with
  | interrupted => trivial
  | response r => exact fun _ => h.1

/-- A body that cannot be decoded is the failure of a response with a status of success. -/
theorem decoded_of_decode_eq_error {f : Failure} (hs : r.status < 400) (h : r.decode = .error f) :
    op.decoded r = .error f := by
  cases op with
  | search compiled => exact (if_neg (Int.not_le.2 hs)).trans h
  | upload documents =>
    rw [decoded, Client.uploadResult, if_pos hs, h]
    rfl

/-- A report of a failure that may pass counts if it can be read. -/
theorem accounts_of_passes {o : Outcome} (hp : o.passes = true) (hr : o.Readable) :
    op.Accounts o := by
  cases o with
  | interrupted cause text => exact hp
  | response r =>
    have hs := le_status_of_passes hp
    exact ⟨hr hs, fun hlt => absurd hs (Int.not_le.2 hlt)⟩

/-- The body of a rejection is read as well, for its message. -/
theorem decoded_of_tooDeep {what : String} (h : Json.read r.body = .error (.tooDeep what)) :
    op.decoded r = .error (.notJson r.body (.tooDeep what)) := by
  by_cases hs : r.status < 400
  · exact decoded_of_decode_eq_error hs (Response.decode_of_tooDeep h)
  · have hstatus : 400 ≤ r.status := Int.not_lt.1 hs
    cases op with
    | search compiled =>
      rw [decoded, Client.searchResult, if_pos hstatus, Response.rejection,
        Response.message_of_tooDeep h]
      rfl
    | upload documents =>
      rw [decoded, Client.uploadResult, if_neg hs]
      simp only [hstatus, true_or, if_true, Response.message_of_tooDeep h]
      rfl

/-- **A response with a status of success** that can be read leads to no other failure exactly if
its errors can be gone through. -/
theorem typed_decoded_of_success (hs : r.status < 400) (hr : r.Readable) :
    Typed (op.decoded r) ↔ op.Collects r := by
  rcases hr.decode_cases with ⟨payload, hread⟩ | ⟨text, hdecode⟩
  · cases op with
    | search compiled =>
      have hdecoded : (search compiled).decoded r = .ok payload :=
        (if_neg (Int.not_le.2 hs)).trans (Response.decode_of_read hread)
      simp [hdecoded, Collects]
    | upload documents =>
      obtain ⟨message, hresult⟩ := Client.uploadResult_of_success hs hread
      have hcollects : (upload documents).Collects r ↔
          ((Value.lookup payload "status").same (.text "error") = true →
            ∃ items, ((Value.lookup payload "errors").orElse (.list [])).items? = some items) := by
        simp [Collects, hread]
      rw [decoded, hresult, hcollects]
      split
      · next hstatus => simpa [hstatus] using typed_itemsOf_bind_throw_iff
      · next hstatus => simp [hstatus]
  · have hreported : Typed (op.decoded r) := by
      rw [decoded_of_decode_eq_error hs hdecode]
      exact typed_error.2 rfl
    refine ⟨fun _ => ?_, fun _ => hreported⟩
    cases op with
    | search compiled => trivial
    | upload documents =>
      intro payload hread
      rw [Response.decode_of_read hread] at hdecode
      cases hdecode

theorem typed_decoded_iff :
    Typed (op.decoded r) ↔ r.Readable ∧ (r.status < 400 → op.Collects r) := by
  by_cases hr : r.Readable
  · by_cases hs : r.status < 400
    · simp [typed_decoded_of_success hs hr, hr, hs]
    · obtain ⟨message, hm⟩ := hr.exists_message
      rw [decoded_of_message (Int.not_lt.1 hs) hm]
      have hreported : (op.rejection message r.status).isReported = true := by
        cases op <;> rfl
      simp [hr, hs, hreported]
  · obtain ⟨what, hdeep⟩ := Response.exists_tooDeep hr
    have hfault : (Failure.notJson r.body (.tooDeep what)).isReported = false := rfl
    simp [decoded_of_tooDeep hdeep, hr, hfault]

/-- **The last outcomes that lead to a result without other failures.** -/
theorem typed_ending_iff {o : Outcome} :
    Typed (o.ending.bind op.decoded) ↔ op.Accounts o := by
  cases o with
  | interrupted cause text =>
    cases hc : cause.transient with
    | false =>
      have hfault : (Failure.interrupted cause text).isReported = false := rfl
      simp [Accounts, Outcome.ending, verdict, hc, Except.bind, hfault]
    | true =>
      have hreported : (Failure.search ("Search backend unreachable: " ++ text) none).isReported =
          true := rfl
      simp [Accounts, Outcome.ending, verdict, hc, Except.bind, hreported]
  | response r =>
    cases hp : (Outcome.response r).passes with
    | false =>
      rw [Outcome.ending, verdict_of_not_passes hp]
      exact typed_decoded_iff
    | true =>
      have hs : ¬ r.status < 400 := Int.not_lt.2 (le_status_of_passes hp)
      by_cases hr : r.Readable
      · obtain ⟨message, hm⟩ := hr.exists_message
        have hreported : (Failure.search message (some r.status)).isReported = true := rfl
        simp [Outcome.ending, verdict_of_message hp hm, Except.bind, Accounts, hr, hs, hreported]
      · obtain ⟨what, hdeep⟩ := Response.exists_tooDeep hr
        have hfault : (Failure.notJson r.body (.tooDeep what)).isReported = false := rfl
        simp [Outcome.ending, verdict_of_tooDeep hp hdeep, Except.bind, Accounts, hr, hfault]

section Runs

variable {client : Client} {c : Call} {l : Line}

/-- **An operation that makes its call** has no other failure exactly if every outcome up to the
one that decides leads to none: an outcome that may pass and can be read is repeated, so the calls
are all made. -/
theorem typed_attempt_run_iff (hc : op.call client = .ok c) :
    Typed ((op.run client Line.session).attempt l).1 ↔
      ∀ i ≤ decisive Outcome.passes (maxAttempts - 1) l.outcomes, op.Accounts (l.outcomes i) := by
  have hpasses : ∀ o : Outcome, o.again = true → o.passes = true :=
    fun o ho => (Outcome.again_iff.1 ho).1
  rw [attempt_run hc, typed_ending_iff]
  constructor
  · intro h
    have hn : decisive Outcome.again (maxAttempts - 1) l.outcomes =
        decisive Outcome.passes (maxAttempts - 1) l.outcomes := by
      refine Nat.le_antisymm (decisive_le_of_subset hpasses) (Nat.not_lt.1 fun hlt => ?_)
      have hstop := not_repeated_decisive (Nat.lt_of_lt_of_le hlt decisive_le_allowed)
      have hagain := Outcome.again_iff.2 ⟨repeated_of_lt_decisive hlt, h.readable⟩
      rw [hstop] at hagain
      cases hagain
    intro i hi
    rw [← hn] at hi
    rcases Nat.lt_or_eq_of_le hi with hlt | rfl
    · have hagain := Outcome.again_iff.1 (repeated_of_lt_decisive hlt)
      exact accounts_of_passes hagain.1 hagain.2
    · exact h
  · intro h
    have hn : decisive Outcome.again (maxAttempts - 1) l.outcomes =
        decisive Outcome.passes (maxAttempts - 1) l.outcomes :=
      Outcome.decisive_again_eq fun i hi => (h i (Nat.le_of_lt hi)).readable
    rw [hn]
    exact h _ (Nat.le_refl _)

end Runs

/-- **The operations that have no other failures**, whatever the outcomes and the random times:
exactly those whose parameters can be spread out and whose outcomes, up to the one that decides,
lead to none. -/
theorem typed_iff (client : Client) (op : Operation) (l : Line) :
    Typed ((op.run client Line.session).attempt l).1 ↔
      (∃ c, op.call client = .ok c) ∧
        ∀ i ≤ decisive Outcome.passes (maxAttempts - 1) l.outcomes,
          op.Accounts (l.outcomes i) := by
  cases hc : op.call client with
  | ok c => simp [typed_attempt_run_iff hc]
  | error f =>
    have hattempt : ((op.run client Line.session).attempt l).1 = .error f := by
      rw [run_eq, hc]
      rfl
    have hfault : f.isReported = false := by
      cases op with
      | upload documents => nomatch hc
      | search compiled =>
        refine Parameters.internal_ofRequest compiled f ?_
        cases hparams : Parameters.ofRequest compiled <;> rw [call, hparams] at hc <;> cases hc
        rfl
    simp [hattempt, hfault]

end Results

section

attribute [local instance] Json.Limits.usual

/-- A broken chunk ends a search with a failure of its own. -/
theorem not_typed_of_brokenChunk :
    let client : Client := ⟨"https://search-x", "https://doc-x", defaultTimeout⟩
    let l := lineOf (.interrupted .brokenChunk "Connection broken") (.response ⟨200, "\x7b\x7d"⟩)
    let result := ((search []).run client Line.session).attempt l
    result.1 = .error (.interrupted .brokenChunk "Connection broken") ∧ ¬ Typed result.1 := by
  intro client l result
  have hresult : result.1 = .error (.interrupted .brokenChunk "Connection broken") := rfl
  refine ⟨hresult, fun h => ?_⟩
  nomatch h _ hresult

end

/-! ## The entries that a rejected upload reports -/

section Entries

variable [Json.Limits] {r : Response}

/-- **The response to the last call of an upload**, which made so many calls. -/
def LastResponse (client : Client) (documents : List Value) (l : Line) (r : Response) : Prop :=
  ∃ n, (((upload documents).run client Line.session).attempt l).2 =
    l.after (client.uploadCall documents) 1 (n + 1) ∧ l.outcomes n = .response r

/-- An upload whose response reports a failure has no entries. -/
theorem uploadResult_of_message {message : String} (h : 400 ≤ r.status)
    (hm : r.message = .ok message) :
    Client.uploadResult r = .error (.upload message (some r.status) []) := by
  have hdecoded : (upload []).decoded r = .error ((upload []).rejection message r.status) :=
    decoded_of_message h hm
  exact hdecoded

section LastResponse

variable {client : Client} {documents : List Value} {l : Line}

/-- The last call is the one whose outcome decides, as the calls and pauses of the line tell how
many calls were made. -/
theorem lastResponse_iff : LastResponse client documents l r ↔
    l.outcomes (decisive Outcome.again (maxAttempts - 1) l.outcomes) = .response r := by
  have hcall : (upload documents).call client = .ok (client.uploadCall documents) := rfl
  have hrun := congrArg Prod.snd (attempt_run hcall l)
  dsimp only at hrun
  rw [LastResponse, hrun]
  constructor
  · rintro ⟨n, hline, hr⟩
    have hevents := congrArg (fun l : Line => l.events.length) hline
    simp only [Line.after, List.length_append, length_made] at hevents
    obtain rfl : decisive Outcome.again (maxAttempts - 1) l.outcomes = n := by omega
    exact hr
  · intro hr
    exact ⟨_, rfl, hr⟩

theorem LastResponse.attempt_eq (h : LastResponse client documents l r) :
    (((upload documents).run client Line.session).attempt l).1 =
      (Outcome.response r).ending.bind Client.uploadResult := by
  have hcall : (upload documents).call client = .ok (client.uploadCall documents) := rfl
  refine (congrArg Prod.fst (attempt_run hcall l)).trans ?_
  dsimp only
  rw [lastResponse_iff.1 h]
  rfl

/-- A last response that does not pass is decoded. -/
theorem LastResponse.attempt_eq_of_not_passes (h : LastResponse client documents l r)
    (hp : (Outcome.response r).passes = false) :
    (((upload documents).run client Line.session).attempt l).1 = Client.uploadResult r := by
  rw [h.attempt_eq, Outcome.ending, verdict_of_not_passes hp]
  rfl

end LastResponse

/-- **An upload reports entries**: if it is rejected, the failure has them, in their order, and the
status. -/
def Reports (result : Except Failure Fields) (errors : List Value) (status : Int) : Prop :=
  ∀ text code reported, result = .error (.upload text code reported) →
    reported = errors ∧ code = some status

section Reports

variable {payload : Fields} {errors : List Value}

/-- The entries of an envelope with a status of success are reported. -/
theorem reports_of_success (hs : r.status < 400) (hbody : Json.read r.body = .ok (.map payload))
    (herrors : Value.lookup payload "errors" = .list errors) :
    Reports (Client.uploadResult r) errors r.status := by
  obtain ⟨message, hresult⟩ := Client.uploadResult_of_success hs hbody
  have hitems : ((Value.lookup payload "errors").orElse (.list [])).itemsOf = .ok errors := by
    rw [herrors]
    cases errors <;> rfl
  intro text code reported hrejected
  rw [hresult, hitems] at hrejected
  split at hrejected
  · cases hrejected
    exact ⟨rfl, rfl⟩
  · nomatch hrejected

/-- A status that may pass is reported as that of a search. -/
theorem ending_of_passes (hp : (Outcome.response r).passes = true) (hr : r.Readable) :
    ∃ message, (Outcome.response r).ending = .error (.search message (some r.status)) := by
  obtain ⟨message, hm⟩ := hr.exists_message
  refine ⟨message, ?_⟩
  rw [Outcome.ending, verdict_of_message hp hm]

/-- **The uploads that report the entries of the backend**, given that the response to the last call
has some: exactly those whose response has a status of success, or one that may pass and is reported
as that of a search. With any other status the upload is rejected without entries. -/
theorem reports_iff {client : Client} {documents : List Value} {l : Line}
    (hlast : LastResponse client documents l r) (hbody : Json.read r.body = .ok (.map payload))
    (herrors : Value.lookup payload "errors" = .list errors) (hne : errors ≠ []) :
    let result := (((upload documents).run client Line.session).attempt l).1
    (Reports result errors r.status ↔ r.status < 400 ∨ r.status ∈ retryableStatuses) ∧
      (400 ≤ r.status → r.status ∉ retryableStatuses →
        ∃ text, result = .error (.upload text (some r.status) [])) := by
  intro result
  have hr : r.Readable := Response.readable_of_read hbody
  by_cases hp : (Outcome.response r).passes = true
  · have hmem : r.status ∈ retryableStatuses := List.contains_iff_mem.1 hp
    obtain ⟨message, hending⟩ := ending_of_passes hp hr
    have hresult : result = .error (.search message (some r.status)) := by
      refine hlast.attempt_eq.trans ?_
      rw [hending]
      rfl
    refine ⟨⟨fun _ => .inr hmem, fun _ text code reported hrejected => ?_⟩,
      fun _ hnot => absurd hmem hnot⟩
    rw [hresult] at hrejected
    nomatch hrejected
  · have hmem : r.status ∉ retryableStatuses := fun hmem => hp (List.contains_iff_mem.2 hmem)
    have hdecoded : result = Client.uploadResult r :=
      hlast.attempt_eq_of_not_passes (Bool.eq_false_iff.2 hp)
    by_cases hs : r.status < 400
    · refine ⟨⟨fun _ => .inl hs, fun _ => ?_⟩, fun hle => absurd hle (Int.not_le.2 hs)⟩
      rw [hdecoded]
      exact reports_of_success hs hbody herrors
    · obtain ⟨message, hm⟩ := hr.exists_message
      have hrejected : result = .error (.upload message (some r.status) []) :=
        hdecoded.trans (uploadResult_of_message (Int.not_lt.1 hs) hm)
      refine ⟨⟨fun hreports => ?_, fun h => ?_⟩, fun _ _ => ⟨message, hrejected⟩⟩
      · exact absurd (hreports _ _ _ hrejected).1.symm hne
      · rcases h with h | h
        · exact absurd h hs
        · exact absurd h hmem

end Reports

end Entries

/-- An entry of errors. -/
def rejectedEntry : Value := .map [("message", .text "Field x")]

/-- An envelope that reports the entry. -/
def rejectedBody : String :=
  "\x7b\"status\": \"error\", \"errors\": [\x7b\"message\": \"Field x\"\x7d]\x7d"

attribute [local instance] Json.Limits.usual

theorem read_rejectedBody : Json.read rejectedBody =
    .ok (.map [("status", .text "error"), ("errors", .list [rejectedEntry])]) := by
  cbv

theorem message_rejectedBody (status : Int) :
    (Response.mk status rejectedBody).message = .ok "Field x" := by
  have hread : (Response.mk status rejectedBody).Readable :=
    Response.readable_of_read read_rejectedBody
  rw [Response.message, hread.payload_eq, read_rejectedBody]
  rfl

/-- An interruption passes, and the upload is then rejected with a status of success: the failure
has the entry. -/
theorem reports_of_rejectedBody :
    let client : Client := ⟨"https://search-x", "https://doc-x", defaultTimeout⟩
    let l := lineOf (.interrupted .timeout "timed out") (.response ⟨200, rejectedBody⟩)
    let result := (((upload []).run client Line.session).attempt l).1
    LastResponse client [] l ⟨200, rejectedBody⟩ ∧
      result = .error (.upload "Field x" (some 200) [rejectedEntry]) ∧
      Reports result [rejectedEntry] 200 := by
  intro client l result
  have hp : (Outcome.response ⟨200, rejectedBody⟩).passes = false := by decide
  have hn : decisive Outcome.again (maxAttempts - 1) l.outcomes = 1 := by
    have hfirst : (l.outcomes 0).again = true := rfl
    have hnext : ¬ (l.outcomes 1).again = true := fun h =>
      Bool.eq_false_iff.1 hp (Outcome.again_iff.1 h).1
    rw [maxAttempts, decisive_succ, if_pos hfirst, decisive_succ, if_neg hnext]
  have hlast : LastResponse client [] l ⟨200, rejectedBody⟩ := by
    rw [lastResponse_iff, hn]
    rfl
  have hresult : result = .error (.upload "Field x" (some 200) [rejectedEntry]) := by
    refine (hlast.attempt_eq_of_not_passes hp).trans ?_
    have hs : (Response.mk 200 rejectedBody).status < 400 := by decide
    rw [Client.uploadResult, if_pos hs, Response.decode_of_read (r := ⟨200, rejectedBody⟩)
      read_rejectedBody]
    simp only [bind, Except.bind, message_rejectedBody]
    rfl
  have hreports :=
    (reports_iff hlast read_rejectedBody rfl (List.cons_ne_nil _ _)).1.2 (.inl (by decide))
  exact ⟨hlast, hresult, hreports⟩

/-- An upload that is rejected with another status loses the entry. -/
theorem not_reports_of_rejectedBody :
    let client : Client := ⟨"https://search-x", "https://doc-x", defaultTimeout⟩
    let l := lineOf (.response ⟨400, rejectedBody⟩) (.response ⟨200, "\x7b\x7d"⟩)
    let result := (((upload []).run client Line.session).attempt l).1
    LastResponse client [] l ⟨400, rejectedBody⟩ ∧
      result = .error (.upload "Field x" (some 400) []) ∧ ¬ Reports result [rejectedEntry] 400 := by
  intro client l result
  have hp : (Outcome.response ⟨400, rejectedBody⟩).passes = false := by decide
  have hn : decisive Outcome.again (maxAttempts - 1) l.outcomes = 0 := by
    have hfirst : ¬ (l.outcomes 0).again = true := fun h =>
      Bool.eq_false_iff.1 hp (Outcome.again_iff.1 h).1
    rw [maxAttempts, decisive_succ, if_neg hfirst]
  have hlast : LastResponse client [] l ⟨400, rejectedBody⟩ := by
    rw [lastResponse_iff, hn]
    rfl
  have hresult : result = .error (.upload "Field x" (some 400) []) :=
    (hlast.attempt_eq_of_not_passes hp).trans
      (uploadResult_of_message (by decide) (message_rejectedBody 400))
  refine ⟨hlast, hresult, fun hreports => ?_⟩
  exact List.cons_ne_nil _ _ (hreports _ _ _ hresult).1.symm

end Operation

end Wire

end SearchIndex
