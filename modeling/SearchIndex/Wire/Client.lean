import SearchIndex.Wire.Endpoint
import SearchIndex.Wire.Exchange
import SearchIndex.Wire.Parameters

/-!
# The client of a search domain

A client searches and uploads documents. A call is repeated when it was interrupted by something
that may pass, or answered with a status that may pass, up to four calls in all, with a pause
before each repetition that doubles from call to call and is at most eight seconds. What comes of
the last call decides.

## Main definitions

* `Client`: the addresses of a domain and the time allowed for a call
* `verdict`: what an outcome means for the call
* `Client.send`: a call with its repetitions
* `Client.search`, `Client.upload`: the two operations
-/

namespace SearchIndex.Wire

/-- The version of the interface when nothing else is said. -/
def defaultApiVersion : String := "2013-01-01"

/-- The seconds allowed for a call when nothing else is said. -/
def defaultTimeout : Value := .float 30.0

/-- The number of calls after which a client gives up. -/
def maxAttempts : Nat := 4

/-- The seconds of the first pause. -/
def basePause : Float := 0.8

/-- The seconds of the longest pause. -/
def maxPause : Float := 8.0

/-- The statuses that may pass. -/
def retryableStatuses : List Int := [429, 500, 502, 503, 504]

/-- The headers of every call. -/
def commonHeaders : Fields :=
  [("User-Agent", .text "search-sync/0.1"), ("Accept", .text "application/json")]

/-! ## What responses say -/

/-- The text of a status. -/
def statusText (status : Int) : String := "HTTP " ++ Decimal.intText status

/-- The text of an entry of reported errors: its message if it is a map with one. -/
def errorEntryText : Value → String
  | .map entries => ((Value.valueAt? entries "message").getD (.map entries)).plain
  | v => v.plain

/-- The message in a decoded response, if it holds one. -/
def reportedMessage? : Value → Option String
  | .map payload =>
    let nested : Option Value := match Value.lookup payload "error" with
      | .map inner => some (Value.lookup inner "message")
      | _ => none
    let given := Value.lookup payload "message"
    -- The nested message counts first, then the one beside it, then the entries.
    if (nested.getD .null).truthy then nested.map Value.plain
    else if given.truthy then some given.plain
    else
      match Value.lookup payload "errors" with
      | .list [] => none
      | .list errors => some ("; ".intercalate (errors.map errorEntryText))
      | _ => none
  | _ => none

/-- What a body holds; one that goes too deep is a failure of its own. -/
def Response.payload [Json.Limits] (r : Response) : Except Failure (Except Json.Fault Value) :=
  match Json.read r.body with
  | .error (.tooDeep what) => .error (.notJson r.body (.tooDeep what))
  | outcome => .ok outcome

/-- The message about a response: the one it holds, the text of a body that is no JSON, or its
status. -/
def Response.message [Json.Limits] (r : Response) : Except Failure String := do
  match ← r.payload with
  | .ok payload => return (reportedMessage? payload).getD (statusText r.status)
  | .error _ =>
    let body := Text.strip r.body
    return if body = "" then statusText r.status else body

/-- The fields of a response whose body is a map. -/
def Response.decode [Json.Limits] (r : Response) : Except Failure Fields := do
  match ← r.payload with
  | .error f => throw (.search ("Invalid JSON response: " ++ f.message r.body) (some r.status))
  | .ok (.map payload) => return payload
  | .ok _ => throw (.search "Unexpected response envelope" (some r.status))

/-- The failure that a response reports. -/
def Response.rejection [Json.Limits] (r : Response) : Except Failure Failure := do
  return .search (← r.message) (some r.status)

/-! ## Repetitions -/

/-- What an outcome means for a call. -/
inductive Verdict where
  /-- It is the answer. -/
  | answer (response : Response)
  /-- It ends the call. -/
  | abort (failure : Failure)
  /-- It may pass; the failure is what is noted of it, and `final` what is reported if it does
  not. -/
  | again (noted final : Failure)

/-- **What an outcome means for a call.** -/
def verdict [Json.Limits] : Outcome → Verdict
  | .response r =>
    if retryableStatuses.contains r.status then
      match r.rejection with
      | .ok f => .again f f
      | .error f => .abort f
    else .answer r
  | .interrupted cause text =>
    if cause.transient then
      .again (.interrupted cause text) (.search ("Search backend unreachable: " ++ text) none)
    else .abort (.interrupted cause text)

/-- The seconds of the pause after a call, counting calls from one. -/
def pauseAfter (attempt : Nat) (jitter : Float) : Float :=
  let seconds := basePause * Float.ofNat (twoTo (attempt - 1)) + jitter
  if maxPause < seconds then maxPause else seconds

/-- The note about a repetition. -/
def retryNote (attempt : Nat) (seconds : Float) (noted : Failure) : Log.Note :=
  .debug ("Search retry attempt=" ++ Decimal.natText attempt ++ "/" ++
    Decimal.natText maxAttempts ++ " delay=" ++ Decimal.fixed 2 seconds ++ "s error=" ++
    noted.message)

section

variable [Json.Limits] {σ : Type}

/-- A call that is made for the `attempt`-th time, with `left` repetitions allowed. -/
def sendFrom (s : Session σ) (c : Call) (attempt : Nat) : Nat → Act σ Response
  | 0 => do
    match verdict (← s.call c) with
    | .answer r => return r
    | .abort failure => throw failure
    | .again _ final => throw final
  | left + 1 => do
    match verdict (← s.call c) with
    | .answer r => return r
    | .abort failure => throw failure
    | .again noted _ => do
      let seconds := pauseAfter attempt (← s.jitter)
      s.note (retryNote attempt seconds noted)
      s.pause seconds
      sendFrom s c (attempt + 1) left

/-- **A call with its repetitions.** -/
def send (s : Session σ) (c : Call) : Act σ Response := sendFrom s c 1 (maxAttempts - 1)

end

/-! ## The operations of a client -/

/-- The addresses of a domain and the time allowed for a call. -/
structure Client where
  searchUrl : String
  documentsUrl : String
  timeout : Value := defaultTimeout
deriving Repr

namespace Client

/-- The client of an endpoint. Documents go to an endpoint of their own if it counts as true, else
to the one beside the endpoint for searches. -/
def ofEndpoint (endpoint documentEndpoint apiVersion timeout : Value) :
    Except Failure Client := do
  let endpoint ← endpoint.textFor "strip"
  let searchBase ← Endpoint.normalize endpoint
  let documentBase ←
    if documentEndpoint.truthy then do Endpoint.normalize (← documentEndpoint.textFor "strip")
    else Endpoint.forDocuments endpoint
  return {
    searchUrl := searchBase ++ "/" ++ apiVersion.plain ++ "/search"
    documentsUrl := documentBase ++ "/" ++ apiVersion.plain ++ "/documents/batch"
    timeout := timeout }

variable {σ : Type}

/-- The call of a search. -/
def searchCall (c : Client) (params : Fields) : Call :=
  { method := "GET", url := c.searchUrl, params := params, headers := commonHeaders,
    timeout := c.timeout }

/-- The call of an upload. -/
def uploadCall (c : Client) (documents : List Value) : Call :=
  { method := "POST", url := c.documentsUrl, data := Json.write Json.spaced (.list documents),
    headers := Keyed.put (.text "Content-Type") (.text "application/json") commonHeaders,
    timeout := c.timeout }

/-- What a response to a search gives. -/
def searchResult [Json.Limits] (r : Response) : Except Failure Fields := do
  if 400 ≤ r.status then throw (← r.rejection) else r.decode

/-- What a response to an upload gives. -/
def uploadResult [Json.Limits] (r : Response) : Except Failure Fields := do
  -- The body of a rejected upload is read for its message alone.
  let payload ← if r.status < 400 then r.decode else pure []
  if 400 ≤ r.status ∨ (Value.lookup payload "status").same (.text "error") then do
    let message ← r.message
    let errors ← ((Value.lookup payload "errors").orElse (.list [])).itemsOf
    throw (.upload message (some r.status) errors)
  else return payload

/-- **A search**: the fields of the response to compiled parameters. -/
def search [Json.Limits] (c : Client) (s : Session σ) (compiled : Fields) : Act σ Fields := do
  let params ← Act.ofExcept (Parameters.ofRequest compiled)
  let response ← send s (c.searchCall params)
  Act.ofExcept (searchResult response)

/-- **An upload**: the fields of the response to a batch of documents. -/
def upload [Json.Limits] (c : Client) (s : Session σ) (documents : List Value) : Act σ Fields := do
  let response ← send s (c.uploadCall documents)
  Act.ofExcept (uploadResult response)

end Client

end SearchIndex.Wire
