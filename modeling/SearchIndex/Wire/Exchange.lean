import SearchIndex.Act
import SearchIndex.Log.Note

/-!
# Exchanges with the backend

An exchange is one call and what comes of it: a response with a status and a body, or an
interruption. Exchanges are made through a session, which also waits and takes notes.

## Main definitions

* `Call`, `Response`, `Outcome`: what is sent and what comes of it
* `Session σ`: how calls are made in a world of type `σ`
* `Session.within`: making calls in a part of the world
* `Network`: a world in which the outcomes of all calls are known beforehand
* `Network.session`: making calls in that world
-/

namespace SearchIndex.Wire

/-- A call of the backend. -/
structure Call where
  method : String
  url : String
  params : Option Fields := none
  data : Option String := none
  headers : Fields
  timeout : Value
deriving Repr

/-- A response of the backend. -/
structure Response where
  status : Int
  body : String
deriving DecidableEq, Repr, Inhabited

/-- What comes of a call. -/
inductive Outcome where
  | response (response : Response)
  | interrupted (cause : Interruption) (text : String)
deriving DecidableEq, Repr

/-- How calls are made. -/
structure Session (σ : Type) where
  /-- Make one call. -/
  call : Call → Act σ Outcome
  /-- Wait some seconds. -/
  pause : Float → Act σ Unit
  /-- A short random time, in seconds. -/
  jitter : Act σ Float
  /-- Take a note. -/
  note : Log.Note → Act σ Unit

/-- Making calls in a part of the world, with notes taken by `note`. -/
def Session.within {σ τ : Type} (part : σ → τ) (put : τ → σ → σ) (note : Log.Note → Act σ Unit)
    (s : Session τ) : Session σ where
  call c := (s.call c).within part put
  pause seconds := (s.pause seconds).within part put
  jitter := s.jitter.within part put
  note := note

/-- A world in which the outcomes of all calls are known beforehand. -/
structure Network where
  /-- The outcomes of the calls to come. -/
  outcomes : List Outcome := []
  /-- The random time, always the same. -/
  jitter : Float := 0.0
  /-- The calls made so far, the latest last. -/
  calls : List Call := []
  /-- The pauses made so far, the latest last. -/
  pauses : List Float := []

namespace Network

/-- A call takes the next outcome. -/
def call (c : Call) : Act Network Outcome :=
  Act.ofStep fun n =>
    let n := { n with calls := n.calls ++ [c] }
    match n.outcomes with
    | [] => (.error .scriptEnded, n)
    | outcome :: rest => (.ok outcome, { n with outcomes := rest })

/-- A pause is recorded. -/
def pause (seconds : Float) : Act Network Unit :=
  Act.ofStep fun n => (.ok (), { n with pauses := n.pauses ++ [seconds] })

/-- **Making calls in a world whose outcomes are known**, with notes taken by `note`. -/
def session (note : Log.Note → Act Network Unit) : Session Network where
  call := call
  pause := pause
  jitter := Act.ofStep fun n => (.ok n.jitter, n)
  note := note

end Network

end SearchIndex.Wire
