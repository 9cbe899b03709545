import SearchIndex.Index.Gateway

/-!
# Rehearsed backends

A rehearsed backend answers searches from a script, the last response again and again, accepts
batches of operations, and rejects those whose numbers are given. It keeps what it was sent.

## Main definitions

* `Sent`: what a backend is sent
* `Script`: the responses, the batches to reject, and what was sent so far
* `Script.backend`: the backend of a script

## Main results

* `attempt_search`: a search is answered with the next response
-/

namespace SearchIndex.Index

/-- What a backend is sent. -/
inductive Sent where
  | search (compiled : Fields)
  | upload (documents : List Value)

/-- The responses to searches, the numbers of the batches to reject, counted from one, and what
was sent so far. -/
structure Script where
  responses : List Value := []
  rejected : List Int := []
  uploads : Nat := 0
  sent : List Sent := []

namespace Script

/-- The responses after one was given; the last one stays. -/
def advance : List Value → List Value
  | _ :: r :: rs => r :: rs
  | rs => rs

/-- The answer to a search. -/
def search (compiled : Fields) : Act Script Value :=
  Act.ofStep fun s =>
    (.ok (s.responses.headD (.map [])),
      { s with responses := advance s.responses, sent := s.sent ++ [.search compiled] })

/-- The script with a batch recorded. -/
def record (s : Script) (documents : List Value) : Script :=
  { s with uploads := s.uploads + 1, sent := s.sent ++ [.upload documents] }

/-- The answer to the batch that was recorded last. -/
def verdict (s : Script) (documents : List Value) : Except Failure Fields :=
  let number : Int := s.uploads
  if s.rejected.contains number then
    .error (.upload "rejected" (some 400) [.map [("n", .int number)]])
  else .ok [("status", .text "success"), ("count", .int documents.length)]

/-- The answer to a batch. -/
def upload (documents : List Value) : Act Script Fields :=
  Act.ofStep fun s =>
    let s := s.record documents
    (s.verdict documents, s)

/-- **The backend of a script.** -/
def backend : Backend Script where
  search := search
  upload := upload
  note _ := pure ()

theorem attempt_search (compiled : Fields) (s : Script) (r : Value) (rs : List Value)
    (h : s.responses = r :: rs) : ((search compiled).attempt s).1 = .ok r := by
  simp [search, Act.attempt_ofStep, h]

end Script

end SearchIndex.Index
