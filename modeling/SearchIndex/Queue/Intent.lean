import SearchIndex.Failure
import SearchIndex.Value.Text

/-!
# Intents

An intent says what should happen to one record in the index: its kind, its id, and whether it is
to be updated or deleted. In the queue an intent is waiting until it is claimed and running until
it is done.

## Main definitions

* `Action`: what should happen to a record
* `Intent`: an action on the record with an id and a kind
* `Status`: how far an intent is
* `Entry`: an intent with its status and the time it was last asked for
* `Action.read`: the action a value names

## Main results

* `Action.ofName?_name`: an action is found by its name
-/

namespace SearchIndex.Queue

/-- What should happen to a record in the index. -/
inductive Action where
  | update
  | delete
deriving DecidableEq, Repr, Inhabited

/-- The name of an action. -/
def Action.name : Action → String
  | .update => "update"
  | .delete => "delete"

/-- The action with a name. -/
def Action.ofName? (name : String) : Option Action :=
  if name = "update" then some .update
  else if name = "delete" then some .delete
  else none

theorem Action.ofName?_name (a : Action) : ofName? a.name = some a := by cases a <;> rfl

/-- **The action a value names.** -/
def Action.read (v : Value) : Except Failure Action :=
  match v.text?.bind ofName? with
  | some a => .ok a
  | none => .error (.unknownAction v.shown)

theorem Action.read_name (a : Action) : read (.text a.name) = .ok a := by cases a <;> rfl

/-- How far an intent is. -/
inductive Status where
  | waiting
  | running
deriving DecidableEq, Repr, Inhabited

/-- The number of a status. -/
def Status.code : Status → Int
  | .waiting => 0
  | .running => 1

/-- An action on the record with an id and a kind. -/
structure Intent where
  id : String
  kind : String
  action : Action
deriving DecidableEq, Repr, Inhabited

/-- An intent with its status and the time it was last asked for. -/
structure Entry where
  intent : Intent
  status : Status
  time : Int
deriving DecidableEq, Repr, Inhabited

end SearchIndex.Queue
