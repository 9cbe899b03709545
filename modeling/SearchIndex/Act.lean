import SearchIndex.Failure

/-!
# Actions

An action changes a world and gives a result or fails. What it did to the world before it failed
stays done.

## Main definitions

* `Act σ α`: an action on worlds of type `σ`
* `Act.attempt a s`: the outcome of an action and the world after it
* `Act.ofExcept`: a computation as an action that leaves the world alone
* `Act.within`: an action on a part of the world
* `Act.ensuring a last`: an action, and another one after it whether it failed or not

## Main results

* `attempt_pure`, `attempt_bind`: the outcomes of the basic actions
-/

namespace SearchIndex

/-- An action that changes a world and gives a result or fails. -/
abbrev Act (σ : Type) := ExceptT Failure (StateM σ)

namespace Act

variable {σ τ α β : Type}

/-- The outcome of an action and the world after it. -/
def attempt (a : Act σ α) (s : σ) : Except Failure α × σ := (ExceptT.run a).run s

/-- A computation as an action that leaves the world alone. -/
def ofExcept (x : Except Failure α) : Act σ α := ExceptT.mk (pure x)

/-- An action by its effect on the world. -/
def ofStep (step : σ → Except Failure α × σ) : Act σ α := ExceptT.mk step

/-- An action on a part of the world. -/
def within (part : σ → τ) (put : τ → σ → σ) (a : Act τ α) : Act σ α :=
  ofStep fun s =>
    let (outcome, t) := a.attempt (part s)
    (outcome, put t s)

/-- **An action, and another one after it whether it failed or not.** -/
def ensuring (a : Act σ α) (last : Act σ Unit) : Act σ α :=
  ofStep fun s =>
    let (outcome, t) := a.attempt s
    match last.attempt t with
    | (.ok _, u) => (outcome, u)
    | (.error f, u) => (.error f, u)

theorem attempt_pure (x : α) (s : σ) : attempt (pure x) s = (.ok x, s) := rfl

theorem attempt_ofExcept (x : Except Failure α) (s : σ) : attempt (ofExcept x) s = (x, s) := rfl

theorem attempt_ofStep (step : σ → Except Failure α × σ) (s : σ) :
    attempt (ofStep step) s = step s := rfl

theorem attempt_bind (a : Act σ α) (k : α → Act σ β) (s : σ) :
    attempt (a >>= k) s =
      match attempt a s with
      | (.ok x, s') => attempt (k x) s'
      | (.error f, s') => (.error f, s') := by
  simp only [attempt, ExceptT.run_bind, StateT.run_bind]
  rcases h : (ExceptT.run a).run s with ⟨outcome, s'⟩
  cases outcome <;> simp <;> rfl

end Act

end SearchIndex
