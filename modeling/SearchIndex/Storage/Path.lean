import SearchIndex.Text.Pieces

/-!
# Paths of files

A path is written with single slashes and without steps that stay where they are. Two paths lead to
the same file when they are the same after every step up has taken back the step before it.

## Main definitions

* `Path.steps p`: the steps of a path
* `Path.normal p`: a path as it is written
* `Path.name p`: the last step of a path
* `Path.parent p`: a path without its last step
* `Path.join p q`: a path from the end of another one
* `Path.place p`: where a path leads

## Main results

* `mem_steps`: no step is empty or stays where it is
-/

namespace SearchIndex.Storage.Path

/-- The path does not start from where one is. -/
def rooted (p : String) : Bool := p.toList.head? == some '/'

/-- The steps of a path. -/
def steps (p : String) : List String :=
  (Text.splitOn '/' p).filter fun step => step ≠ "" ∧ step ≠ "."

theorem mem_steps {p step : String} (h : step ∈ steps p) : step ≠ "" ∧ step ≠ "." := by
  simpa using (List.mem_filter.1 h).2

/-- The path of some steps. -/
def ofSteps (root : Bool) (steps : List String) : String :=
  if root then "/" ++ "/".intercalate steps
  else if steps.isEmpty then "."
  else "/".intercalate steps

/-- **A path as it is written.** -/
def normal (p : String) : String := ofSteps (rooted p) (steps p)

/-- The last step of a path. -/
def name (p : String) : String := (steps p).getLastD ""

/-- A path without its last step. -/
def parent (p : String) : String := ofSteps (rooted p) (steps p).dropLast

/-- A path from the end of another one; a path from the root leads there from anywhere. -/
def join (p q : String) : String :=
  if rooted q then normal q else ofSteps (rooted p) (steps p ++ steps q)

/-- The steps that lead somewhere, the last first. -/
def climb : List String → List String → List String
  | taken, [] => taken
  | taken, step :: steps =>
    if step = ".." then climb (taken.drop 1) steps else climb (step :: taken) steps

/-- **Where a path leads.** -/
def place (p : String) : String := ofSteps (rooted p) (climb [] (steps p)).reverse

end SearchIndex.Storage.Path
