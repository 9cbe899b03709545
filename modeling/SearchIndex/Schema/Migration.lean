import SearchIndex.Failure
import SearchIndex.Text.Blank
import SearchIndex.Text.Digit
import SearchIndex.Text.Pieces

/-!
# Migrations

A migration takes the schema of a database to a version by a text of statements that semicolons
divide. The versions of a list of migrations count from one, and the storage library has to be new
enough to add an entry or reset it in one statement.

## Main definitions

* `Migration`: a version, what it is for, and its statements
* `Migration.statements`: the pieces of its text that are not blank
* `checkLibrary found`: the version of the storage library is not too old
* `checkVersions ms`: the versions of a list count from one
* `queueMigrations`: the schema of the queue

## Main results

* `checkVersions_eq_ok_iff`: the lists whose versions count from one
-/

namespace SearchIndex.Schema

/-- A version, what it is for, and its statements. -/
structure Migration where
  version : Int
  description : String
  sql : String
deriving DecidableEq, Repr

/-- **The statements of a migration**: the pieces of its text between semicolons that are not
blank. -/
def Migration.statements (m : Migration) : List String :=
  ((Text.splitOn ';' m.sql).map Text.strip).filter (· ≠ "")

/-- The numbers of a version of the storage library. -/
def versionNumbers (found : String) : Except Failure (List Int) :=
  (Text.splitOn '.' found).mapM fun part =>
    match Text.readInt? part with
    | some n => .ok n
    | none => .error (.badInteger part)

/-- The oldest version of the storage library that will do. -/
def oldestLibrary : List Int := [3, 24, 0]

/-- **The version of the storage library is not too old.** -/
def checkLibrary (found : String) : Except Failure Unit := do
  let numbers ← versionNumbers found
  if numbers < oldestLibrary then throw (.storageTooOld found)

/-- The versions of a list count from a number. -/
def checkVersionsFrom : Int → List Migration → Except Failure Unit
  | _, [] => .ok ()
  | expected, m :: ms =>
    if m.version = expected then checkVersionsFrom (expected + 1) ms
    else .error (.versionGap expected m.version m.description)

/-- **The versions of a list count from one.** -/
def checkVersions (ms : List Migration) : Except Failure Unit := checkVersionsFrom 1 ms

theorem checkVersionsFrom_eq_ok_iff {first : Int} {ms : List Migration} :
    checkVersionsFrom first ms = .ok () ↔
      ∀ (i : Nat) (h : i < ms.length), ms[i].version = first + i := by
  induction ms generalizing first with
  | nil => simp [checkVersionsFrom]
  | cons m ms ih =>
    by_cases hm : m.version = first
    · simp only [checkVersionsFrom, hm, ↓reduceIte, ih]
      constructor
      · intro h i hi
        cases i with
        | zero => simpa using hm
        | succ i =>
          have := h i (by simpa using hi)
          simp only [List.getElem_cons_succ, this]
          omega
      · intro h i hi
        have := h (i + 1) (by simpa using hi)
        simp only [List.getElem_cons_succ] at this
        rw [this]
        omega
    · simp only [checkVersionsFrom, hm, ↓reduceIte, reduceCtorEq, false_iff]
      intro h
      exact hm ((h 0 (Nat.zero_lt_succ _)).trans (Int.add_zero first))

theorem checkVersions_eq_ok_iff {ms : List Migration} :
    checkVersions ms = .ok () ↔ ∀ (i : Nat) (h : i < ms.length), ms[i].version = 1 + i :=
  checkVersionsFrom_eq_ok_iff

/-- The schema of the queue: its table, in which an intent has at most one row, and an index by
status. -/
def queueMigrations : List Migration :=
  [{ version := 1
     description := "Create search_queue table"
     sql := "
        CREATE TABLE IF NOT EXISTS search_queue (
          entry_id TEXT NOT NULL,
          entry_type TEXT NOT NULL,
          action VARCHAR(10) NOT NULL CHECK (length(action) <= 10),
          status INTEGER NOT NULL DEFAULT 0 CHECK (status IN (0, 1)),
          created_at INTEGER NOT NULL CHECK (created_at >= 0),
          PRIMARY KEY (entry_id, entry_type, action)
        );

        CREATE INDEX IF NOT EXISTS idx_search_queue_status
          ON search_queue(status);
    " }]

end SearchIndex.Schema
