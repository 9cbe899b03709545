import SearchIndex.Keyed
import SearchIndex.Log.Note

/-!
# Names of levels

A name can stand for a level. Two names stand for other things of the log: the format of its lines
and the styles that formats can have.

## Main definitions

* `levelOfName? name`: the level with a name
* `Named`, `Named.ofName`: what a name stands for

## Main results

* `levelOfName?_isSome_iff`: the names of levels
-/

namespace SearchIndex.Log

/-- The levels by their names. -/
def levelNames : List (String × Int) :=
  [("CRITICAL", criticalLevel), ("FATAL", criticalLevel), ("ERROR", errorLevel),
    ("WARN", warningLevel), ("WARNING", warningLevel), ("INFO", infoLevel),
    ("DEBUG", debugLevel), ("NOTSET", 0)]

/-- **The level with a name.** -/
def levelOfName? (name : String) : Option Int := Keyed.find? name levelNames

theorem levelOfName?_isSome_iff {name : String} :
    (levelOfName? name).isSome ↔ name ∈ levelNames.map Prod.fst :=
  Keyed.find?_isSome_iff (Keyed.exact_of_lawful name)

/-- What a name stands for. -/
inductive Named where
  | level (n : Int)
  /-- The format of lines, which is a text. -/
  | format (text : String)
  /-- The styles of formats, which are a table. -/
  | styles
deriving DecidableEq, Repr

/-- The things of the log that are no levels, by their names. -/
def otherNames : List (String × Named) :=
  [("BASIC_FORMAT", .format "%(levelname)s:%(name)s:%(message)s"), ("_STYLES", .styles)]

/-- **What a name stands for**; an unknown one stands for the informing level. -/
def Named.ofName (name : String) : Named :=
  match levelOfName? name with
  | some n => .level n
  | none => (Keyed.find? name otherNames).getD (.level infoLevel)

end SearchIndex.Log
