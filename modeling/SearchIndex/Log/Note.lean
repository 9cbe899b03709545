import SearchIndex.Text.Lines

/-!
# Log notes

A note is a text with a level, a number that grows with its weight.

## Main definitions

* `Note`: a text and its level
* `Note.line`: the note as it is written, after its time
* `Note.lines`: the lines that a note fills
-/

namespace SearchIndex.Log

/-- A text and the weight it has. -/
structure Note where
  level : Int
  text : String
deriving DecidableEq, Repr, Inhabited

/-- The level of notes for finding faults. -/
def debugLevel : Int := 10

/-- The level of notes that inform. -/
def infoLevel : Int := 20

/-- The level of warnings. -/
def warningLevel : Int := 30

/-- The level of errors. -/
def errorLevel : Int := 40

/-- The level of errors that end everything. -/
def criticalLevel : Int := 50

namespace Note

/-- A note for finding faults. -/
def debug (text : String) : Note := ⟨debugLevel, text⟩

/-- A note that informs. -/
def info (text : String) : Note := ⟨infoLevel, text⟩

/-- A warning. -/
def warning (text : String) : Note := ⟨warningLevel, text⟩

/-- An error. -/
def error (text : String) : Note := ⟨errorLevel, text⟩

/-- The four letters of a level. -/
def mark (level : Int) : String :=
  if level = debugLevel then "DEBG"
  else if level = infoLevel then "INFO"
  else if level = warningLevel then "WARN"
  else if level = errorLevel ∨ level = criticalLevel then "ERRO"
  else if level = 0 then "NOTS"
  else "Leve"

/-- The note as it is written, after its time. -/
def line (n : Note) : String := "[" ++ mark n.level ++ "] " ++ n.text

/-- The lines that a note fills. -/
def lines (n : Note) : List String := Text.lines (n.line ++ "\n")

end Note

end SearchIndex.Log
