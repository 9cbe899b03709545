import SearchIndex.Act
import SearchIndex.Log.Level
import SearchIndex.Storage.Files
import SearchIndex.Text.Case
import SearchIndex.Value.Shape

/-!
# The journal

Notes go to the console and, if a command asks for it, to a file of its own. The console shows the
notes from a level on; a file holds everything from the level for finding faults on. What is set up
replaces what was set up before. Setting up can fail on the way: the old console and file are gone
by then, and the level from which notes are looked at is still the old one.

## Main definitions

* `Journal`: the levels, what the console showed, and the files
* `Options`: what is said about a log to be set up
* `Options.consoleLevel`: the level of the console
* `Options.path?`: the path of the file, if there is one
* `Journal.configure`: set up the log
* `Journal.record`: take a note

## Main results

* `file_record`: the file gets the notes at or above the threshold
-/

namespace SearchIndex.Log

open Storage (Path.join Path.parent Path.place)

/-- The levels, what the console showed, and the notes in the files by their places. -/
structure Journal where
  /-- The level from which notes are looked at. -/
  threshold : Int := warningLevel
  /-- The level from which the console shows notes, if there is a console. -/
  consoleLevel : Option Int := none
  /-- The place of the file that notes are written to, if there is one. -/
  file : Option String := none
  console : List Note := []
  files : List (String × List Note) := []
deriving Repr, Inhabited

/-! ## What is said about a log -/

/-- What is said about a log to be set up. -/
structure Options where
  /-- The name of the console's level. -/
  level : Value := .text "INFO"
  /-- The command that the log is for. -/
  command : Value := .null
  /-- Notes are written to a file, if the command has a name. -/
  toFile : Value := .bool false
  /-- The folder of files. -/
  folder : Value := .text "log"
deriving Repr, Inhabited

namespace Options

/-- What the name of the level stands for, in any case; the informing level when there is none. -/
def named (o : Options) : Except Failure Named := do
  let name ← (o.level.orElse (.text "INFO")).textFor "upper"
  return .ofName (Text.upper name)

/-- **The level of the console.** -/
def consoleLevel : Named → Except Failure Int
  | .level n => .ok n
  | .format text => .error (.unknownLevel text)
  | .styles => .error (.notALevel "dict")

/-- The folder of files when none is given. -/
def defaultFolder : String := "log"

/-- The file of a command, which is named for the command and the time. -/
def filePath (folder command stamp : String) : String :=
  Path.join (Path.join folder command) (command ++ "_" ++ stamp ++ ".log")

/-- **The path of the file**, if there is one. -/
def path? (o : Options) (stamp : String) : Except Failure (Option String) :=
  if o.toFile.truthy && o.command.truthy then do
    let folder ← (o.folder.orElse (.text defaultFolder)).textOf
    return some (filePath folder (← o.command.textOf) stamp)
  else .ok none

end Options

namespace Journal

/-- **The level from which notes are looked at** with a console of a level, and perhaps a file. -/
def thresholdOf (level : Int) (path : Option String) : Int :=
  if path.isSome then debugLevel
  else if level = 0 then warningLevel
  else level

/-- The journal without console and file. -/
def detach (j : Journal) : Journal := { j with consoleLevel := none, file := none }

/-- The journal with a file at a place, which is there from then on. -/
def opening (place : String) (j : Journal) : Journal :=
  { j with
    file := some place
    files := Keyed.put place ((Keyed.find? place j.files).getD []) j.files }

/-- Open the file at the end of a path, in a folder that is made if needed. -/
def openFile (makeFolder : String → Except Failure Unit) (path : String) : Act Journal Unit := do
  if Storage.Files.isBroken path then throw .brokenPath
  Act.ofExcept (makeFolder (Path.parent path))
  Act.ofStep fun j => (.ok (), j.opening (Path.place path))

/-- **Set up the log**: the path of its file, if it has one. -/
def configure (makeFolder : String → Except Failure Unit) (o : Options) (stamp : String) :
    Act Journal (Option String) := do
  let named ← Act.ofExcept o.named
  Act.ofStep fun j => (.ok (), j.detach)
  let level ← Act.ofExcept (Options.consoleLevel named)
  Act.ofStep fun j => (.ok (), { j with consoleLevel := some level })
  let path ← Act.ofExcept (o.path? stamp)
  path.forM (openFile makeFolder)
  Act.ofStep fun j => (.ok path, { j with threshold := thresholdOf level path })

/-! ## Notes -/

/-- The journal with nothing shown and no files. -/
def clear (j : Journal) : Journal := { j with console := [], files := [] }

/-- The files with a note in one that is still there. -/
def written (n : Note) (place : String) (files : List (String × List Note)) :
    List (String × List Note) :=
  if (Keyed.find? place files).isSome then Keyed.addTo place n files else files

/-- The console shows a note. -/
def shows (j : Journal) (n : Note) : Bool := j.consoleLevel.any (· ≤ n.level)

/-- **Take a note.** -/
def record (n : Note) (j : Journal) : Journal :=
  if n.level < j.threshold then j
  else { j with
    console := if j.shows n then j.console ++ [n] else j.console
    files := match j.file with
      | some place => written n place j.files
      | none => j.files }

theorem file_record {j : Journal} {place : String} {notes : List Note} {n : Note}
    (hf : j.file = some place) (hn : Keyed.find? place j.files = some notes)
    (h : j.threshold ≤ n.level) :
    (j.record n).files = Keyed.put place (notes ++ [n]) j.files := by
  simp [record, Int.not_lt.2 h, hf, written, hn, Keyed.addTo]

end Journal

end SearchIndex.Log
