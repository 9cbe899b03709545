import Std.Time.Format
import SearchIndex.Command.Desk

/-!
# The program

The program carries out its command line at a desk made from the files, the environment and the
time around it. It is linked with no backend and no modules: calls break off as they do without a
connection, import paths lead nowhere, and the queue lasts as long as the command.

## Main definitions

* `Surroundings.desk`: the desk for a command line
* `main`: carry out the command line
-/

namespace SearchIndex.Surroundings

open Command (Desk)

/-- The files among some paths that can be read. -/
def readFiles (paths : List String) : IO Storage.Files := do
  let found ← paths.mapM fun (path : String) => do
    try
      return some (Storage.Path.place path, ← IO.FS.readFile path)
    catch _ => return none
  return found.filterMap id

/-- The configuration that a command line names. -/
def configurationOf (words : List String) : String :=
  ((Command.outerGrammar.read words).bind (·.option? "--config")).getD Command.defaultConfiguration

/-- The environment variables that a desk's configuration asks for. -/
def environmentFor (d : Desk) (configuration : String) : IO Config.Environment := do
  match d.configure configuration with
  | .error _ => return []
  | .ok settings =>
    let name := settings.search.endpointVariable
    return ((← IO.getEnv name).map fun value => (name, value)).toList

/-- The network without a connection. -/
def silentNetwork : Wire.Network :=
  { outcomes := List.replicate Wire.maxAttempts (.interrupted .connection "no connection") }

/-- **The desk for a command line**, with the time as it stands in the names of files. -/
def desk (words : List String) (stamp : String) : IO Desk := do
  let configuration := configurationOf words
  let files ← readFiles [Command.defaultConfiguration, configuration]
  let seconds := (← Std.Time.Timestamp.now).toSecondsSinceUnixEpoch.val
  let d := Desk.new files [] [] stamp (.ok (.int seconds))
  return { d with
    environment := ← environmentFor d configuration, network := silentNetwork }

/-- Write the files of a journal. -/
def writeFiles (time : String) (files : List (String × List Log.Note)) : IO Unit :=
  files.forM fun (path, notes) => do
    IO.FS.createDirAll (Storage.Path.parent path)
    IO.FS.writeFile path ("".intercalate (notes.map fun n => time ++ " " ++ n.line ++ "\n"))

/-- Tell why there was no way to a command. -/
def complain : Command.Ending → IO Unit
  | .done => pure ()
  | .stopped .help => IO.println "commands: queue, status, requeue, index, flush, query"
  | .stopped .usage => IO.eprintln "The command line cannot be read; try --help."
  | .aborted => IO.eprintln "Aborted!"
  | .failed f => IO.eprintln f.message

end SearchIndex.Surroundings

open SearchIndex.Surroundings in
/-- **Carry out the command line.** -/
def main (words : List String) : IO UInt32 := do
  let _ := SearchIndex.Json.Limits.usual
  let now ← Std.Time.PlainDateTime.now
  let time := now.format "MM-dd HH:mm:ss"
  let (ending, d) := (← desk words (now.format "MMddHHmmss")).run words
  d.printed.forM IO.println
  d.journal.console.forM fun n => IO.eprintln (time ++ " " ++ n.line)
  writeFiles time d.journal.files
  complain ending
  return ending.exitCode.toUInt32
