import SearchIndex.Command.Request
import SearchIndex.Command.Upkeep
import SearchIndex.Config.Document
import SearchIndex.Index.Remote
import SearchIndex.Log.Journal

/-!
# Carrying out a command line

A desk is the world in which commands are carried out: text files, the environment, what modules
offer, the databases, the network, the journal, and what was printed. A command line that can be
read has its configuration read next; then the command works with its log set up, and a failure of
the command is noted.

## Main definitions

* `Desk`: the world of commands
* `Desk.configure`: the settings in the configuration that is named
* `Request.perform`: what a command does
* `Ending`: how a command line ends
* `Desk.run`: carry out a command line

## Main results

* `exitCode_eq_zero_iff`: only a command that is done, or help, exits with zero
-/

namespace SearchIndex.Command

/-- The world of commands. -/
structure Desk where
  files : Storage.Files := []
  environment : Config.Environment := []
  catalog : Entity.Catalog := []
  /-- The time as it stands in the names of files. -/
  stamp : String := ""
  pool : Storage.Pool := {}
  network : Wire.Network := {}
  journal : Log.Journal := {}
  /-- What was printed, the latest last. -/
  printed : List String := []

namespace Desk

/-- Print a text on a line of its own. -/
def print (text : String) : Act Desk Unit :=
  Act.ofStep fun d => (.ok (), { d with printed := d.printed ++ [text] })

/-- Take a note. -/
def note (n : Log.Note) : Act Desk Unit :=
  Act.ofStep fun d => (.ok (), { d with journal := d.journal.record n })

/-- Making calls on the network. -/
def session : Wire.Session Desk :=
  (Wire.Network.session fun _ => pure ()).within Desk.network
    (fun n d => { d with network := n }) note

/-- Keeping the databases. -/
def keeper : Storage.Keeper Desk := ⟨Desk.pool, fun p d => { d with pool := p }, note⟩

/-- The desk at the start, where databases lie among the files. -/
def new (files : Storage.Files) (environment : Config.Environment) (catalog : Entity.Catalog)
    (stamp : String) (clock : Except Failure Value) : Desk where
  files := files
  environment := environment
  catalog := catalog
  stamp := stamp
  pool := { disk := { clock := clock, files := files } }

/-- **The settings in the configuration that is named**: another one than the default is laid over
the default if there is one. -/
def configure (d : Desk) (configuration : String) : Except Failure Config.Settings := do
  if Storage.Path.normal configuration ≠ defaultConfiguration ∧
      d.files.isFile defaultConfiguration then
    let base ← (Config.entriesOf (← d.files.read defaultConfiguration)).mapError .config
    let upper ← (Config.entriesOf (← d.files.read configuration)).mapError .config
    (Config.Settings.ofEntries d.environment (Config.Tree.merge base upper)).mapError .config
  else
    let text ← d.files.read configuration
    (Config.Settings.ofDocument d.environment text).mapError .config

/-- What is said about the log of a command. -/
def logOptions (s : Config.LogSettings) (name : Name) : Log.Options :=
  { level := .text s.level, command := .text name.text, toFile := .bool s.toFile,
    folder := .text s.folder }

/-- The desk with a file where a path leads, which a command writes to. -/
def withFile (path : String) (d : Desk) : Desk :=
  { d with pool := { d.pool with disk := d.pool.disk.withFile path } }

/-- Set up the log of a command, with a note about its file. -/
def openJournal (s : Config.LogSettings) (name : Name) : Act Desk Unit := do
  let d ← Act.ofStep fun d => (.ok d, d)
  let configure := Log.Journal.configure d.pool.disk.present.makeFolder (logOptions s name) d.stamp
  let path ← configure.within Desk.journal fun j d => { d with journal := j }
  path.forM fun path => do
    Act.ofStep fun d => (.ok (), d.withFile path)
    note (.debug ("Writing log to " ++ path))

end Desk

/-! ## Requests -/

/-- The gateway and the repositories of the settings. -/
def parts [Json.Limits] (s : Config.Settings) :
    Act Desk (Index.Gateway Desk × Entity.Registry) := do
  let gateway ← Act.ofExcept (Index.Gateway.ofSettings s.search Desk.session)
  let d ← Act.ofStep fun d => (.ok d, d)
  let paths := s.repositories.map fun (kind, path) => (Value.Key.text kind, Value.text path)
  return (gateway, ← Entity.Registry.ofPaths Desk.note d.catalog paths)

/-- **What a command does.** -/
def Request.perform [Json.Limits] (s : Config.Settings) : Request → Act Desk Unit
  | .queue => do
    let (gateway, registry) ← parts s
    withQueue Desk.keeper s.storage.path fun q =>
      discard (deliver (Queue.Courier.ofParts q gateway registry (.int s.batchingSize)))
  | .status =>
    withQueue Desk.keeper s.storage.path fun q => discard (showCounts q Desk.print)
  | .requeue => withQueue Desk.keeper s.storage.path fun q => discard (putBack q)
  | .reindex how kind => do
    let (gateway, registry) ← parts s
    discard (how.run gateway registry kind s.batchingSize)
  | .query inquiry => do
    let gateway ← Act.ofExcept (Index.Gateway.ofSettings s.search Desk.session)
    let size := if inquiry.size = 0 then s.search.defaultSize else inquiry.size
    discard ({ inquiry with size := size }.run gateway Desk.print)

/-! ## Command lines -/

/-- How a command line ends. -/
inductive Ending where
  | done
  | stopped (why : Stop)
  /-- The command failed, and its failure is in the log. -/
  | aborted
  /-- There was no way to a command and its log. -/
  | failed (why : Failure)
deriving Repr

/-- What is told to whoever gave the command line. -/
def Ending.exitCode : Ending → UInt8
  | .done | .stopped .help => 0
  | .aborted | .failed _ => 1
  | .stopped .usage => 2

theorem exitCode_eq_zero_iff {e : Ending} : e.exitCode = 0 ↔ e = .done ∨ e = .stopped .help := by
  rcases e with _ | (_ | _) | _ | _ <;> simp [Ending.exitCode]

namespace Desk

/-- Carry out a request with its log set up. -/
def carryOut [Json.Limits] (s : Config.Settings) (name : Name) (request : Request) (d : Desk) :
    Ending × Desk :=
  match (openJournal s.log name).attempt d with
  | (.error f, d) => (.failed f, d)
  | (.ok (), d) =>
    match (request.perform s).attempt d with
    | (.ok (), d) => (.done, d)
    | (.error f, d) =>
      let note := Log.Note.error (name.title ++ " failed: " ++ f.message)
      (.aborted, { d with journal := d.journal.record note })

/-- **Carry out a command line.** -/
def run [Json.Limits] (words : List String) (d : Desk) : Ending × Desk :=
  match Invocation.ofWords d.files words with
  | .error why => (.stopped why, d)
  | .ok invocation =>
    match d.configure invocation.configuration with
    | .error f => (.failed f, d)
    | .ok s =>
      -- Only now are the words for the command looked at.
      match Request.ofWords invocation.name invocation.words with
      | .error why => (.stopped why, d)
      | .ok request => d.carryOut s invocation.name request

end Desk

end SearchIndex.Command
