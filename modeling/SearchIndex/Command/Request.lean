import SearchIndex.Command.Arguments
import SearchIndex.Command.Inquiry
import SearchIndex.Command.Reindexing
import SearchIndex.Storage.Files
import SearchIndex.Text.Digit

/-!
# Requests of the command line

A command line names a configuration, a command and what the command works on. It is read in two
parts, since the configuration is read before the arguments of the command are looked at.

## Main definitions

* `Name`: the commands
* `Stop`: why a command line is not carried out
* `Invocation.ofWords`: the configuration and the command
* `Request`, `Request.ofWords`: what is asked of a command

## Main results

* `ofText?_text`: a command is found by its name
-/

namespace SearchIndex.Command

/-- Why a command line is not carried out. -/
inductive Stop where
  /-- It asks for help. -/
  | help
  /-- It does not follow the rules. -/
  | usage
deriving DecidableEq, Repr

/-- The commands. -/
inductive Name where
  | queue
  | status
  | requeue
  | index
  | flush
  | query
deriving DecidableEq, Repr

namespace Name

/-- The word for a command. -/
def text : Name → String
  | queue => "queue"
  | status => "status"
  | requeue => "requeue"
  | index => "index"
  | flush => "flush"
  | query => "query"

/-- The word for a command at the start of a sentence. -/
def title : Name → String
  | queue => "Queue"
  | status => "Status"
  | requeue => "Requeue"
  | index => "Index"
  | flush => "Flush"
  | query => "Query"

/-- All commands. -/
def all : List Name := [queue, status, requeue, index, flush, query]

/-- The command with a name. -/
def ofText? (s : String) : Option Name := all.find? fun name => name.text = s

theorem ofText?_text (name : Name) : ofText? name.text = some name := by
  cases name <;> decide

/-- What may be given to a command. -/
def grammar : Name → Grammar
  | query => { options := ["--type", "--field", "--size"] }
  | _ => {}

end Name

/-- The configuration when none is named. -/
def defaultConfiguration : String := "config/default.yml"

/-- What may be given before a command. -/
def outerGrammar : Grammar := { options := ["--config"], mixed := false }

/-- The configuration, and a command with the words for it. -/
structure Invocation where
  configuration : String
  name : Name
  words : List String
deriving DecidableEq, Repr

/-- The command that words start with. Where a command should be, a word with a dash before it is
taken for an option again. -/
def commandOf (words : List String) : Except Stop (Name × List String) :=
  match words with
  | [] => .error .usage
  | word :: rest =>
    match Name.ofText? word with
    | some name => .ok (name, rest)
    | none =>
      -- What starts with a dash is read as an option once more.
      match outerGrammar.read words with
      | some given => .error (if given.help then .help else .usage)
      | none => .error .usage

/-- **The configuration and the command that words name.** A folder is no configuration. -/
def Invocation.ofWords (files : Storage.Files) (words : List String) : Except Stop Invocation :=
  match outerGrammar.read words with
  | none => .error .usage
  | some given =>
    let configuration := (given.option? "--config").getD defaultConfiguration
    if words.isEmpty then .error .usage
    else if given.help then .error .help
    else if configuration ≠ "" && files.isFolder configuration then .error .usage
    else (commandOf given.arguments).map fun (name, rest) => ⟨configuration, name, rest⟩

/-- What is asked of a command. -/
inductive Request where
  | queue
  | status
  | requeue
  | reindex (how : Reindexing) (kind : String)
  | query (inquiry : Inquiry)
deriving DecidableEq, Repr

/-- The inquiry for a phrase with options. -/
def inquiryOf (phrase : String) (given : Given) : Option Inquiry :=
  let inquiry (size : Int) : Inquiry :=
    { phrase := phrase, kind := given.option? "--type", field := given.option? "--field", size }
  match given.option? "--size" with
  | none => some (inquiry 0)
  | some text => (Text.readInt? text).map inquiry

/-- What is asked of a command by options and arguments. -/
def requestOf? (name : Name) (given : Given) : Option Request :=
  match name, given.arguments with
  | .queue, [] => some .queue
  | .status, [] => some .status
  | .requeue, [] => some .requeue
  | .index, [kind] => some (.reindex .bring kind)
  | .flush, [kind] => some (.reindex .take kind)
  | .query, [phrase] => (inquiryOf phrase given).map .query
  | _, _ => none

/-- **What is asked of a command.** -/
def Request.ofWords (name : Name) (words : List String) : Except Stop Request :=
  match name.grammar.read words with
  | none => .error .usage
  | some given =>
    if given.help then .error .help
    else
      match requestOf? name given with
      | some request => .ok request
      | none => .error .usage

end SearchIndex.Command
