import SearchIndex.Config.Settings
import SearchIndex.Yaml.Document

/-!
# Configurations in documents

A configuration is written in a document, whose root is a map; a document without content is the
empty map. A second document can be laid over it.

## Main definitions

* `Settings.entriesOf`: the map of a document
* `Settings.ofDocument`: the settings of a document
* `Settings.ofDocuments`: the settings of a document with another one over it
-/

namespace SearchIndex.Config

/-- The map at the root of a document. -/
def rootOf (t : Tree) : Except Fault Entries :=
  if !t.truthy then .ok []
  else
    match t with
    | .map entries => .ok entries
    | _ => .error .rootNotAnObject

/-- **The map of a document.** -/
def entriesOf (text : String) : Except Fault Entries := do
  rootOf (← (Yaml.treeOfText text).mapError .unreadable)

/-- **The settings of a document.** -/
def Settings.ofDocument (environment : Environment) (text : String) : Except Fault Settings := do
  Settings.ofEntries environment (← entriesOf text)

/-- **The settings of a document with another one over it.** -/
def Settings.ofDocuments (environment : Environment) (base upper : String) :
    Except Fault Settings := do
  let base ← entriesOf base
  let upper ← entriesOf upper
  Settings.ofEntries environment (Tree.merge base upper)

end SearchIndex.Config
