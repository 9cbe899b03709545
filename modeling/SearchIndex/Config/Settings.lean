import SearchIndex.Config.Fault
import SearchIndex.Config.Tree
import SearchIndex.Log.Level
import SearchIndex.Text.Blank
import SearchIndex.Text.Case
import SearchIndex.Text.Pieces

/-!
# Settings

The settings of the program, read from the sections of a configuration. First every section is
read, each setting having a type and some a default; then the values are checked. The endpoint of
the backend can come from an environment variable.

## Main definitions

* `Settings`: the settings of the program
* `Settings.ofEntries`: the settings of a configuration
* `Settings.check`: the values that the program can work with
-/

namespace SearchIndex.Config

/-- The settings of the log. -/
structure LogSettings where
  level : String := "INFO"
  toFile : Bool := false
  folder : String := "log"
deriving DecidableEq, Repr

/-- The settings of the backend. -/
structure SearchSettings where
  endpoint : String
  /-- The environment variable with the endpoint. -/
  endpointVariable : String
  documentEndpoint : String
  apiVersion : String
  timeout : Float
  defaultSize : Int
  typeField : String
deriving Repr

/-- The settings of the queue's database. -/
structure StorageSettings where
  path : String
  busyTimeout : Float
deriving Repr

/-- The settings of the program. -/
structure Settings where
  log : LogSettings
  search : SearchSettings
  storage : StorageSettings
  batchingSize : Int
  /-- The import paths of repositories by their kinds. -/
  repositories : List (String × String)
deriving Repr

/-! ## Reading sections and settings -/

section Reading

variable {α : Type}

/-- A section, if it is there. -/
def section? (raw : Entries) (key : String) : Except Fault (Option Entries) :=
  match Keyed.find? (.text key) raw with
  | none | some .null => .ok none
  | some (.map entries) => .ok (some entries)
  | some _ => .error (.notAnObject key)

/-- A section that may be missing. -/
def optionalSection (raw : Entries) (key : String) : Except Fault Entries := do
  return (← section? raw key).getD []

/-- A section that must be there. -/
def requiredSection (raw : Entries) (key : String) : Except Fault Entries := do
  match ← section? raw key with
  | some entries => return entries
  | none => throw (.missing key)

/-- A text. -/
def asText (place : String) : Tree → Except Fault String
  | .text s => .ok s
  | _ => .error (.notAText place)

/-- A truth value. -/
def asFlag (place : String) : Tree → Except Fault Bool
  | .bool b => .ok b
  | _ => .error (.notAFlag place)

/-- An integer. -/
def asInteger (place : String) : Tree → Except Fault Int
  | .int n => .ok n
  | _ => .error (.notAnInteger place)

/-- A number, as a float. -/
def asFloat (place : String) : Tree → Except Fault Float
  | .float x => .ok x
  | .int n => (Number.floatOfInt n).mapError fun _ => .tooLarge
  | _ => .error (.notANumber place)

/-- A setting that may be missing. -/
def optional (read : String → Tree → Except Fault α) (entries : Entries) (name field : String)
    (default : α) : Except Fault α :=
  match Keyed.find? (.text field) entries with
  | some t => read (name ++ "." ++ field) t
  | none => .ok default

/-- A setting that must be there. -/
def required (read : String → Tree → Except Fault α) (entries : Entries) (name field : String) :
    Except Fault α :=
  match Keyed.find? (.text field) entries with
  | some t => read (name ++ "." ++ field) t
  | none => .error (.missing (name ++ "." ++ field))

end Reading

/-! ## The sections -/

/-- The value of an environment variable. -/
abbrev Environment := List (String × String)

/-- The settings of the log. -/
def LogSettings.ofEntries (raw : Entries) : Except Fault LogSettings := do
  let entries ← optionalSection raw "log"
  let level ← optional asText entries "log" "level" "INFO"
  let toFile ← optional asFlag entries "log" "to_file" false
  let folder ← optional asText entries "log" "dir" "log"
  return ⟨Text.upper level, toFile, folder⟩

/-- The settings of the backend. -/
def SearchSettings.ofEntries (environment : Environment) (raw : Entries) :
    Except Fault SearchSettings := do
  let entries ← requiredSection raw "search"
  let endpointVariable ← optional asText entries "search" "endpoint_env" "CLOUDSEARCH_ENDPOINT"
  let endpoint ← optional asText entries "search" "endpoint" ""
  let documentEndpoint ← optional asText entries "search" "document_endpoint" ""
  let apiVersion ← required asText entries "search" "api_version"
  let timeout ← required asFloat entries "search" "timeout"
  let defaultSize ← optional asInteger entries "search" "default_size" 10
  let typeField ← optional asText entries "search" "type_field" "searchable_type"
  return {
    endpoint :=
      if Text.strip endpoint ≠ "" then Text.strip endpoint
      else if endpointVariable = "" then ""
      else Text.strip ((Keyed.find? endpointVariable environment).getD "")
    endpointVariable := endpointVariable
    documentEndpoint := Text.strip documentEndpoint
    apiVersion := apiVersion
    timeout := timeout
    defaultSize := defaultSize
    typeField := typeField }

/-- The settings of the queue's database. -/
def StorageSettings.ofEntries (raw : Entries) : Except Fault StorageSettings := do
  let entries ← requiredSection raw "storage"
  let path ← required asText entries "storage" "db_path"
  let busyTimeout ← optional asFloat entries "storage" "busy_timeout" 30.0
  return ⟨path, busyTimeout⟩

/-- An import path of a kind. -/
def pathOf : Key × Tree → Except Fault (String × String)
  | (.text kind, t) => (asText ("entities." ++ kind) t).map fun path => (kind, path)
  | (_, _) => .error (.keysNotTexts "entities")

/-- The import paths of repositories by their kinds. -/
def repositoriesOf (raw : Entries) : Except Fault (List (String × String)) := do
  (← optionalSection raw "entities").mapM pathOf

/-! ## Checks -/

/-- The text holds a character that is not blank. -/
def meaningful (s : String) : Bool := Text.strip s ≠ ""

/-- The level has a name, and files have a folder. -/
def LogSettings.check (s : LogSettings) : Except Fault Unit := do
  if (Log.levelOfName? s.level).isNone then throw (.unknownLevel s.level)
  if s.toFile && !meaningful s.folder then throw .noLogFolder

/-- The backend's settings can be worked with. -/
def SearchSettings.check (s : SearchSettings) : Except Fault Unit := do
  if !meaningful s.apiVersion then throw (.blank "search.api_version")
  if s.timeout ≤ 0.0 then throw (.notPositive "search.timeout")
  if s.defaultSize ≤ 0 then throw (.notPositive "search.default_size")
  if !meaningful s.typeField then throw (.blank "search.type_field")

/-- The database's settings can be worked with. -/
def StorageSettings.check (s : StorageSettings) : Except Fault Unit := do
  if !meaningful s.path then throw (.blank "storage.db_path")
  if s.busyTimeout < 0.0 then throw (.negative "storage.busy_timeout")

/-- A batch has at least one entry. -/
def checkBatchingSize (size : Int) : Except Fault Unit :=
  if size ≤ 0 then .error (.notPositive "queue.batching_size") else .ok ()

/-- An import path names a module and an attribute. -/
def checkPath : String × String → Except Fault Unit
  | (kind, path) =>
    match Text.cutAt? [':'] path.toList with
    | some (module, name) =>
      if meaningful (String.ofList module) && meaningful (String.ofList name) then .ok ()
      else .error (.badPath kind path)
    | none => .error (.badPath kind path)

/-- **The values that the program can work with.** -/
def Settings.check (s : Settings) : Except Fault Unit := do
  s.log.check
  s.search.check
  s.storage.check
  checkBatchingSize s.batchingSize
  s.repositories.forM checkPath

/-- **The settings of a configuration.** -/
def Settings.ofEntries (environment : Environment) (raw : Entries) : Except Fault Settings := do
  let log ← LogSettings.ofEntries raw
  let search ← SearchSettings.ofEntries environment raw
  let storage ← StorageSettings.ofEntries raw
  let queue ← optionalSection raw "queue"
  let batchingSize ← optional asInteger queue "queue" "batching_size" 100
  let repositories ← repositoriesOf raw
  let settings : Settings := ⟨log, search, storage, batchingSize, repositories⟩
  -- Everything is read before anything is checked.
  settings.check
  return settings

end SearchIndex.Config
