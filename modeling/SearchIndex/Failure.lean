import SearchIndex.Config.Fault
import SearchIndex.Json.Reader
import SearchIndex.Query.Expression

/-!
# Failures

Everything an operation on the index, the queue or the command line can fail with, by cause. What
is reported about a failure is a function of the cause alone.

## Main definitions

* `Interruption`: how an exchange with the backend can break off
* `Interruption.transient`: trying again may help
* `Failure`: the causes of failures
* `Failure.message`: what is reported about a failure
-/

namespace SearchIndex

/-- How an exchange with the backend can break off. -/
inductive Interruption where
  | timeout
  | connectTimeout
  | readTimeout
  | connection
  | tls
  | proxy
  | invalidUrl
  | tooManyRedirects
  | brokenChunk
  | badValue
deriving DecidableEq, Repr

/-- Timeouts and broken connections may pass; the rest will not. -/
def Interruption.transient : Interruption → Bool
  | .timeout | .connectTimeout | .readTimeout | .connection | .tls | .proxy => true
  | .invalidUrl | .tooManyRedirects | .brokenChunk | .badValue => false

/-- The causes of failures. -/
inductive Failure where
  /-- Arithmetic has no answer. -/
  | arithmetic (fault : Number.Fault)
  /-- A part of a query is refused. -/
  | query (fault : Query.Fault)
  /-- A configuration is not in order. -/
  | config (fault : Config.Fault)
  /-- There is no such file. -/
  | noFile (path : String)
  /-- A folder is read like a file. -/
  | isAFolder (path : String)
  /-- A path leads through a file. -/
  | notAFolder (path : String)
  /-- A folder cannot be made where a file is. -/
  | fileExists (path : String)
  /-- A database cannot be opened. -/
  | cannotOpenDatabase
  /-- An endpoint is blank. -/
  | emptyEndpoint
  /-- A text is no JSON. -/
  | notJson (text : String) (fault : Json.Fault)
  /-- A value of a type has no such member. -/
  | noMember (typeName member : String)
  /-- A value of a type cannot be gone through. -/
  | notIterable (typeName : String)
  /-- A value of a type is no integer and no text of one. -/
  | notAnInteger (typeName : String)
  /-- A text stands for no integer. -/
  | badInteger (s : String)
  /-- A value of a type is no number. -/
  | notANumber (typeName : String)
  /-- A value of a type is no text. -/
  | notAText (typeName : String)
  /-- A value of a type is no key of a map. -/
  | notAKey (typeName : String)
  /-- A value of a type has no entries. -/
  | noEntries (typeName : String)
  /-- Keys of different types have no order. -/
  | mixedKeys
  /-- An item that should be a key and a value is neither. -/
  | notAPair (index : Nat)
  /-- An item that should be a key and a value has another length. -/
  | badPair (index length : Nat)
  /-- The backend rejected a request, or could not be reached if there is no status. -/
  | search (text : String) (status : Option Int)
  /-- The backend rejected documents, with the entries it reported. -/
  | upload (text : String) (status : Option Int) (errors : List Value)
  /-- An exchange broke off for a reason that will not pass. -/
  | interrupted (cause : Interruption) (text : String)
  /-- The script of a rehearsed exchange has run out. -/
  | scriptEnded
  /-- No repository serves a kind. -/
  | unknownKind (kind : Value)
  /-- A record has no such key. -/
  | missingKey (key : Value.Key)
  /-- An import path has no module. -/
  | emptyModule
  /-- No module has the name. -/
  | unknownModule (name : String)
  /-- A module lies in something that is no package. -/
  | notAPackage (name package : String)
  /-- A module is named relative to a package that is not given. -/
  | relativeModule
  /-- A module has no such attribute. -/
  | unknownAttribute (module name : String)
  /-- An attribute is neither a repository nor a maker of one. -/
  | notARepository (typeName : String)
  /-- An attribute makes nothing without arguments. -/
  | demanding (text : String)
  /-- A batch cannot be split into chunks of no item. -/
  | chunkSize
  /-- A size of this type is no number of items. -/
  | notASize (typeName : String)
  /-- A value cannot be held so many times. -/
  | tooManyCopies
  /-- A query cannot be run without a gateway. -/
  | noGateway
  /-- No action has the name. -/
  | unknownAction (shown : String)
  /-- Another connection holds the write lock. -/
  | databaseLocked
  /-- A transaction could not be committed. -/
  | commitRefused
  /-- A column of the queue that needs a value has none. -/
  | missingColumn (column : String)
  /-- A time lies before the epoch. -/
  | negativeTime
  /-- A value of this type cannot be stored. -/
  | unbindable
  /-- An integer does not fit into a column. -/
  | tooLargeToStore
  /-- The connection is closed. -/
  | connectionClosed
  /-- A table is there already. -/
  | tableExists (name : String)
  /-- There is no such table. -/
  | noSuchTable (name : String)
  /-- A table has no such column. -/
  | noSuchColumn (table column : String)
  /-- A statement breaks off at a word. -/
  | badStatement (word : String)
  /-- A statement holds a character that no statement holds. -/
  | brokenStatement
  /-- A name is kept for the storage library. -/
  | reservedName (name : String)
  /-- A table of the storage library cannot be dropped. -/
  | undroppable (name : String)
  /-- A file holds no database. -/
  | notADatabase
  /-- The storage library is too old. -/
  | storageTooOld (found : String)
  /-- The versions of migrations are not consecutive. -/
  | versionGap (expected got : Int) (description : String)
  /-- No search endpoint is configured. -/
  | noEndpoint (setting : String)
  /-- A name that is not one of a level is taken for one. -/
  | unknownLevel (name : String)
  /-- A value of a type is no level. -/
  | notALevel (typeName : String)
  /-- A path holds a character that no path holds. -/
  | brokenPath
deriving Repr

/-- A text with a status before it, if there is one. -/
def withStatus (text : String) (status : Option Int) : String :=
  match status with
  | none => text
  | some code => "[" ++ Decimal.intText code ++ "] " ++ text

/-- What is reported about a value that has no entries; texts and lists have items by position. -/
def noEntriesText (typeName : String) : String :=
  if typeName = "str" then "string indices must be integers, not 'str'"
  else if typeName = "list" then "list indices must be integers or slices, not str"
  else s!"'{typeName}' object is not subscriptable"

/-- **What is reported about a failure.** -/
def Failure.message : Failure → String
  | .arithmetic fault => fault.message
  | .query fault => fault.message
  | .config fault => fault.message
  | .noFile path => "[Errno 2] No such file or directory: " ++ Text.quote path
  | .isAFolder path => "[Errno 21] Is a directory: " ++ Text.quote path
  | .notAFolder path => "[Errno 20] Not a directory: " ++ Text.quote path
  | .fileExists path => "[Errno 17] File exists: " ++ Text.quote path
  | .cannotOpenDatabase => "unable to open database file"
  | .emptyEndpoint => "search endpoint cannot be empty"
  | .notJson text fault => fault.message text
  | .noMember typeName member => s!"'{typeName}' object has no attribute '{member}'"
  | .notIterable typeName => s!"'{typeName}' object is not iterable"
  | .notAnInteger typeName =>
    "int() argument must be a string, a bytes-like object or a real number, not " ++
      Text.quote typeName
  | .badInteger s => Text.notAnInteger 10 s
  | .notANumber typeName => "must be real number, not " ++ typeName
  | .notAText typeName => s!"expected string or bytes-like object, got '{typeName}'"
  | .notAKey typeName => s!"unhashable type: '{typeName}'"
  | .noEntries typeName => noEntriesText typeName
  | .mixedKeys => "'<' not supported between instances of different types"
  | .notAPair index => s!"cannot convert dictionary update sequence element #{index} to a sequence"
  | .badPair index length =>
    s!"dictionary update sequence element #{index} has length {length}; 2 is required"
  | .search text status => withStatus text status
  | .upload text status _ => withStatus text status
  | .interrupted _ text => text
  | .scriptEnded => "no response left"
  | .unknownKind kind => "No repository registered for entity type: " ++ kind.plain
  | .missingKey key => key.shown
  | .emptyModule => "Empty module name"
  | .unknownModule name => "No module named " ++ Text.quote name
  | .notAPackage name package =>
    "No module named " ++ Text.quote name ++ "; " ++ Text.quote package ++ " is not a package"
  | .relativeModule => "the 'package' argument is required to perform a relative import"
  | .unknownAttribute module name =>
    s!"module '{module}' has no attribute '{name}'"
  | .notARepository typeName => s!"'{typeName}' object is not callable"
  | .demanding text => text
  | .chunkSize => "chunk size must be positive"
  | .notASize typeName => s!"'{typeName}' object cannot be interpreted as an integer"
  | .tooManyCopies => "cannot fit 'int' into an index-sized integer"
  | .noGateway => "QueryBuilder has no gateway; pass one to run queries"
  | .unknownAction shown => shown ++ " is not a valid Action"
  | .databaseLocked => "database is locked"
  | .commitRefused => "commit refused"
  | .missingColumn column => "NOT NULL constraint failed: search_queue." ++ column
  | .negativeTime => "CHECK constraint failed: created_at >= 0"
  | .unbindable => "Error binding parameter"
  | .tooLargeToStore => "Python int too large to convert to SQLite INTEGER"
  | .connectionClosed => "Cannot operate on a closed database."
  | .tableExists name => s!"table {name} already exists"
  | .noSuchTable name => "no such table: " ++ name
  | .noSuchColumn table column => s!"table {table} has no column named {column}"
  | .badStatement word => "near \"" ++ word ++ "\": syntax error"
  | .brokenStatement => "the query contains a null character"
  | .reservedName name => "object name reserved for internal use: " ++ name
  | .undroppable name => s!"table {name} may not be dropped"
  | .notADatabase => "file is not a database"
  | .storageTooOld found =>
    s!"SQLite >= 3.24.0 is required (found {found}). Please upgrade your SQLite library."
  | .versionGap expected got description =>
    "Migration version gap: expected version " ++ Decimal.intText expected ++ ", got " ++
      Decimal.intText got ++ " (description: " ++ Text.quote description ++
      "). Migration versions must be consecutive starting from 1."
  | .noEndpoint setting =>
    "search.endpoint is not set. Set it in the config or the " ++ setting ++
      " environment variable."
  | .unknownLevel name => "Unknown level: " ++ Text.quote name
  | .notALevel typeName => "level must be an integer, not " ++ typeName
  | .brokenPath => "embedded null byte"

end SearchIndex
