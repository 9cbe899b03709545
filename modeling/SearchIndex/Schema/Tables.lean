import SearchIndex.Schema.Upgrade

/-!
# Databases of tables

A database by its tables and their columns. Statements add and drop tables, names being told apart
without regard to case; a text that is no statement is refused at its first word. The version of
the schema is recorded in a table of its own with one row.

## Main definitions

* `Table`: a name, columns, and the version if one is recorded in it
* `Statement`: the statements on tables
* `Statement.ofText`: the statement a text stands for
* `Tables.execute`, `Tables.record`: what statements do
* `Tables.engine`: databases of tables as databases to upgrade

## Main results

* `find?_drop`: a dropped table is gone
-/

namespace SearchIndex.Schema

/-- A name, columns, and the version if one is recorded in the table. -/
structure Table where
  name : String
  columns : List String := ["id"]
  version : Option Int := none
deriving DecidableEq, Repr

/-- A database by its tables. -/
abbrev Tables := List Table

/-- The statements on tables. -/
inductive Statement where
  /-- Add a table; if it is there already, that may be fine. -/
  | create (name : String) (columns : List String) (unlessThere : Bool)
  /-- Keep a table ordered by a column. -/
  | order (table column : String)
  /-- Remove a table. -/
  | drop (name : String)
  /-- A statement without effect. -/
  | probe
  /-- No statement, by its first word. -/
  | nonsense (word : String)
deriving DecidableEq, Repr

/-! ## Statements as texts -/

/-- The character stands between the words of a statement. -/
def isGap (c : Char) : Bool := c = ' ' || c = '\t' || c = '\n' || c = '\r' || c = '\x0c'

/-- The words of a statement; brackets and commas are words. -/
def wordsOf (s : String) : List String :=
  let spread := s.toList.flatMap fun c => if c ∈ ['(', ')', ','] then [' ', c, ' '] else [c]
  ((Text.splitBy isGap spread).filter (!·.isEmpty)).map String.ofList

/-- A letter, digit, underscore or dollar sign, or any character beyond ASCII. -/
def isWordChar (c : Char) : Bool := c.isAlphanum || c = '_' || c = '$' || 128 ≤ c.toNat

/-- A word can start with the character; some marks start one, but are not inside. -/
def startsWord (c : Char) : Bool := isWordChar c || c = '@' || c = ':' || c = '#'

/-- The first word of a text: letters, digits and underscores, or else one character. -/
def firstWord (s : String) : String :=
  match s.toList.dropWhile isGap with
  | [] => ""
  | c :: cs => String.ofList (if startsWord c then c :: cs.takeWhile isWordChar else [c])

/-- The names of the columns in the words after an opening bracket, at some depth of brackets:
the first word of each definition, unless it names a constraint. -/
def columnsFrom : Nat → Bool → List String → List String
  | _, _, [] => []
  | depth, _, "(" :: words => columnsFrom (depth + 1) false words
  | 0, _, ")" :: _ => []
  | depth + 1, _, ")" :: words => columnsFrom depth false words
  | 0, _, "," :: words => columnsFrom 0 true words
  | depth, first, word :: words =>
    let rest := columnsFrom depth false words
    if first && word.toUpper ≠ "PRIMARY" then word :: rest else rest

/-- The words that cannot be names. -/
def reservedWords : List String :=
  ["ADD", "ALL", "ALTER", "AND", "AS", "AUTOINCREMENT", "BETWEEN", "CASE", "CHECK", "COLLATE",
    "COMMIT", "CONSTRAINT", "CREATE", "DEFAULT", "DEFERRABLE", "DELETE", "DISTINCT", "DROP",
    "ELSE", "ESCAPE", "EXCEPT", "EXISTS", "FOREIGN", "FROM", "GROUP", "HAVING", "IN", "INDEX",
    "INSERT", "INTERSECT", "INTO", "IS", "ISNULL", "JOIN", "LIMIT", "NOT", "NOTHING", "NOTNULL",
    "NULL", "ON", "OR", "ORDER", "PRIMARY", "REFERENCES", "RETURNING", "SELECT", "SET", "TABLE",
    "THEN", "TO", "TRANSACTION", "UNION", "UNIQUE", "UPDATE", "USING", "VALUES", "WHEN", "WHERE"]

/-- A statement about a name; with a word that cannot be one, it breaks off there. -/
def Statement.about (name : String) (s : Statement) : Statement :=
  if reservedWords.contains name.toUpper then .nonsense name else s

/-- **The statement a text stands for.** -/
def Statement.ofText (s : String) : Statement :=
  let words := wordsOf s
  let at? (i : Nat) : String := (words[i]?).getD ""
  let key (i n : Nat) : List String := (List.range n).map fun k => (at? (i + k)).toUpper
  if key 0 5 = ["CREATE", "TABLE", "IF", "NOT", "EXISTS"] ∧ at? 6 = "(" then
    about (at? 5) (.create (at? 5) (columnsFrom 0 true (words.drop 7)) true)
  else if key 0 2 = ["CREATE", "TABLE"] ∧ at? 3 = "(" then
    about (at? 2) (.create (at? 2) (columnsFrom 0 true (words.drop 4)) false)
  else if key 0 5 = ["CREATE", "INDEX", "IF", "NOT", "EXISTS"] ∧ (at? 6).toUpper = "ON" then
    .order (at? 7) (at? 9)
  else if key 0 2 = ["DROP", "TABLE"] ∧ words.length = 3 then about (at? 2) (.drop (at? 2))
  else if key 0 1 = ["SELECT"] ∧ words.length = 2 then .probe
  else .nonsense (firstWord s)

namespace Tables

/-- Two names are the same but for their case. -/
def sameName (a b : String) : Bool := a.toLower == b.toLower

/-- The table with a name. -/
def find? (ts : Tables) (name : String) : Option Table :=
  List.find? (fun t => sameName t.name name) ts

/-- The database without a table. -/
def drop (ts : Tables) (name : String) : Tables := ts.filter fun t => !sameName t.name name

/-- The name is kept for the storage library. -/
def isReserved (name : String) : Bool := "sqlite_".toList.isPrefixOf name.toLower.toList

/-- The table of the storage library that has a name. -/
def libraryTable? (name : String) : Option String :=
  match name.toLower with
  | "sqlite_master" | "sqlite_schema" => some "sqlite_master"
  | "sqlite_temp_master" | "sqlite_temp_schema" => some "sqlite_temp_master"
  | _ => none

/-- What a statement does. -/
def perform (ts : Tables) : Statement → Except Failure Tables
  | .create name columns unlessThere =>
    if isReserved name then .error (.reservedName name)
    else
      match ts.find? name with
      | none => .ok (ts ++ [{ name := name, columns := columns }])
      | some _ => if unlessThere then .ok ts else .error (.tableExists name)
  | .order name column =>
    match ts.find? name with
    | none => .error (.noSuchTable ("main." ++ name))
    | some t =>
      if t.columns.any (sameName column) then .ok ts else .error (.noSuchColumn name column)
  | .drop name =>
    match ts.find? name, libraryTable? name with
    | some _, _ => .ok (ts.drop name)
    | none, some table => .error (.undroppable table)
    | none, none => .error (.noSuchTable name)
  | .probe => .ok ts
  | .nonsense word => .error (.badStatement word)

/-- **What the text of a statement does.** A text with a null character is none. -/
def execute (s : String) (ts : Tables) : Except Failure Tables :=
  if s.toList.contains (Char.ofNat 0) then .error .brokenStatement else ts.perform (.ofText s)

/-- The name of the table with the version. -/
def versionTable : String := "schema_version"

/-- The database with a table for the version. -/
def prepare (ts : Tables) : Except Failure Tables :=
  ts.perform (.create versionTable ["id", "version"] true)

/-- The table in which a version can be recorded. -/
def forVersion (ts : Tables) : Except Failure Table :=
  match ts.find? versionTable with
  | none => .error (.noSuchTable versionTable)
  | some t =>
    if t.columns.any (sameName "version") then .ok t
    else .error (.noSuchColumn versionTable "version")

/-- The recorded version. -/
def version? (ts : Tables) : Option Int := (ts.find? versionTable).bind Table.version

/-- Record a version. -/
def record (version : Int) (ts : Tables) : Except Failure Tables := do
  discard ts.forVersion
  return ts.map fun t => if sameName t.name versionTable then { t with version := version } else t

/-- **Databases of tables as databases to upgrade.** -/
def engine : Engine Tables where
  execute := execute
  prepare := prepare
  version ts := do return (← ts.forVersion).version.getD 0
  record := record

theorem find?_drop (ts : Tables) (name : String) : (ts.drop name).find? name = none := by
  simp [find?, drop]

end Tables

end SearchIndex.Schema
