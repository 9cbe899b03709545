import Mathlib.Data.List.TakeWhile
import SearchIndex.Config.Settings
import SearchIndex.Proofs.Merging
import SearchIndex.Proofs.Outcome

/-!
# Reading and checking settings

Settings are read first and checked afterwards. What is read of a setting is what its reader makes
of the tree at its path in the configuration, a section and a key in it, or its default. Checking
reports the first of the complaints that there are about the settings.

## Main definitions

* `Text.Filled cs`: the text holds a character that is not blank
* `setting? raw name field`: the tree of a setting
* `Reads read raw name field default v`: a value is read of a setting
* `Settings.basics`: the settings without import paths, and the entries these are in
* `Settings.ReadFrom raw s`: every value of the settings is read of its setting
* `Settings.complaints`: what is wrong with settings
* `IsImportPath path`: an import path names a module and an attribute

## Main results

* `Settings.ofEntries_eq`: reading, and then checking
* `optional_eq_ok_iff`, `required_eq_ok_iff`: what is read of a setting
* `Settings.readFrom_of_basics`: settings are read of their configuration
* `Settings.check_eq`: checking reports the first complaint
-/

namespace SearchIndex

/-! ## Texts -/

namespace Text

/-- The text holds a character that is not blank. -/
def Filled (cs : List Char) : Prop := ∃ c ∈ cs, isBlank c = false

theorem filled_dropWhile {cs : List Char} : Filled (cs.dropWhile isBlank) ↔ Filled cs := by
  constructor
  · rintro ⟨c, hc, hblank⟩
    exact ⟨c, (List.dropWhile_sublist _).mem hc, hblank⟩
  · rintro ⟨c, hc, hblank⟩
    rw [← List.takeWhile_append_dropWhile (p := isBlank) (l := cs), List.mem_append] at hc
    refine ⟨c, hc.resolve_left fun hc => ?_, hblank⟩
    rw [List.mem_takeWhile_imp hc] at hblank
    cases hblank

theorem strip_eq_empty_iff {s : String} : strip s = "" ↔ ¬Filled s.toList := by
  have hdrop (cs : List Char) : cs.dropWhile isBlank = [] ↔ ¬Filled cs := by
    simp [Filled]
  have hreverse (cs : List Char) : Filled cs.reverse ↔ Filled cs := by simp [Filled]
  rw [strip, String.ofList_eq_empty_iff, trim, trimEnd, trimStart, List.reverse_eq_nil_iff, hdrop,
    hreverse, filled_dropWhile]

end Text

namespace Config

/-! ## The setting at a path -/

/-- The tree of a setting: what the path of its section and its key leads to. -/
def setting? (raw : Entries) (name field : String) : Option Tree :=
  Tree.at? [.text name, .text field] (.map raw)

section Reading

variable {α : Type} {read : String → Tree → Except Fault α} {raw entries : Entries}
  {name field : String} {default v : α}

theorem setting?_of_map (h : Keyed.find? (.text name) raw = some (.map entries)) (field : String) :
    setting? raw name field = Keyed.find? (.text field) entries := by
  cases hfound : Keyed.find? (.text field) entries <;> simp [setting?, h, hfound]

theorem setting?_of_not_map (h : ∀ entries, Keyed.find? (.text name) raw ≠ some (.map entries))
    (field : String) : setting? raw name field = none := by
  cases hfound : Keyed.find? (.text name) raw with
  | none => simp [setting?, hfound]
  | some t =>
    have hmap : ¬t.IsMap := by
      rintro ⟨entries, rfl⟩
      exact h entries hfound
    simp [setting?, hfound, Tree.at?_cons_of_not_isMap hmap]

/-- The entries of a section hold its settings. -/
theorem find?_of_section? {found : Option Entries} (h : section? raw name = .ok found)
    (field : String) : Keyed.find? (.text field) (found.getD []) = setting? raw name field := by
  rw [section?] at h
  split at h
  · next hnone =>
    cases h
    exact (setting?_of_not_map (fun _ hmap => nomatch hnone.symm.trans hmap) field).symm
  · next hnull =>
    cases h
    exact (setting?_of_not_map (fun _ hmap => nomatch hnull.symm.trans hmap) field).symm
  · next hmap =>
    cases h
    exact (setting?_of_map hmap field).symm
  · cases h

theorem find?_of_optionalSection (h : optionalSection raw name = .ok entries) (field : String) :
    Keyed.find? (.text field) entries = setting? raw name field := by
  obtain ⟨found, hfound, hentries⟩ := bind_eq_ok_iff.1 h
  cases hentries
  exact find?_of_section? hfound field

theorem find?_of_requiredSection (h : requiredSection raw name = .ok entries) (field : String) :
    Keyed.find? (.text field) entries = setting? raw name field := by
  obtain ⟨found, hfound, hentries⟩ := bind_eq_ok_iff.1 h
  cases found with
  | none => cases hentries
  | some found =>
    cases hentries
    exact find?_of_section? hfound field

/-- **A value is read of a setting**: it is what the reader makes of the tree that is there, and
where there is none, the default. -/
def Reads (read : String → Tree → Except Fault α) (raw : Entries) (name field : String)
    (default : Option α) (v : α) : Prop :=
  match setting? raw name field with
  | some t => read (name ++ "." ++ field) t = .ok v
  | none => default = some v

theorem optional_eq_ok_iff
    (h : Keyed.find? (.text field) entries = setting? raw name field) :
    optional read entries name field default = .ok v ↔
      Reads read raw name field (some default) v := by
  rw [optional, Reads, h]
  cases setting? raw name field <;> simp

theorem required_eq_ok_iff
    (h : Keyed.find? (.text field) entries = setting? raw name field) :
    required read entries name field = .ok v ↔ Reads read raw name field none v := by
  rw [required, Reads, h]
  cases setting? raw name field <;> simp

end Reading

/-! ## Reading and checking -/

/-- The settings without import paths, and the entries that these are read of. -/
def Settings.basics (environment : Environment) (raw : Entries) :
    Except Fault (Settings × Entries) := do
  let log ← LogSettings.ofEntries raw
  let search ← SearchSettings.ofEntries environment raw
  let storage ← StorageSettings.ofEntries raw
  let queue ← optionalSection raw "queue"
  let batchingSize ← optional asInteger queue "queue" "batching_size" 100
  let paths ← optionalSection raw "entities"
  return (⟨log, search, storage, batchingSize, []⟩, paths)

/-- **Settings are read, and then checked.** -/
theorem Settings.ofEntries_eq (environment : Environment) (raw : Entries) :
    Settings.ofEntries environment raw = do
      let (s, paths) ← Settings.basics environment raw
      let repositories ← paths.mapM pathOf
      Settings.check { s with repositories }
      return { s with repositories } := by
  simp only [Settings.ofEntries, Settings.basics, repositoriesOf, bind_assoc, pure_bind]

/-! ## Settings and their configuration -/

/-- The settings of the log are read of their section. -/
structure LogSettings.ReadFrom (raw : Entries) (s : LogSettings) : Prop where
  level : ∃ level, Reads asText raw "log" "level" (some "INFO") level ∧ s.level = Text.upper level
  toFile : Reads asFlag raw "log" "to_file" (some false) s.toFile
  folder : Reads asText raw "log" "dir" (some "log") s.folder

/-- The settings of the backend that are checked are read of their section. -/
structure SearchSettings.ReadFrom (raw : Entries) (s : SearchSettings) : Prop where
  apiVersion : Reads asText raw "search" "api_version" none s.apiVersion
  timeout : Reads asFloat raw "search" "timeout" none s.timeout
  defaultSize : Reads asInteger raw "search" "default_size" (some 10) s.defaultSize
  typeField : Reads asText raw "search" "type_field" (some "searchable_type") s.typeField

/-- The settings of the queue's database are read of their section. -/
structure StorageSettings.ReadFrom (raw : Entries) (s : StorageSettings) : Prop where
  path : Reads asText raw "storage" "db_path" none s.path
  busyTimeout : Reads asFloat raw "storage" "busy_timeout" (some 30.0) s.busyTimeout

/-- **The settings that are checked are read of their sections.** -/
structure Settings.ReadFrom (raw : Entries) (s : Settings) : Prop where
  log : s.log.ReadFrom raw
  search : s.search.ReadFrom raw
  storage : s.storage.ReadFrom raw
  batchingSize : Reads asInteger raw "queue" "batching_size" (some 100) s.batchingSize

section Origins

variable {environment : Environment} {raw paths : Entries}

theorem LogSettings.readFrom_of_ofEntries {s : LogSettings}
    (h : LogSettings.ofEntries raw = .ok s) : s.ReadFrom raw := by
  obtain ⟨entries, hentries, h⟩ := bind_eq_ok_iff.1 h
  obtain ⟨level, hlevel, h⟩ := bind_eq_ok_iff.1 h
  obtain ⟨toFile, htoFile, h⟩ := bind_eq_ok_iff.1 h
  obtain ⟨folder, hfolder, h⟩ := bind_eq_ok_iff.1 h
  cases h
  have hfind := find?_of_optionalSection hentries
  exact ⟨⟨level, (optional_eq_ok_iff (hfind _)).1 hlevel, rfl⟩,
    (optional_eq_ok_iff (hfind _)).1 htoFile, (optional_eq_ok_iff (hfind _)).1 hfolder⟩

/-- The settings about endpoints are read first, and no check looks at them. -/
theorem SearchSettings.readFrom_of_ofEntries {s : SearchSettings}
    (h : SearchSettings.ofEntries environment raw = .ok s) : s.ReadFrom raw := by
  obtain ⟨entries, hentries, h⟩ := bind_eq_ok_iff.1 h
  obtain ⟨_, -, h⟩ := bind_eq_ok_iff.1 h
  obtain ⟨_, -, h⟩ := bind_eq_ok_iff.1 h
  obtain ⟨_, -, h⟩ := bind_eq_ok_iff.1 h
  obtain ⟨apiVersion, hapiVersion, h⟩ := bind_eq_ok_iff.1 h
  obtain ⟨timeout, htimeout, h⟩ := bind_eq_ok_iff.1 h
  obtain ⟨defaultSize, hdefaultSize, h⟩ := bind_eq_ok_iff.1 h
  obtain ⟨typeField, htypeField, h⟩ := bind_eq_ok_iff.1 h
  cases h
  have hfind := find?_of_requiredSection hentries
  exact ⟨(required_eq_ok_iff (hfind _)).1 hapiVersion, (required_eq_ok_iff (hfind _)).1 htimeout,
    (optional_eq_ok_iff (hfind _)).1 hdefaultSize, (optional_eq_ok_iff (hfind _)).1 htypeField⟩

theorem StorageSettings.readFrom_of_ofEntries {s : StorageSettings}
    (h : StorageSettings.ofEntries raw = .ok s) : s.ReadFrom raw := by
  obtain ⟨entries, hentries, h⟩ := bind_eq_ok_iff.1 h
  obtain ⟨path, hpath, h⟩ := bind_eq_ok_iff.1 h
  obtain ⟨busyTimeout, hbusyTimeout, h⟩ := bind_eq_ok_iff.1 h
  cases h
  have hfind := find?_of_requiredSection hentries
  exact ⟨(required_eq_ok_iff (hfind _)).1 hpath, (optional_eq_ok_iff (hfind _)).1 hbusyTimeout⟩

theorem Settings.readFrom_of_basics {s : Settings}
    (h : Settings.basics environment raw = .ok (s, paths)) :
    s.ReadFrom raw ∧ optionalSection raw "entities" = .ok paths := by
  obtain ⟨log, hlog, h⟩ := bind_eq_ok_iff.1 h
  obtain ⟨search, hsearch, h⟩ := bind_eq_ok_iff.1 h
  obtain ⟨storage, hstorage, h⟩ := bind_eq_ok_iff.1 h
  obtain ⟨queue, hqueue, h⟩ := bind_eq_ok_iff.1 h
  obtain ⟨size, hsize, h⟩ := bind_eq_ok_iff.1 h
  obtain ⟨entries, hentries, h⟩ := bind_eq_ok_iff.1 h
  cases h
  exact ⟨⟨LogSettings.readFrom_of_ofEntries hlog, SearchSettings.readFrom_of_ofEntries hsearch,
    StorageSettings.readFrom_of_ofEntries hstorage,
    (optional_eq_ok_iff (find?_of_optionalSection hqueue _)).1 hsize⟩, hentries⟩

end Origins

/-! ## Complaints -/

section Complaints

/-- The first of some complaints. -/
def firstOf : List Fault → Except Fault Unit
  | [] => .ok ()
  | fault :: _ => .error fault

theorem firstOf_eq_ok_iff {l : List Fault} : firstOf l = .ok () ↔ l = [] := by
  cases l <;> simp [firstOf]

theorem mem_of_firstOf_eq_error {l : List Fault} {fault : Fault}
    (h : firstOf l = .error fault) : fault ∈ l := by
  cases l with
  | nil => cases h
  | cons first l =>
    cases h
    exact List.mem_cons_self

theorem firstOf_append (l m : List Fault) :
    firstOf (l ++ m) = firstOf l >>= fun _ => firstOf m := by
  cases l <;> rfl

theorem firstOf_flatMap {α : Type} (f : α → List Fault) (l : List α) :
    firstOf (l.flatMap f) = l.forM fun a => firstOf (f a) := by
  induction l with
  | nil => rfl
  | cons a l ih =>
    rw [List.flatMap_cons, firstOf_append, ih]
    rfl

/-- A complaint, if there is a reason for it. -/
def complain (reason : Prop) [Decidable reason] (fault : Fault) : List Fault :=
  if reason then [fault] else []

variable {reason : Prop} [Decidable reason] {fault other : Fault}

theorem complain_eq_nil_iff : complain reason fault = [] ↔ ¬reason := by simp [complain]

theorem mem_complain_iff : other ∈ complain reason fault ↔ reason ∧ other = fault := by
  by_cases h : reason <;> simp [complain, h]

theorem firstOf_complain :
    firstOf (complain reason fault) = if reason then .error fault else .ok () := by
  by_cases h : reason <;> simp [complain, h, firstOf]

/-- Throwing with a reason, and going on without it. -/
theorem throw_or_bind (k : Unit → Except Fault Unit) :
    (if reason then (throw fault : Except Fault Unit) >>= k else k ()) =
      firstOf (complain reason fault) >>= k := by
  rw [firstOf_complain]
  by_cases h : reason
  · rw [if_pos h, if_pos h]
    rfl
  · rw [if_neg h, if_neg h]
    rfl

end Complaints

/-- What is wrong with the settings of the log. -/
def LogSettings.complaints (s : LogSettings) : List Fault :=
  complain (Log.levelOfName? s.level).isNone (.unknownLevel s.level) ++
    complain (s.toFile && !meaningful s.folder) .noLogFolder

/-- What is wrong with the settings of the backend. -/
def SearchSettings.complaints (s : SearchSettings) : List Fault :=
  complain (!meaningful s.apiVersion) (.blank "search.api_version") ++
    (complain (s.timeout ≤ 0.0) (.notPositive "search.timeout") ++
      (complain (s.defaultSize ≤ 0) (.notPositive "search.default_size") ++
        complain (!meaningful s.typeField) (.blank "search.type_field")))

/-- What is wrong with the settings of the queue's database. -/
def StorageSettings.complaints (s : StorageSettings) : List Fault :=
  complain (!meaningful s.path) (.blank "storage.db_path") ++
    complain (s.busyTimeout < 0.0) (.negative "storage.busy_timeout")

/-- **An import path names a module and an attribute**: there are characters that are not blank
before its first colon and after it. -/
def IsImportPath (path : String) : Prop :=
  ∃ module name, path.toList = module ++ ':' :: name ∧ ':' ∉ module ∧
    Text.Filled module ∧ Text.Filled name

theorem meaningful_iff {s : String} : meaningful s = true ↔ Text.Filled s.toList := by
  rw [meaningful, decide_eq_true_eq, Ne, Text.strip_eq_empty_iff, Classical.not_not]

theorem isImportPath_iff {path : String} :
    IsImportPath path ↔ ((Text.cutAt? [':'] path.toList).any fun (module, name) =>
      meaningful (String.ofList module) && meaningful (String.ofList name)) = true := by
  simp only [IsImportPath, Option.any_eq_true, Prod.exists, Bool.and_eq_true, meaningful_iff,
    String.toList_ofList, Text.cutAt?_singleton_eq_some_iff, and_assoc]

instance (path : String) : Decidable (IsImportPath path) :=
  decidable_of_iff _ isImportPath_iff.symm

/-- What is wrong with the import path of a kind. -/
def pathComplaints : String × String → List Fault
  | (kind, path) => complain (¬IsImportPath path) (.badPath kind path)

/-- **What is wrong with settings**, in the order in which it is checked. -/
def Settings.complaints (s : Settings) : List Fault :=
  s.log.complaints ++ (s.search.complaints ++ (s.storage.complaints ++
    (complain (s.batchingSize ≤ 0) (.notPositive "queue.batching_size") ++
      s.repositories.flatMap pathComplaints)))

theorem LogSettings.check_eq (s : LogSettings) : s.check = firstOf s.complaints := by
  simp only [LogSettings.check, LogSettings.complaints, firstOf_append, throw_or_bind]
  simp only [firstOf_complain]
  rfl

theorem SearchSettings.check_eq (s : SearchSettings) : s.check = firstOf s.complaints := by
  simp only [SearchSettings.check, SearchSettings.complaints, firstOf_append, throw_or_bind]
  simp only [firstOf_complain]
  rfl

theorem StorageSettings.check_eq (s : StorageSettings) : s.check = firstOf s.complaints := by
  simp only [StorageSettings.check, StorageSettings.complaints, firstOf_append, throw_or_bind]
  simp only [firstOf_complain]
  rfl

theorem checkPath_eq (e : String × String) : checkPath e = firstOf (pathComplaints e) := by
  obtain ⟨kind, path⟩ := e
  rw [pathComplaints, firstOf_complain]
  simp only [checkPath, isImportPath_iff]
  cases Text.cutAt? [':'] path.toList with
  | none => rfl
  | some cut =>
    obtain ⟨module, name⟩ := cut
    simp only [Option.any_some]
    split <;> rfl

/-- **Checking reports the first complaint.** -/
theorem Settings.check_eq (s : Settings) : s.check = firstOf s.complaints := by
  have hpaths : checkPath = fun e => firstOf (pathComplaints e) := funext checkPath_eq
  simp only [Settings.check, Settings.complaints, firstOf_append, firstOf_flatMap, hpaths,
    LogSettings.check_eq, SearchSettings.check_eq, StorageSettings.check_eq, checkBatchingSize,
    firstOf_complain]

end Config

end SearchIndex
