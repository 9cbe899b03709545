import SearchIndex.Proofs.Inspection
import SearchIndex.Proofs.IntegerFloats

/-!
# Offences of configurations

A configuration offends by a section or setting that it needs and does not have, by a tree that is
not what is asked for at its place, and by entries of a section that are no import paths. What is
reported about a configuration is of two kinds, a wrong type or a wrong value, and names a place
that offends; with one exception. An integer where a span of time is asked for becomes a float when
it is read, and one that is too large for that is reported without its place.

## Main definitions

* `Fault.isComplaint`: a fault is a wrong type or a wrong value
* `Place`, `Kind`, `Demand`, `Rule`, `rules`: what is asked for at the places of a configuration
* `Offends raw place`: what a configuration has at a place is not what is asked for there
* `Named raw fault`: a fault is a complaint that names a place that offends
* `Follows raw rs x`: reading follows some rules

## Main results

* `follows_basics`: reading follows all rules, one after the other
* `named_of_check`: what is reported when settings are checked
* `named_iff`: everything that is reported is named, unless the first rule that a configuration
  breaks is a span of time that is given as an integer too large for a float
-/

namespace SearchIndex.Config

/-! ## What is asked for -/

/-- A fault is a wrong type or a wrong value. -/
def Fault.isComplaint : Fault → Bool
  | .notAnObject _ | .keysNotTexts _ | .notAText _ | .notAFlag _ | .notAnInteger _
  | .notANumber _ => true
  | .missing _ | .unknownLevel _ | .noLogFolder | .blank _ | .notPositive _ | .negative _
  | .badPath .. | .rootNotAnObject => true
  | .unreadable _ | .tooLarge => false

/-- A section, or a setting in one. -/
inductive Place where
  | whole (name : String)
  | inside (name field : String)
deriving DecidableEq

/-- How a place is written. -/
def Place.text : Place → String
  | .whole name => name
  | .inside name field => name ++ "." ++ field

/-- The tree at a place; a section without content is not there. -/
def Place.tree? (raw : Entries) : Place → Option Tree
  | .whole name =>
    match Keyed.find? (.text name) raw with
    | some .null => none
    | found => found
  | .inside name field => setting? raw name field

/-- The types of trees that are asked for. -/
inductive Kind where
  | map
  | text
  | flag
  | integer
  /-- A float, or an integer that becomes one. -/
  | number
deriving DecidableEq

/-- A tree has a type. -/
def Kind.fits : Kind → Tree → Bool
  | .map, .map _ | .text, .text _ | .flag, .bool _ | .integer, .int _ | .number, .int _
  | .number, .float _ => true
  | _, _ => false

/-- A tree is an integer that is to become a float, and no float is nearest to it. -/
def Kind.overflows : Kind → Tree → Bool
  | .number, .int n => decide (Number.BeyondFloats n)
  | _, _ => false

/-- What is asked for. -/
inductive Demand where
  | map
  | text
  | flag
  /-- The name of a level. -/
  | level
  /-- A text that is not blank. -/
  | filled
  /-- An integer above zero. -/
  | count
  /-- A span of time above zero. -/
  | positive
  /-- A span of time that can be zero. -/
  | nonnegative
deriving DecidableEq

/-- The type of what is asked for. -/
def Demand.kind : Demand → Kind
  | .map => .map
  | .text | .level | .filled => .text
  | .flag => .flag
  | .count => .integer
  | .positive | .nonnegative => .number

/-- **A tree is what is asked for.** -/
def Demand.Meets : Demand → Tree → Prop
  | .level, .text s => Text.upper s ∈ Log.levelNames.map Prod.fst
  | .filled, .text s => Text.Filled s.toList
  | .count, .int n | .positive, .int n => 0 < n
  | .nonnegative, .int n => 0 ≤ n
  | .positive, .float x => 0.0 < x
  | .nonnegative, .float x => 0.0 ≤ x
  | demand, t => demand.kind.fits t = true

theorem Demand.fits_of_meets {d : Demand} {t : Tree} (h : d.Meets t) : d.kind.fits t = true := by
  cases d <;> cases t <;> simp_all [Demand.Meets, Demand.kind, Kind.fits]

/-- What is asked for at a place, and whether something has to be there. -/
structure Rule where
  place : Place
  needed : Bool
  demand : Demand
deriving DecidableEq

/-- What is asked for in the section of the log. -/
def logRules : List Rule :=
  [⟨.whole "log", false, .map⟩, ⟨.inside "log" "level", false, .level⟩,
    ⟨.inside "log" "to_file", false, .flag⟩, ⟨.inside "log" "dir", false, .text⟩]

/-- What is asked for in the section of the backend. -/
def searchRules : List Rule :=
  [⟨.whole "search", true, .map⟩, ⟨.inside "search" "endpoint_env", false, .text⟩,
    ⟨.inside "search" "endpoint", false, .text⟩,
    ⟨.inside "search" "document_endpoint", false, .text⟩,
    ⟨.inside "search" "api_version", true, .filled⟩, ⟨.inside "search" "timeout", true, .positive⟩,
    ⟨.inside "search" "default_size", false, .count⟩,
    ⟨.inside "search" "type_field", false, .filled⟩]

/-- What is asked for in the section of the queue's database. -/
def storageRules : List Rule :=
  [⟨.whole "storage", true, .map⟩, ⟨.inside "storage" "db_path", true, .filled⟩,
    ⟨.inside "storage" "busy_timeout", false, .nonnegative⟩]

/-- What is asked for in the section of the queue. -/
def queueRules : List Rule :=
  [⟨.whole "queue", false, .map⟩, ⟨.inside "queue" "batching_size", false, .count⟩]

/-- **What is asked for of a configuration**, in the order in which it is read. -/
def rules : List Rule :=
  logRules ++ (searchRules ++ (storageRules ++ (queueRules ++ [⟨.whole "entities", false, .map⟩])))

namespace Rule

variable (raw : Entries) (r : Rule)

/-- What a configuration has at the place of a rule can be read. -/
def readable : Bool :=
  match r.place.tree? raw with
  | some t => r.demand.kind.fits t && !r.demand.kind.overflows t
  | none => !r.needed

/-- What a configuration has at the place of a rule is an integer too large for a float. -/
def overflows : Bool := (r.place.tree? raw).any r.demand.kind.overflows

/-- A configuration breaks a rule. -/
def Broken : Prop :=
  match r.place.tree? raw with
  | some t => ¬r.demand.Meets t
  | none => r.needed = true

theorem Broken.of_tree? {raw : Entries} {r : Rule} {t : Tree} (ht : r.place.tree? raw = some t)
    (h : ¬r.demand.Meets t) : r.Broken raw := by
  rw [Broken, ht]
  exact h

theorem Broken.of_none {raw : Entries} {r : Rule} (ht : r.place.tree? raw = none)
    (h : r.needed = true) : r.Broken raw := by
  rw [Broken, ht]
  exact h

end Rule

/-! ## Offences -/

/-- **What a configuration has at a place is not what is asked for there.** -/
inductive Offends (raw : Entries) : String → Prop
  | rule {r : Rule} : r ∈ rules → r.Broken raw → Offends raw r.place.text
  /-- Files of the log are asked for, and their folder is blank. -/
  | folder {s : String} : setting? raw "log" "to_file" = some (.bool true) →
    setting? raw "log" "dir" = some (.text s) → ¬Text.Filled s.toList → Offends raw "log.dir"
  /-- An entry of the import paths has a key that is no text. -/
  | key {entries : Entries} {key : Key} {t : Tree} :
    Keyed.find? (.text "entities") raw = some (.map entries) → (key, t) ∈ entries →
    (∀ s, key ≠ .text s) → Offends raw "entities"
  /-- An entry of the import paths is none. -/
  | path {entries : Entries} {kind : String} {t : Tree} :
    Keyed.find? (.text "entities") raw = some (.map entries) → (.text kind, t) ∈ entries →
    (∀ path, t = .text path → ¬IsImportPath path) → Offends raw ("entities." ++ kind)

/-- **A fault is a complaint that names a place that offends.** -/
def Named (raw : Entries) (fault : Fault) : Prop :=
  fault.isComplaint = true ∧ ∃ place, Offends raw place ∧ place.toList <:+: fault.message.toList

section Named

variable {raw : Entries} {fault : Fault} {place : String}

/-- A complaint that starts with its place names it. -/
theorem named_of_message (hc : fault.isComplaint = true) (ho : Offends raw place)
    (hm : ∃ rest, fault.message = place ++ rest) : Named raw fault := by
  obtain ⟨rest, hm⟩ := hm
  refine ⟨hc, place, ho, ?_⟩
  rw [hm, String.toList_append]
  exact (List.prefix_append _ _).isInfix

theorem named_missing (ho : Offends raw place) : Named raw (.missing place) := by
  refine ⟨rfl, place, ho, ?_⟩
  rw [Fault.message_missing, String.toList_append]
  exact (List.suffix_append _ _).isInfix

end Named

/-! ## Reading follows the rules -/

/-- What is reported where a rule cannot be read: a complaint that names a place, or for an integer
too large for a float, only that. -/
def Reported (raw : Entries) (r : Rule) (fault : Fault) : Prop :=
  r.readable raw = false ∧ if r.overflows raw then fault = .tooLarge else Named raw fault

section Reported

variable {raw : Entries} {r : Rule} {t : Tree} {fault : Fault}

theorem Kind.fits_of_overflows {kind : Kind} (h : kind.overflows t = true) :
    kind.fits t = true := by
  cases kind <;> cases t <;> simp_all [Kind.overflows, Kind.fits]

theorem reported_of_overflows (ht : r.place.tree? raw = some t)
    (h : r.demand.kind.overflows t = true) : Reported raw r .tooLarge := by
  refine ⟨by simp [Rule.readable, ht, h], ?_⟩
  rw [if_pos (by simp [Rule.overflows, ht, h])]

theorem reported_of_not_fits (hr : r ∈ rules) (ht : r.place.tree? raw = some t)
    (h : r.demand.kind.fits t = false) (hc : fault.isComplaint = true)
    (hm : ∃ rest, fault.message = r.place.text ++ rest) : Reported raw r fault := by
  have hsmall : r.demand.kind.overflows t = false := by
    rw [← Bool.not_eq_true]
    intro ho
    rw [Kind.fits_of_overflows ho] at h
    cases h
  have hbroken : r.Broken raw := .of_tree? ht fun hmeets => by
    rw [Demand.fits_of_meets hmeets] at h
    cases h
  refine ⟨by simp [Rule.readable, ht, h], ?_⟩
  rw [if_neg (by simp [Rule.overflows, ht, hsmall])]
  exact named_of_message hc (.rule hr hbroken) hm

theorem reported_of_none (hr : r ∈ rules) (ht : r.place.tree? raw = none)
    (h : r.needed = true) : Reported raw r (.missing r.place.text) := by
  refine ⟨by simp [Rule.readable, ht, h], ?_⟩
  rw [if_neg (by simp [Rule.overflows, ht])]
  exact named_missing (.rule hr (.of_none ht h))

end Reported

/-- **Reading follows some rules**: it succeeds if what is there for each of them can be read, and
reports the first one for which it cannot. -/
def Follows {α : Type} (raw : Entries) (rs : List Rule) (x : Except Fault α) : Prop :=
  match x with
  | .ok _ => rs.find? (fun r => !r.readable raw) = none
  | .error fault => ∃ r, rs.find? (fun r => !r.readable raw) = some r ∧ Reported raw r fault

section Follows

variable {α β : Type} {raw : Entries} {r : Rule} {rs rs' : List Rule} {x : Except Fault α}
  {k : α → Except Fault β}

theorem follows_pure (a : α) : Follows raw [] (pure a) := List.find?_nil

theorem Follows.append (hx : Follows raw rs x) (hk : ∀ a, x = .ok a → Follows raw rs' (k a)) :
    Follows raw (rs ++ rs') (x >>= k) := by
  cases x with
  | error fault =>
    obtain ⟨r, hr, hfault⟩ := hx
    refine ⟨r, ?_, hfault⟩
    rw [List.find?_append, hr]
    rfl
  | ok a =>
    have hnone : rs.find? (fun r => !r.readable raw) = none := hx
    have hka := hk a rfl
    show Follows raw (rs ++ rs') (k a)
    simpa [Follows, List.find?_append, hnone] using hka

theorem Follows.cons (hx : Follows raw [r] x) (hk : ∀ a, x = .ok a → Follows raw rs (k a)) :
    Follows raw (r :: rs) (x >>= k) := hx.append hk

theorem follows_single (hok : ∀ a, x = .ok a → r.readable raw = true)
    (herror : ∀ fault, x = .error fault → Reported raw r fault) : Follows raw [r] x := by
  cases x with
  | ok a => simp [Follows, hok a rfl]
  | error fault =>
    have hfault := herror fault rfl
    exact ⟨r, by simp [hfault.1], hfault⟩

end Follows

section Sections

variable {raw : Entries} {name : String} {needed : Bool} {fault : Fault}

theorem section?_eq_ok {found : Option Entries} (h : section? raw name = .ok found) :
    (Place.whole name).tree? raw = found.map Tree.map := by
  rw [section?] at h
  rw [Place.tree?]
  split at h
  · next hfind =>
    cases h
    rw [hfind]
    rfl
  · next hfind =>
    cases h
    rw [hfind]
    rfl
  · next hfind =>
    cases h
    rw [hfind]
    rfl
  · cases h

theorem section?_eq_error (h : section? raw name = .error fault) :
    fault = .notAnObject name ∧
      ∃ t, (Place.whole name).tree? raw = some t ∧ Kind.map.fits t = false := by
  rw [section?] at h
  rw [Place.tree?]
  split at h
  · cases h
  · cases h
  · cases h
  · next t hnull hmap hfind =>
    cases h
    rw [hfind]
    refine ⟨rfl, t, ?_, ?_⟩ <;> cases t <;> simp_all [Kind.fits]

theorem reported_of_section? (hr : ⟨.whole name, needed, .map⟩ ∈ rules)
    (h : section? raw name = .error fault) : Reported raw ⟨.whole name, needed, .map⟩ fault := by
  obtain ⟨rfl, t, ht, hmap⟩ := section?_eq_error h
  exact reported_of_not_fits hr ht hmap rfl ⟨_, rfl⟩

theorem follows_optionalSection (hr : ⟨.whole name, false, .map⟩ ∈ rules) :
    Follows raw [⟨.whole name, false, .map⟩] (optionalSection raw name) := by
  refine follows_single (fun entries h => ?_) fun fault h => ?_
  · obtain ⟨found, hfound, -⟩ := bind_eq_ok_iff.1 h
    cases found <;>
      simp [Rule.readable, section?_eq_ok hfound, Demand.kind, Kind.fits, Kind.overflows]
  · rcases bind_eq_error_iff.1 h with h | ⟨_, -, h⟩
    · exact reported_of_section? hr h
    · cases h

theorem follows_requiredSection (hr : ⟨.whole name, true, .map⟩ ∈ rules) :
    Follows raw [⟨.whole name, true, .map⟩] (requiredSection raw name) := by
  refine follows_single (fun entries h => ?_) fun fault h => ?_
  · obtain ⟨found, hfound, h⟩ := bind_eq_ok_iff.1 h
    cases found with
    | none => cases h
    | some found =>
      simp [Rule.readable, section?_eq_ok hfound, Demand.kind, Kind.fits, Kind.overflows]
  · rcases bind_eq_error_iff.1 h with h | ⟨found, hfound, h⟩
    · exact reported_of_section? hr h
    · cases found with
      | none =>
        cases h
        exact reported_of_none hr (section?_eq_ok hfound) rfl
      | some found => cases h

end Sections

/-! ## Settings -/

/-- **A reader takes the trees of a type**; an integer too large for a float is its only failure
that is no complaint starting with the place. -/
def Takes {α : Type} (read : String → Tree → Except Fault α) (kind : Kind) : Prop :=
  ∀ place t, match read place t with
    | .ok _ => kind.fits t = true ∧ kind.overflows t = false
    | .error fault => (kind.overflows t = true ∧ fault = .tooLarge) ∨
        (kind.fits t = false ∧ fault.isComplaint = true ∧ ∃ rest, fault.message = place ++ rest)

theorem takes_asText : Takes asText .text := by
  intro place t
  cases t with
  | text s => exact ⟨rfl, rfl⟩
  | null | bool | int | float | other | list | map => exact .inr ⟨rfl, rfl, _, rfl⟩

theorem takes_asFlag : Takes asFlag .flag := by
  intro place t
  cases t with
  | bool b => exact ⟨rfl, rfl⟩
  | null | int | float | text | other | list | map => exact .inr ⟨rfl, rfl, _, rfl⟩

theorem takes_asInteger : Takes asInteger .integer := by
  intro place t
  cases t with
  | int n => exact ⟨rfl, rfl⟩
  | null | bool | float | text | other | list | map => exact .inr ⟨rfl, rfl, _, rfl⟩

theorem takes_asFloat : Takes asFloat .number := by
  intro place t
  cases t with
  | float x => exact ⟨rfl, rfl⟩
  | int n =>
    cases hn : Number.floatOfInt n with
    | ok x =>
      have hsmall : ¬Number.BeyondFloats n := fun hlarge => by
        rw [Number.floatOfInt_eq_error_iff.2 ⟨hlarge, rfl⟩] at hn
        cases hn
      simp [asFloat, hn, Except.mapError, Kind.fits, Kind.overflows, hsmall]
    | error fault =>
      have hlarge := (Number.floatOfInt_eq_error_iff.1 hn).1
      simp [asFloat, hn, Except.mapError, Kind.overflows, hlarge]
  | null | bool | text | other | list | map => exact .inr ⟨rfl, rfl, _, rfl⟩

section Settings

variable {α : Type} {read : String → Tree → Except Fault α} {raw entries : Entries}
  {name field : String} {demand : Demand}

theorem follows_read {r : Rule} {t : Tree} (hread : Takes read r.demand.kind) (hr : r ∈ rules)
    (ht : r.place.tree? raw = some t) : Follows raw [r] (read r.place.text t) := by
  have htakes := hread r.place.text t
  refine follows_single (fun v h => ?_) fun fault h => ?_ <;> rw [h] at htakes
  · obtain ⟨hfits, hsmall⟩ := htakes
    simp [Rule.readable, ht, hfits, hsmall]
  · rcases htakes with ⟨hlarge, rfl⟩ | ⟨hfits, hc, hm⟩
    · exact reported_of_overflows ht hlarge
    · exact reported_of_not_fits hr ht hfits hc hm

theorem follows_required (hread : Takes read demand.kind)
    (hr : ⟨.inside name field, true, demand⟩ ∈ rules)
    (hfind : Keyed.find? (.text field) entries = setting? raw name field) :
    Follows raw [⟨.inside name field, true, demand⟩] (required read entries name field) := by
  cases ht : setting? raw name field with
  | none =>
    rw [required, hfind, ht]
    refine follows_single (by rintro _ ⟨⟩) ?_
    rintro _ ⟨⟩
    exact reported_of_none hr ht rfl
  | some t =>
    rw [required, hfind, ht]
    exact follows_read hread hr ht

theorem follows_optional (hread : Takes read demand.kind)
    (hr : ⟨.inside name field, false, demand⟩ ∈ rules)
    (hfind : Keyed.find? (.text field) entries = setting? raw name field) (default : α) :
    Follows raw [⟨.inside name field, false, demand⟩]
      (optional read entries name field default) := by
  cases ht : setting? raw name field with
  | none =>
    rw [optional, hfind, ht]
    exact follows_single (fun _ _ => by simp [Rule.readable, Place.tree?, ht]) (by rintro _ ⟨⟩)
  | some t =>
    rw [optional, hfind, ht]
    exact follows_read hread hr ht

end Settings

/-! ## Configurations -/

section Configurations

variable {environment : Environment} {raw : Entries}

theorem follows_log (raw : Entries) : Follows raw logRules (LogSettings.ofEntries raw) := by
  refine .cons (follows_optionalSection (by decide)) fun entries hentries => ?_
  have hfind := find?_of_optionalSection hentries
  refine .cons (follows_optional takes_asText (by decide) (hfind _) _) fun _ _ => ?_
  refine .cons (follows_optional takes_asFlag (by decide) (hfind _) _) fun _ _ => ?_
  refine .cons (follows_optional takes_asText (by decide) (hfind _) _) fun _ _ => ?_
  exact follows_pure _

theorem follows_search (environment : Environment) (raw : Entries) :
    Follows raw searchRules (SearchSettings.ofEntries environment raw) := by
  refine .cons (follows_requiredSection (by decide)) fun entries hentries => ?_
  have hfind := find?_of_requiredSection hentries
  refine .cons (follows_optional takes_asText (by decide) (hfind _) _) fun _ _ => ?_
  refine .cons (follows_optional takes_asText (by decide) (hfind _) _) fun _ _ => ?_
  refine .cons (follows_optional takes_asText (by decide) (hfind _) _) fun _ _ => ?_
  refine .cons (follows_required takes_asText (by decide) (hfind _)) fun _ _ => ?_
  refine .cons (follows_required takes_asFloat (by decide) (hfind _)) fun _ _ => ?_
  refine .cons (follows_optional takes_asInteger (by decide) (hfind _) _) fun _ _ => ?_
  refine .cons (follows_optional takes_asText (by decide) (hfind _) _) fun _ _ => ?_
  exact follows_pure _

theorem follows_storage (raw : Entries) :
    Follows raw storageRules (StorageSettings.ofEntries raw) := by
  refine .cons (follows_requiredSection (by decide)) fun entries hentries => ?_
  have hfind := find?_of_requiredSection hentries
  refine .cons (follows_required takes_asText (by decide) (hfind _)) fun _ _ => ?_
  refine .cons (follows_optional takes_asFloat (by decide) (hfind _) _) fun _ _ => ?_
  exact follows_pure _

/-- **Reading follows all rules**, one after the other. -/
theorem follows_basics (environment : Environment) (raw : Entries) :
    Follows raw rules (Settings.basics environment raw) := by
  refine .append (follows_log raw) fun _ _ => ?_
  refine .append (follows_search environment raw) fun _ _ => ?_
  refine .append (follows_storage raw) fun _ _ => ?_
  refine .cons (follows_optionalSection (by decide)) fun entries hentries => ?_
  have hfind := find?_of_optionalSection hentries
  refine .cons (follows_optional takes_asInteger (by decide) (hfind _) _) fun _ _ => ?_
  refine .cons (follows_optionalSection (by decide)) fun _ _ => ?_
  exact follows_pure _

/-- The entries that import paths are read of are in their section. -/
theorem find?_of_mem_optionalSection {name : String} {entries : Entries} {e : Key × Tree}
    (h : optionalSection raw name = .ok entries) (he : e ∈ entries) :
    Keyed.find? (.text name) raw = some (.map entries) := by
  obtain ⟨found, hfound, hentries⟩ := bind_eq_ok_iff.1 h
  cases hentries
  rw [section?] at hfound
  split at hfound <;> cases hfound
  · cases he
  · cases he
  · next hmap => exact hmap

theorem named_of_pathOf {entries : Entries} {e : Key × Tree} {fault : Fault}
    (h : optionalSection raw "entities" = .ok entries) (he : e ∈ entries)
    (hfault : pathOf e = .error fault) : Named raw fault := by
  have hfind := find?_of_mem_optionalSection h he
  obtain ⟨key, t⟩ := e
  cases key with
  | integer | fraction | nothing | other =>
    cases hfault
    exact named_of_message rfl (.key hfind he nofun) ⟨_, rfl⟩
  | text kind =>
    have htext : asText ("entities." ++ kind) t = .error fault := by
      cases ht : asText ("entities." ++ kind) t <;> simp_all [pathOf, Except.map]
    have hno : ∀ path, t = .text path → ¬IsImportPath path := by
      rintro path rfl
      cases htext
    have htakes := takes_asText ("entities." ++ kind) t
    rw [htext] at htakes
    obtain ⟨hlarge, -⟩ | ⟨-, hc, hm⟩ := htakes
    · cases hlarge
    · exact named_of_message hc (.path hfind he hno) hm

end Configurations

/-! ## Checks -/

section Checks

variable {raw : Entries} {place : String} {t : Tree} {fault : Fault}

theorem asText_eq_ok_iff {s : String} : asText place t = .ok s ↔ t = .text s := by
  cases t <;> simp [asText]

theorem asFlag_eq_ok_iff {b : Bool} : asFlag place t = .ok b ↔ t = .bool b := by
  cases t <;> simp [asFlag]

theorem asInteger_eq_ok_iff {n : Int} : asInteger place t = .ok n ↔ t = .int n := by
  cases t <;> simp [asInteger]

theorem not_meets_level {level : String} (h : asText place t = .ok level)
    (hlevel : (Log.levelOfName? (Text.upper level)).isNone = true) : ¬Demand.level.Meets t := by
  rw [asText_eq_ok_iff.1 h]
  intro hmem
  have hnamed := Log.levelOfName?_isSome_iff.2 hmem
  rw [Option.isNone_iff_eq_none.1 hlevel] at hnamed
  cases hnamed

theorem not_filled_of_not_meaningful {s : String} (h : (!meaningful s) = true) :
    ¬Text.Filled s.toList := by
  intro hfilled
  rw [meaningful_iff.2 hfilled] at h
  cases h

theorem not_meets_filled {s : String} (h : asText place t = .ok s)
    (hs : (!meaningful s) = true) : ¬Demand.filled.Meets t := by
  rw [asText_eq_ok_iff.1 h]
  exact not_filled_of_not_meaningful hs

theorem not_meets_count {n : Int} (h : asInteger place t = .ok n) (hn : n ≤ 0) :
    ¬Demand.count.Meets t := by
  rw [asInteger_eq_ok_iff.1 h]
  exact Int.not_lt.2 hn

theorem asFloat_int_eq_ok_iff {n : Int} {x : Float} :
    asFloat place (.int n) = .ok x ↔ Number.floatOfInt n = .ok x := by
  rw [asFloat]
  cases Number.floatOfInt n <;> simp [Except.mapError]

theorem not_meets_positive {x : Float} (h : asFloat place t = .ok x) (hx : x ≤ 0.0) :
    ¬Demand.positive.Meets t := by
  have habove : ¬0.0 < x := fun hlt => ((Binary64.zero_lt_iff x).1 hlt).1 hx
  cases t with
  | float y =>
    obtain rfl : y = x := Except.ok.inj h
    exact habove
  | int n =>
    have hside := (Number.side_of_floatOfInt (asFloat_int_eq_ok_iff.1 h)).1
    exact mt hside.2 habove
  | null | bool | text | other | list | map => cases h

theorem not_meets_nonnegative {x : Float} (h : asFloat place t = .ok x) (hx : x < 0.0) :
    ¬Demand.nonnegative.Meets t := by
  cases t with
  | float y =>
    obtain rfl : y = x := Except.ok.inj h
    exact fun hle => ((Binary64.zero_le_iff y).1 hle).1 hx
  | int n =>
    have hside := (Number.side_of_floatOfInt (asFloat_int_eq_ok_iff.1 h)).2.1
    exact Int.not_le.2 (hside.1 hx)
  | null | bool | text | other | list | map => cases h

theorem exists_of_reads {α : Type} {read : String → Tree → Except Fault α} {name field : String}
    {default : Option α} {v : α} (h : Reads read raw name field default v)
    (hdefault : default ≠ some v) :
    ∃ t, setting? raw name field = some t ∧ read (name ++ "." ++ field) t = .ok v := by
  rw [Reads] at h
  cases ht : setting? raw name field with
  | none =>
    rw [ht] at h
    exact absurd h hdefault
  | some t =>
    rw [ht] at h
    exact ⟨t, rfl, h⟩

/-- A value that is complained about is read of a setting that offends, unless it is the default. -/
theorem named_of_reads {α : Type} {read : String → Tree → Except Fault α} {name field : String}
    {default : Option α} {v : α} (h : Reads read raw name field default v)
    (hdefault : default ≠ some v) (r : Rule) (hr : r ∈ rules)
    (hplace : r.place = .inside name field)
    (hbad : ∀ t, read (name ++ "." ++ field) t = .ok v → ¬r.demand.Meets t)
    (hc : fault.isComplaint = true) (hm : ∃ rest, fault.message = r.place.text ++ rest) :
    Named raw fault := by
  obtain ⟨t, ht, hread⟩ := exists_of_reads h hdefault
  have htree : r.place.tree? raw = some t := by
    rw [hplace]
    exact ht
  exact named_of_message hc (.rule hr (.of_tree? htree (hbad t hread))) hm

/-- The default level is the name of one, so a level that is complained about was read; a blank
folder offends together with the setting that asks for it. -/
theorem named_of_log {s : LogSettings} (hfrom : s.ReadFrom raw) (h : fault ∈ s.complaints) :
    Named raw fault := by
  simp only [LogSettings.complaints, List.mem_append, mem_complain_iff] at h
  rcases h with ⟨hlevel, rfl⟩ | ⟨hfolder, rfl⟩
  · obtain ⟨level, hreads, hs⟩ := hfrom.level
    rw [hs] at hlevel
    refine named_of_reads hreads ?_ ⟨.inside "log" "level", false, .level⟩ (by decide) rfl
      (fun t ht => not_meets_level ht hlevel) rfl
      ⟨" is not a logging level: " ++ Text.quote s.level, ?_⟩
    · intro hinfo
      rw [← Option.some.inj hinfo] at hlevel
      cases hlevel
    · rw [← String.append_assoc]
      rfl
  · rw [Bool.and_eq_true] at hfolder
    obtain ⟨htoFile, hblank⟩ := hfolder
    obtain ⟨flag, hflag, hreadFlag⟩ := exists_of_reads hfrom.toFile (by simp [htoFile])
    have hdefault : some "log" ≠ some s.folder := by
      intro hlog
      rw [← Option.some.inj hlog] at hblank
      cases hblank
    obtain ⟨folder, hfolder, hreadFolder⟩ := exists_of_reads hfrom.folder hdefault
    rw [asFlag_eq_ok_iff.1 hreadFlag, htoFile] at hflag
    rw [asText_eq_ok_iff.1 hreadFolder] at hfolder
    exact named_of_message rfl (.folder hflag hfolder (not_filled_of_not_meaningful hblank))
      ⟨" must not be empty when log.to_file is true", rfl⟩

theorem named_of_search {s : SearchSettings} (hfrom : s.ReadFrom raw)
    (h : fault ∈ s.complaints) : Named raw fault := by
  simp only [SearchSettings.complaints, List.mem_append, mem_complain_iff] at h
  rcases h with ⟨hversion, rfl⟩ | ⟨htimeout, rfl⟩ | ⟨hsize, rfl⟩ | ⟨htype, rfl⟩
  · exact named_of_reads hfrom.apiVersion (by simp) ⟨.inside "search" "api_version", true, .filled⟩
      (by decide) rfl (fun t ht => not_meets_filled ht hversion) rfl ⟨_, rfl⟩
  · exact named_of_reads hfrom.timeout (by simp) ⟨.inside "search" "timeout", true, .positive⟩
      (by decide) rfl (fun t ht => not_meets_positive ht htimeout) rfl ⟨_, rfl⟩
  · refine named_of_reads hfrom.defaultSize ?_ ⟨.inside "search" "default_size", false, .count⟩
      (by decide) rfl (fun t ht => not_meets_count ht hsize) rfl ⟨_, rfl⟩
    intro hten
    rw [← Option.some.inj hten] at hsize
    cases hsize
  · refine named_of_reads hfrom.typeField ?_ ⟨.inside "search" "type_field", false, .filled⟩
      (by decide) rfl (fun t ht => not_meets_filled ht htype) rfl ⟨_, rfl⟩
    intro hname
    rw [← Option.some.inj hname] at htype
    cases htype

theorem named_of_storage {s : StorageSettings} (hfrom : s.ReadFrom raw)
    (h : fault ∈ s.complaints) : Named raw fault := by
  simp only [StorageSettings.complaints, List.mem_append, mem_complain_iff] at h
  rcases h with ⟨hpath, rfl⟩ | ⟨hbusy, rfl⟩
  · exact named_of_reads hfrom.path (by simp) ⟨.inside "storage" "db_path", true, .filled⟩
      (by decide) rfl (fun t ht => not_meets_filled ht hpath) rfl ⟨_, rfl⟩
  · refine named_of_reads hfrom.busyTimeout ?_
      ⟨.inside "storage" "busy_timeout", false, .nonnegative⟩ (by decide) rfl
      (fun t ht => not_meets_nonnegative ht hbusy) rfl ⟨_, rfl⟩
    intro hthirty
    rw [← Option.some.inj hthirty] at hbusy
    exact absurd hbusy (by decide)

theorem pathOf_text_eq_ok {kind : String} {e : String × String}
    (h : pathOf (.text kind, t) = .ok e) : ∃ path, t = .text path ∧ e = (kind, path) := by
  cases t with
  | text path =>
    obtain rfl : (kind, path) = e := Except.ok.inj h
    exact ⟨path, rfl, rfl⟩
  | null | bool | int | float | other | list | map => cases h

theorem named_of_path {entries : Entries} {e : String × String}
    (h : optionalSection raw "entities" = .ok entries) {repositories : List (String × String)}
    (hread : entries.mapM pathOf = .ok repositories) (he : e ∈ repositories)
    (hfault : fault ∈ pathComplaints e) : Named raw fault := by
  obtain ⟨⟨key, t⟩, hentry, hpath⟩ := exists_of_mem_mapM hread he
  have hfind := find?_of_mem_optionalSection h hentry
  cases key with
  | integer | fraction | nothing | other => cases hpath
  | text kind =>
    obtain ⟨path, rfl, rfl⟩ := pathOf_text_eq_ok hpath
    obtain ⟨hno, rfl⟩ := mem_complain_iff.1 hfault
    have hoffends : Offends raw ("entities." ++ kind) := .path hfind hentry fun path' hpath' => by
      obtain rfl := Tree.text.inj hpath'
      exact hno
    refine named_of_message rfl hoffends
      ⟨" must look like 'package.module:attribute', got " ++ Text.quote path, ?_⟩
    rw [← String.append_assoc]
    rfl

/-- **What is reported when settings are checked** is a complaint that names a place. -/
theorem named_of_check {entries : Entries} {s : Settings} {repositories : List (String × String)}
    (hfrom : s.ReadFrom raw) (hentries : optionalSection raw "entities" = .ok entries)
    (hread : entries.mapM pathOf = .ok repositories)
    (h : Settings.check { s with repositories } = .error fault) : Named raw fault := by
  rw [Settings.check_eq] at h
  have hmem := mem_of_firstOf_eq_error h
  simp only [Settings.complaints, List.mem_append, List.mem_flatMap, mem_complain_iff] at hmem
  rcases hmem with hlog | hsearch | hstorage | ⟨hsize, rfl⟩ | ⟨e, he, hpath⟩
  · exact named_of_log hfrom.log hlog
  · exact named_of_search hfrom.search hsearch
  · exact named_of_storage hfrom.storage hstorage
  · refine named_of_reads hfrom.batchingSize ?_ ⟨.inside "queue" "batching_size", false, .count⟩
      (by decide) rfl (fun t ht => not_meets_count ht hsize) rfl ⟨_, rfl⟩
    intro hhundred
    rw [← Option.some.inj hhundred] at hsize
    cases hsize
  · exact named_of_path hentries hread he hpath

end Checks

/-! ## What is reported -/

section Reports

variable {environment : Environment} {raw : Entries} {r : Rule} {fault : Fault}

theorem ofEntries_of_basics_eq_error (h : Settings.basics environment raw = .error fault) :
    Settings.ofEntries environment raw = .error fault := by
  rw [Settings.ofEntries_eq, h]
  rfl

/-- What cannot be read first is what is reported. -/
theorem exists_reported (h : rules.find? (fun r => !r.readable raw) = some r) :
    ∃ fault, Settings.ofEntries environment raw = .error fault ∧ Reported raw r fault := by
  have hfollows := follows_basics environment raw
  cases hbasics : Settings.basics environment raw with
  | ok s =>
    rw [hbasics] at hfollows
    have hnone : rules.find? (fun r => !r.readable raw) = none := hfollows
    rw [hnone] at h
    cases h
  | error fault =>
    rw [hbasics] at hfollows
    obtain ⟨r', hr', hfault⟩ := hfollows
    obtain rfl : r' = r := Option.some.inj (hr'.symm.trans h)
    exact ⟨fault, ofEntries_of_basics_eq_error hbasics, hfault⟩

/-- An integer too large for a float is all that is reported where it cannot be read first. -/
theorem ofEntries_of_overflows (h : rules.find? (fun r => !r.readable raw) = some r)
    (hlarge : r.overflows raw = true) : Settings.ofEntries environment raw = .error .tooLarge := by
  obtain ⟨fault, hfault, -, hreported⟩ := @exists_reported environment raw r h
  rw [if_pos hlarge] at hreported
  rw [hfault, hreported]

theorem not_named_tooLarge : ¬Named raw .tooLarge := fun h => nomatch h.1

/-- **Everything that is reported about a configuration is a complaint that names a place which
offends, exactly if the first rule that cannot be read is not about an integer too large for a
float.** Reading comes first, then the import paths, and the checks are last. -/
theorem named_iff (environment : Environment) (raw : Entries) :
    (∀ fault, Settings.ofEntries environment raw = .error fault → Named raw fault) ↔
      ¬∃ r, rules.find? (fun r => !r.readable raw) = some r ∧ r.overflows raw = true := by
  constructor
  · rintro h ⟨r, hr, hlarge⟩
    exact not_named_tooLarge (h _ (ofEntries_of_overflows hr hlarge))
  · intro h fault hfault
    rw [Settings.ofEntries_eq] at hfault
    rcases bind_eq_error_iff.1 hfault with hbasics | ⟨⟨s, entries⟩, hbasics, hfault⟩
    · have hfollows := follows_basics environment raw
      rw [hbasics] at hfollows
      obtain ⟨r, hr, -, hreported⟩ := hfollows
      rwa [if_neg fun hlarge => h ⟨r, hr, hlarge⟩] at hreported
    · obtain ⟨hfrom, hentries⟩ := Settings.readFrom_of_basics hbasics
      rcases bind_eq_error_iff.1 hfault with hpaths | ⟨repositories, hread, hfault⟩
      · obtain ⟨e, he, hpath⟩ := exists_of_mapM_eq_error hpaths
        exact named_of_pathOf hentries he hpath
      · rcases bind_eq_error_iff.1 hfault with hcheck | ⟨_, -, hfault⟩
        · exact named_of_check hfrom hentries hread hcheck
        · cases hfault

end Reports

/-- A configuration whose requests may take more seconds than a float can hold. -/
def patient : Entries :=
  [(.text "search",
      .map [(.text "api_version", .text "2013-01-01"), (.text "timeout", .int (twoTo 1024))]),
    (.text "storage", .map [(.text "db_path", .text "queue.db")])]

/-- What is reported about that configuration names no place. -/
theorem not_named_of_patient :
    Settings.ofEntries [] patient = .error .tooLarge ∧ ¬Named patient .tooLarge := by
  let timeout : Rule := ⟨.inside "search" "timeout", true, .positive⟩
  have hfirst : rules.find? (fun r => !r.readable patient) = some timeout := by decide +kernel
  have hlarge : timeout.overflows patient = true := by decide +kernel
  exact ⟨ofEntries_of_overflows hfirst hlarge, not_named_tooLarge⟩

end SearchIndex.Config
