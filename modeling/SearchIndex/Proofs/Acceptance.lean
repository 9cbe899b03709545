import SearchIndex.Proofs.Inspection
import SearchIndex.Proofs.IntegerFloats
import SearchIndex.Queue.Delivery

/-!
# Settings that are accepted

The program relies on its settings: on texts that say something, on sizes and spans of time above
zero, on a level of the log that has a name, and on import paths with two parts. What is accepted is
all of that, but for the spans of time: one that is not a number is neither above zero nor at most
zero, so the check for the opposite lets it pass.

## Main definitions

* `Settings.Ordinary`: what the program relies on, apart from the spans of time
* `Settings.Sound`: what the program relies on
* `IsNumeric raw name field`: a setting is not given as not-a-number

## Main results

* `Settings.ordinary_of_check`: what is accepted is ordinary
* `isNaN_eq_false_iff_of_reads`: a span of time is a number unless it is given as not-a-number
* `Settings.sound_iff_of_accepted`: what is accepted is sound, unless a span of time is given as
  not-a-number
-/

namespace SearchIndex.Config

open Entity (chunked)
open Index (Gateway)
open Queue (Access Courier)

/-! ## What the program relies on -/

/-- **What the program relies on, apart from the spans of time.** -/
structure Settings.Ordinary (s : Settings) : Prop where
  level : s.log.level ∈ Log.levelNames.map Prod.fst
  folder : s.log.toFile = true → Text.Filled s.log.folder.toList
  apiVersion : Text.Filled s.search.apiVersion.toList
  defaultSize : 1 ≤ s.search.defaultSize
  typeField : Text.Filled s.search.typeField.toList
  path : Text.Filled s.storage.path.toList
  batchingSize : 1 ≤ s.batchingSize
  repositories : ∀ e ∈ s.repositories, IsImportPath e.2
  /-- A courier with these settings can cut every list of ids into chunks. -/
  chunks : ∀ (σ : Type) (q : Access σ) (g : Gateway σ) (registry : Entity.Registry)
    (ids : List String), ∃ chunks,
      chunked ids (Courier.ofParts q g registry (.int s.batchingSize)).size = .ok chunks

/-- **What the program relies on.** -/
structure Settings.Sound (s : Settings) : Prop extends s.Ordinary where
  timeout : 0.0 < s.search.timeout
  busyTimeout : 0.0 ≤ s.storage.busyTimeout

theorem exists_chunked {α : Type} {size : Int} (h : 1 ≤ size) (l : List α) :
    ∃ chunks, chunked l (.int size) = .ok chunks := by
  rw [chunked, Entity.pieceSize_int h]
  exact ⟨_, rfl⟩

/-- **What is accepted is ordinary.** -/
theorem Settings.ordinary_of_check {s : Settings} (h : s.check = .ok ()) : s.Ordinary := by
  rw [Settings.check_eq, firstOf_eq_ok_iff] at h
  simp only [Settings.complaints, LogSettings.complaints, SearchSettings.complaints,
    StorageSettings.complaints, List.append_eq_nil_iff, complain_eq_nil_iff,
    List.flatMap_eq_nil_iff, pathComplaints, Bool.not_eq_true', Bool.not_eq_false, Bool.and_eq_true,
    not_and, Classical.not_not, meaningful_iff, Int.not_le] at h
  obtain ⟨⟨hlevel, hfolder⟩, ⟨hversion, -, hdefault, htype⟩, ⟨hpath, -⟩, hbatch, hrepositories⟩ := h
  have hnamed : (Log.levelOfName? s.log.level).isSome :=
    Option.isSome_iff_ne_none.2 (mt Option.isNone_iff_eq_none.2 hlevel)
  exact {
    level := Log.levelOfName?_isSome_iff.1 hnamed
    folder := hfolder
    apiVersion := hversion
    defaultSize := hdefault
    typeField := htype
    path := hpath
    batchingSize := hbatch
    repositories := hrepositories
    chunks := fun _ _ _ _ ids => exists_chunked hbatch ids }

/-! ## Spans of time -/

/-- A setting is not given as not-a-number. -/
def IsNumeric (raw : Entries) (name field : String) : Prop :=
  ∀ x, setting? raw name field = some (.float x) → x.isNaN = false

/-- What is read of a setting is a number unless the setting is given as not-a-number: an integer
becomes a number, and so is the default. -/
theorem isNaN_eq_false_iff_of_reads {raw : Entries} {name field : String} {default : Option Float}
    {x : Float} (h : Reads asFloat raw name field default x)
    (hdefault : ∀ y, default = some y → y.isNaN = false) :
    x.isNaN = false ↔ IsNumeric raw name field := by
  rw [Reads] at h
  rw [IsNumeric]
  cases hs : setting? raw name field with
  | none =>
    rw [hs] at h
    exact ⟨by rintro - _ ⟨⟩, fun _ => hdefault x h⟩
  | some t =>
    rw [hs] at h
    cases t with
    | float y =>
      obtain rfl : y = x := Except.ok.inj h
      simp
    | int n =>
      cases hn : Number.floatOfInt n with
      | error fault => simp [asFloat, hn, Except.mapError] at h
      | ok y =>
        obtain rfl : y = x := by simpa [asFloat, hn, Except.mapError] using h
        exact ⟨by rintro - _ ⟨⟩, fun _ => (Number.side_of_floatOfInt hn).2.2⟩
    | null | bool | text | other | list | map => cases h

theorem Settings.sound_iff_of_check {s : Settings} (h : s.check = .ok ()) :
    s.Sound ↔ s.search.timeout.isNaN = false ∧ s.storage.busyTimeout.isNaN = false := by
  have hordinary := Settings.ordinary_of_check h
  rw [Settings.check_eq, firstOf_eq_ok_iff] at h
  simp only [Settings.complaints, SearchSettings.complaints, StorageSettings.complaints,
    List.append_eq_nil_iff, complain_eq_nil_iff] at h
  obtain ⟨-, ⟨-, htimeout, -, -⟩, ⟨-, hbusy⟩, -⟩ := h
  constructor
  · intro hsound
    exact ⟨((Binary64.zero_lt_iff _).1 hsound.timeout).2,
      ((Binary64.zero_le_iff _).1 hsound.busyTimeout).2⟩
  · rintro ⟨hn, hm⟩
    exact { hordinary with
      timeout := (Binary64.zero_lt_iff _).2 ⟨htimeout, hn⟩
      busyTimeout := (Binary64.zero_le_iff _).2 ⟨hbusy, hm⟩ }

/-- **What is accepted is ordinary, and sound exactly if no span of time is given as
not-a-number.** -/
theorem Settings.sound_iff_of_accepted {environment : Environment} {raw : Entries} {s : Settings}
    (h : Settings.ofEntries environment raw = .ok s) :
    s.Ordinary ∧ (s.Sound ↔
      IsNumeric raw "search" "timeout" ∧ IsNumeric raw "storage" "busy_timeout") := by
  rw [Settings.ofEntries_eq, bind_eq_ok_iff] at h
  obtain ⟨⟨basics, paths⟩, hbasics, h⟩ := h
  obtain ⟨repositories, -, h⟩ := bind_eq_ok_iff.1 h
  obtain ⟨⟨⟩, hcheck, h⟩ := bind_eq_ok_iff.1 h
  cases h
  obtain ⟨hfrom, -⟩ := Settings.readFrom_of_basics hbasics
  refine ⟨Settings.ordinary_of_check hcheck, ?_⟩
  rw [Settings.sound_iff_of_check hcheck]
  have htimeout := isNaN_eq_false_iff_of_reads hfrom.search.timeout (by simp)
  have hbusy := isNaN_eq_false_iff_of_reads hfrom.storage.busyTimeout (by rintro _ ⟨⟩; decide)
  exact and_congr htimeout hbusy

/-- A configuration with every section, and a span of time for requests. -/
def configured (timeout : Tree) : Entries :=
  [(.text "log", .map [(.text "level", .text "debug"), (.text "to_file", .bool true)]),
    (.text "search", .map [(.text "api_version", .text "2013-01-01"), (.text "timeout", timeout)]),
    (.text "storage",
      .map [(.text "db_path", .text "queue.db"), (.text "busy_timeout", .float 0.0)]),
    (.text "queue", .map [(.text "batching_size", .int 1)]),
    (.text "entities", .map [(.text "Article", .text "app.articles:repository:main")])]

/-- The settings of that configuration. -/
def configuredSettings (timeout : Float) : Settings where
  log := ⟨"DEBUG", true, "log"⟩
  search := ⟨"", "CLOUDSEARCH_ENDPOINT", "", "2013-01-01", timeout, 10, "searchable_type"⟩
  storage := ⟨"queue.db", 0.0⟩
  batchingSize := 1
  repositories := [("Article", "app.articles:repository:main")]

theorem Settings.sound_configured :
    Settings.ofEntries [] (configured (.int 5)) = .ok (configuredSettings 5.0) ∧
      (configuredSettings 5.0).Sound := by
  have haccepted : Settings.ofEntries [] (configured (.int 5)) = .ok (configuredSettings 5.0) := rfl
  refine ⟨haccepted, (Settings.sound_iff_of_accepted haccepted).2.2 ⟨?_, ?_⟩⟩
  · intro x hx
    have hint : setting? (configured (.int 5)) "search" "timeout" = some (.int 5) := rfl
    rw [hint] at hx
    cases hx
  · intro x hx
    have hfloat : setting? (configured (.int 5)) "storage" "busy_timeout" = some (.float 0.0) := rfl
    rw [hfloat] at hx
    cases hx
    decide

/-- A span of time that is not a number is accepted. -/
theorem Settings.not_sound_of_nan :
    Settings.ofEntries [] (configured (.float Float.nan)) = .ok (configuredSettings Float.nan) ∧
      ¬(configuredSettings Float.nan).Sound := by
  refine ⟨rfl, fun h => ?_⟩
  have hnan : ¬(0.0 : Float) < Float.nan := by decide
  exact hnan h.timeout

end SearchIndex.Config
