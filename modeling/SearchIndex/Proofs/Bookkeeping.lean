import SearchIndex.Proofs.Outcome
import SearchIndex.Schema.Tables

/-!
# The recorded version and the rest

A database is seen as the version that is recorded in it and the rest of it. The bookkeeping of an
upgrade leaves the rest alone, and a statement of a migration leaves the bookkeeping alone: what it
does to the rest depends on the rest only. Databases of tables are such databases, and the
statements that do not name the table of the version are such statements.

## Main definitions

* `View δ ρ`: the recorded version of a database, and the rest of it
* `Engine.Prepared e d`: there is a record of the version
* `Engine.Lawful e view`: the bookkeeping is about the recorded version alone
* `Engine.Spares e view statement`: the statement is about the rest alone
* `Engine.run e statements d`: statements one after the other
* `Tables.view`: databases of tables as databases with a version

## Main results

* `Engine.run_of_rest_eq`: databases with one rest are left with one rest
* `Tables.lawful_engine`: the bookkeeping of databases of tables
* `Tables.spares_execute`: a statement about other tables is about the rest
-/

namespace SearchIndex.Schema

variable {δ ρ : Type}

/-- The recorded version of a database, and the rest of it. -/
structure View (δ ρ : Type) where
  recorded : δ → Option Int
  rest : δ → ρ

namespace Engine

/-- There is a record of the version, so adding one does nothing. -/
def Prepared (e : Engine δ) (d : δ) : Prop := e.prepare d = .ok d

/-- **The bookkeeping is about the recorded version alone.** -/
structure Lawful (e : Engine δ) (view : View δ ρ) : Prop where
  /-- A record is added without a version, and once only. -/
  prepare : ∀ {d d' : δ}, e.prepare d = .ok d' →
    view.rest d' = view.rest d ∧ view.recorded d' = view.recorded d ∧ e.Prepared d'
  version : ∀ {d : δ} {version : Int}, e.version d = .ok version →
    version = (view.recorded d).getD 0
  record : ∀ {d d' : δ} {version : Int}, e.Prepared d → e.record version d = .ok d' →
    view.rest d' = view.rest d ∧ view.recorded d' = some version ∧ e.Prepared d'

/-- **The statement is about the rest alone**: it leaves the record of the version there. -/
structure Spares (e : Engine δ) (view : View δ ρ) (statement : String) : Prop where
  prepared : ∀ {d d' : δ}, e.Prepared d → e.execute statement d = .ok d' → e.Prepared d'
  /-- What it does to the rest depends on the rest. -/
  rest : ∀ {d₁ d₂ d₁' : δ}, view.rest d₁ = view.rest d₂ → e.execute statement d₁ = .ok d₁' →
    ∃ d₂', e.execute statement d₂ = .ok d₂' ∧ view.rest d₁' = view.rest d₂'

/-- **Statements one after the other.** -/
def run (e : Engine δ) (statements : List String) (d : δ) : Except Failure δ :=
  statements.foldlM (fun d statement => e.execute statement d) d

variable {e : Engine δ} {view : View δ ρ}

theorem run_cons_eq_ok_iff {statement : String} {statements : List String} {d d' : δ} :
    e.run (statement :: statements) d = .ok d' ↔
      ∃ d₁, e.execute statement d = .ok d₁ ∧ e.run statements d₁ = .ok d' := by
  rw [run, List.foldlM_cons, bind_eq_ok_iff]
  rfl

theorem run_append (statements more : List String) (d : δ) :
    e.run (statements ++ more) d = e.run statements d >>= e.run more :=
  List.foldlM_append

section Spares

variable {statements : List String} (hs : ∀ s ∈ statements, e.Spares view s)

include hs

theorem prepared_run {d d' : δ} (hd : e.Prepared d) (h : e.run statements d = .ok d') :
    e.Prepared d' := by
  induction statements generalizing d with
  | nil =>
    cases h
    exact hd
  | cons s statements ih =>
    obtain ⟨hfirst, hrest⟩ := List.forall_mem_cons.1 hs
    obtain ⟨d₁, hd₁, hrun⟩ := run_cons_eq_ok_iff.1 h
    exact ih hrest (hfirst.prepared hd hd₁) hrun

/-- **Databases with one rest are left with one rest**, statement by statement. -/
theorem run_of_rest_eq {d₁ d₂ d₁' : δ} (hd : view.rest d₁ = view.rest d₂)
    (h : e.run statements d₁ = .ok d₁') :
    ∃ d₂', e.run statements d₂ = .ok d₂' ∧ view.rest d₁' = view.rest d₂' := by
  induction statements generalizing d₁ d₂ with
  | nil =>
    cases h
    exact ⟨d₂, rfl, hd⟩
  | cons s statements ih =>
    obtain ⟨hfirst, hrest⟩ := List.forall_mem_cons.1 hs
    obtain ⟨c₁, hc₁, hrun⟩ := run_cons_eq_ok_iff.1 h
    obtain ⟨c₂, hc₂, hc⟩ := hfirst.rest hd hc₁
    obtain ⟨d₂', hd₂', hd'⟩ := ih hrest hc hrun
    exact ⟨d₂', run_cons_eq_ok_iff.2 ⟨c₂, hc₂, hd₂'⟩, hd'⟩

end Spares

end Engine

/-! ## Databases of tables -/

/-- The statement does not name the table of the version. -/
def Statement.elsewhere : Statement → Bool
  | .create name _ _ | .order name _ | .drop name => !Tables.sameName name Tables.versionTable
  | .probe | .nonsense _ => true

namespace Tables

/-- The database without the table of the version. -/
def unversioned (ts : Tables) : Tables := ts.drop versionTable

/-- **Databases of tables as databases with a version.** -/
def view : View Tables Tables := ⟨version?, unversioned⟩

theorem sameName_iff {a b : String} : sameName a b = true ↔ a.toLower = b.toLower := beq_iff_eq

theorem sameName_comm (a b : String) : sameName a b = sameName b a := Bool.beq_comm

theorem find?_append_singleton (ts : Tables) (t : Table) (name : String) :
    find? (ts ++ [t]) name =
      (ts.find? name).or (if sameName t.name name then some t else none) := by
  rw [find?, List.find?_append, find?]
  rcases h : sameName t.name name with _ | _ <;> simp [h]

/-- Dropping a table leaves the others to be found. -/
theorem find?_drop_of_not_sameName {name other : String} (h : sameName name other = false)
    (ts : Tables) : (ts.drop other).find? name = ts.find? name := by
  rw [find?, drop, List.find?_filter, find?]
  congr 1
  funext t
  rw [Bool.decide_and, Bool.decide_eq_true, Bool.decide_eq_true]
  rcases ht : sameName t.name name with _ | _
  · rw [Bool.and_false]
  · rw [sameName, sameName_iff.1 ht]
    rw [sameName] at h
    rw [h]
    rfl

/-! ### The bookkeeping -/

theorem isReserved_versionTable : isReserved versionTable = false := by decide +kernel

theorem prepare_of_find? {ts : Tables} {t : Table} (h : ts.find? versionTable = some t) :
    ts.prepare = .ok ts := by
  simp only [prepare, perform, isReserved_versionTable, h, Bool.false_eq_true, ↓reduceIte]

/-- The table that is added for the version. -/
def freshVersionTable : Table := { name := versionTable, columns := ["id", "version"] }

theorem sameName_freshVersionTable : sameName freshVersionTable.name versionTable = true :=
  sameName_iff.2 rfl

theorem prepare_of_find?_eq_none {ts : Tables} (h : ts.find? versionTable = none) :
    ts.prepare = .ok (ts ++ [freshVersionTable]) := by
  simp only [prepare, perform, isReserved_versionTable, h, Bool.false_eq_true, ↓reduceIte]
  rfl

theorem find?_append_freshVersionTable {ts : Tables} (h : ts.find? versionTable = none) :
    find? (ts ++ [freshVersionTable]) versionTable = some freshVersionTable := by
  rw [find?_append_singleton, h, sameName_freshVersionTable]
  rfl

/-- A database without the table is not prepared: it gets the table, which makes it longer. -/
theorem prepared_iff {ts : Tables} :
    engine.Prepared ts ↔ ∃ t, ts.find? versionTable = some t := by
  constructor
  · intro h
    rcases hfind : ts.find? versionTable with _ | t
    · have hlonger := (prepare_of_find?_eq_none hfind).symm.trans h
      simp at hlonger
    · exact ⟨t, rfl⟩
  · rintro ⟨t, ht⟩
    exact prepare_of_find? ht

theorem find?_of_forVersion {ts : Tables} {t : Table} (h : ts.forVersion = .ok t) :
    ts.find? versionTable = some t := by
  rw [forVersion] at h
  split at h
  · cases h
  · next t' ht' =>
    split at h
    · cases h
      exact ht'
    · cases h

theorem unversioned_append_singleton (ts : Tables) (t : Table) :
    unversioned (ts ++ [t]) =
      ts.unversioned ++ if sameName t.name versionTable then [] else [t] := by
  rw [unversioned, drop, List.filter_append, unversioned, drop]
  rcases h : sameName t.name versionTable with _ | _ <;> simp [h]

/-- The table with a version recorded, if it is the one for that. -/
def recording (version : Int) (t : Table) : Table :=
  if sameName t.name versionTable then { t with version := version } else t

theorem name_recording (version : Int) (t : Table) : (recording version t).name = t.name := by
  rw [recording]
  split <;> rfl

theorem find?_map_recording {ts : Tables} {t : Table} (h : ts.find? versionTable = some t)
    (version : Int) :
    find? (ts.map (recording version)) versionTable = some { t with version := version } := by
  have hname : (fun t : Table => sameName t.name versionTable) ∘ recording version =
      fun t => sameName t.name versionTable := by
    funext t
    rw [Function.comp_apply, name_recording]
  have ht : sameName t.name versionTable = true :=
    List.find?_some (p := fun t : Table => sameName t.name versionTable) h
  rw [find?, List.find?_map, hname]
  rw [find?] at h
  rw [h, Option.map_some, recording, ht]
  rfl

theorem version?_map_recording {ts : Tables} {t : Table} (h : ts.find? versionTable = some t)
    (version : Int) : version? (ts.map (recording version)) = some version := by
  rw [version?, find?_map_recording h]
  rfl

theorem unversioned_map_recording (version : Int) (ts : Tables) :
    unversioned (ts.map (recording version)) = ts.unversioned := by
  induction ts with
  | nil => rfl
  | cons t ts ih =>
    simp only [unversioned, drop] at ih ⊢
    rw [List.map_cons, List.filter_cons, name_recording, ih, List.filter_cons]
    rcases h : sameName t.name versionTable with _ | _
    · simp only [recording, h, Bool.false_eq_true, ↓reduceIte]
    · rfl

/-- **The bookkeeping of databases of tables** is about the table of the version alone. -/
theorem lawful_engine : engine.Lawful view where
  prepare {ts ts'} h := by
    rcases hfind : ts.find? versionTable with _ | t
    · obtain rfl := Except.ok.inj ((prepare_of_find?_eq_none hfind).symm.trans h)
      have hfresh := find?_append_freshVersionTable hfind
      refine ⟨?_, ?_, prepared_iff.2 ⟨_, hfresh⟩⟩
      · show unversioned (ts ++ [freshVersionTable]) = ts.unversioned
        rw [unversioned_append_singleton, sameName_freshVersionTable]
        exact List.append_nil _
      · show version? (ts ++ [freshVersionTable]) = ts.version?
        rw [version?, hfresh, version?, hfind]
        rfl
    · obtain rfl := Except.ok.inj ((prepare_of_find? hfind).symm.trans h)
      exact ⟨rfl, rfl, h⟩
  version {ts version} h := by
    obtain ⟨t, ht, hversion⟩ := bind_eq_ok_iff.1 h
    obtain rfl := Except.ok.inj hversion
    show t.version.getD 0 = (ts.version?).getD 0
    rw [version?, find?_of_forVersion ht]
    rfl
  record {ts ts' version} hp h := by
    obtain ⟨t, ht⟩ := prepared_iff.1 hp
    obtain ⟨_, -, hts⟩ := bind_eq_ok_iff.1 h
    obtain rfl : ts.map (recording version) = ts' := Except.ok.inj hts
    have hversion := version?_map_recording ht version
    refine ⟨unversioned_map_recording version ts, hversion, prepared_iff.2 ?_⟩
    obtain ⟨t', ht', -⟩ := Option.bind_eq_some_iff.1 hversion
    exact ⟨t', ht'⟩

/-! ### Statements about other tables -/

/-- The table of the version is found as before. -/
theorem find?_perform {s : Statement} (hs : s.elsewhere = true) {ts ts' : Tables}
    (h : ts.perform s = .ok ts') : ts'.find? versionTable = ts.find? versionTable := by
  cases s with
  | create name columns unlessThere =>
    have hname : sameName name versionTable = false := (Bool.not_eq_true' _).mp hs
    rw [perform] at h
    split at h
    · cases h
    · split at h
      · obtain rfl := Except.ok.inj h
        rw [find?_append_singleton, hname]
        exact Option.or_none
      · split at h
        · obtain rfl := Except.ok.inj h
          rfl
        · cases h
  | order name column =>
    rw [perform] at h
    split at h
    · cases h
    · split at h
      · obtain rfl := Except.ok.inj h
        rfl
      · cases h
  | drop name =>
    have hname : sameName versionTable name = false :=
      (sameName_comm _ _).trans ((Bool.not_eq_true' _).mp hs)
    rw [perform] at h
    split at h
    · obtain rfl := Except.ok.inj h
      exact find?_drop_of_not_sameName hname ts
    · cases h
    · cases h
  | probe =>
    obtain rfl := Except.ok.inj h
    rfl
  | nonsense word => cases h

/-- **A statement about other tables does to the rest what it does to the database.** Another table
than that of the version is found in the rest as in the database. -/
theorem map_unversioned_perform {s : Statement} (hs : s.elsewhere = true) (ts : Tables) :
    (ts.perform s).map unversioned = ts.unversioned.perform s := by
  have hfind {name : String} (hname : sameName name versionTable = false) :
      ts.unversioned.find? name = ts.find? name := find?_drop_of_not_sameName hname ts
  cases s with
  | create name columns unlessThere =>
    have hname : sameName name versionTable = false := (Bool.not_eq_true' _).mp hs
    rw [perform, perform, hfind hname]
    split
    · rfl
    · split
      · show Except.ok (unversioned (ts ++ [_])) = Except.ok (ts.unversioned ++ [_])
        rw [unversioned_append_singleton, hname]
        rfl
      · split <;> rfl
  | order name column =>
    rw [perform, perform, hfind ((Bool.not_eq_true' _).mp hs)]
    split
    · rfl
    · split <;> rfl
  | drop name =>
    rw [perform, perform, hfind ((Bool.not_eq_true' _).mp hs)]
    split
    · show Except.ok (unversioned (ts.drop name)) = Except.ok (ts.unversioned.drop name)
      rw [unversioned, unversioned, drop, drop, drop, drop, List.filter_filter,
        List.filter_filter]
      congr 2
      funext t
      rw [Bool.and_comm]
    · rfl
    · rfl
  | probe => rfl
  | nonsense word => rfl

theorem execute_eq_ok_iff {text : String} {ts ts' : Tables} :
    execute text ts = .ok ts' ↔
      text.toList.contains (Char.ofNat 0) = false ∧ ts.perform (.ofText text) = .ok ts' := by
  rw [execute]
  rcases h : text.toList.contains (Char.ofNat 0) with _ | _
  · simp only [Bool.false_eq_true, ↓reduceIte, true_and]
  · simp only [↓reduceIte, reduceCtorEq, false_and]

/-- **A statement about other tables is about the rest.** -/
theorem spares_execute {text : String} (h : (Statement.ofText text).elsewhere = true) :
    engine.Spares view text where
  prepared {ts ts'} hp hts := by
    rw [prepared_iff] at hp ⊢
    rwa [find?_perform h (execute_eq_ok_iff.1 hts).2]
  rest {ts₁ ts₂ ts₁'} hrest hts := by
    obtain ⟨htext, hperform⟩ := execute_eq_ok_iff.1 hts
    have hrest : ts₁.unversioned = ts₂.unversioned := hrest
    have hts₂ : (ts₂.perform (.ofText text)).map unversioned = .ok ts₁'.unversioned := by
      rw [map_unversioned_perform h, ← hrest, ← map_unversioned_perform h,
        hperform]
      rfl
    rcases hp : ts₂.perform (.ofText text) with f | ts₂' <;> rw [hp] at hts₂
    · cases hts₂
    · exact ⟨ts₂', execute_eq_ok_iff.2 ⟨htext, hp⟩, (Except.ok.inj hts₂).symm⟩

end Tables

end SearchIndex.Schema
