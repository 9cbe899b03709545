import Mathlib.Data.List.Infix
import SearchIndex.Schema.Migration
import SearchIndex.Schema.Upgrade

/-!
# Scripts of statements

A migration is written as a script: texts of statements, none with a semicolon inside, that
semicolons divide. A plan gives the scripts of a list the versions from one on, and what is pending
of it at a version are the migrations after the first so many.

## Main definitions

* `Script`: what a script is for, and its parts
* `Script.statements`: the parts that are not blank
* `plan scripts`: the scripts as migrations with the versions from one on
* `Consecutive ms`: the versions of a list count from one

## Main results

* `Script.statements_migration`: the statements of a script are read back from its text
* `pending_eq_drop`: what is pending at a version
* `plan_map_script`: every list that counts from one is a plan
* `getElem_plan_of_pending`: the migrations of a plan that are pending
* `checkVersions_of_not_consecutive`: the first wrong version of a list is reported
-/

namespace SearchIndex.Schema

/-! ## Scripts -/

/-- What a script is for, and the parts between its semicolons. -/
structure Script where
  description : String
  parts : List String
  /-- No statement has a semicolon inside. -/
  unbroken : ∀ part ∈ parts, ';' ∉ part.toList

namespace Script

/-- The text of a script. -/
def sql (s : Script) : String := (String.singleton ';').intercalate s.parts

/-- **The statements of a script**: its parts without the white space around them, the blank ones
dropped. -/
def statements (s : Script) : List String := (s.parts.map Text.strip).filter (· ≠ "")

/-- A script as the migration to a version. -/
def migration (version : Int) (s : Script) : Migration := ⟨version, s.description, s.sql⟩

/-- **The statements of a script are read back from its text.** The text of no statements is empty,
and its one piece is blank. -/
theorem statements_migration (s : Script) (version : Int) :
    (s.migration version).statements = s.statements := by
  simp only [Migration.statements, statements, migration, sql]
  by_cases h : s.parts = []
  · rw [h]
    decide
  · rw [Text.splitOn_intercalate h s.unbroken]

end Script

/-- The script of a migration. -/
def Migration.script (m : Migration) : Script where
  description := m.description
  parts := Text.splitOn ';' m.sql
  unbroken := by
    intro part hpart hmem
    obtain ⟨piece, hpiece, rfl⟩ := List.mem_map.1 hpart
    rw [String.toList_ofList] at hmem
    exact absurd (Text.not_mem_of_mem_splitBy hpiece _ hmem) (by simp)

theorem Migration.migration_script (m : Migration) : m.script.migration m.version = m := by
  rw [Script.migration, Script.sql, script, Text.intercalate_splitOn]

/-! ## Lists of migrations -/

/-- **The versions of a list count from one.** -/
def Consecutive (ms : List Migration) : Prop :=
  ∀ (i : Nat) (h : i < ms.length), ms[i].version = 1 + i

theorem Consecutive.of_isPrefix {ms ms' : List Migration} (h : Consecutive ms') (hp : ms <+: ms') :
    Consecutive ms := by
  intro i hi
  rw [hp.getElem hi]
  exact h i _

/-- **What is pending at a version** is the list without the first so many. -/
theorem pending_eq_drop {ms : List Migration} (h : Consecutive ms) (version : Nat) :
    pending version ms = ms.drop version := by
  have hfirst : ∀ m ∈ ms.take version, ¬(version : Int) < m.version := by
    intro m hm
    obtain ⟨i, hi, rfl⟩ := List.mem_iff_getElem.1 hm
    rw [List.length_take] at hi
    rw [List.getElem_take, h i (by omega)]
    omega
  have hrest : ∀ m ∈ ms.drop version, (version : Int) < m.version := by
    intro m hm
    obtain ⟨i, hi, rfl⟩ := List.mem_iff_getElem.1 hm
    rw [List.length_drop] at hi
    rw [List.getElem_drop, h (version + i) (by omega)]
    omega
  have hparts : pending version ms =
      pending version (ms.take version) ++ pending version (ms.drop version) := by
    rw [pending, pending, pending, ← List.filter_append, List.take_append_drop]
  rw [hparts, pending, pending, List.filter_eq_nil_iff.2 (by simpa using hfirst),
    List.filter_eq_self.2 (by simpa using hrest), List.nil_append]

theorem checkVersionsFrom_eq_error {first : Int} {ms : List Migration} {f : Failure}
    (h : checkVersionsFrom first ms = .error f) :
    ∃ (i : Nat) (hi : i < ms.length),
      (∀ (k : Nat) (hk : k < ms.length), k < i → ms[k].version = first + k) ∧
        ms[i].version ≠ first + i ∧
        f = .versionGap (first + i) ms[i].version ms[i].description := by
  induction ms generalizing first with
  | nil => cases h
  | cons m ms ih =>
    rw [checkVersionsFrom] at h
    split at h
    · next hm =>
      obtain ⟨i, hi, hbefore, hwrong, rfl⟩ := ih h
      refine ⟨i + 1, Nat.succ_lt_succ hi, ?_, ?_, ?_⟩
      · intro k hk hki
        cases k with
        | zero => simpa using hm
        | succ k =>
          have := hbefore k (Nat.lt_of_succ_lt_succ hk) (Nat.lt_of_succ_lt_succ hki)
          rw [List.getElem_cons_succ, this]
          omega
      · rw [List.getElem_cons_succ]
        omega
      · rw [List.getElem_cons_succ]
        congr 1
        omega
    · next hm =>
      cases h
      refine ⟨0, Nat.zero_lt_succ _, fun k _ hk => absurd hk (Nat.not_lt_zero k), ?_, ?_⟩
      · simpa using hm
      · simp

/-- **The first wrong version of a list is reported.** -/
theorem checkVersions_of_not_consecutive {ms : List Migration} (h : ¬Consecutive ms) :
    ∃ (i : Nat) (hi : i < ms.length),
      (∀ (k : Nat) (hk : k < ms.length), k < i → ms[k].version = 1 + k) ∧ ms[i].version ≠ 1 + i ∧
        checkVersions ms = .error (.versionGap (1 + i) ms[i].version ms[i].description) := by
  rcases hc : checkVersions ms with f | _
  · obtain ⟨i, hi, hbefore, hwrong, rfl⟩ := checkVersionsFrom_eq_error hc
    exact ⟨i, hi, hbefore, hwrong, rfl⟩
  · exact absurd (checkVersions_eq_ok_iff.1 hc) h

/-! ## Plans -/

/-- **The scripts as migrations** with the versions from one on. -/
def plan (scripts : List Script) : List Migration :=
  scripts.mapIdx fun i s => s.migration (1 + i)

theorem length_plan (scripts : List Script) : (plan scripts).length = scripts.length :=
  List.length_mapIdx

theorem getElem_plan {scripts : List Script} {i : Nat} (h : i < (plan scripts).length)
    (hi : i < scripts.length) : (plan scripts)[i] = scripts[i].migration (1 + i) :=
  List.getElem_mapIdx

theorem consecutive_plan (scripts : List Script) : Consecutive (plan scripts) := by
  intro i hi
  rw [getElem_plan hi (length_plan scripts ▸ hi)]
  rfl

/-- **Every list that counts from one is a plan** of scripts. -/
theorem plan_map_script {ms : List Migration} (h : Consecutive ms) :
    plan (ms.map Migration.script) = ms := by
  have hlength : (plan (ms.map Migration.script)).length = ms.length := by
    rw [length_plan, List.length_map]
  refine List.ext_getElem hlength fun i hi hi' => ?_
  have hi'' : i < (ms.map Migration.script).length := by rwa [List.length_map]
  rw [getElem_plan hi hi'', List.getElem_map, ← h i hi', Migration.migration_script]

/-- What is pending of the beginning of a plan goes on where the version is. -/
theorem getElem_plan_of_pending {scripts : List Script} {ms earlier later : List Migration}
    {m : Migration} {version : Nat} (hms : ms <+: plan scripts)
    (h : pending version ms = earlier ++ m :: later) :
    earlier <+: (plan scripts).drop version ∧
      ∃ hi : version + earlier.length < (plan scripts).length,
        (plan scripts)[version + earlier.length] = m := by
  rw [pending_eq_drop ((consecutive_plan scripts).of_isPrefix hms)] at h
  have hbegins : earlier ++ m :: later <+: (plan scripts).drop version := h ▸ hms.drop version
  refine ⟨(List.prefix_append _ _).trans hbegins, ?_⟩
  have hlength : earlier.length < (earlier ++ m :: later).length := by
    rw [List.length_append, List.length_cons]
    omega
  have hm := hbegins.getElem hlength
  rw [List.getElem_drop, List.getElem_append_right (Nat.le_refl _)] at hm
  have hi := hbegins.length_le
  rw [List.length_drop] at hi
  refine ⟨by omega, hm.symm.trans ?_⟩
  simp only [Nat.sub_self, List.getElem_cons_zero]

end SearchIndex.Schema
