import Mathlib.Data.List.Induction
import SearchIndex.Proofs.Paging

/-!
# What a request compiles to

The parameters of a request stand in alphabetical order of their names, whatever steps built it, and
there is one for each part that holds something. What a part holds only grows, but for the fields to
return, so a part holds something exactly if an accepted step put it there. A cursor that was set
once stays, it is never empty, and it stands in place of the start.

## Main definitions

* `parameterNames`, `candidates r`: all names, and what may become a parameter of a request
* `held r p`: how much a part of a request holds
* `Grew p r steps`: an accepted step put something into a part
* `IsListed steps r fields names`: parameters are those of the parts that hold something

## Main results

* `Value.plain_ne_empty`: what counts as true has a text
* `held_attempt_le`, `held_pos_iff_grew`: a part holds something exactly if a step put it there
* `cursor_ne_empty_of_steps`: a cursor is never empty
* `isListed_of_steps`: the parameters of a request, however it is built
-/

namespace SearchIndex

/-! ## Texts of values that count as true -/

section Texts

open Decimal

theorem Decimal.natText_ne_empty (n : Nat) : natText n ≠ "" := by
  rw [natText, ne_eq, String.ofList_eq_empty_iff]
  exact Nat.toDigits_ne_nil

theorem Decimal.intText_ne_empty (n : Int) : intText n ≠ "" := by
  rw [intText]
  split
  · simp
  · exact natText_ne_empty _

theorem Decimal.scaledText_ne_nil (s : Scaled) : s.text ≠ [] := by
  unfold Scaled.text
  generalize (if s.digits = 10 then (1, s.exponent + 1) else (s.digits, s.exponent)) = p
  dsimp only
  split
  · unfold positional
    split <;> simp
  · simp [scientific]

theorem Decimal.floatText_ne_empty (x : Float) : floatText x ≠ "" := by
  unfold floatText
  split
  · decide
  · split <;> decide
  · rw [signedText, ne_eq, String.ofList_eq_empty_iff, List.append_eq_nil_iff]
    exact fun h => scaledText_ne_nil _ h.2

theorem Number.text_ne_empty (n : Number) : n.text ≠ "" := by
  cases n with
  | int n => exact intText_ne_empty n
  | float x => exact floatText_ne_empty x
  | flag b => cases b <;> decide

/-- **What counts as true has a text.** -/
theorem Value.plain_ne_empty {v : Value} (h : v.truthy = true) : v.plain ≠ "" := by
  cases v with
  | text s => simpa [truthy, plain] using h
  | bool b => exact Number.text_ne_empty (.flag b)
  | int n => exact Number.text_ne_empty (.int n)
  | float x => exact Number.text_ne_empty (.float x)
  | null => cases h
  | list | map => simp [plain, shown]

end Texts

namespace Query

theorem Clause.text_ne_empty {c : Clause} (h : c.nodes ≠ []) : c.text ≠ "" := by
  simp [text, h]

namespace Request

/-! ## Names of parameters -/

/-- The names of the parameters, in alphabetical order. -/
def parameterNames : List String :=
  ["cursor", "expr", "facet", "filterQuery", "query", "queryOptions", "queryParser", "return",
    "size", "sort", "start", "stats"]

theorem pairwise_parameterNames : parameterNames.Pairwise (· < ·) := by decide +kernel

/-- What may become a parameter of a request: a name, whether it does, and a value. -/
def candidates (r : Request) : List (String × Bool × Value) :=
  [("cursor", r.cursor.isSome, .text (r.cursor.getD "")),
    ("expr", !r.expressions.isEmpty, .text r.expressionsText),
    ("facet", !r.facets.isEmpty, .text r.facetsText),
    ("filterQuery", !r.filter.nodes.isEmpty, .text r.filter.text),
    ("query", !r.query.nodes.isEmpty, .text r.query.text),
    ("queryOptions", !r.options.isEmpty, .text (Json.write Json.compact (.map r.options))),
    ("queryParser", true, .text queryParser),
    ("return", r.returned.getD "" != "", .text (r.returned.getD "")),
    ("size", true, r.size),
    ("sort", !r.sort.isEmpty, .text r.sortText),
    ("start", r.cursor.isNone, r.start),
    ("stats", !r.stats.isEmpty, .text r.statsText)]

/-- The names of the parameters that a request has. -/
def names (r : Request) : List String := (r.candidates.filter (·.2.1)).map Prod.fst

theorem parameters_eq_flatMap (r : Request) :
    r.parameters = r.candidates.flatMap fun c => given c.2.1 c.1 c.2.2 := by
  simp [parameters, candidates]

theorem flatMap_given (cs : List (String × Bool × Value)) :
    cs.flatMap (fun c => given c.2.1 c.1 c.2.2) =
      (cs.filter (·.2.1)).map fun c => (Value.Key.text c.1, c.2.2) := by
  induction cs with
  | nil => rfl
  | cons c cs ih =>
    obtain ⟨name, present, v⟩ := c
    rw [List.flatMap_cons, ih]
    cases present <;> rfl

theorem keys_parameters (r : Request) : r.parameters.map Prod.fst = r.names.map .text := by
  rw [parameters_eq_flatMap, flatMap_given, names, List.map_map, List.map_map]
  rfl

theorem names_sublist (r : Request) : r.names.Sublist parameterNames :=
  List.filter_sublist.map Prod.fst

theorem mem_parameters {r : Request} {name : String} {v : Value} :
    (.text name, v) ∈ r.parameters ↔ (name, true, v) ∈ r.candidates := by
  rw [parameters_eq_flatMap, flatMap_given]
  constructor
  · intro h
    obtain ⟨⟨name', present, v'⟩, hc, heq⟩ := List.mem_map.1 h
    obtain ⟨hc, rfl⟩ := List.mem_filter.1 hc
    cases heq
    exact hc
  · intro h
    exact List.mem_map.2 ⟨_, List.mem_filter.2 ⟨h, rfl⟩, rfl⟩

/-! ## What a part holds -/

/-- How much a part of a request holds; the start and the size are always given. -/
def held (r : Request) : Part → Nat
  | .scored => r.query.nodes.length
  | .filter => r.filter.nodes.length
  | .cursor => r.cursor.isSome.toNat
  | .start => 1
  | .size => 1
  | .expressions => r.expressions.length
  | .facets => r.facets.length
  | .options => r.options.length
  | .returned => (r.returned.getD "").length
  | .sort => r.sort.length
  | .stats => r.stats.length

/-- An accepted step put something into a part. -/
def Grew (p : Part) (r : Request) (steps : List Step) : Prop :=
  ∃ before step after r', steps = before ++ step :: after ∧
    (before.foldl attempt r).apply step = .ok r' ∧ (before.foldl attempt r).held p < r'.held p

section Held

variable {r r' : Request} {p : Part}

theorem Agree.held_eq (h : r.Agree r' p) : r.held p = r'.held p := by
  cases p <;> simp_all [held, Agree]

/-- An update takes nothing out of a part, unless it is one of the fields to return. -/
theorem held_le_run (hp : p ≠ .returned) (u : Update) : r.held p ≤ (u.run r).held p := by
  by_cases h : u.part = p
  · subst h
    cases u with
    | scored nodes | filter nodes | sort field direction | stats field =>
      simp [Update.run, Update.part, held]
    | cursor s => exact Bool.toNat_le _
    | start | size => exact Nat.le_refl _
    | expression name formula => exact Keyed.length_le_put ..
    | facet field counted => exact Keyed.length_le_put ..
    | option key value => exact Keyed.length_le_put ..
    | returned => exact absurd rfl hp
  · exact Nat.le_of_eq (agree_run_self r h).held_eq.symm

theorem held_le_perform (hp : p ≠ .returned) (effects : List (Except Fault Update)) :
    r.held p ≤ (r.perform effects).2.held p := by
  induction effects generalizing r with
  | nil => exact Nat.le_refl _
  | cons e effects ih =>
    cases e with
    | error f => exact Nat.le_refl _
    | ok u => exact Nat.le_trans (held_le_run hp u) ih

/-- **A step takes nothing out of a part**, unless it is one of the fields to return. -/
theorem held_le_attempt (hp : p ≠ .returned) (step : Step) :
    r.held p ≤ (r.attempt step).held p := by
  rw [attempt_eq_perform]
  exact held_le_perform hp step.effects

theorem not_grew_nil : ¬ Grew p r [] := by
  rintro ⟨before, step, after, r', h, -⟩
  simp at h

theorem grew_snoc {steps : List Step} {step : Step} :
    Grew p r (steps ++ [step]) ↔ Grew p r steps ∨ ∃ r',
      (steps.foldl attempt r).apply step = .ok r' ∧ (steps.foldl attempt r).held p < r'.held p := by
  constructor
  · rintro ⟨before, x, after, r', heq, happly, hlt⟩
    rcases List.eq_nil_or_concat after with rfl | ⟨after, y, rfl⟩
    · obtain ⟨rfl, hx⟩ := List.append_inj' heq rfl
      cases hx
      exact .inr ⟨r', happly, hlt⟩
    · rw [List.concat_eq_append] at heq
      have heq' : steps ++ [step] = (before ++ x :: after) ++ [y] := by simpa using heq
      exact .inl ⟨before, x, after, r', (List.append_inj' heq' rfl).1, happly, hlt⟩
  · rintro (⟨before, x, after, r', rfl, happly, hlt⟩ | ⟨r', happly, hlt⟩)
    · exact ⟨before, x, after ++ [step], r', by simp, happly, hlt⟩
    · exact ⟨steps, step, [], r', rfl, happly, hlt⟩

/-- **A part that was empty holds something exactly if an accepted step put it there.** -/
theorem held_pos_iff_grew (hp : p ≠ .returned) (hr : r.held p = 0) (steps : List Step) :
    0 < (steps.foldl attempt r).held p ↔ Grew p r steps := by
  induction steps using List.reverseRecOn with
  | nil => simp [hr, not_grew_nil]
  | append_singleton steps step ih =>
    have hle := held_le_attempt (r := steps.foldl attempt r) hp step
    rw [List.foldl_append, List.foldl_cons, List.foldl_nil, grew_snoc, ← ih]
    generalize steps.foldl attempt r = r₁ at hle ⊢
    rw [attempt] at hle ⊢
    cases h : r₁.apply step with
    | error f => simp
    | ok r₂ =>
      rw [h] at hle
      simp only [Except.ok.injEq, exists_eq_left']
      dsimp only at hle
      omega

end Held

/-! ## Cursors -/

/-- A cursor that a step sets is not empty. -/
theorem cursor_ne_empty_attempt {r : Request} (h : ∀ s, r.cursor = some s → s ≠ "") (step : Step) :
    ∀ s, (r.attempt step).cursor = some s → s ≠ "" := by
  cases step with
  | setCursor cursor =>
    rintro _ ⟨⟩
    split
    · next htruthy => exact Value.plain_ne_empty htruthy
    · decide
  | _ =>
    intro s hs
    refine h s ?_
    rw [← hs]
    exact (agree_attempt r (p := .cursor) (by simp [Step.touches])).symm

/-- **A cursor is never empty**, whatever was given for one. -/
theorem cursor_ne_empty_of_steps {r : Request} (h : ∀ s, r.cursor = some s → s ≠ "")
    (steps : List Step) : ∀ s, (steps.foldl attempt r).cursor = some s → s ≠ "" := by
  induction steps generalizing r with
  | nil => exact h
  | cons step steps ih => exact ih (cursor_ne_empty_attempt h step)

end Request

/-- The name of the parameter that a part becomes. -/
def Part.parameter : Part → String
  | .scored => "query"
  | .filter => "filterQuery"
  | .cursor => "cursor"
  | .start => "start"
  | .size => "size"
  | .expressions => "expr"
  | .facets => "facet"
  | .options => "queryOptions"
  | .returned => "return"
  | .sort => "sort"
  | .stats => "stats"

/-- The part is empty at first, and takes in what steps add to it. -/
def Part.grows : Part → Bool
  | .start | .size | .returned => false
  | _ => true

namespace Request

/-! ## The parameters of a request -/

/-- The names of the parameters that are texts put together from what a part holds. -/
def textNames : List String := ["cursor", "filterQuery", "query", "return", "sort", "stats"]

/-- **Parameters are those of the parts that hold something**, in alphabetical order. -/
structure IsListed (steps : List Step) (first r : Request) (fields : Fields) (names : List String) :
    Prop where
  keys : fields.map Prod.fst = names.map .text
  ascending : names.Pairwise (· < ·)
  known : names ⊆ parameterNames
  always : "queryParser" ∈ names ∧ "size" ∈ names
  /-- A cursor stands in place of the start. -/
  window : "start" ∈ names ↔ "cursor" ∉ names
  cursor : "cursor" ∈ names ↔ ∃ cursor, Step.setCursor cursor ∈ steps
  held : ∀ p, p ≠ .start → (p.parameter ∈ names ↔ 0 < r.held p)
  grew : ∀ p, p.grows = true → (p.parameter ∈ names ↔ Grew p first steps)
  texts : ∀ name ∈ textNames, ∀ v, (.text name, v) ∈ fields → ∃ s, v = .text s ∧ s ≠ ""

section Parameters

variable {r : Request}

theorem parameter_mem_names {p : Part} (hp : p ≠ .start) :
    p.parameter ∈ r.names ↔ 0 < r.held p := by
  cases p with
  | start => exact absurd rfl hp
  | cursor => cases h : r.cursor <;> simp [names, candidates, Part.parameter, held, h]
  | returned => simp [names, candidates, Part.parameter, held, Nat.pos_iff_ne_zero]
  | _ => simp [names, candidates, Part.parameter, held, List.length_pos_iff]

theorem always_mem_names : "queryParser" ∈ r.names ∧ "size" ∈ r.names := by
  simp [names, candidates]

theorem start_mem_names : "start" ∈ r.names ↔ "cursor" ∉ r.names := by
  simp [names, candidates]

theorem sortText_ne_empty (h : r.sort ≠ []) : r.sortText ≠ "" := by
  obtain ⟨first, rest, hsort⟩ := List.exists_cons_of_ne_nil h
  rw [sortText, hsort, List.map_cons]
  intro hempty
  have hlist := congrArg String.toList hempty
  cases rest <;> simp at hlist

/-- The texts that parts become are not empty. -/
theorem texts_of_mem_parameters (hcursor : ∀ s, r.cursor = some s → s ≠ "") {name : String}
    (hname : name ∈ textNames) {v : Value} (hv : (.text name, v) ∈ r.parameters) :
    ∃ s, v = .text s ∧ s ≠ "" := by
  rw [mem_parameters] at hv
  simp only [textNames, List.mem_cons, List.not_mem_nil, or_false] at hname
  rcases hname with rfl | rfl | rfl | rfl | rfl | rfl <;> simp [candidates] at hv
  · obtain ⟨hsome, rfl⟩ := hv
    obtain ⟨s, hs⟩ := Option.isSome_iff_exists.1 hsome
    exact ⟨_, rfl, by rw [hs]; exact hcursor s hs⟩
  · exact ⟨_, hv.2, Clause.text_ne_empty hv.1⟩
  · exact ⟨_, hv.2, Clause.text_ne_empty hv.1⟩
  · exact ⟨_, hv.2, hv.1⟩
  · exact ⟨_, hv.2, sortText_ne_empty hv.1⟩
  · refine ⟨_, hv.2, ?_⟩
    simp [statsText]

end Parameters

theorem held_eq_zero_of_grows {p : Part} (hp : p.grows = true) (size : Value) :
    ({ size := size } : Request).held p = 0 := by
  cases p <;> first | rfl | cases hp

theorem exists_setCursor_iff {steps : List Step} :
    steps.any Step.setsCursor = true ↔ ∃ cursor, Step.setCursor cursor ∈ steps := by
  rw [List.any_eq_true]
  constructor
  · rintro ⟨step, hstep, hsets⟩
    cases step with
    | setCursor cursor => exact ⟨cursor, hstep⟩
    | _ => cases hsets
  · rintro ⟨cursor, hstep⟩
    exact ⟨_, hstep, rfl⟩

/-- **The parameters of a request, however it is built.** It compiles exactly if no node of its
clauses lacks a child. Then there is a parameter for each part that holds something, in alphabetical
order of their names: for a clause exactly if an accepted step added a node to it, and for the
cursor, in place of the start, exactly if one was set. No text that is put together is empty. -/
theorem isListed_of_steps (size : Value) (steps : List Step) :
    let first : Request := { size := size }
    let r := steps.foldl attempt first
    match r.compile with
    | .error f => f = .absentChild ∧ ∃ e ∈ r.filter.nodes ++ r.query.nodes, e.isWhole = false
    | .ok fields => ∃ names, IsListed steps first r fields names := by
  intro first r
  cases hwhole : r.isWhole with
  | false =>
    have hcompile : r.compile = .error .absentChild := by simp [compile, hwhole]
    rw [hcompile]
    refine ⟨rfl, ?_⟩
    rw [isWhole, Clause.isWhole, Clause.isWhole, ← List.all_append] at hwhole
    obtain ⟨e, he, habsent⟩ := List.all_eq_false.1 hwhole
    exact ⟨e, he, Bool.eq_false_iff.2 habsent⟩
  | true =>
    rw [compile_eq_ok_iff.2 ⟨hwhole, rfl⟩]
    have hcursor : r.cursor.isSome = steps.any Step.setsCursor := isSome_cursor_of_steps first steps
    have hnone : first.cursor = none := rfl
    have hnonempty : ∀ s, r.cursor = some s → s ≠ "" :=
      cursor_ne_empty_of_steps (by simp [hnone]) steps
    have hheld : ∀ p, p.grows = true → (0 < r.held p ↔ Grew p first steps) := fun p hp =>
      held_pos_iff_grew (by rintro rfl; cases hp) (held_eq_zero_of_grows hp size) steps
    refine ⟨r.names, keys_parameters r, pairwise_parameterNames.sublist r.names_sublist,
      r.names_sublist.subset, always_mem_names, start_mem_names, ?_, fun _ => parameter_mem_names,
      fun p hp => ?_, fun name hname v hv => texts_of_mem_parameters hnonempty hname hv⟩
    · have hmem : "cursor" ∈ r.names ↔ 0 < r.held .cursor :=
        parameter_mem_names (p := .cursor) (by decide)
      rw [hmem, ← exists_setCursor_iff, ← hcursor, held]
      cases r.cursor.isSome <;> decide
    · rw [parameter_mem_names (by rintro rfl; cases hp), hheld p hp]

end Request

end Query

end SearchIndex
