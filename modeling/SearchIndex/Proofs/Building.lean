import SearchIndex.Proofs.Parts
import SearchIndex.Query.Builder

/-!
# The parts of what is built

A part of a built request is what the accepted steps that touch it make of it, in their order.
Steps that touch different parts can therefore be interleaved in any way.

## Main definitions

* `Builder.perform b step`: a builder after a step, which is changed update by update
* `Builder.run`, `Builder.accepted`: the outcome of a sequence of steps, and those not refused
* `Builder.Step.touches`: the parts that a step touches

## Main results

* `perform_eq`: a step that is refused leaves the builder as it was
* `agree_run`: a part is what the accepted steps that touch it make of it
* `run_eq_of_parts`, `run_swap`: sequences that lead to the same builder
* `parts_are_separate`: what is compiled of such sequences
-/

namespace SearchIndex.Query

namespace Builder

/-- What a step does to the request of a builder. -/
def Step.effects (typeField : Value) (step : Step) : List (Except Fault Update) :=
  match step.expand typeField with
  | .ok steps => steps.flatMap Request.Step.effects
  | .error f => [.error f]

/-- **A builder after a step**, with the fault that ended it. What was done before it stays. -/
def perform (b : Builder) (step : Step) : Option Fault × Builder :=
  let (fault, request) := b.request.perform (step.effects b.typeField)
  (fault, { b with request := request })

/-- A builder after steps, of which some may be refused. -/
def run (b : Builder) (steps : List Step) : Builder :=
  steps.foldl (fun b step => (b.perform step).2) b

/-- The steps that are accepted one after the other. -/
def accepted (b : Builder) : List Step → List Step
  | [] => []
  | step :: steps =>
    let rest := (b.perform step).2.accepted steps
    if (b.perform step).1.isNone then step :: rest else rest

/-- The parts of the request that a step touches. -/
def Step.touches : Step → Part → Bool
  | .request step, p => step.touches p
  | .ofKind _ _, p => p = .filter
  | .ofLocale _, p => p = .filter
  | .having _, p => p = .filter

/-- The step of the request filters by a phrase. -/
def FiltersPhrase (s : Request.Step) : Prop := ∃ value field, s = filterPhrase value field

/-- A step stands for one step of the request, or for phrases to filter by. -/
theorem expand_cases {typeField : Value} {step : Step} {steps : List Request.Step}
    (h : step.expand typeField = .ok steps) :
    (∃ s, step = .request s ∧ steps = [s]) ∨
      (∀ p, step.touches p = decide (p = .filter)) ∧ ∀ s ∈ steps, FiltersPhrase s := by
  cases step with
  | request s =>
    obtain rfl := Except.ok.inj h
    exact .inl ⟨s, rfl, rfl⟩
  | ofKind kind locale =>
    obtain rfl := Except.ok.inj h
    refine .inr ⟨fun _ => rfl, List.forall_mem_cons.2 ⟨⟨_, _, rfl⟩, ?_⟩⟩
    split
    · exact List.forall_mem_singleton.2 ⟨_, _, rfl⟩
    · exact List.forall_mem_nil _
  | ofLocale locale =>
    obtain rfl := Except.ok.inj h
    exact .inr ⟨fun _ => rfl, List.forall_mem_singleton.2 ⟨_, _, rfl⟩⟩
  | having filters =>
    cases filters with
    | map entries =>
      obtain rfl := Except.ok.inj h
      refine .inr ⟨fun _ => rfl, fun s hs => ?_⟩
      obtain ⟨e, -, hs⟩ := List.mem_flatMap.1 hs
      obtain ⟨leaf, -, rfl⟩ := List.mem_map.1 hs
      exact ⟨_, _, rfl⟩
    | null | bool | int | float | text | list => nomatch h

/-- Phrases to filter by are always accepted. -/
theorem exists_applyAll_eq_ok {steps : List Request.Step} (h : ∀ s ∈ steps, FiltersPhrase s)
    (r : Request) : ∃ r', r.applyAll steps = .ok r' := by
  induction steps generalizing r with
  | nil => exact ⟨r, rfl⟩
  | cons s steps ih =>
    obtain ⟨⟨value, field, rfl⟩, hsteps⟩ := List.forall_mem_cons.1 h
    exact ih hsteps _

/-- **A step that is refused leaves the builder as it was.** -/
theorem perform_eq (b : Builder) (step : Step) : b.perform step = kept b (b.apply step) := by
  cases h : step.expand b.typeField with
  | error f => simp [perform, Step.effects, apply, h, Request.perform, kept, bind, Except.bind]
  | ok steps =>
    have hperform : b.request.perform (steps.flatMap Request.Step.effects) =
        kept b.request (b.request.applyAll steps) := by
      obtain ⟨s, -, rfl⟩ | ⟨-, hphrases⟩ := expand_cases h
      · have hone : b.request.applyAll [s] = b.request.apply s := by
          show (b.request.apply s >>= fun r => .ok r) = b.request.apply s
          cases b.request.apply s <;> rfl
        rw [hone, ← Request.perform_effects]
        simp
      · obtain ⟨r', hr'⟩ := exists_applyAll_eq_ok hphrases b.request
        rw [Request.perform_flatMap hr', hr']
        rfl
    simp only [perform, Step.effects, apply, h, hperform, bind, Except.bind]
    cases b.request.applyAll steps <;> rfl

/-- What is left after a step is what the step makes of the builder, if it is not refused. -/
theorem snd_perform (b : Builder) (step : Step) : (b.perform step).2 = b.attempt step := by
  rw [perform_eq, attempt]
  cases b.apply step <;> rfl

theorem touches_of_mem_effects {typeField : Value} {step : Step} {u : Update}
    (h : .ok u ∈ step.effects typeField) : step.touches u.part = true := by
  rw [Step.effects] at h
  cases he : step.expand typeField with
  | error f =>
    rw [he] at h
    nomatch List.mem_singleton.1 h
  | ok steps =>
    simp only [he] at h
    obtain ⟨s, hs, hu⟩ := List.mem_flatMap.1 h
    have htouches := Request.touches_of_mem_effects hu
    obtain ⟨s', rfl, rfl⟩ | ⟨hstep, hphrases⟩ := expand_cases he
    · obtain rfl := List.mem_singleton.1 hs
      exact htouches
    · obtain ⟨value, field, rfl⟩ := hphrases s hs
      rw [hstep]
      exact htouches

/-! ## Runs -/

section Runs

variable {b b' : Builder} {p : Part}

theorem agree_perform (h : b.request.Agree b'.request p) (ht : b.typeField = b'.typeField)
    (step : Step) : (b.perform step).2.request.Agree (b'.perform step).2.request p := by
  have hb' : (b'.perform step).2.request = (b'.request.perform (step.effects b.typeField)).2 := by
    rw [ht]
    rfl
  rw [hb']
  exact h.perform (step.effects b.typeField)

theorem agree_perform_self {step : Step} (h : step.touches p = false) :
    (b.perform step).2.request.Agree b.request p := by
  refine Request.agree_perform_self b.request fun u hu hp => ?_
  have htouches := touches_of_mem_effects hu
  rw [hp, h] at htouches
  cases htouches

theorem snd_perform_of_refused {step : Step} {f : Fault} (h : (b.perform step).1 = some f) :
    (b.perform step).2 = b := by
  rw [perform_eq] at h
  rw [snd_perform, attempt]
  cases ha : b.apply step with
  | error f => rfl
  | ok b' =>
    rw [ha] at h
    nomatch h

/-- **A part is what the accepted steps that touch it make of it.** -/
theorem agree_run (h : b.request.Agree b'.request p) (ht : b.typeField = b'.typeField)
    (steps : List Step) :
    (b.run steps).request.Agree
      (b'.run ((b.accepted steps).filter (·.touches p))).request p := by
  induction steps generalizing b b' with
  | nil => exact h
  | cons step steps ih =>
    have hrun : b.run (step :: steps) = (b.perform step).2.run steps := rfl
    cases hf : (b.perform step).1 with
    | some f =>
      have haccepted : b.accepted (step :: steps) = b.accepted steps := by
        simp only [accepted, hf, snd_perform_of_refused hf]
        rfl
      rw [hrun, haccepted, snd_perform_of_refused hf]
      exact ih h ht
    | none =>
      have haccepted : b.accepted (step :: steps) =
          step :: (b.perform step).2.accepted steps := by
        simp only [accepted, hf]
        rfl
      rw [hrun, haccepted]
      cases hp : step.touches p with
      | true =>
        simp only [List.filter_cons, hp, if_true]
        exact ih (agree_perform h ht step) ht
      | false =>
        simp only [List.filter_cons, hp, Bool.false_eq_true, if_false]
        exact ih ((agree_perform_self hp).trans h) ht

theorem typeField_run (b : Builder) (steps : List Step) :
    (b.run steps).typeField = b.typeField := by
  induction steps generalizing b with
  | nil => rfl
  | cons step steps ih => exact ih (b.perform step).2

theorem eq_of_request_eq (ht : b.typeField = b'.typeField) (h : b.request = b'.request) :
    b = b' := by
  obtain ⟨typeField, request⟩ := b
  obtain ⟨typeField', request'⟩ := b'
  obtain rfl : typeField = typeField' := ht
  obtain rfl : request = request' := h
  rfl

/-- Steps whose accepted ones are the same part by part lead to the same builder. -/
theorem run_eq_of_parts {steps steps' : List Step}
    (h : ∀ p, (b.accepted steps).filter (·.touches p) = (b.accepted steps').filter (·.touches p)) :
    b.run steps = b.run steps' := by
  refine eq_of_request_eq ?_ (Request.eq_of_agree fun p => ?_)
  · rw [typeField_run, typeField_run]
  · have hleft := agree_run (Request.agree_refl b.request p) rfl steps
    have hright := agree_run (Request.agree_refl b.request p) rfl steps'
    rw [h p] at hleft
    exact hleft.trans hright.symm

/-- Two steps that touch no part in common can be swapped. -/
theorem perform_comm {step step' : Step} (h : ∀ p, ¬ (step.touches p ∧ step'.touches p)) :
    ((b.perform step).2.perform step').2 = ((b.perform step').2.perform step).2 := by
  refine eq_of_request_eq rfl (Request.eq_of_agree fun p => ?_)
  cases hp : step.touches p with
  | false =>
    have hleft : ((b.perform step).2.perform step').2.request.Agree (b.perform step').2.request p :=
      agree_perform (agree_perform_self hp) rfl step'
    exact hleft.trans (agree_perform_self hp).symm
  | true =>
    have hp' : step'.touches p = false := Bool.eq_false_iff.2 fun ht => h p ⟨hp, ht⟩
    have hright : ((b.perform step').2.perform step).2.request.Agree (b.perform step).2.request p :=
      agree_perform (agree_perform_self hp') rfl step
    exact (agree_perform_self hp').trans hright.symm

theorem run_swap {step step' : Step} (h : ∀ p, ¬ (step.touches p ∧ step'.touches p))
    (before after : List Step) :
    b.run (before ++ step :: step' :: after) = b.run (before ++ step' :: step :: after) := by
  simp only [run, List.foldl_append, List.foldl_cons]
  rw [perform_comm h]

end Runs

/-! ## Separate parts -/

/-- **The parts of a request are separate.** What is compiled depends on the accepted steps that
touch each part in their order, not on how the steps for different parts are interleaved. -/
theorem parts_are_separate (b : Builder) :
    (∀ steps steps' : List Step,
      (∀ p, (b.accepted steps).filter (·.touches p) = (b.accepted steps').filter (·.touches p)) →
      (b.run steps).build = (b.run steps').build) ∧
    (∀ (step step' : Step) (before after : List Step),
      (∀ p, ¬ (step.touches p ∧ step'.touches p)) →
      (b.run (before ++ step :: step' :: after)).build =
        (b.run (before ++ step' :: step :: after)).build) ∧
    (∀ (step : Step) (fields fields' : Fields),
      b.build = .ok fields → (b.perform step).2.build = .ok fields' →
      (step.touches .scored = false →
        Value.valueAt? fields' "query" = Value.valueAt? fields "query") ∧
      (step.touches .filter = false →
        Value.valueAt? fields' "filterQuery" = Value.valueAt? fields "filterQuery")) ∧
    (∀ (step : Step) (f : Fault), (b.perform step).1 = some f → (b.perform step).2 = b) := by
  refine ⟨fun steps steps' h => ?_, fun step step' before after h => ?_, ?_,
    fun step f h => snd_perform_of_refused h⟩
  · rw [run_eq_of_parts h]
  · rw [run_swap h]
  · intro step fields fields' hb hb'
    refine ⟨fun h => ?_, fun h => ?_⟩
    · have hquery : (b.perform step).2.request.query = b.request.query := agree_perform_self h
      rw [Request.valueAt?_query hb', Request.valueAt?_query hb, hquery]
    · have hfilter : (b.perform step).2.request.filter = b.request.filter := agree_perform_self h
      rw [Request.valueAt?_filterQuery hb', Request.valueAt?_filterQuery hb, hfilter]

/-- A term, a facet of a list, which is refused, a filter and a size; the same in another order
and without the facet. -/
theorem build_of_reordered :
    let term : Step := .request (.query (.add (.term (.text "star") (.text "title"))))
    let facet : Step := .request (.addFacet (.list []) (.text "count") (.int 10))
    let kind : Step := .ofKind (.text "Article") (.text "en")
    let size : Step := .request (.setSize (.int 5))
    (Builder.run {} [term, facet, kind, size]).build =
      (Builder.run {} [size, kind, term]).build := by
  intro term facet kind size
  refine (parts_are_separate {}).1 _ _ fun p => ?_
  cases p <;> rfl

end Builder

end SearchIndex.Query
