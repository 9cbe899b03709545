import SearchIndex.Proofs.Outcome
import SearchIndex.Query.Request

/-!
# Parts of a request

A request has eleven parts, and every step of it is made of updates that each change one part and
read no other. Whether a step is refused does not depend on the request at all, and a step is
refused before it changes anything, if it is.

## Main definitions

* `Part`, `Update`: the parts of a request, and what changes one of them
* `Request.Agree r r' p`: the requests have a part in common
* `Request.Step.effects`, `Request.perform`: the updates of a step, made one after the other
* `Request.Step.touches`: the parts a step touches

## Main results

* `Request.perform_effects`: a step that is refused changes nothing
* `Request.Agree.perform`, `Request.agree_perform_self`: a part depends on itself and on the updates
  of it
* `Request.agree_attempt`: a step leaves the parts that it does not touch
* `Request.valueAt?_query`, `Request.valueAt?_filterQuery`: the compiled clauses
-/

namespace SearchIndex.Query

/-- What a step adds to a clause does not depend on what the clause holds. -/
theorem Clause.apply_eq (step : Clause.Step) (c : Clause) :
    Clause.apply step c = (Clause.apply step {}).map fun added => ⟨c.nodes ++ added.nodes⟩ := by
  cases step with
  | add draft =>
    cases h : draft.build with
    | error f => simp [apply, h, bind, Except.bind, Except.map]
    | ok e =>
      cases e with
      | none => simp [apply, h, bind, Except.bind, Except.map, pure, Except.pure]
      | some e => simp [apply, h, bind, Except.bind, Except.map, pure, Except.pure, append]
  | block kind content =>
    cases h : contentOf kind content with
    | error f => simp [apply, h, bind, Except.bind, Except.map]
    | ok children =>
      simp only [apply, h, bind, Except.bind, close]
      split
      · simp [Except.map]
      · cases Expression.check { kind := kind, children := children.map some } with
        | error f => rfl
        | ok e => simp [Except.map, pure, Except.pure, append]

/-- The range between two texts is always added. -/
theorem Clause.apply_bounds (field : Value) (lower upper : String) (c : Clause) :
    Clause.apply (.add (.bounds field (.text lower) (.text upper))) c =
      .ok (c.append
        { kind := .range, field := field, lower := .text lower, upper := .text upper }) := rfl

/-! ## Parts and updates -/

/-- The parts of a request. -/
inductive Part where
  | scored
  | filter
  | cursor
  | start
  | size
  | expressions
  | facets
  | options
  | returned
  | sort
  | stats
deriving DecidableEq

/-- The requests have a part in common. -/
def Request.Agree (r r' : Request) : Part → Prop
  | .scored => r.query = r'.query
  | .filter => r.filter = r'.filter
  | .cursor => r.cursor = r'.cursor
  | .start => r.start = r'.start
  | .size => r.size = r'.size
  | .expressions => r.expressions = r'.expressions
  | .facets => r.facets = r'.facets
  | .options => r.options = r'.options
  | .returned => r.returned = r'.returned
  | .sort => r.sort = r'.sort
  | .stats => r.stats = r'.stats

/-- A change of one part of a request. -/
inductive Update where
  | scored (nodes : List Expression)
  | filter (nodes : List Expression)
  | cursor (cursor : String)
  | start (start : Value)
  | size (size : Value)
  | expression (name : Value.Key) (formula : Value)
  | facet (field : Value.Key) (facet : Facet)
  | option (key : Value.Key) (value : Value)
  | returned (fields : String)
  | sort (field direction : Value)
  | stats (field : Value)

namespace Update

/-- The part that an update changes. -/
def part : Update → Part
  | .scored _ => .scored
  | .filter _ => .filter
  | .cursor _ => .cursor
  | .start _ => .start
  | .size _ => .size
  | .expression _ _ => .expressions
  | .facet _ _ => .facets
  | .option _ _ => .options
  | .returned _ => .returned
  | .sort _ _ => .sort
  | .stats _ => .stats

/-- The request after an update. -/
def run (r : Request) : Update → Request
  | .scored nodes => { r with query := ⟨r.query.nodes ++ nodes⟩ }
  | .filter nodes => { r with filter := ⟨r.filter.nodes ++ nodes⟩ }
  | .cursor s => { r with cursor := some s }
  | .start v => { r with start := v }
  | .size v => { r with size := v }
  | .expression name formula => r.withExpression name formula
  | .facet field counted => { r with facets := Keyed.put field counted r.facets }
  | .option key value => { r with options := Keyed.put key value r.options }
  | .returned fields => { r with returned := some fields }
  | .sort field direction => { r with sort := r.sort ++ [(field, direction)] }
  | .stats field => { r with stats := r.stats ++ [field] }

end Update

namespace Request

theorem agree_refl (r : Request) (p : Part) : r.Agree r p := by cases p <;> rfl

theorem Agree.symm {r r' : Request} {p : Part} (h : r.Agree r' p) : r'.Agree r p := by
  cases p <;> exact Eq.symm h

theorem Agree.trans {r r' r'' : Request} {p : Part} (h : r.Agree r' p) (h' : r'.Agree r'' p) :
    r.Agree r'' p := by
  cases p <;> exact Eq.trans h h'

theorem eq_of_agree {r r' : Request} (h : ∀ p, r.Agree r' p) : r = r' := by
  obtain ⟨⟩ := r
  obtain ⟨⟩ := r'
  obtain rfl := h .scored
  obtain rfl := h .filter
  obtain rfl := h .cursor
  obtain rfl := h .start
  obtain rfl := h .size
  obtain rfl := h .expressions
  obtain rfl := h .facets
  obtain rfl := h .options
  obtain rfl := h .returned
  obtain rfl := h .sort
  obtain rfl := h .stats
  rfl

/-- An update leaves the other parts. -/
theorem agree_run_self (r : Request) {u : Update} {p : Part} (h : u.part ≠ p) :
    (u.run r).Agree r p := by
  cases u <;> cases p <;> first | rfl | exact absurd rfl h

/-- An update of a part depends on that part alone. -/
theorem Agree.run {r r' : Request} {p : Part} (h : r.Agree r' p) (u : Update) :
    (u.run r).Agree (u.run r') p := by
  by_cases hp : u.part = p
  · subst hp
    cases u with
    | scored nodes => exact congrArg (fun c : Clause => (⟨c.nodes ++ nodes⟩ : Clause)) h
    | filter nodes => exact congrArg (fun c : Clause => (⟨c.nodes ++ nodes⟩ : Clause)) h
    | cursor | start | size | returned => rfl
    | expression name formula => exact congrArg (Keyed.put name formula) h
    | facet field facet => exact congrArg (Keyed.put field facet) h
    | option key value => exact congrArg (Keyed.put key value) h
    | sort field direction => exact congrArg (· ++ [(field, direction)]) h
    | stats field => exact congrArg (· ++ [field]) h
  · exact (agree_run_self r hp).trans (h.trans (agree_run_self r' hp).symm)

end Request

/-! ## The updates a step makes -/

namespace Request

/-- What a step does to a request: updates one after the other, the first refused one ending
them. -/
def Step.effects : Step → List (Except Fault Update)
  | .setCursor cursor =>
    [.ok (.cursor (if cursor.truthy then cursor.plain else initialCursor))]
  | .setStart start => [.ok (.start start)]
  | .setSize size => [.ok (.size size)]
  | .setReturned fields => [(joinFields fields).map .returned]
  | .setOption key value => [(keyOf key).map fun key => .option key value]
  | .addExpression name formula => [(keyOf name).map fun name => .expression name formula]
  | .addFacet field sort size => [(keyOf field).map fun field => .facet field (.sorted sort size)]
  | .addBuckets field labels method =>
    match labels.items? with
    | some labels => [(keyOf field).map fun field => .facet field (.buckets labels method)]
    | none => [.error .notIterable]
  | .addSort field direction => [.ok (.sort field direction)]
  | .addStats field => [.ok (.stats field)]
  | .nearPoint field lat lon radius named =>
    match Box.around lat lon radius with
    | .ok box =>
      (Clause.apply (.add (.bounds field (.text box.upperLeft.text) (.text box.lowerRight.text)))
        {}).map (fun c => .filter c.nodes) ::
      if named.truthy then [.ok (.expression "distance" (.text (haversine field lat lon)))] else []
    | .error f => [.error f]
  | .addDistance field lat lon => [.ok (.expression "distance" (.text (haversine field lat lon)))]
  | .query step => [(Clause.apply step {}).map fun c => .scored c.nodes]
  | .filter step => [(Clause.apply step {}).map fun c => .filter c.nodes]

/-- **A request after effects**, with the fault that ended them. What was done before it stays. -/
def perform (r : Request) : List (Except Fault Update) → Option Fault × Request
  | [] => (none, r)
  | .ok u :: effects => perform (u.run r) effects
  | .error f :: _ => (some f, r)

theorem perform_append {r r' : Request} {effects : List (Except Fault Update)}
    (h : r.perform effects = (none, r')) (more : List (Except Fault Update)) :
    r.perform (effects ++ more) = r'.perform more := by
  induction effects generalizing r with
  | nil =>
    obtain rfl : r = r' := congrArg Prod.snd h
    rfl
  | cons e effects ih =>
    cases e with
    | error f => nomatch h
    | ok u => exact ih h

end Request

/-- What is left of an outcome when nothing is changed by a failure. -/
def kept {α : Type} (a : α) : Except Fault α → Option Fault × α
  | .ok a' => (none, a')
  | .error f => (some f, a)

namespace Request

theorem perform_single (r : Request) (effect : Except Fault Update) :
    r.perform [effect] = kept r (effect.map fun u => u.run r) := by
  cases effect <;> rfl

/-- **A step that is refused changes nothing**, and one that is not does what it stands for. -/
theorem perform_effects (r : Request) (step : Step) :
    r.perform step.effects = kept r (r.apply step) := by
  cases step with
  | setCursor | setStart | setSize | addSort | addStats | addDistance => rfl
  | setReturned fields =>
    rw [Step.effects, perform_single, apply]
    cases joinFields fields <;> rfl
  | setOption key value =>
    rw [Step.effects, perform_single, apply]
    cases keyOf key <;> rfl
  | addExpression name formula =>
    rw [Step.effects, perform_single, apply]
    cases keyOf name <;> rfl
  | addFacet field sort size =>
    rw [Step.effects, perform_single, apply, withFacet]
    cases keyOf field <;> rfl
  | addBuckets field labels method =>
    rw [Step.effects, apply]
    cases labels.items? with
    | none => rfl
    | some labels =>
      simp only [perform_single, withFacet]
      cases keyOf field <;> rfl
  | nearPoint field lat lon radius named =>
    rw [Step.effects, apply]
    cases Box.around lat lon radius with
    | error f => rfl
    | ok box =>
      simp only [Clause.apply_bounds, bind, Except.bind]
      cases named.truthy <;> rfl
  | query step =>
    rw [Step.effects, perform_single, apply, Clause.apply_eq step r.query]
    cases Clause.apply step {} <;> rfl
  | filter step =>
    rw [Step.effects, perform_single, apply, Clause.apply_eq step r.filter]
    cases Clause.apply step {} <;> rfl

/-- Steps that are all accepted do what they stand for one after the other. -/
theorem perform_flatMap {r r' : Request} {steps : List Step} (h : r.applyAll steps = .ok r') :
    r.perform (steps.flatMap Step.effects) = (none, r') := by
  induction steps generalizing r with
  | nil =>
    obtain rfl : r = r' := Except.ok.inj h
    rfl
  | cons step steps ih =>
    have hall : (r.apply step >>= fun r => r.applyAll steps) = .ok r' := h
    obtain ⟨r₁, hstep, hsteps⟩ := bind_eq_ok_iff.1 hall
    have hfirst : r.perform step.effects = (none, r₁) := by
      rw [perform_effects, hstep]
      rfl
    rw [List.flatMap_cons, perform_append hfirst, ih hsteps]

/-! ## Which parts effects depend on -/

section Agreement

variable {r r' : Request} {p : Part}

theorem Agree.perform (h : r.Agree r' p) (effects : List (Except Fault Update)) :
    (r.perform effects).2.Agree (r'.perform effects).2 p := by
  induction effects generalizing r r' with
  | nil => exact h
  | cons e effects ih =>
    cases e with
    | error f => exact h
    | ok u => exact ih (h.run u)

/-- Effects leave the parts that none of their updates changes. -/
theorem agree_perform_self (r : Request) {effects : List (Except Fault Update)}
    (h : ∀ u, .ok u ∈ effects → u.part ≠ p) : (r.perform effects).2.Agree r p := by
  induction effects generalizing r with
  | nil => exact agree_refl r p
  | cons e effects ih =>
    cases e with
    | error f => exact agree_refl r p
    | ok u =>
      have hrest := ih (u.run r) fun u' hu' => h u' (List.mem_cons_of_mem _ hu')
      exact hrest.trans (agree_run_self r (h u List.mem_cons_self))

end Agreement

/-- The parts that a step touches: a box around a point is a filter, and names the distance if it is
asked to. -/
def Step.touches : Step → Part → Bool
  | .setCursor _, p => p = .cursor
  | .setStart _, p => p = .start
  | .setSize _, p => p = .size
  | .setReturned _, p => p = .returned
  | .setOption _ _, p => p = .options
  | .addExpression _ _, p => p = .expressions
  | .addFacet _ _ _, p => p = .facets
  | .addBuckets _ _ _, p => p = .facets
  | .addSort _ _, p => p = .sort
  | .addStats _, p => p = .stats
  | .nearPoint _ _ _ _ named, p => p = .filter || (named.truthy && p = .expressions)
  | .addDistance _ _ _, p => p = .expressions
  | .query _, p => p = .scored
  | .filter _, p => p = .filter

theorem map_eq_ok {α β : Type} {x : Except Fault α} {f : α → β} {b : β} (h : x.map f = .ok b) :
    ∃ a, f a = b := by
  cases x with
  | error e => nomatch h
  | ok a => exact ⟨a, Except.ok.inj h⟩

theorem touches_of_mem_effects {step : Step} {u : Update} (h : .ok u ∈ step.effects) :
    step.touches u.part = true := by
  cases step with
  | setCursor | setStart | setSize | addSort | addStats | addDistance =>
    obtain rfl := Except.ok.inj (List.mem_singleton.1 h)
    rfl
  | setReturned | setOption | addExpression | addFacet | query | filter =>
    obtain ⟨a, rfl⟩ := map_eq_ok (List.mem_singleton.1 h).symm
    rfl
  | addBuckets field labels method =>
    rw [Step.effects] at h
    split at h
    · obtain ⟨a, rfl⟩ := map_eq_ok (List.mem_singleton.1 h).symm
      rfl
    · nomatch List.mem_singleton.1 h
  | nearPoint field lat lon radius named =>
    rw [Step.effects] at h
    split at h
    · obtain h | h := List.mem_cons.1 h
      · obtain ⟨a, rfl⟩ := map_eq_ok h.symm
        rfl
      · split at h
        · next hn =>
          obtain rfl := Except.ok.inj (List.mem_singleton.1 h)
          simp [Step.touches, hn, Update.part]
        · exact absurd h List.not_mem_nil
    · nomatch List.mem_singleton.1 h

theorem attempt_eq_perform (r : Request) (step : Step) :
    r.attempt step = (r.perform step.effects).2 := by
  rw [perform_effects, attempt]
  cases r.apply step <;> rfl

/-- **A step leaves the parts that it does not touch**, whether it is refused or not. -/
theorem agree_attempt (r : Request) {step : Step} {p : Part} (h : step.touches p = false) :
    (r.attempt step).Agree r p := by
  rw [attempt_eq_perform]
  refine agree_perform_self r fun u hu hp => ?_
  have htouches := touches_of_mem_effects hu
  rw [hp, h] at htouches
  exact Bool.false_ne_true htouches

end Request

/-! ## The compiled clauses -/

namespace Request

theorem find?_given (present : Bool) (name key : String) (v : Value) :
    Keyed.find? (.text key) (given present name v) =
      if present = true ∧ name = key then some v else none := by
  cases present with
  | false => simp [given]
  | true =>
    by_cases h : name = key
    · subst h
      simp [given, Keyed.find?, (Value.Key.exact_text name).beq_self]
    · have hne : Value.Key.text name ≠ .text key := fun he => h (Value.Key.text.inj he)
      simp [given, Keyed.find?, (Value.Key.exact_text key).beq_eq_false hne, h]

section Clauses

variable {r r' : Request} {fields fields' : Fields}

theorem valueAt?_query (h : r.compile = .ok fields) : Value.valueAt? fields "query" =
    if r.query.nodes.isEmpty then none else some (.text r.query.text) := by
  obtain ⟨-, rfl⟩ := compile_eq_ok_iff.1 h
  simp [Value.valueAt?, parameters, Keyed.find?_append, find?_given]

theorem valueAt?_filterQuery (h : r.compile = .ok fields) : Value.valueAt? fields "filterQuery" =
    if r.filter.nodes.isEmpty then none else some (.text r.filter.text) := by
  obtain ⟨-, rfl⟩ := compile_eq_ok_iff.1 h
  simp [Value.valueAt?, parameters, Keyed.find?_append, find?_given]

end Clauses

end Request

end SearchIndex.Query
