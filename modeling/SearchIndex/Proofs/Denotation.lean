import SearchIndex.Proofs.Outcome
import SearchIndex.Query.Clause

/-!
# What the steps of a clause denote

Each step of a clause stands for nodes of its own, whatever the clause holds already: for one node,
or for none. A block stands for the combination of what its steps stand for, and for nothing when
that is empty. A step that is refused stands for nothing, and a block that holds such a step, at any
depth, is refused as a whole. What a clause holds after steps is what it held before, and then what
the steps stand for one after the other.

## Main definitions

* `Step.nodes?`, `Step.nodes`: the nodes a step stands for, if it is not refused
* `Step.Rules denotes`: the rules of what steps denote
* `Expression.PartOf e e'`: an expression occurs in another one
* `Expression.Sound e`: the attributes of a node go together

## Main results

* `toOption_apply`: a step adds the nodes it stands for, or is refused
* `Step.rules_nodes`: the nodes that steps stand for follow the rules
* `soundThroughout_of_mem_nodes`: whatever steps stand for is sound in all its parts
* `nodes_of_steps`: what a clause holds after steps, of which some may be refused
-/

namespace SearchIndex.Query

theorem toOption_bind {ε α β : Type} (x : Except ε α) (f : α → Except ε β) :
    (x >>= f).toOption = x.toOption.bind fun a => (f a).toOption := by
  cases x <;> rfl

theorem exists_eq_error_iff {ε α : Type} {x : Except ε α} :
    (∃ f, x = .error f) ↔ x.toOption = none := by
  cases x <;> simp [Except.toOption]

/-! ## Sound expressions -/

namespace Expression

/-- **The expression occurs in another one**: it is that one, or occurs in a child of it. -/
inductive PartOf (e : Expression) : Expression → Prop where
  | self : PartOf e e
  | child {parent child : Expression} (hc : some child ∈ parent.children) (h : PartOf e child) :
      PartOf e parent

/-- **The attributes of a node go together.** -/
structure Sound (e : Expression) : Prop where
  children_ne_nil : e.kind.isComposite = true → e.children ≠ []
  children_eq_nil : e.kind.isComposite = false → e.children = []
  bounded : e.kind = .range → e.lower ≠ .null ∨ e.upper ≠ .null
  boost_pos : ∀ n : Int, e.boost = .int n → 0 < n
  boost_ne_false : e.boost ≠ .bool false

/-- The parts of an expression are sound. -/
def SoundThroughout (e : Expression) : Prop := ∀ p : Expression, p.PartOf e → p.Sound

theorem isNothing_iff {v : Value} : isNothing v = true ↔ v = .null := by
  cases v <;> simp [isNothing]

theorem boostFault?_int {n : Int} : boostFault? (.int n) = none ↔ 0 < n := by
  simp [boostFault?, isNothing, Value.number?, Number.nonpositive]

theorem boostFault?_false : boostFault? (.bool false) = some .boostNotPositive := rfl

theorem sound_of_check {e e' : Expression} (h : e.check = .ok e') : e'.Sound := by
  obtain rfl := check_eq_ok h
  unfold check at h
  split at h
  · cases h
  · next hchildless =>
    split at h
    · cases h
    · next hleaf =>
      split at h
      · cases h
      · next hbounds =>
        split at h
        · cases h
        · next hboost =>
          constructor
          · intro hkind hchildren
            exact hchildless ⟨hkind, by rw [hchildren]; rfl⟩
          · intro hkind
            simpa [hkind] using hleaf
          · intro hkind
            refine Classical.not_and_iff_not_or_not.1 ?_
            simpa [hkind, isNothing_iff] using hbounds
          · intro n hn
            rw [hn] at hboost
            exact boostFault?_int.1 hboost
          · intro hfalse
            rw [hfalse, boostFault?_false] at hboost
            cases hboost

/-- A checked node is sound throughout if its children are. -/
theorem soundThroughout_of_check {e e' : Expression} (h : e.check = .ok e')
    (hc : ∀ child, some child ∈ e.children → child.SoundThroughout) : e'.SoundThroughout := by
  intro p hp
  cases hp with
  | self => exact sound_of_check h
  | child hmem hp =>
    obtain rfl := check_eq_ok h
    exact hc _ hmem p hp

end Expression

namespace Draft

/-- The node of a leaf is the one it describes, if that can be. -/
theorem build_leaf (kind : Kind) (value field boost distance : Value) :
    (leaf kind value field boost distance).build =
      (Expression.check { kind, field, value, boost, distance }).map some := by
  have hkind : Kind.ofValue? (.text kind.name) = some kind := Kind.ofName?_name kind
  simp only [leaf, build, hkind, buildAll, bind, Except.bind, pure, Except.pure]
  cases Expression.check { kind, field, value, boost, distance } <;> rfl

/-- A range with a bound is the one it describes. -/
theorem build_bounds {lower upper : Value} (h : lower ≠ .null ∨ upper ≠ .null) (field : Value) :
    (bounds field lower upper).build =
      .ok (some { kind := .range, field := field, lower := lower, upper := upper }) := by
  have hbound : ¬ (Expression.isNothing lower = true ∧ Expression.isNothing upper = true) := by
    rw [Expression.isNothing_iff, Expression.isNothing_iff]
    exact Classical.not_and_iff_not_or_not.2 h
  have hcheck :
      Expression.check { kind := .range, field := field, lower := lower, upper := upper } =
        .ok { kind := .range, field := field, lower := lower, upper := upper } := by
    rw [Expression.check, if_neg (by simp [Kind.isComposite]), if_neg (by simp),
      if_neg fun h => hbound h.2]
    rfl
  rw [build, if_neg hbound, hcheck]
  rfl

mutual

/-- **The node of a draft is sound throughout.** -/
theorem soundThroughout_of_build :
    ∀ (d : Draft) {e : Expression}, d.build = .ok (some e) → e.SoundThroughout
  | .absent, e, h => nomatch h
  | .bounds field lower upper, e, h => by
    rw [build] at h
    split at h
    · cases h
    · obtain ⟨e', he', h⟩ := bind_eq_ok_iff.1 h
      cases h
      exact Expression.soundThroughout_of_check he' fun _ hc => (List.not_mem_nil hc).elim
  | .node kind field value boost distance lower upper children, e, h => by
    rw [build] at h
    split at h
    · cases h
    · obtain ⟨nodes, hnodes, h⟩ := bind_eq_ok_iff.1 h
      obtain ⟨e', he', h⟩ := bind_eq_ok_iff.1 h
      cases h
      exact Expression.soundThroughout_of_check he' fun _ hc =>
        soundThroughout_of_buildAll children hnodes hc

theorem soundThroughout_of_buildAll :
    ∀ (ds : List Draft) {es : List (Option Expression)}, buildAll ds = .ok es →
      ∀ {e : Expression}, some e ∈ es → e.SoundThroughout
  | [], es, h, e, he => by
    cases h
    exact (List.not_mem_nil he).elim
  | d :: ds, es, h, e, he => by
    obtain ⟨first, hfirst, h⟩ := bind_eq_ok_iff.1 h
    obtain ⟨rest, hrest, h⟩ := bind_eq_ok_iff.1 h
    cases h
    rcases List.mem_cons.1 he with rfl | he
    · exact soundThroughout_of_build d hfirst
    · exact soundThroughout_of_buildAll ds hrest he

end

end Draft

namespace Clause

/-! ## What steps stand for -/

/-- The node that combines children. -/
def combination (kind : Kind) (children : List Expression) : Expression :=
  { kind := kind, children := children.map some }

/-- The node of a literal. -/
def literal (s : String) : Expression := { kind := .raw, value := .text s }

/-- What a block of a kind stands for: the combination of what it holds, if that is anything. Only
some kinds combine. -/
def combine? (kind : Kind) : List Expression → Option (List Expression)
  | [] => some []
  | e :: es => if kind.isComposite then some [combination kind (e :: es)] else none

mutual

/-- **The nodes a step stands for**, if it is not refused. -/
def Step.nodes? : Step → Option (List Expression)
  | .add draft => draft.build.toOption.map Option.toList
  | .block kind content => content.nodes?.bind (combine? kind)
termination_by structural step => step

def Block.nodes? : Block → Option (List Expression)
  | .literal s => some [literal s]
  | .steps steps => nodesAll? steps
  | .other _ => none
termination_by structural content => content

def nodesAll? : List Step → Option (List Expression)
  | [] => some []
  | step :: steps => step.nodes?.bind fun ns => (nodesAll? steps).map (ns ++ ·)
termination_by structural steps => steps

end

/-- **The nodes a step stands for**, none if it is refused. -/
def Step.nodes (step : Step) : List Expression := step.nodes?.getD []

theorem toOption_close (c : Clause) (kind : Kind) (children : List Expression) :
    (c.close kind children).toOption =
      (combine? kind children).map fun ns => (⟨c.nodes ++ ns⟩ : Clause) := by
  cases children with
  | nil => simp [close, combine?, Except.toOption]
  | cons e es => cases kind <;> rfl

mutual

/-- **A step adds the nodes it stands for, or is refused.** -/
theorem toOption_apply : ∀ (step : Step) (c : Clause),
    (apply step c).toOption = step.nodes?.map fun ns => (⟨c.nodes ++ ns⟩ : Clause)
  | .add draft, c => by
    rw [apply, Step.nodes?]
    cases draft.build with
    | error f => rfl
    | ok e =>
      cases e with
      | none => simp [bind, Except.bind, pure, Except.pure, Except.toOption]
      | some e => rfl
  | .block kind content, c => by
    rw [apply, Step.nodes?, toOption_bind, toOption_contentOf kind content, Option.map_bind]
    simp only [toOption_close]
    rfl

/-- A block holds the nodes that its content stands for, or is refused. -/
theorem toOption_contentOf : ∀ (kind : Kind) (content : Block),
    (contentOf kind content).toOption = content.nodes?
  | _, .literal _ => rfl
  | _, .steps steps => by
    rw [contentOf, Block.nodes?, toOption_bind, toOption_applyAll steps ⟨[]⟩]
    cases nodesAll? steps <;> rfl
  | _, .other _ => rfl

/-- Steps add the nodes they stand for one after the other, or one of them is refused. -/
theorem toOption_applyAll : ∀ (steps : List Step) (c : Clause),
    (applyAll steps c).toOption = (nodesAll? steps).map fun ns => (⟨c.nodes ++ ns⟩ : Clause)
  | [], c => by simp [applyAll, nodesAll?, Except.toOption]
  | step :: steps, c => by
    rw [applyAll, nodesAll?, toOption_bind, toOption_apply step c]
    cases step.nodes? with
    | none => rfl
    | some ns =>
      have hsteps := toOption_applyAll steps ⟨c.nodes ++ ns⟩
      simp only [Option.map_some, Option.bind_some, hsteps, Option.map_map]
      simp only [Function.comp_def, List.append_assoc]

end

/-! ## The rules -/

/-- **The rules of what steps denote.** -/
structure Step.Rules (denotes : Step → List Expression) : Prop where
  /-- A leaf that asks for a value, or for everything, is itself. -/
  leaf : ∀ {kind : Kind} (value field boost distance : Value), kind.isComposite = false →
    kind ≠ .range → Expression.boostFault? boost = none →
    denotes (.add (.leaf kind value field boost distance)) =
      [{ kind := kind, field := field, value := value, boost := boost, distance := distance }]
  /-- A range with a bound is itself. -/
  range : ∀ {lower upper : Value} (field : Value), lower ≠ .null ∨ upper ≠ .null →
    denotes (.add (.bounds field lower upper)) =
      [{ kind := .range, field := field, lower := lower, upper := upper }]
  /-- A range without bounds is nothing. -/
  unbounded : ∀ field : Value, denotes (.add (.bounds field .null .null)) = []
  /-- A node that can be built is itself. -/
  node : ∀ {draft : Draft} {e : Expression}, draft.build = .ok (some e) → denotes (.add draft) = [e]
  absent : denotes (.add .absent) = []
  /-- A block of a literal combines that one node. -/
  literal : ∀ {kind : Kind} (s : String), kind.isComposite = true →
    denotes (.block kind (.literal s)) = [combination kind [Clause.literal s]]
  /-- A block of steps that are not refused combines what they denote, if it is anything. -/
  block : ∀ {kind : Kind} {steps : List Step}, kind.isComposite = true →
    (∀ step ∈ steps, ∃ c, apply step {} = .ok c) →
    denotes (.block kind (.steps steps)) =
      if steps.flatMap denotes = [] then [] else [combination kind (steps.flatMap denotes)]
  /-- A step that is refused denotes nothing. -/
  refused : ∀ {step : Step} {c : Clause} {f : Fault}, apply step c = .error f → denotes step = []
  /-- A block that holds a refused step is refused. -/
  refused_within : ∀ {steps : List Step} {step : Step} {c : Clause} {f : Fault},
    step ∈ steps → apply step c = .error f →
    ∀ (kind : Kind) (c' : Clause), ∃ f', apply (.block kind (.steps steps)) c' = .error f'
  /-- A boost that is not positive is refused. -/
  refused_boost : ∀ {n : Int}, n ≤ 0 → ∀ (kind : Kind) (value field distance : Value) (c : Clause),
    ∃ f, apply (.add (.leaf kind value field (.int n) distance)) c = .error f
  /-- A combination of nothing is refused. -/
  refused_childless : ∀ {kind : Kind}, kind.isComposite = true → ∀ c : Clause,
    ∃ f, apply (.add (.composite kind [])) c = .error f
  /-- A block that is neither a literal nor made of steps is refused. -/
  refused_other : ∀ (kind : Kind) (typeName : String) (c : Clause),
    ∃ f, apply (.block kind (.other typeName)) c = .error f

/-- Whether a step is refused does not depend on the clause. -/
theorem apply_eq_error_iff {step : Step} {c : Clause} :
    (∃ f, apply step c = .error f) ↔ step.nodes? = none := by
  rw [exists_eq_error_iff, toOption_apply, Option.map_eq_none_iff]

theorem nodesAll?_eq_none_iff {steps : List Step} :
    nodesAll? steps = none ↔ ∃ step ∈ steps, step.nodes? = none := by
  induction steps with
  | nil => simp [nodesAll?]
  | cons step steps ih =>
    rw [nodesAll?]
    cases h : step.nodes? <;> simp [h, ih]

theorem nodesAll?_eq_some {steps : List Step} {ns : List Expression}
    (h : nodesAll? steps = some ns) : ns = steps.flatMap Step.nodes := by
  induction steps generalizing ns with
  | nil => simpa [nodesAll?] using h.symm
  | cons step steps ih =>
    obtain ⟨first, hfirst, h⟩ := Option.bind_eq_some_iff.1 h
    obtain ⟨rest, hrest, rfl⟩ := Option.map_eq_some_iff.1 h
    rw [List.flatMap_cons, Step.nodes, hfirst, ih hrest]
    rfl

theorem apply_add_eq_error_iff {draft : Draft} {c : Clause} :
    (∃ f, apply (.add draft) c = .error f) ↔ ∃ f, draft.build = .error f := by
  rw [apply_eq_error_iff, Step.nodes?, Option.map_eq_none_iff, exists_eq_error_iff]

theorem nodes_add {draft : Draft} {e : Expression} (h : draft.build = .ok (some e)) :
    Step.nodes (.add draft) = [e] := by
  rw [Step.nodes, Step.nodes?, h]
  rfl

theorem combine?_of_isComposite {kind : Kind} (h : kind.isComposite = true)
    (children : List Expression) :
    combine? kind children =
      some (if children = [] then [] else [combination kind children]) := by
  cases children with
  | nil => rfl
  | cons e es => simp [combine?, h]

theorem nodes_block {kind : Kind} {content : Block} {children : List Expression}
    (hkind : kind.isComposite = true) (h : content.nodes? = some children) :
    Step.nodes (.block kind content) =
      if children = [] then [] else [combination kind children] := by
  rw [Step.nodes, Step.nodes?, h, Option.bind_some, combine?_of_isComposite hkind]
  rfl

theorem exists_nodesAll?_eq_some {steps : List Step}
    (h : ∀ step ∈ steps, ∃ c, apply step {} = .ok c) :
    nodesAll? steps = some (steps.flatMap Step.nodes) := by
  cases hns : nodesAll? steps with
  | some ns => rw [nodesAll?_eq_some hns]
  | none =>
    obtain ⟨step, hmem, hstep⟩ := nodesAll?_eq_none_iff.1 hns
    obtain ⟨f, hf⟩ := apply_eq_error_iff.2 hstep
    obtain ⟨c, hc⟩ := h step hmem
    cases hf.symm.trans hc

/-- **The nodes that steps stand for follow the rules.** -/
theorem Step.rules_nodes : Step.Rules Step.nodes where
  leaf value field boost distance hcomposite hrange hboost := by
    refine nodes_add ?_
    rw [Draft.build_leaf, Expression.check]
    simp [hcomposite, hrange, hboost, Except.map]
  range field h := nodes_add (Draft.build_bounds h field)
  unbounded field := rfl
  node h := nodes_add h
  absent := rfl
  literal s hkind := by
    have hcontent : (Block.literal s).nodes? = some [Clause.literal s] := rfl
    rw [nodes_block hkind hcontent]
    rfl
  block hkind h := nodes_block hkind (exists_nodesAll?_eq_some h)
  refused h := by
    rw [nodes, apply_eq_error_iff.1 ⟨_, h⟩]
    rfl
  refused_within hmem h kind c' := by
    rw [apply_eq_error_iff, nodes?, Block.nodes?,
      nodesAll?_eq_none_iff.2 ⟨_, hmem, apply_eq_error_iff.1 ⟨_, h⟩⟩]
    rfl
  refused_boost hn kind value field distance c := by
    rw [apply_add_eq_error_iff, Draft.build_leaf]
    cases h : Expression.check _ with
    | error f => exact ⟨f, rfl⟩
    | ok e =>
      have hpos := (Expression.sound_of_check h).boost_pos
      obtain rfl := Expression.check_eq_ok h
      exact absurd (hpos _ rfl) (Int.not_lt.2 hn)
  refused_childless hkind c := by
    have hdraft (kind : Kind) : Draft.composite kind [] = .leaf kind .null .null .null := rfl
    rw [apply_add_eq_error_iff, hdraft, Draft.build_leaf, Expression.check, if_pos ⟨hkind, rfl⟩]
    exact ⟨_, rfl⟩
  refused_other kind typeName c := ⟨_, rfl⟩

/-! ## What steps stand for is sound -/

/-- What a block stands for is a combination whose attributes go together. -/
theorem check_of_mem_combine? {kind : Kind} {children es : List Expression}
    (h : combine? kind children = some es) {e : Expression} (he : e ∈ es) :
    (combination kind children).check = .ok e := by
  cases children with
  | nil =>
    cases h
    exact (List.not_mem_nil he).elim
  | cons child children =>
    cases kind <;> cases h <;> rw [List.mem_singleton.1 he] <;> rfl

mutual

/-- **Whatever a step stands for is sound throughout.** -/
theorem soundThroughout_of_nodes? : ∀ (step : Step) {es : List Expression},
    step.nodes? = some es → ∀ e ∈ es, e.SoundThroughout
  | .add draft, es, h, e, he => by
    obtain ⟨built, hbuilt, rfl⟩ := Option.map_eq_some_iff.1 h
    obtain rfl := Option.mem_toList.1 he
    cases hdraft : draft.build <;> rw [hdraft] at hbuilt <;> cases hbuilt
    exact Draft.soundThroughout_of_build draft hdraft
  | .block kind content, es, h, e, he => by
    obtain ⟨children, hchildren, h⟩ := Option.bind_eq_some_iff.1 h
    refine Expression.soundThroughout_of_check (check_of_mem_combine? h he) fun child hc => ?_
    obtain ⟨_, hmem, hsome⟩ := List.mem_map.1 hc
    cases hsome
    exact soundThroughout_of_content content hchildren child hmem

theorem soundThroughout_of_content : ∀ (content : Block) {es : List Expression},
    content.nodes? = some es → ∀ e ∈ es, e.SoundThroughout
  | .literal s, es, h, e, he => by
    cases h
    have hcheck : (literal s).check = .ok e := by rw [List.mem_singleton.1 he]; rfl
    exact Expression.soundThroughout_of_check hcheck fun _ hc => (List.not_mem_nil hc).elim
  | .steps steps, es, h, e, he => soundThroughout_of_nodesAll? steps h e he
  | .other _, es, h, e, he => nomatch h

theorem soundThroughout_of_nodesAll? : ∀ (steps : List Step) {es : List Expression},
    nodesAll? steps = some es → ∀ e ∈ es, e.SoundThroughout
  | [], es, h, e, he => by
    cases h
    exact (List.not_mem_nil he).elim
  | step :: steps, es, h, e, he => by
    obtain ⟨first, hfirst, h⟩ := Option.bind_eq_some_iff.1 h
    obtain ⟨rest, hrest, rfl⟩ := Option.map_eq_some_iff.1 h
    rcases List.mem_append.1 he with he | he
    · exact soundThroughout_of_nodes? step hfirst e he
    · exact soundThroughout_of_nodesAll? steps hrest e he

end

/-! ## Clauses after steps -/

/-- A clause after steps, of which some may be refused. -/
def run (c : Clause) (steps : List Step) : Clause := steps.foldl (fun c step => attempt step c) c

theorem nodes_attempt (step : Step) (c : Clause) :
    (attempt step c).nodes = c.nodes ++ step.nodes := by
  have h := toOption_apply step c
  rw [attempt, Step.nodes]
  cases hstep : apply step c <;> cases hns : step.nodes? <;> rw [hstep, hns] at h <;> cases h
  · exact (List.append_nil _).symm
  · rfl

theorem nodes_run (c : Clause) (steps : List Step) :
    (c.run steps).nodes = c.nodes ++ steps.flatMap Step.nodes := by
  induction steps generalizing c with
  | nil => exact (List.append_nil _).symm
  | cons step steps ih =>
    have hrun : c.run (step :: steps) = (attempt step c).run steps := rfl
    rw [hrun, ih, nodes_attempt, List.flatMap_cons, List.append_assoc]

theorem soundThroughout_of_mem_nodes {step : Step} {e : Expression} (h : e ∈ step.nodes) :
    e.SoundThroughout := by
  rw [Step.nodes] at h
  cases hns : step.nodes? with
  | none =>
    rw [hns] at h
    exact (List.not_mem_nil h).elim
  | some ns =>
    rw [hns] at h
    exact soundThroughout_of_nodes? step hns e h

/-- Only a clause without nodes has no text. -/
theorem render_eq_empty_iff {c : Clause} : c.render = .ok "" ↔ c.nodes = [] := by
  rw [render_eq_ok_iff, text]
  constructor
  · rintro ⟨-, htext⟩
    split at htext
    · next h => exact List.isEmpty_iff.1 h
    · have hlength := congrArg (·.toList) htext
      simp at hlength
  · intro h
    rw [isWhole, h]
    exact ⟨rfl, rfl⟩

/-- **What a clause holds after steps**, of which some may be refused, is what it held before and
then what the steps denote. -/
theorem nodes_of_steps (c : Clause) (steps : List Step) :
    Step.Rules Step.nodes ∧
      (c.run steps).nodes = c.nodes ++ steps.flatMap Step.nodes ∧
      (∀ e ∈ (run {} steps).nodes, e.SoundThroughout) ∧
      ((run {} steps).render = .ok "" ↔ ∀ step ∈ steps, step.nodes = []) := by
  have hempty : (run {} steps).nodes = steps.flatMap Step.nodes := by simp [nodes_run]
  refine ⟨Step.rules_nodes, nodes_run c steps, fun e he => ?_, ?_⟩
  · rw [hempty] at he
    obtain ⟨step, -, hstep⟩ := List.mem_flatMap.1 he
    exact soundThroughout_of_mem_nodes hstep
  · rw [render_eq_empty_iff, hempty, List.flatMap_eq_nil_iff]

/-- A block whose second step is refused adds nothing, and neither does an empty one. -/
example :
    (run {} [.add (.term (.text "a")),
      .block .or (.steps [.add (.term (.text "b")), .add (.term (.text "c") .null (.int 0))]),
      .block .not (.steps []), .block .not (.literal "d")]).nodes =
      [{ kind := .term, value := .text "a" }, combination .not [literal "d"]] := rfl

end Clause

end SearchIndex.Query
