import Mathlib.Data.List.Forall2
import SearchIndex.Proofs.Building
import SearchIndex.Proofs.Paging

/-!
# The field of kinds

A finder keeps to a kind by its own field of kinds, and its gateway takes the kinds of hits out of
the one that the gateway has. The entities of hits are what the finder's field makes of them only if
the two are one field: otherwise hits without a kind in the gateway's field are dropped, and the
finder's field stays among the attributes of the others.

## Main definitions

* `Asking`, `Asking.entities`: the entities of all hits of a finder, or of those of a page
* `Finder.built`: a finder for attributes after steps
* `Hit.Carries field kind`: a hit has a kind in a field
* `ShowsKind field h attributes`: attributes have the kind that a hit has in a field
* `IsEntityOf field h attributes`: they are those of the hit otherwise

## Main results

* `hydrateHits_attributesOnly`: the attributes of hits
* `valueAt?_attributesOf_self`, `valueAt?_attributesOf_of_ne`: the fields of the attributes of a hit
* `isEntityOf_attributesOf`, `not_showsKind_attributesOf`: by the same field, and by another one
* `Asking.attempt_entities`: the entities are those of the hits of one request
* `entities_of_kinds`: the finders whose entities show the kinds of their hits
-/

namespace SearchIndex.Index

open Query (Request)

/-! ## The ways to ask for entities -/

/-- How a finder is asked for entities. -/
inductive Asking where
  /-- For those of all hits. -/
  | all
  /-- For those of a page. -/
  | page (size number : Value)

namespace Asking

/-- The request that is run for a request. -/
def request (r : Request) : Asking → Except Failure Request
  | .all => .ok r
  | .page size number => (window r size number).map Prod.fst

/-- **The entities that are asked for.** -/
def entities {σ : Type} (f : Finder σ) : Asking → Act σ (List Value)
  | .all => f.get
  | .page size number => Page.items <$> (f.paginate size number).2

/-- **The entities are those of the hits of one request**, by the field of the gateway. -/
theorem attempt_entities {σ : Type} {asking : Asking} {f : Finder σ} {gateway : Gateway σ}
    {r : Request} {w w' : σ} {result : Result} (hf : f.gateway = some gateway)
    (hr : asking.request f.builder.request = .ok r)
    (hresult : (gateway.execute r).attempt w = (.ok result, w')) :
    (asking.entities f).attempt w =
      (hydrateHits f.factory gateway.typeField result.hits, w') := by
  cases asking with
  | all =>
    obtain rfl := Except.ok.inj hr
    have hget : f.get = gateway.get f.builder.request f.factory := by
      rw [Finder.get, Finder.requireGateway, hf]
      rfl
    rw [entities, hget, Gateway.get, Act.attempt_bind, hresult]
    rfl
  | page size number =>
    cases hwindow : window f.builder.request size number with
    | error fault =>
      rw [request, hwindow] at hr
      nomatch hr
    | ok windowed =>
      obtain ⟨r, number'⟩ := windowed
      rw [request, hwindow] at hr
      obtain rfl := Except.ok.inj hr
      have hpaginate : (f.paginate size number).2 =
          gateway.paginate f.builder.request size number f.factory := by
        rw [Finder.paginate, hf]
      rw [entities, hpaginate, Gateway.paginate, Act.ofExcept_bind_of_eq_ok hwindow,
        map_eq_pure_bind]
      dsimp only
      rw [bind_assoc, Act.attempt_bind, hresult]
      dsimp only
      cases hydrateHits f.factory gateway.typeField result.hits <;> rfl

end Asking

/-- **A finder that keeps the attributes of hits, after steps**: some of them may be refused. -/
def Finder.built {σ : Type} (gateway : Gateway σ) (typeField size : Value)
    (steps : List Query.Builder.Step) : Finder σ :=
  let f := Finder.new (some gateway) attributesOnly typeField size
  { f with builder := f.builder.run steps }

/-! ## The attributes of hits -/

/-- The hit has a kind in a field: a text that is not empty. -/
def Hit.Carries (h : Hit) (field kind : String) : Prop :=
  kind ≠ "" ∧ Value.valueAt? h.flatten field = some (.text kind)

/-- **Attributes show the kind that a hit has in a field**: they have its short name, and the field
is gone. -/
structure ShowsKind (field : String) (h : Hit) (attributes : Fields) : Prop where
  shortName : ∀ kind, h.Carries field kind →
    Value.valueAt? attributes resultTypeField = some (.text (resultType kind))
  gone : Value.valueAt? attributes field = none

/-- **Attributes are those of a hit**, whose kind is in a field: all other fields are kept. -/
structure IsEntityOf (field : String) (h : Hit) (attributes : Fields) : Prop
    extends ShowsKind field h attributes where
  others : ∀ name : String, name ≠ field → name ≠ resultTypeField →
    Value.valueAt? attributes name = Value.valueAt? h.flatten name

/-- The attributes of a hit, if it has a kind. -/
def attributesOf? (typeField : Value.Key) (h : Hit) : Option Fields :=
  (kindOf? typeField h).map fun kind => attributesOf typeField kind h

/-- **The attributes of hits**, without the hits that have no kind. -/
theorem hydrateHits_attributesOnly (typeField : Value.Key) (hits : List Hit) :
    hydrateHits attributesOnly (.ofKey typeField) hits =
      .ok ((hits.filterMap (attributesOf? typeField)).map .map) := by
  have hhit : hydrateHit attributesOnly (.ofKey typeField) = fun h =>
      pure (((attributesOf? typeField h).map Value.map).getD .null) := by
    funext h
    rw [hydrateHit_ofKey, hydrateBy, attributesOf?]
    cases kindOf? typeField h <;> rfl
  have hkept : (hits.map fun h => ((attributesOf? typeField h).map Value.map).getD .null).filter
      isSomething = (hits.filterMap (attributesOf? typeField)).map .map := by
    induction hits with
    | nil => rfl
    | cons h hits ih =>
      rw [List.map_cons, List.filterMap_cons]
      cases attributesOf? typeField h with
      | none => exact ih
      | some attributes => exact congrArg (Value.map attributes :: ·) ih
  rw [hydrateHits, hhit, List.mapM_pure, ← hkept]
  rfl

section Attributes

variable {field own name kind : String} {h : Hit}

theorem kindOf?_of_carries (hc : h.Carries field kind) : kindOf? field h = some kind := by
  obtain ⟨hne, hkind⟩ := hc
  simp [kindOf?, Value.lookup, hkind, Value.truthy, hne, Value.plain_text]

theorem Hit.Carries.unique {kind' : String} (hc : h.Carries field kind)
    (hc' : h.Carries field kind') : kind = kind' := by
  have hkinds : some (Value.text kind) = some (.text kind') := hc.2.symm.trans hc'.2
  exact Value.text.inj (Option.some.inj hkinds)

theorem valueAt?_attributesOf_shortName :
    Value.valueAt? (attributesOf field kind h) resultTypeField = some (.text (resultType kind)) :=
  Keyed.find?_put_self (Value.Key.exact_text resultTypeField).beq_self ..

theorem valueAt?_attributesOf (hshort : name ≠ resultTypeField) :
    Value.valueAt? (attributesOf field kind h) name =
      Value.valueAt? (Keyed.erase (Value.Key.text field) h.flatten) name := by
  have hne : Value.Key.text name ≠ .text resultTypeField := by simpa using hshort
  exact Keyed.find?_put_of_ne (Value.Key.exact_text _) (Value.Key.exact_text _) hne ..

/-- The field that the kind is taken out of is gone. -/
theorem valueAt?_attributesOf_self (hname : field ≠ resultTypeField) :
    Value.valueAt? (attributesOf field kind h) field = none :=
  (valueAt?_attributesOf hname).trans (Keyed.find?_erase_self _)

/-- Every other field is kept. -/
theorem valueAt?_attributesOf_of_ne (hshort : name ≠ resultTypeField) (hname : name ≠ field) :
    Value.valueAt? (attributesOf field kind h) name = Value.valueAt? h.flatten name := by
  have hne : Value.Key.text name ≠ .text field := by simpa using hname
  exact (valueAt?_attributesOf hshort).trans
    (Keyed.find?_erase_of_ne (Value.Key.exact_text _) (Value.Key.exact_text _) hne _)

/-- **By the field that the kind is taken out of**, the attributes are those of the hit. -/
theorem isEntityOf_attributesOf (hname : field ≠ resultTypeField) (hc : h.Carries field kind) :
    IsEntityOf field h (attributesOf field kind h) := by
  refine ⟨⟨fun kind' hc' => ?_, valueAt?_attributesOf_self hname⟩, fun name hne hshort => ?_⟩
  · rw [← hc.unique hc']
    exact valueAt?_attributesOf_shortName
  · exact valueAt?_attributesOf_of_ne hshort hne

/-- **By another field** the finder's own stays among the attributes. -/
theorem not_showsKind_attributesOf {h' : Hit} {kind' : String} (hname : own ≠ resultTypeField)
    (hne : own ≠ field) (hc : h.Carries own kind) :
    ¬ ShowsKind own h' (attributesOf field kind' h) := by
  intro hshows
  have hkept : Value.valueAt? (attributesOf field kind' h) own = some (.text kind) :=
    (valueAt?_attributesOf_of_ne hname hne).trans hc.2
  rw [hshows.gone] at hkept
  cases hkept

/-- There is an entity for each hit, in order, by the field that the kinds are taken out of. -/
theorem forall₂_attributesOf? {hits : List Hit} (hname : field ≠ resultTypeField)
    (hhits : ∀ h ∈ hits, ∃ kind, h.Carries field kind) :
    List.Forall₂ (IsEntityOf field) hits (hits.filterMap (attributesOf? field)) := by
  induction hits with
  | nil => exact .nil
  | cons h hits ih =>
    obtain ⟨⟨kind, hc⟩, hrest⟩ := List.forall_mem_cons.1 hhits
    have hkept : attributesOf? field h = some (attributesOf field kind h) := by
      rw [attributesOf?, kindOf?_of_carries hc]
      rfl
    rw [List.filterMap_cons, hkept]
    exact .cons (isEntityOf_attributesOf hname hc) (ih hrest)

/-- By another field the entities do not show the kinds, unless there are no hits. -/
theorem eq_nil_of_forall₂_showsKind {hits : List Hit} (hname : own ≠ resultTypeField)
    (hne : own ≠ field) (hhits : ∀ h ∈ hits, ∃ kind, h.Carries own kind)
    (hshows : List.Forall₂ (ShowsKind own) hits (hits.filterMap (attributesOf? field))) :
    hits = [] := by
  generalize he : hits.filterMap (attributesOf? field) = entities at hshows
  cases hshows with
  | nil => rfl
  | @cons h attributes hits entities hfirst =>
    have hmem : attributes ∈ (h :: hits).filterMap (attributesOf? field) :=
      he ▸ List.mem_cons_self
    obtain ⟨h', hh', hattributes⟩ := List.mem_filterMap.1 hmem
    obtain ⟨kind', -, rfl⟩ := Option.map_eq_some_iff.1 hattributes
    obtain ⟨kind, hc⟩ := hhits h' hh'
    exact absurd hfirst (not_showsKind_attributesOf hname hne hc)

end Attributes

/-! ## Finders and their gateways -/

/-- **The finders whose entities show the kinds of their hits**: given that every hit has a kind in
the finder's field, exactly those whose field is their gateway's, unless there are no hits. Then
there is an entity for each hit, in order. -/
theorem entities_of_kinds {σ : Type} {gateway : Gateway σ} {typeField size : Value}
    {steps : List Query.Builder.Step} {asking : Asking} {own kinds : String} {r : Request}
    {w w' : σ} {result : Result} (hkinds : gateway.typeField = .text kinds)
    (hown : typeField.orElse gateway.typeField = .text own) (hname : own ≠ resultTypeField)
    (hr : asking.request (Finder.built gateway typeField size steps).builder.request = .ok r)
    (hresult : (gateway.execute r).attempt w = (.ok result, w'))
    (hhits : ∀ h ∈ result.hits, ∃ kind, h.Carries own kind) :
    let f := Finder.built gateway typeField size steps
    f.builder.typeField = .text own ∧
    ∃ entities : List Fields,
      (asking.entities f).attempt w = (.ok (entities.map .map), w') ∧
      (own = kinds ∨ result.hits = [] →
        List.Forall₂ (IsEntityOf own) result.hits entities) ∧
      (List.Forall₂ (ShowsKind own) result.hits entities →
        own = kinds ∨ result.hits = []) := by
  intro f
  have hfield : f.builder.typeField = .text own :=
    (Query.Builder.typeField_run _ steps).trans hown
  have hentities : (asking.entities f).attempt w =
      (.ok ((result.hits.filterMap (attributesOf? kinds)).map .map), w') := by
    rw [Asking.attempt_entities rfl hr hresult, hkinds]
    exact congrArg (·, w') (hydrateHits_attributesOnly kinds result.hits)
  refine ⟨hfield, _, hentities, fun h => ?_, fun hshows => ?_⟩
  · rcases h with rfl | hnil
    · exact forall₂_attributesOf? hname hhits
    · rw [hnil]
      exact .nil
  · by_cases hone : own = kinds
    · exact .inl hone
    · exact .inr (eq_nil_of_forall₂_showsKind hname hone hhits hshows)

/-- An article whose kind is in a field. -/
def articleIn (field : String) : Hit :=
  ⟨"1", [(.text field, .list [.text "Article"]), (.text "title", .list [.text "A"])], []⟩

theorem carries_articleIn (field : String) : (articleIn field).Carries field "Article" := by
  have hself : (Value.Key.text field == .text field) = true := (Value.Key.exact_text field).beq_self
  refine ⟨by decide, ?_⟩
  simp [Value.valueAt?, articleIn, Hit.flatten, Hit.firstValue, Keyed.find?, hself]

/-- A gateway with a field of kinds, and a backend that finds an article whose kind is in a
field. -/
def articleGateway (field kinds : String) : Gateway (Watched Unit) :=
  Watched.gateway (fun _ => pure (responseOf 1 0 [articleIn field])) (.text kinds)

/-- A finder of articles. -/
def articleFinder (field kinds : String) (typeField : Value) : Finder (Watched Unit) :=
  Finder.built (articleGateway field kinds) typeField (.int 10) [.ofKind (.text "Article") .null]

/-- A finder without a field of its own, which is asked for a page. -/
theorem isEntityOf_of_article :
    let f := articleFinder "kind" "kind" .null
    ∃ entities w', ((Asking.page (.int 15) (.int 1)).entities f).attempt ⟨(), []⟩ =
        (.ok (entities.map .map), w') ∧
      List.Forall₂ (IsEntityOf "kind") [articleIn "kind"] entities := by
  intro f
  obtain ⟨r, hr, w', hresult⟩ : ∃ r,
      (Asking.page (.int 15) (.int 1)).request f.builder.request = .ok r ∧
      ∃ w', ((articleGateway "kind" "kind").execute r).attempt ⟨(), []⟩ =
        (.ok { found := 1, start := 0, hits := [articleIn "kind"] }, w') :=
    ⟨_, rfl, _, attempt_execute _ _ _ rfl rfl (ofResponse_responseOf ..)⟩
  have hhits : ∀ h ∈ [articleIn "kind"], ∃ kind, h.Carries "kind" kind :=
    List.forall_mem_singleton.2 ⟨_, carries_articleIn "kind"⟩
  obtain ⟨-, entities, hentities, hsame, -⟩ :=
    entities_of_kinds rfl rfl (by decide) hr hresult hhits
  exact ⟨entities, w', hentities, hsame (.inl rfl)⟩

/-- A finder with another field than its gateway's loses the article. -/
theorem not_showsKind_of_other_field :
    let f := articleFinder "entity" "kind" (.text "entity")
    ∃ result w', f.builder.typeField = .text "entity" ∧
      f.execute.attempt ⟨(), []⟩ = (.ok result, w') ∧ result.hits = [articleIn "entity"] ∧
      (articleIn "entity").Carries "entity" "Article" ∧
      (Asking.all.entities f).attempt ⟨(), []⟩ = (.ok [], w') ∧
      ¬ List.Forall₂ (ShowsKind "entity") result.hits [] := by
  intro f
  obtain ⟨w', hresult⟩ : ∃ w',
      ((articleGateway "entity" "kind").execute f.builder.request).attempt ⟨(), []⟩ =
        (.ok { found := 1, start := 0, hits := [articleIn "entity"] }, w') :=
    ⟨_, attempt_execute _ _ _ rfl rfl (ofResponse_responseOf ..)⟩
  have hlost : hydrateHits attributesOnly (.ofKey "kind") [articleIn "entity"] = .ok [] := by
    rw [hydrateHits_attributesOnly]
    simp [attributesOf?, kindOf?, articleIn, Hit.flatten, Hit.firstValue, Value.lookup,
      Value.valueAt?, Keyed.find?, Value.Key.beq_text_iff, Value.truthy]
  have hgateway : f.gateway = some (articleGateway "entity" "kind") := rfl
  have hentities : (Asking.all.entities f).attempt ⟨(), []⟩ = (.ok [], w') :=
    (Asking.attempt_entities hgateway rfl hresult).trans (congrArg (·, w') hlost)
  refine ⟨_, w', rfl, hresult, rfl, carries_articleIn "entity", hentities, fun h => ?_⟩
  cases h

end SearchIndex.Index
