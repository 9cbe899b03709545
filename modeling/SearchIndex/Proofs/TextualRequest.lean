import SearchIndex.Proofs.JsonValue
import SearchIndex.Proofs.Outcome
import SearchIndex.Query.Request

/-!
# Requests that keep to texts

Steps whose names, formulas, orders and methods are texts, and whose sizes of facets are integers,
give a request that holds nothing else there, with every formula and facet under one name.

## Main definitions

* `Facet.Textual`, `Request.Step.Textual`, `Request.Textual`: keeping to texts

## Main results

* `Facet.Textual.legible`: a facet is read back
* `Request.textual_attempt`, `Request.textual_of_steps`: steps that keep to texts
-/

namespace SearchIndex

/-- The value is a text. -/
def Value.IsText (v : Value) : Prop := ∃ s, v = .text s

namespace Query

/-- What is counted for a field is named by texts, and its size is an integer. -/
def Facet.Textual : Facet → Prop
  | .sorted sort size => sort.IsText ∧ ∃ n, size = .int n
  | .buckets labels method => (∀ v ∈ labels, v.IsText) ∧ method.IsText

theorem Facet.Textual.legible {facet : Facet} (h : facet.Textual) (depth : Nat) :
    Json.Legible (depth + 2) facet.toValue := by
  cases facet with
  | sorted sort size =>
    obtain ⟨⟨s, rfl⟩, n, rfl⟩ := h
    refine ⟨⟨depth + 1, rfl, ⟨⟨"sort", rfl⟩, trivial⟩, ⟨⟨"size", rfl⟩, trivial⟩, trivial⟩, ?_⟩
    simp
  | buckets labels method =>
    obtain ⟨hlabels, s, rfl⟩ := h
    have hitems : Json.ItemsLegible depth labels := by
      refine Json.itemsLegible_iff.2 fun v hv => ?_
      obtain ⟨s, rfl⟩ := hlabels v hv
      trivial
    refine ⟨⟨depth + 1, rfl, ⟨⟨"buckets", rfl⟩, depth, rfl, hitems⟩, ⟨⟨"method", rfl⟩, trivial⟩,
      trivial⟩, ?_⟩
    simp

namespace Request

/-! ## Requests that keep to texts -/

/-- The text holds no character that must be escaped in JSON. -/
def Unescaped (s : String) : Prop := ∀ c ∈ s.toList, c ≠ '"' ∧ c ≠ '\\' ∧ 32 ≤ c.toNat

/-- The step gives names, formulas and methods that are texts, sizes of facets that are integers,
and fields with statistics that need not be escaped, such as letters, digits and underscores. -/
def Step.Textual : Step → Prop
  | .addExpression name formula => name.IsText ∧ formula.IsText
  | .addFacet field sort size => field.IsText ∧ Facet.Textual (.sorted sort size)
  | .addBuckets field labels method =>
    field.IsText ∧ ∀ items, labels.items? = some items → Facet.Textual (.buckets items method)
  | .addStats field => ∃ s, field = .text s ∧ Unescaped s
  | _ => True

/-- The request keeps to texts, and names a formula or counts for a field once. -/
structure Textual (r : Request) : Prop where
  expressions : ∀ e ∈ r.expressions, (∃ s, e.1 = .text s) ∧ e.2.IsText
  expressionNames : (r.expressions.map Prod.fst).Nodup
  facets : ∀ e ∈ r.facets, (∃ s, e.1 = .text s) ∧ e.2.Textual
  facetFields : (r.facets.map Prod.fst).Nodup
  stats : ∀ v ∈ r.stats, ∃ s, v = .text s ∧ Unescaped s

theorem Textual.of_eq {r r' : Request} (h : r.Textual) (he : r'.expressions = r.expressions)
    (hf : r'.facets = r.facets) (hs : r'.stats = r.stats) : r'.Textual where
  expressions := by rw [he]; exact h.expressions
  expressionNames := by rw [he]; exact h.expressionNames
  facets := by rw [hf]; exact h.facets
  facetFields := by rw [hf]; exact h.facetFields
  stats := by rw [hs]; exact h.stats

theorem Textual.withExpression {r : Request} (h : r.Textual) (s : String) {formula : Value}
    (hf : formula.IsText) : (r.withExpression (.text s) formula).Textual :=
  { h with
    expressions :=
      Keyed.forall_mem_put (Value.Key.exact_text s) h.expressions ⟨⟨s, rfl⟩, hf⟩
    expressionNames := Keyed.nodup_keys_put (Value.Key.exact_text s) h.expressionNames }

theorem Textual.withFacet {r r' : Request} (h : r.Textual) {field : Value} {facet : Facet}
    (hfield : field.IsText) (hfacet : facet.Textual) (hr : r.withFacet field facet = .ok r') :
    r'.Textual := by
  obtain ⟨s, rfl⟩ := hfield
  obtain rfl := Except.ok.inj hr
  exact { h with
    facets := Keyed.forall_mem_put (Value.Key.exact_text s) h.facets ⟨⟨s, rfl⟩, hfacet⟩
    facetFields := Keyed.nodup_keys_put (Value.Key.exact_text s) h.facetFields }

/-- A step that keeps to texts keeps the request to texts. -/
theorem Textual.apply {r r' : Request} {step : Step} (h : r.Textual) (hs : step.Textual)
    (hr : r.apply step = .ok r') : r'.Textual := by
  cases step with
  | setCursor | setStart | setSize | addSort =>
    obtain rfl := Except.ok.inj hr
    exact h.of_eq rfl rfl rfl
  | setReturned fields =>
    obtain ⟨joined, -, hr⟩ := bind_eq_ok_iff.1 hr
    obtain rfl := Except.ok.inj hr
    exact h.of_eq rfl rfl rfl
  | setOption key value =>
    obtain ⟨k, -, hr⟩ := bind_eq_ok_iff.1 hr
    obtain rfl := Except.ok.inj hr
    exact h.of_eq rfl rfl rfl
  | addExpression name formula =>
    obtain ⟨⟨s, rfl⟩, hformula⟩ := hs
    obtain rfl := Except.ok.inj hr
    exact h.withExpression s hformula
  | addFacet field sort size => exact h.withFacet hs.1 hs.2 hr
  | addBuckets field labels method =>
    simp only [Request.apply] at hr
    split at hr
    · next items hitems => exact h.withFacet hs.1 (hs.2 items hitems) hr
    · nomatch hr
  | addStats field =>
    obtain rfl := Except.ok.inj hr
    exact { h with
      stats := List.forall_mem_append.2 ⟨h.stats, List.forall_mem_singleton.2 hs⟩ }
  | nearPoint field lat lon radius named =>
    obtain ⟨box, -, hr⟩ := bind_eq_ok_iff.1 hr
    obtain ⟨filter, -, hr⟩ := bind_eq_ok_iff.1 hr
    obtain rfl := Except.ok.inj hr
    have hfilter : ({ r with filter := filter } : Request).Textual := h.of_eq rfl rfl rfl
    split
    · exact hfilter.withExpression "distance" ⟨_, rfl⟩
    · exact hfilter
  | addDistance field lat lon =>
    obtain rfl := Except.ok.inj hr
    exact h.withExpression "distance" ⟨_, rfl⟩
  | query step =>
    obtain ⟨query, -, hr⟩ := bind_eq_ok_iff.1 hr
    obtain rfl := Except.ok.inj hr
    exact h.of_eq rfl rfl rfl
  | filter step =>
    obtain ⟨filter, -, hr⟩ := bind_eq_ok_iff.1 hr
    obtain rfl := Except.ok.inj hr
    exact h.of_eq rfl rfl rfl

theorem textual_attempt {r : Request} {step : Step} (h : r.Textual) (hs : step.Textual) :
    (r.attempt step).Textual := by
  unfold attempt
  split
  · next hr => exact h.apply hs hr
  · exact h

/-- **Steps that keep to texts give a request that keeps to texts**, whether refused or not. -/
theorem textual_of_steps (size : Value) {steps : List Step} (hs : ∀ step ∈ steps, step.Textual) :
    (steps.foldl attempt { size := size }).Textual := by
  have hnew : Textual { size := size } := by
    constructor <;> simp
  suffices hrun : ∀ r : Request, r.Textual → (steps.foldl attempt r).Textual from hrun _ hnew
  induction steps with
  | nil => exact fun r h => h
  | cons step steps ih =>
    intro r h
    obtain ⟨hstep, hsteps⟩ := List.forall_mem_cons.1 hs
    exact ih hsteps _ (textual_attempt h hstep)

end Request

end Query

end SearchIndex
