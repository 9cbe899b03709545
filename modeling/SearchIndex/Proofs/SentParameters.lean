import Mathlib.Data.List.Induction
import SearchIndex.Proofs.Spreading
import SearchIndex.Proofs.TextualRequest

/-!
# What is sent for a request

A request whose names and formulas are texts, and whose sizes of facets are integers, is sent as one
parameter for every formula, facet and field with statistics, and one for every other part that is
there. No two of these share a name, and the parameter of a facet is read back as the facet.

## Main definitions

* `sentParameters r`: what is sent, part by part
* `toParameters r`: a request compiled and spread out

## Main results

* `Textual.spread_expressions`, `Textual.spread_facets`, `Textual.spread_stats`: the parts that are
  compiled into one text each are spread out into what they were made of
* `Textual.sends`: every part is sent, under names of its own
* `toParameters_of_steps`: what is sent after any steps that keep to texts
-/

namespace SearchIndex

namespace Keyed

variable {κ β : Type} [BEq κ] [LawfulBEq κ]

theorem put_map_const (key : κ) (value : β) (l : List κ) :
    put key value (l.map (·, value)) =
      (if key ∈ l then l else l ++ [key]).map (·, value) := by
  by_cases h : key ∈ l
  · rw [if_pos h]
    induction l with
    | nil => exact absurd h List.not_mem_nil
    | cons k l ih =>
      by_cases hk : k = key
      · simp [put, hk]
      · have hmem : key ∈ l := (List.mem_cons.1 h).resolve_left (Ne.symm hk)
        simp [put, hk, ih hmem]
  · rw [if_neg h, put_of_not_mem (exact_of_lawful key) value (by simpa using h), List.map_append]
    rfl

/-- Assigning one value to keys gives every key once, in the order they first come. -/
theorem ofList_map_const (value : β) (l : List κ) :
    ofList (l.map (·, value)) = l.eraseDups.map (·, value) := by
  induction l using List.reverseRecOn with
  | nil => rfl
  | append_singleton l key ih =>
    have hsnoc : ofList ((l ++ [key]).map (·, value)) =
        put key value (ofList (l.map (·, value))) := by
      rw [List.map_append, ofList, List.foldl_append]
      rfl
    rw [hsnoc, ih, put_map_const, eraseDups_snoc]
    simp only [List.mem_eraseDups]

end Keyed

namespace Query.Request

open Wire.Parameters

/-! ## What is sent for each part -/

/-- The parameters of the named formulas. -/
def sentExpressions (r : Request) : Fields :=
  r.expressions.map fun (name, formula) => (.text ("expr." ++ Json.keyText name), formula)

/-- The parameters of the facets. -/
def sentFacets (r : Request) : Fields :=
  r.facets.map fun (field, facet) =>
    (.text ("facet." ++ Json.keyText field), .text (Json.write Json.compactAscii facet.toValue))

/-- The fields with statistics, each once, in the order they were first asked for. -/
def statsFields (r : Request) : List String := (r.stats.map Value.plain).eraseDups

/-- The parameters of the statistics. -/
def sentStats (r : Request) : Fields :=
  r.statsFields.map fun field => (.text ("stats." ++ field), .text "\x7b\x7d")

/-- **What is sent for a request**, part by part. -/
def sentParameters (r : Request) : Fields :=
  given r.cursor.isSome "cursor" (.text (r.cursor.getD "")) ++
  r.sentExpressions ++
  r.sentFacets ++
  given (!r.filter.nodes.isEmpty) "fq" (.text r.filter.text) ++
  given (!r.query.nodes.isEmpty) "q" (.text r.query.text) ++
  given (!r.options.isEmpty) "q.options" (.text (Json.write Json.compact (.map r.options))) ++
  given true "q.parser" (.text queryParser) ++
  given (r.returned.getD "" != "") "return" (.text (r.returned.getD "")) ++
  given true "size" (.text r.size.plain) ++
  given (!r.sort.isEmpty) "sort" (.text r.sortText) ++
  given r.cursor.isNone "start" (.text r.start.plain) ++
  r.sentStats

section Parts

variable {r : Request}

/-! ### Formulas and facets -/

theorem Textual.read_expressionsText [Json.Limits] (h : r.Textual) :
    Json.read r.expressionsText = .ok (.map r.expressions) := by
  obtain ⟨more, hdepth⟩ := Json.Limits.exists_depth_eq
  have hlegible : Json.EntriesLegible (more + 2) r.expressions := by
    refine Json.entriesLegible_iff.2 fun e he => ?_
    obtain ⟨hname, s, hs⟩ := h.expressions e he
    exact ⟨hname, by rw [hs]; trivial⟩
  exact Json.read_write Json.lawful_compact ⟨⟨more + 2, hdepth, hlegible⟩, h.expressionNames⟩

theorem Textual.spread_expressions [Json.Limits] (h : r.Textual) :
    spread "expr" (.text r.expressionsText) = .ok r.sentExpressions := by
  have hparts : r.expressions.map (fun (name, formula) =>
      (partName "expr" (.ofKey name), formula)) = r.sentExpressions := by
    refine List.map_congr_left fun e he => ?_
    obtain ⟨⟨s, hs⟩, -⟩ := h.expressions e he
    obtain ⟨name, formula⟩ := e
    obtain rfl : name = .text s := hs
    rfl
  simp only [spread, sentName?, readJson, h.read_expressionsText, ← hparts]
  rfl

/-- The facets as they are written. -/
def facetEntries (r : Request) : Fields :=
  r.facets.map fun (field, facet) => (field, facet.toValue)

theorem Textual.read_facetsText [Json.Limits] (h : r.Textual) :
    Json.read r.facetsText = .ok (.map r.facetEntries) := by
  obtain ⟨more, hdepth⟩ := Json.Limits.exists_depth_eq
  have hlegible : Json.EntriesLegible (more + 2) r.facetEntries := by
    refine Json.entriesLegible_iff.2 fun e he => ?_
    obtain ⟨e, he', rfl⟩ := List.mem_map.1 he
    obtain ⟨hfield, hfacet⟩ := h.facets e he'
    exact ⟨hfield, hfacet.legible more⟩
  have hfields : (r.facetEntries.map Prod.fst).Nodup := by
    rw [facetEntries, List.map_map]
    exact h.facetFields
  exact Json.read_write Json.lawful_compact ⟨⟨more + 2, hdepth, hlegible⟩, hfields⟩

theorem Textual.spread_facets [Json.Limits] (h : r.Textual) :
    spread "facet" (.text r.facetsText) = .ok r.sentFacets := by
  have hparts : r.facetEntries.map (fun (field, facet) =>
      (partName "facet" (.ofKey field), Value.text (Json.write Json.compactAscii facet))) =
      r.sentFacets := by
    rw [facetEntries, List.map_map]
    refine List.map_congr_left fun e he => ?_
    obtain ⟨⟨s, hs⟩, -⟩ := h.facets e he
    obtain ⟨field, facet⟩ := e
    obtain rfl : field = .text s := hs
    rfl
  simp only [spread, sentName?, readJson, h.read_facetsText, ← hparts]
  rfl

/-! ### Statistics -/

theorem writeText_of_unescaped {s : String} (h : Unescaped s) :
    Json.writeText false s = "\"" ++ s ++ "\"" := by
  have hchars : s.toList.flatMap (Json.escapedChar false) = s.toList := by
    refine (List.flatMap_congr fun c hc => ?_).trans (List.flatMap_singleton' s.toList)
    obtain ⟨hquote, hslash, hcontrol⟩ := h c hc
    have hne : ∀ n < 32, c.toNat ≠ n := by omega
    have hn : c ≠ '\n' := fun he => hne 10 (by decide) (by rw [he]; rfl)
    have hr : c ≠ '\r' := fun he => hne 13 (by decide) (by rw [he]; rfl)
    have ht : c ≠ '\t' := fun he => hne 9 (by decide) (by rw [he]; rfl)
    simp [Json.escapedChar, hquote, hslash, hn, hr, ht, hne 8, hne 12, Nat.not_lt.2 hcontrol]
  rw [Json.writeText, hchars]
  exact String.ext (by simp)

/-- The fields with statistics as keys of a map, as often as they were asked for. -/
def statsEntries (r : Request) : Fields := r.stats.map fun field => (.text field.plain, .map [])

theorem Textual.statsText_eq (h : r.Textual) :
    r.statsText = Json.write Json.compact (.map r.statsEntries) := by
  have hentries : ∀ l : List Value, (∀ v ∈ l, ∃ s, v = .text s ∧ Unescaped s) →
      Json.writeEntries Json.compact (l.map fun field => (.text field.plain, .map [])) =
        l.map fun field => "\"" ++ field.plain ++ "\":\x7b\x7d" := by
    intro l hl
    induction l with
    | nil => rfl
    | cons v l ih =>
      obtain ⟨⟨s, rfl, hs⟩, htail⟩ := List.forall_mem_cons.1 hl
      have hone : Json.writeEntry Json.compact (.text s, .map []) = "\"" ++ s ++ "\":\x7b\x7d" := by
        rw [Json.writeEntry, Json.keyText, Json.compact, writeText_of_unescaped hs]
        simp only [String.append_assoc]
        rfl
      rw [List.map_cons, List.map_cons, Json.writeEntries, ih htail]
      exact congrArg (· :: _) hone
  rw [statsText, Json.write, statsEntries, hentries r.stats h.stats]
  rfl

theorem Textual.spread_stats [Json.Limits] (h : r.Textual) :
    spread "stats" (.text r.statsText) = .ok r.sentStats := by
  obtain ⟨more, hdepth⟩ := Json.Limits.exists_depth_eq
  have hlegible : Json.EntriesLegible (more + 2) r.statsEntries := by
    refine Json.entriesLegible_iff.2 fun e he => ?_
    obtain ⟨v, -, rfl⟩ := List.mem_map.1 he
    exact ⟨⟨_, rfl⟩, ⟨more + 1, rfl, trivial⟩, List.nodup_nil⟩
  have hkeys : r.statsEntries.map (fun e => (Json.keyText e.1, e.2)) =
      (r.stats.map Value.plain).map fun field => (field, Value.map []) := by
    rw [statsEntries, List.map_map, List.map_map]
    rfl
  have hread := Json.read_write_map Json.lawful_compact hdepth hlegible
  rw [hkeys, Keyed.ofList_map_const, ← h.statsText_eq, List.map_map] at hread
  have hfields : Value.itemsOf (.map (r.statsFields.map fun field => (.text field, .map []))) =
      .ok (r.statsFields.map Value.text) := by
    simp only [Value.itemsOf, Value.items?, List.map_map]
    rfl
  have hstats : (r.statsFields.map Value.text).map
      (fun field => (partName "stats" field, Value.text "\x7b\x7d")) = r.sentStats := by
    rw [List.map_map]
    rfl
  simp only [spread, sentName?, readJson]
  rw [hread]
  show (Value.itemsOf (.map (r.statsFields.map fun field => (.text field, .map []))) >>= _) = _
  rw [hfields, ← hstats]
  rfl

end Parts

/-! ## Names that begin alike -/

theorem append_left_cancel {a s t : String} (h : a ++ s = a ++ t) : s = t := by
  have hlist := congrArg String.toList h
  rw [String.toList_append, String.toList_append] at hlist
  exact String.toList_inj.1 (List.append_cancel_left hlist)

/-- Different names stay different when they begin alike. -/
theorem nodup_names {α : Type} {l : List (Value.Key × α)} (ht : ∀ e ∈ l, ∃ s, e.1 = .text s)
    (hn : (l.map Prod.fst).Nodup) (start : String) :
    (l.map fun e => Value.Key.text (start ++ Json.keyText e.1)).Nodup := by
  have hmap : l.map (fun e => Value.Key.text (start ++ Json.keyText e.1)) =
      (l.map Prod.fst).map fun key => Value.Key.text (start ++ Json.keyText key) := by
    rw [List.map_map]
    rfl
  rw [hmap]
  refine hn.map_on fun x hx y hy hxy => ?_
  obtain ⟨e, he, rfl⟩ := List.mem_map.1 hx
  obtain ⟨e', he', rfl⟩ := List.mem_map.1 hy
  obtain ⟨s, hs⟩ := ht e he
  obtain ⟨s', hs'⟩ := ht e' he'
  rw [hs, hs'] at hxy ⊢
  exact congrArg Value.Key.text (append_left_cancel (Value.Key.text.inj hxy))

section Whole

variable {r : Request}

theorem nodup_names_sentStats : (r.sentStats.map Prod.fst).Nodup := by
  have hfields : r.statsFields.Nodup := by
    have hkeys := Keyed.nodup_keys_ofList (l := (r.stats.map Value.plain).map (·, ()))
      fun _ _ => Keyed.exact_of_lawful _
    rw [Keyed.ofList_map_const, List.map_map] at hkeys
    simpa [Function.comp_def, statsFields] using hkeys
  rw [sentStats, List.map_map]
  exact hfields.map fun s t hst => append_left_cancel (Value.Key.text.inj hst)

theorem Textual.nodup_names_sentExpressions (h : r.Textual) :
    (r.sentExpressions.map Prod.fst).Nodup := by
  rw [sentExpressions, List.map_map]
  exact nodup_names (fun e he => (h.expressions e he).1) h.expressionNames "expr."

theorem Textual.nodup_names_sentFacets (h : r.Textual) : (r.sentFacets.map Prod.fst).Nodup := by
  rw [sentFacets, List.map_map]
  exact nodup_names (fun e he => (h.facets e he).1) h.facetFields "facet."

theorem isEmpty_of_not {α : Type} {l : List α} (h : (!l.isEmpty) = false) : l = [] := by
  simpa using h

/-- **Every part of a request is sent, under names of its own.** The eight parts from the filter to
the start are sent as they are. -/
theorem Textual.sends [Json.Limits] (h : r.Textual) :
    Sends 12 r.parameters r.sentParameters := by
  have hstats : (!r.stats.isEmpty) = false → r.sentStats = [] := fun he => by
    rw [sentStats, statsFields, isEmpty_of_not he]
    rfl
  have hfacets : (!r.facets.isEmpty) = false → r.sentFacets = [] := fun he => by
    rw [sentFacets, isEmpty_of_not he]
    rfl
  have hexpressions : (!r.expressions.isEmpty) = false → r.sentExpressions = [] := fun he => by
    rw [sentExpressions, isEmpty_of_not he]
    rfl
  have hcursor : Sends 1 (given r.cursor.isSome "cursor" (.text (r.cursor.getD "")))
      (given r.cursor.isSome "cursor" (.text (r.cursor.getD ""))) := sends_nil.given rfl rfl
  have hexpr := hcursor.part "expr." (fun s => by simp [placeOf]) h.spread_expressions hexpressions
    (List.forall_mem_map.2 fun e _ => ⟨_, rfl⟩) h.nodup_names_sentExpressions
  have hfacet := hexpr.part "facet." (fun s => by simp [placeOf]) h.spread_facets hfacets
    (List.forall_mem_map.2 fun e _ => ⟨_, rfl⟩) h.nodup_names_sentFacets
  unfold parameters sentParameters
  refine Sends.part ?_ "stats." (fun s => by simp [placeOf]) h.spread_stats hstats
    (List.forall_mem_map.2 fun e _ => ⟨_, rfl⟩) nodup_names_sentStats
  iterate 8 refine Sends.given ?_ rfl rfl
  exact hfacet

/-- **A request compiled and spread out into the parameters that are sent.** -/
def toParameters [Json.Limits] (r : Request) : Except Failure Fields := do
  ofRequest (← r.compile.mapError .query)

theorem toParameters_of_not_isWhole [Json.Limits] (h : r.isWhole = false) :
    r.toParameters = .error (.query .absentChild) := by
  simp only [toParameters, compile, h]
  rfl

theorem toParameters_of_isWhole [Json.Limits] (h : r.isWhole = true) :
    r.toParameters = ofRequest r.parameters := by
  simp only [toParameters, compile, h]
  rfl

end Whole

/-- **What is sent after any steps that keep to texts.** -/
theorem toParameters_of_steps [Json.Limits] (size : Value) {steps : List Step}
    (hs : ∀ step ∈ steps, step.Textual) :
    let r := steps.foldl attempt { size := size }
    (r.isWhole = false → r.toParameters = .error (.query .absentChild)) ∧
    (r.isWhole = true →
      r.toParameters = .ok r.sentParameters ∧ (r.sentParameters.map Prod.fst).Nodup ∧
      ∀ e ∈ r.facets,
        Json.read (Json.write Json.compactAscii e.2.toValue) = .ok e.2.toValue) := by
  intro r
  have h : r.Textual := textual_of_steps size hs
  refine ⟨toParameters_of_not_isWhole, fun hw => ?_⟩
  refine ⟨(toParameters_of_isWhole hw).trans h.sends.ofRequest_eq, h.sends.names, fun e he => ?_⟩
  obtain ⟨more, hdepth⟩ := Json.Limits.exists_depth_eq
  refine Json.read_write Json.lawful_compactAscii ?_
  rw [hdepth]
  exact (h.facets e he).2.legible (more + 1)

/-- A formula and facets with a quote, a backslash, a line feed and a letter outside ASCII, and
statistics that are asked for twice. -/
def quotedSteps : List Step :=
  [.addExpression (.text "a\"b") (.text "_score*\\"),
   .addBuckets (.text "genre") (.list [.text "\n", .text "é"]) (.text "filter"),
   .addFacet (.text "genre") (.text "count") (.int (-3)),
   .addStats (.text "price"), .addStats (.text "price")]

attribute [local instance] Json.Limits.usual

theorem toParameters_of_quotedSteps :
    (quotedSteps.foldl attempt { size := .int 5 }).toParameters = .ok
      [(.text "expr.a\"b", .text "_score*\\"),
       (.text "facet.genre", .text "\x7b\"sort\":\"count\",\"size\":-3\x7d"),
       (.text "q.parser", .text "structured"), (.text "size", .text "5"),
       (.text "start", .text "0"), (.text "stats.price", .text "\x7b\x7d")] := by
  have hs : ∀ step ∈ quotedSteps, step.Textual := by
    simp [quotedSteps, Step.Textual, Facet.Textual, Value.IsText, Value.items?, Unescaped]
  exact ((toParameters_of_steps (.int 5) hs).2 rfl).1.trans (by rfl)

end Query.Request

end SearchIndex
