import Mathlib.Data.List.Forall2
import SearchIndex.Proofs.Building

/-!
# Filters by values of fields

Keeping to values of fields adds one phrase to the filter for each leaf of a value that counts as
true: field by field, and the leaves of a field from left to right, depth first. How the leaves are
grouped in lists, and what stands between them that does not count as true, makes no difference; and
nothing else makes none.

## Main definitions

* `LeadsTo v path leaf`: a path of indices leads through nested lists to a leaf
* `LeavesInOrder v ls`: the leaves of a value in the order of the paths to them
* `Regroups v w`: a value is another one but for the grouping and the padding of its lists
* `wanted v`: the leaves that count as true

## Main results

* `leavesInOrder`: the leaves of a value are found in their order
* `regroups_iff`: values regroup to each other exactly if the same is wanted of them
* `Builder.apply_having`: what keeping to values of fields adds
* `Builder.filters_by_leaves`: it is what filtering by a phrase for each leaf adds
-/

namespace SearchIndex.Query

/-! ## The leaves of a value -/

/-- **A path leads to a leaf**: each of its indices chooses an item of a list, and a value that is
no list stands at its end. -/
inductive LeadsTo : Value → List Nat → Value → Prop where
  | here {v : Value} (h : ∀ items, v ≠ .list items) : LeadsTo v [] v
  | item {items : List Value} {i : Nat} {v leaf : Value} {path : List Nat}
      (hi : items[i]? = some v) (hv : LeadsTo v path leaf) : LeadsTo (.list items) (i :: path) leaf

/-- **The leaves of a value from left to right, depth first**: those at the ends of all paths, in
the lexicographic order of the paths. -/
def LeavesInOrder (v : Value) (ls : List Value) : Prop :=
  ∃ placed : List (List Nat × Value), placed.map Prod.snd = ls ∧
    (∀ path leaf, (path, leaf) ∈ placed ↔ LeadsTo v path leaf) ∧
    placed.Pairwise fun p q => p.1 < q.1

theorem leaves_of_not_list {v : Value} (h : ∀ items, v ≠ .list items) : leaves v = [v] := by
  cases v with
  | list items => exact (h items rfl).elim
  | null | bool | int | float | text | map => rfl

theorem leadsTo_iff_of_not_list {v leaf : Value} {path : List Nat}
    (h : ∀ items, v ≠ .list items) : LeadsTo v path leaf ↔ path = [] ∧ leaf = v := by
  constructor
  · rintro (_ | _)
    · exact ⟨rfl, rfl⟩
    · exact (h _ rfl).elim
  · rintro ⟨rfl, rfl⟩
    exact .here h

theorem leadsTo_list_iff {items : List Value} {leaf : Value} {path : List Nat} :
    LeadsTo (.list items) path leaf ↔
      ∃ i rest v, path = i :: rest ∧ items[i]? = some v ∧ LeadsTo v rest leaf := by
  constructor
  · rintro (h | ⟨hi, hv⟩)
    · exact (h _ rfl).elim
    · exact ⟨_, _, _, rfl, hi, hv⟩
  · rintro ⟨i, rest, v, rfl, hi, hv⟩
    exact .item hi hv

/-- A value that is no list is its own leaf. -/
theorem leavesInOrder_of_not_list {v : Value} (h : ∀ items, v ≠ .list items) :
    LeavesInOrder v (leaves v) := by
  refine ⟨[([], v)], (leaves_of_not_list h).symm, fun path leaf => ?_, List.pairwise_singleton _ _⟩
  rw [leadsTo_iff_of_not_list h, List.mem_singleton, Prod.mk.injEq]

mutual

/-- **The leaves of a value are found in their order.** -/
theorem leavesInOrder : (v : Value) → LeavesInOrder v (leaves v)
  | .list items => by
    obtain ⟨placed, hleaves, hmem, hsorted⟩ := leavesInOrder_items items 0
    refine ⟨placed, hleaves, fun path leaf => ?_, hsorted⟩
    simp only [hmem, leadsTo_list_iff, Nat.zero_add]
  | .null => leavesInOrder_of_not_list fun _ => nofun
  | .bool _ => leavesInOrder_of_not_list fun _ => nofun
  | .int _ => leavesInOrder_of_not_list fun _ => nofun
  | .float _ => leavesInOrder_of_not_list fun _ => nofun
  | .text _ => leavesInOrder_of_not_list fun _ => nofun
  | .map _ => leavesInOrder_of_not_list fun _ => nofun
termination_by structural v => v

/-- The same of the items of a list that are counted from `n`. -/
theorem leavesInOrder_items : (items : List Value) → (n : Nat) →
    ∃ placed : List (List Nat × Value), placed.map Prod.snd = leavesAll items ∧
      (∀ path leaf, (path, leaf) ∈ placed ↔
        ∃ i rest v, path = (n + i) :: rest ∧ items[i]? = some v ∧ LeadsTo v rest leaf) ∧
      placed.Pairwise fun p q => p.1 < q.1
  | [], _ => ⟨[], rfl, by simp, .nil⟩
  | v :: items, n => by
    obtain ⟨first, hfirst, hmemFirst, hsortedFirst⟩ := leavesInOrder v
    obtain ⟨others, hothers, hmemOthers, hsortedOthers⟩ := leavesInOrder_items items (n + 1)
    refine ⟨first.map (fun p => (n :: p.1, p.2)) ++ others, ?_, fun path leaf => ?_, ?_⟩
    · rw [List.map_append, List.map_map, hothers, leavesAll, ← hfirst]
      rfl
    · rw [List.mem_append, hmemOthers, List.mem_map]
      constructor
      · rintro (⟨⟨rest, _⟩, hp, he⟩ | ⟨i, rest, w, rfl, hi, hw⟩)
        · obtain ⟨rfl, rfl⟩ := Prod.mk.inj he
          exact ⟨0, rest, v, rfl, rfl, (hmemFirst _ _).1 hp⟩
        · exact ⟨i + 1, rest, w, by rw [Nat.add_right_comm, Nat.add_assoc], hi, hw⟩
      · rintro ⟨_ | i, rest, w, rfl, hi, hw⟩
        · obtain rfl : v = w := Option.some.inj hi
          exact .inl ⟨(rest, leaf), (hmemFirst _ _).2 hw, rfl⟩
        · exact .inr ⟨i, rest, w, by rw [Nat.add_right_comm, Nat.add_assoc], hi, hw⟩
    · refine List.pairwise_append.2 ⟨List.pairwise_map.2 ?_, hsortedOthers, ?_⟩
      · exact hsortedFirst.imp fun h => List.cons_lt_cons_iff.2 (.inr ⟨rfl, h⟩)
      · rintro _ hp ⟨path, leaf⟩ hq
        obtain ⟨p, -, rfl⟩ := List.mem_map.1 hp
        obtain ⟨i, rest, w, rfl, -, -⟩ := (hmemOthers path leaf).1 hq
        exact List.cons_lt_cons_iff.2 (.inl (by omega))
termination_by structural items => items

end

/-! ## Values that differ in their grouping -/

/-- The leaves that count as true. -/
def wanted (v : Value) : List Value := (leaves v).filter Value.truthy

/-- **A value is another one but for its grouping and padding**: a list inside a list may give way
to its items, what does not count as true may be left out of a list, and a value may stand for the
list of it. -/
inductive Regroups : Value → Value → Prop where
  | refl (v : Value) : Regroups v v
  | symm {v w : Value} (h : Regroups v w) : Regroups w v
  | trans {u v w : Value} (h : Regroups u v) (h' : Regroups v w) : Regroups u w
  | single (v : Value) : Regroups (.list [v]) v
  | flatten (before items after : List Value) :
      Regroups (.list (before ++ .list items :: after)) (.list (before ++ (items ++ after)))
  | pad (before : List Value) {v : Value} (after : List Value) (h : v.truthy = false) :
      Regroups (.list (before ++ v :: after)) (.list (before ++ after))
  | item (before : List Value) {v w : Value} (after : List Value) (h : Regroups v w) :
      Regroups (.list (before ++ v :: after)) (.list (before ++ w :: after))

theorem wanted_of_not_truthy {v : Value} (h : v.truthy = false) : wanted v = [] := by
  cases v with
  | list items =>
    obtain rfl : items = [] := by simpa [Value.truthy] using h
    rfl
  | null | bool | int | float | text | map => simp [wanted, leaves, h]

theorem wanted_list_cons (v : Value) (vs : List Value) :
    wanted (.list (v :: vs)) = wanted v ++ wanted (.list vs) := List.filter_append ..

theorem wanted_list_append (vs ws : List Value) :
    wanted (.list (vs ++ ws)) = wanted (.list vs) ++ wanted (.list ws) := by
  rw [wanted, leaves_list_append]
  exact List.filter_append ..

/-- Of values that regroup to each other the same is wanted. -/
theorem Regroups.wanted_eq {v w : Value} (h : Regroups v w) : wanted v = wanted w := by
  induction h with
  | refl v => rfl
  | symm _ ih => exact ih.symm
  | trans _ _ ih ih' => exact ih.trans ih'
  | single v => exact (wanted_list_cons v []).trans (List.append_nil _)
  | flatten before items after => simp only [wanted_list_append, wanted_list_cons]
  | pad before after h =>
    simp only [wanted_list_append, wanted_list_cons, wanted_of_not_truthy h, List.nil_append]
  | item before after _ ih => simp only [wanted_list_append, wanted_list_cons, ih]

/-- A value that is no list regroups to the list of it, if it is wanted, or to the empty list. -/
theorem regroups_wanted_of_not_list {v : Value} (h : ∀ items, v ≠ .list items) :
    Regroups v (.list (wanted v)) := by
  refine (Regroups.single v).symm.trans ?_
  cases ht : v.truthy with
  | true =>
    rw [wanted, leaves_of_not_list h, List.filter_singleton, ht]
    exact .refl _
  | false =>
    rw [wanted_of_not_truthy ht]
    exact .pad [] [] ht

mutual

/-- **A value regroups to the list of what is wanted of it.** -/
theorem regroups_wanted : (v : Value) → Regroups v (.list (wanted v))
  | .list items => regroups_wanted_items items []
  | .null => regroups_wanted_of_not_list fun _ => nofun
  | .bool _ => regroups_wanted_of_not_list fun _ => nofun
  | .int _ => regroups_wanted_of_not_list fun _ => nofun
  | .float _ => regroups_wanted_of_not_list fun _ => nofun
  | .text _ => regroups_wanted_of_not_list fun _ => nofun
  | .map _ => regroups_wanted_of_not_list fun _ => nofun
termination_by structural v => v

/-- The same of the items after some that stay as they are. Each of them is replaced by the list of
what is wanted of it, and that by its items. -/
theorem regroups_wanted_items : (items before : List Value) →
    Regroups (.list (before ++ items)) (.list (before ++ wanted (.list items)))
  | [], _ => .refl _
  | v :: items, before => by
    have hrest := regroups_wanted_items items (before ++ wanted v)
    rw [List.append_assoc, List.append_assoc] at hrest
    rw [wanted_list_cons]
    exact ((regroups_wanted v).item before items).trans ((Regroups.flatten ..).trans hrest)
termination_by structural items => items

end

/-- **Values regroup to each other exactly if the same is wanted of them.** -/
theorem regroups_iff {v w : Value} : Regroups v w ↔ wanted v = wanted w := by
  refine ⟨Regroups.wanted_eq, fun h => (regroups_wanted v).trans ?_⟩
  rw [h]
  exact (regroups_wanted w).symm

namespace Builder

/-! ## What is added to the filter -/

/-- The phrases that are asked of a field for what is wanted of a value. -/
def phrasesFor (field : Value.Key) (v : Value) : List Expression :=
  (wanted v).map fun leaf => { kind := .phrase, value := leaf, field := .ofKey field }

/-- The builder with more nodes in its filter. -/
def withFilter (b : Builder) (nodes : List Expression) : Builder :=
  { b with request := { b.request with filter := ⟨b.request.filter.nodes ++ nodes⟩ } }

theorem withFilter_nil (b : Builder) : b.withFilter [] = b := by
  simp only [withFilter, List.append_nil]

theorem withFilter_append (b : Builder) (nodes more : List Expression) :
    b.withFilter (nodes ++ more) = (b.withFilter nodes).withFilter more := by
  simp only [withFilter, List.append_assoc]

/-- Filtering by a phrase adds a node. -/
theorem apply_filterPhrase (b : Builder) (leaf field : Value) :
    b.apply (.request (filterPhrase leaf field)) =
      .ok (b.withFilter [{ kind := .phrase, value := leaf, field := field }]) := rfl

/-- Filtering by several phrases adds their nodes in order. -/
theorem applyAll_filterPhrases (b : Builder) (calls : List (Value × Value)) :
    b.applyAll (calls.map fun c => .request (filterPhrase c.1 c.2)) =
      .ok (b.withFilter (calls.map fun c => { kind := .phrase, value := c.1, field := c.2 })) := by
  induction calls generalizing b with
  | nil => exact congrArg Except.ok b.withFilter_nil.symm
  | cons c calls ih =>
    rw [List.map_cons, applyAll, List.foldlM_cons, apply_filterPhrase]
    refine (ih _).trans (congrArg Except.ok ?_)
    exact (b.withFilter_append [_] _).symm

/-- A step that stands for steps of the request is these, one after the other. -/
theorem apply_eq_applyAll {b : Builder} {step : Step} {steps : List Request.Step}
    (h : step.expand b.typeField = .ok steps) :
    b.apply step = b.applyAll (steps.map .request) := by
  have happly : b.apply step =
      b.request.applyAll steps >>= fun request => .ok { b with request := request } := by
    simp only [apply, h]
    rfl
  rw [happly]
  clear h happly
  induction steps generalizing b with
  | nil => rfl
  | cons s steps ih =>
    show (b.request.apply s >>= fun r => r.applyAll steps) >>= _ =
      b.apply (.request s) >>= fun b => b.applyAll (steps.map .request)
    have hone : b.apply (.request s) =
        b.request.apply s >>= fun request => .ok { b with request := request } := by
      show ((b.request.apply s >>= fun r => .ok r) >>= _) = _
      cases b.request.apply s <;> rfl
    rw [hone]
    cases b.request.apply s with
    | error f => rfl
    | ok r => exact ih (b := { b with request := r })

/-- The phrases that fields are to be filtered by, in order: a leaf and a field each. -/
def phraseCalls (filters : Fields) : List (Value × Value) :=
  filters.flatMap fun e => (wanted e.2).map fun leaf => (leaf, .ofKey e.1)

/-- Keeping to values of fields is filtering by a phrase for each leaf that is wanted. -/
theorem apply_having_eq (b : Builder) (filters : Fields) :
    b.apply (.having (.map filters)) =
      b.applyAll ((phraseCalls filters).map fun c => .request (filterPhrase c.1 c.2)) := by
  have hsteps : Step.expand b.typeField (.having (.map filters)) =
      .ok ((phraseCalls filters).map fun c => filterPhrase c.1 c.2) := by
    simp only [Step.expand, phraseCalls, List.map_flatMap, List.map_map]
    rfl
  rw [apply_eq_applyAll hsteps, List.map_map]
  rfl

/-- **What keeping to values of fields adds** is the phrases for them. -/
theorem apply_having (b : Builder) (filters : Fields) :
    b.apply (.having (.map filters)) =
      .ok (b.withFilter (filters.flatMap fun e => phrasesFor e.1 e.2)) := by
  rw [apply_having_eq, applyAll_filterPhrases, phraseCalls, List.map_flatMap]
  simp only [List.map_map]
  rfl

theorem withFilter_inj {b : Builder} {nodes nodes' : List Expression} :
    b.withFilter nodes = b.withFilter nodes' ↔ nodes = nodes' := by
  refine ⟨fun h => ?_, fun h => h ▸ rfl⟩
  have hnodes := congrArg (fun b : Builder => b.request.filter.nodes) h
  exact List.append_cancel_left hnodes

/-- Fields whose values regroup to each other are filtered alike. -/
theorem apply_having_congr (b : Builder) {filters filters' : Fields}
    (h : List.Forall₂ (fun e e' => e.1 = e'.1 ∧ Regroups e.2 e'.2) filters filters') :
    b.apply (.having (.map filters)) = b.apply (.having (.map filters')) := by
  have hnodes : (filters.flatMap fun e => phrasesFor e.1 e.2) =
      filters'.flatMap fun e => phrasesFor e.1 e.2 := by
    induction h with
    | nil => rfl
    | cons he _ ih =>
      rw [List.flatMap_cons, List.flatMap_cons, ih, he.1, phrasesFor, phrasesFor, he.2.wanted_eq]
  rw [apply_having, apply_having, hnodes]

/-- **Keeping to values of fields is filtering by their leaves.** A phrase for each leaf that counts
as true is added to the filter, field by field and from left to right, as if it were asked for on
its own, and nothing else changes. What is compiled afterwards does not depend on the grouping and
the padding of lists, and no more than that is forgotten of a value. A map is one leaf. -/
theorem filters_by_leaves (b : Builder) (filters : Fields) :
    (∀ v, LeavesInOrder v (leaves v)) ∧
    (∀ entries, LeavesInOrder (.map entries) [.map entries]) ∧
    b.apply (.having (.map filters)) =
      b.applyAll (filters.flatMap fun (field, v) => ((leaves v).filter Value.truthy).map
        fun leaf => .request (filterPhrase leaf (.ofKey field))) ∧
    b.apply (.having (.map filters)) =
      .ok { b with request := { b.request with filter := ⟨b.request.filter.nodes ++
        filters.flatMap fun (field, v) => ((leaves v).filter Value.truthy).map
          fun leaf => { kind := .phrase, value := leaf, field := .ofKey field }⟩ } } ∧
    (∀ filters' : Fields,
      List.Forall₂ (fun e e' => e.1 = e'.1 ∧ Regroups e.2 e'.2) filters filters' →
      (b.apply (.having (.map filters))).bind build =
        (b.apply (.having (.map filters'))).bind build) ∧
    (∀ (field : Value.Key) (v w : Value),
      b.apply (.having (.map [(field, v)])) = b.apply (.having (.map [(field, w)])) ↔
        Regroups v w) := by
  refine ⟨leavesInOrder, fun entries => leavesInOrder (.map entries), ?_, b.apply_having filters,
    fun filters' h => by rw [b.apply_having_congr h], fun field v w => ?_⟩
  · rw [apply_having_eq, phraseCalls, List.map_flatMap]
    simp only [List.map_map]
    rfl
  · rw [apply_having, apply_having, Except.ok.injEq, withFilter_inj, regroups_iff]
    simp only [List.flatMap_singleton, phrasesFor]
    refine List.map_inj_right ?_
    intro leaf leaf' h
    exact congrArg Expression.value h

/-- Padded and regrouped tags, and an empty list of them in another order. -/
theorem build_of_regrouped :
    let tags : Value := .list [.list [.text "rock", .null, .list []], .list [.list [.text "pop"]]]
    let flat : Value := .list [.text "rock", .text "pop", .text ""]
    (Builder.apply {} (.having (.map [(.text "tag", tags), (.text "lang", .text "en")]))).bind
        build =
      (Builder.apply {} (.having (.map [(.text "tag", flat), (.text "lang", .list [.text "en"])]))
        ).bind build := by
  intro tags flat
  refine (filters_by_leaves {} _).2.2.2.2.1 _ (.cons ⟨rfl, ?_⟩ (.cons ⟨rfl, ?_⟩ .nil))
  · exact regroups_iff.2 rfl
  · exact (Regroups.single _).symm

end Builder

end SearchIndex.Query
