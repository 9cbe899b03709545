import Mathlib.Data.List.Induction
import SearchIndex.Queue.Table

/-!
# Groups

Grouping a list by a key loses nothing and changes no order: there is one group for each key that
occurs, it holds exactly the items with that key, and its items keep their order.

## Main definitions

* `Queue.Table.idsFor`, `Queue.Table.groupsFor`: the ids that an action is asked for, and the same
  by their kinds
* `Queue.idsOf`, `Queue.idsByKind`: the ids of the entries of groups

## Main results

* `mem_group_iff`: the groups are the nonempty lists of items with one key
* `nodup_keys_group`: a key has one group
* `keys_group`: the groups stand in the order their keys are first met
* `getD_find?_group`: looking up a key gives the items that have it
* `group_of_forall_eq`: items with one key are one group
* `flatMap_group_perm`: the groups hold every item once
* `Queue.batch_of`, `Queue.exists_mem_byKind`: an entry is in the batch by its action and its kind
* `Queue.idsByKind_batch`, `Queue.Table.flatMap_groupsFor_perm`: the ids of a batch by their kinds
-/

namespace SearchIndex.Keyed

variable {α κ β : Type} [BEq κ] [LawfulBEq κ]

theorem mem_put {key k : κ} {value v : β} {l : List (κ × β)} (hl : (l.map Prod.fst).Nodup) :
    (k, v) ∈ put key value l ↔ (k = key ∧ v = value) ∨ (k ≠ key ∧ (k, v) ∈ l) := by
  induction l with
  | nil => simp [put]
  | cons e l ih =>
    obtain ⟨k', v'⟩ := e
    simp only [List.map_cons, List.nodup_cons] at hl
    by_cases hk' : k' = key
    · subst hk'
      have hne (h : (k, v) ∈ l) : k ≠ k' := fun he => hl.1 (List.mem_map.2 ⟨(k, v), h, he⟩)
      simp only [put, beq_self_eq_true, if_true, List.mem_cons, Prod.mk.injEq]
      constructor
      · rintro (h | h)
        · exact .inl h
        · exact .inr ⟨hne h, .inr h⟩
      · rintro (h | ⟨hk, ⟨rfl, -⟩ | h⟩)
        · exact .inl h
        · exact absurd rfl hk
        · exact .inr h
    · simp only [put, beq_eq_false_iff_ne.2 hk', Bool.false_eq_true, if_false, List.mem_cons,
        Prod.mk.injEq, ih hl.2]
      constructor
      · rintro (⟨rfl, rfl⟩ | h | ⟨hk, h⟩)
        · exact .inr ⟨hk', .inl ⟨rfl, rfl⟩⟩
        · exact .inl h
        · exact .inr ⟨hk, .inr h⟩
      · rintro (h | ⟨hk, h | h⟩)
        · exact .inr (.inl h)
        · exact .inl h
        · exact .inr (.inr ⟨hk, h⟩)

theorem find?_eq_some_iff {key : κ} {v : β} {l : List (κ × β)} (hl : (l.map Prod.fst).Nodup) :
    find? key l = some v ↔ (key, v) ∈ l := by
  induction l with
  | nil => simp
  | cons e l ih =>
    obtain ⟨k, w⟩ := e
    simp only [List.map_cons, List.nodup_cons] at hl
    by_cases hk : k = key
    · subst hk
      have : (k, v) ∉ l := fun h => hl.1 (List.mem_map.2 ⟨(k, v), h, rfl⟩)
      simp [find?, this, eq_comm]
    · simp [find?, hk, ih hl.2, Ne.symm hk]

/-- Where the nonempty values of a function are kept by their keys, looking up a key gives the
value of the function. -/
theorem getD_find?_of_mem_iff {γ : Type} {l : List (κ × List γ)} {f : κ → List γ}
    (hl : (l.map Prod.fst).Nodup) (h : ∀ k items, (k, items) ∈ l ↔ items = f k ∧ items ≠ [])
    (k : κ) : (find? k l).getD [] = f k := by
  rcases hf : find? k l with _ | g
  · by_contra hne
    rw [Option.getD_none] at hne
    rw [(find?_eq_some_iff hl).2 ((h k _).2 ⟨rfl, Ne.symm hne⟩)] at hf
    cases hf
  · exact ((h k g).1 ((find?_eq_some_iff hl).1 hf)).1

/-! ## The groups of a list -/

variable (key : α → κ) (l : List α)

omit [LawfulBEq κ] in
theorem group_snoc (a : α) : group key (l ++ [a]) = addTo (key a) a (group key l) := by
  rw [group, List.foldl_append]
  rfl

/-- **A key has one group.** -/
theorem nodup_keys_group : ((group key l).map Prod.fst).Nodup := by
  induction l using List.reverseRecOn with
  | nil => exact List.nodup_nil
  | append_singleton l a ih =>
    rw [group_snoc]
    exact nodup_keys_put (exact_of_lawful _) ih

/-- **The groups stand in the order their keys are first met.** -/
theorem keys_group : (group key l).map Prod.fst = (l.map key).eraseDups := by
  induction l using List.reverseRecOn with
  | nil => rfl
  | append_singleton l a ih =>
    have hmem : key a ∈ (group key l).map Prod.fst ↔ key a ∈ l.map key := by
      rw [ih, List.mem_eraseDups]
    rw [group_snoc, addTo, List.map_append, List.map_singleton, eraseDups_snoc, ← ih]
    by_cases h : key a ∈ (group key l).map Prod.fst
    · rw [keys_put_of_mem (exact_of_lawful _) _ h, if_pos (hmem.1 h)]
    · rw [put_of_not_mem (exact_of_lawful _) _ h, if_neg fun hm => h (hmem.2 hm), List.map_append]
      rfl

variable {key l}

/-- **The groups are the nonempty lists of the items with one key.** -/
theorem mem_group_iff {k : κ} {items : List α} :
    (k, items) ∈ group key l ↔ items = l.filter (key · == k) ∧ items ≠ [] := by
  induction l using List.reverseRecOn generalizing k items with
  | nil =>
    refine ⟨fun h => (List.not_mem_nil h).elim, ?_⟩
    rintro ⟨rfl, h⟩
    exact absurd rfl h
  | append_singleton l a ih =>
    have hn := nodup_keys_group key l
    rw [group_snoc, addTo, mem_put hn, getD_find?_of_mem_iff hn fun _ _ => ih, List.filter_append]
    by_cases hk : k = key a
    · subst hk
      have ha : [a].filter (key · == key a) = [a] := by simp
      rw [ha]
      constructor
      · rintro (⟨-, rfl⟩ | ⟨h, -⟩)
        · exact ⟨rfl, by simp⟩
        · exact absurd rfl h
      · rintro ⟨rfl, -⟩
        exact .inl ⟨rfl, rfl⟩
    · have ha : [a].filter (key · == k) = [] := by simp [Ne.symm hk]
      simp [ha, hk, ih]

/-- **Looking up a key gives the items that have it.** -/
theorem getD_find?_group (k : κ) : (find? k (group key l)).getD [] = l.filter (key · == k) :=
  getD_find?_of_mem_iff (nodup_keys_group key l) (fun _ _ => mem_group_iff) k

/-- Items that all have one key are one group. -/
theorem group_of_forall_eq {k : κ} (h : ∀ a ∈ l, key a = k) (hl : l ≠ []) :
    group key l = [(k, l)] := by
  induction l using List.reverseRecOn with
  | nil => exact absurd rfl hl
  | append_singleton l a ih =>
    obtain rfl : key a = k := h a (List.mem_append_right _ (List.mem_singleton_self a))
    rw [group_snoc]
    rcases eq_or_ne l [] with rfl | hne
    · rfl
    · rw [ih (fun b hb => h b (List.mem_append_left _ hb)) hne]
      simp [addTo, put, find?]

theorem addTo_flatMap_perm (k : κ) (a : α) (groups : List (κ × List α)) :
    ((addTo k a groups).flatMap Prod.snd).Perm (groups.flatMap Prod.snd ++ [a]) := by
  induction groups with
  | nil => exact List.Perm.refl _
  | cons g groups ih =>
    obtain ⟨k', items⟩ := g
    by_cases hk : k' = k
    · subst hk
      simp only [addTo, put, find?, beq_self_eq_true, if_true, Option.getD_some, List.flatMap_cons,
        List.append_assoc]
      exact List.perm_append_comm.append_left items
    · have hb : (k' == k) = false := beq_eq_false_iff_ne.2 hk
      simp only [addTo, put, find?, hb, Bool.false_eq_true, if_false, List.flatMap_cons,
        List.append_assoc] at ih ⊢
      exact ih.append_left items

/-- **The groups hold every item once.** -/
theorem flatMap_group_perm : ((group key l).flatMap Prod.snd).Perm l := by
  induction l using List.reverseRecOn with
  | nil => exact List.Perm.refl _
  | append_singleton l a ih =>
    rw [group_snoc]
    exact (addTo_flatMap_perm ..).trans (ih.append_right [a])

end SearchIndex.Keyed

namespace SearchIndex.Queue

variable {entries : List Entry}

theorem batch_of (entries : List Entry) (a : Action) :
    (batch entries).of a = entries.filter (·.intent.action == a) :=
  Keyed.getD_find?_group a

theorem mem_byKind_iff {kind : String} {items : List Entry} :
    (kind, items) ∈ byKind entries ↔
      items = entries.filter (·.intent.kind == kind) ∧ items ≠ [] :=
  Keyed.mem_group_iff

/-- The ids of the entries that ask for an action, in their order. -/
def Table.idsFor (t : Table) (a : Action) : List String :=
  (t.filter (·.intent.action == a)).map (·.intent.id)

/-- The entries of an action in the batch of a table have the ids that it asks for. -/
theorem Table.ids_of_batch (t : Table) (a : Action) :
    ((batch t.claim).of a).map (·.intent.id) = t.idsFor a := by
  rw [batch_of, claim_eq_map, List.filter_map, List.map_map]
  rfl

theorem Table.idsFor_eq (t : Table) (a : Action) :
    t.idsFor a = (t.intents.filter (·.action == a)).map Intent.id := by
  rw [idsFor, intents, List.filter_map, List.map_map]
  rfl

/-- A claimed entry has the kind that the intents of the table have. -/
theorem Table.kind_of_mem_batch {t : Table} {kind : String} (hk : ∀ i ∈ t.intents, i.kind = kind)
    {a : Action} {e : Entry} (he : e ∈ (batch t.claim).of a) : e.intent.kind = kind := by
  rw [batch_of, claim_eq_map, List.mem_filter, List.mem_map] at he
  obtain ⟨⟨e', he', rfl⟩, -⟩ := he
  exact hk _ (List.mem_map.2 ⟨e', he', rfl⟩)

/-- The ids of the entries of groups. -/
def idsOf (groups : List (String × List Entry)) : List String :=
  groups.flatMap fun g => g.2.map (·.intent.id)

theorem idsOf_cons (g : String × List Entry) (groups : List (String × List Entry)) :
    idsOf (g :: groups) = g.2.map (·.intent.id) ++ idsOf groups := rfl

/-- Grouping by kinds loses no id. -/
theorem mem_idsOf_byKind {id : String} :
    id ∈ idsOf (byKind entries) ↔ ∃ e ∈ entries, e.intent.id = id := by
  rw [idsOf, ← List.map_flatMap, List.mem_map]
  refine exists_congr fun e => and_congr_left fun _ => ?_
  exact List.Perm.mem_iff (Keyed.flatMap_group_perm (l := entries))

/-- The ids of the entries of groups by their kinds. -/
def idsByKind (groups : List (String × List Entry)) : List (String × List String) :=
  groups.map fun g => (g.1, g.2.map (·.intent.id))

/-- The kinds that an action is asked for, those first asked for first. -/
def Table.kindsFor (t : Table) (a : Action) : List String :=
  ((t.filter (·.intent.action == a)).map (·.intent.kind)).eraseDups

/-- The ids of a kind that an action is asked for, in their order. -/
def Table.idsOfKind (t : Table) (a : Action) (kind : String) : List String :=
  ((t.filter (·.intent.action == a)).filter (·.intent.kind == kind)).map (·.intent.id)

/-- **The ids that an action is asked for by their kinds**, the kinds first asked for first. -/
def Table.groupsFor (t : Table) (a : Action) : List (String × List String) :=
  (t.kindsFor a).map fun kind => (kind, t.idsOfKind a kind)

/-- **The ids of a batch by their kinds** are those the table asks for. -/
theorem idsByKind_batch (t : Table) (a : Action) :
    idsByKind (byKind ((batch t.claim).of a)) = t.groupsFor a := by
  have hkinds : (byKind ((batch t.claim).of a)).map Prod.fst = t.kindsFor a := by
    rw [byKind, Keyed.keys_group, batch_of, Table.claim_eq_map, List.filter_map, List.map_map]
    rfl
  rw [Table.groupsFor, ← hkinds, List.map_map]
  refine List.map_congr_left fun g hg => ?_
  obtain ⟨hitems, -⟩ := mem_byKind_iff.1 hg
  rw [hitems, batch_of, Table.claim_eq_map, List.filter_map, List.filter_map, List.map_map]
  rfl

/-- **The kinds together have all the ids.** -/
theorem Table.flatMap_groupsFor_perm (t : Table) (a : Action) :
    ((t.groupsFor a).flatMap Prod.snd).Perm (t.idsFor a) := by
  have hperm : ((byKind ((batch t.claim).of a)).flatMap Prod.snd).Perm ((batch t.claim).of a) :=
    Keyed.flatMap_group_perm
  rw [← idsByKind_batch, idsByKind, List.flatMap_map, ← ids_of_batch]
  show ((byKind ((batch t.claim).of a)).flatMap fun g => g.2.map (·.intent.id)).Perm _
  rw [← List.map_flatMap]
  exact hperm.map _

theorem exists_mem_byKind {e : Entry} (he : e ∈ entries) :
    ∃ g ∈ byKind entries, g.1 = e.intent.kind ∧ e ∈ g.2 := by
  have hf : e ∈ entries.filter (·.intent.kind == e.intent.kind) := by simp [he]
  exact ⟨(e.intent.kind, _), Keyed.mem_group_iff.2 ⟨rfl, List.ne_nil_of_mem hf⟩, rfl, hf⟩

end SearchIndex.Queue
