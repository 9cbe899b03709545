import SearchIndex.Config.Tree
import SearchIndex.Proofs.Groups

/-!
# Configurations laid over each other

A configuration laid over another one is met path by path. What the upper one has at a path and is
no map hides everything below it; where both have maps, the keys of the lower one come first; what
the upper one does not mention is left to the lower one.

## Main definitions

* `Tree.at? path t`: the tree that a path of keys leads to
* `Tree.Distinct`: no map that can be reached holds a key twice
* `Tree.Overlay lower upper merged`: what a merged tree has at every path

## Main results

* `Keyed.ext_of_find?`: entries are told apart by their keys and by what is found under them
* `Tree.find?_merge`, `Tree.keys_merge`: the entries of a merged map
* `Tree.mergeTree_mergeTree`: laying a tree over a second time changes nothing
* `Tree.overlay_merge`: the law of paths
* `Tree.merge_laws`: the law of paths, and what follows from it for whole trees
-/

namespace SearchIndex

namespace Keyed

variable {κ β : Type} [BEq κ] [LawfulBEq κ]

theorem find?_eq_none_iff {key : κ} {l : List (κ × β)} :
    find? key l = none ↔ key ∉ l.map Prod.fst := by
  rw [← Option.not_isSome_iff_eq_none, find?_isSome_iff (exact_of_lawful key)]

/-- **Entries with the same keys in the same order, and the same values under them, are the
same.** -/
theorem ext_of_find? {l m : List (κ × β)} (hn : (l.map Prod.fst).Nodup)
    (hkeys : l.map Prod.fst = m.map Prod.fst)
    (hvalues : ∀ key ∈ l.map Prod.fst, find? key l = find? key m) : l = m := by
  induction l generalizing m with
  | nil => exact (List.map_eq_nil_iff.1 hkeys.symm).symm
  | cons e l ih =>
    obtain ⟨k, v⟩ := e
    cases m with
    | nil => nomatch hkeys
    | cons e' m =>
      obtain ⟨k', v'⟩ := e'
      simp only [List.map_cons, List.cons.injEq] at hkeys
      obtain ⟨rfl, hkeys⟩ := hkeys
      obtain ⟨hfresh, hn⟩ := List.nodup_cons.1 hn
      have hv : v = v' := by simpa [find?] using hvalues k List.mem_cons_self
      have hrest : l = m := by
        refine ih hn hkeys fun key hkey => ?_
        have hne : k ≠ key := fun h => hfresh (h ▸ hkey)
        simpa [find?, hne] using hvalues key (List.mem_cons_of_mem _ hkey)
      rw [hv, hrest]

end Keyed

namespace Config.Tree

/-! ## Paths -/

/-- **The tree that a path of keys leads to.** -/
def at? : List Key → Tree → Option Tree
  | [], t => some t
  | key :: path, .map entries => (Keyed.find? key entries).bind (at? path)
  | _ :: _, _ => none

/-- The tree is a map. -/
def IsMap (t : Tree) : Prop := ∃ entries, t = .map entries

/-- **No map that can be reached holds a key twice.** -/
def Distinct (t : Tree) : Prop :=
  ∀ path entries, at? path t = some (.map entries) → (entries.map Prod.fst).Nodup

section Paths

variable {key : Key} {path : List Key} {entries : Entries} {t u : Tree}

@[simp] theorem at?_nil (t : Tree) : at? [] t = some t := by cases t <;> rfl

@[simp] theorem at?_cons_map (key : Key) (path : List Key) (entries : Entries) :
    at? (key :: path) (.map entries) = (Keyed.find? key entries).bind (at? path) := rfl

/-- Nothing lies in a tree that is no map. -/
theorem at?_cons_of_not_isMap (h : ¬ t.IsMap) (key : Key) (path : List Key) :
    at? (key :: path) t = none := by
  cases t with
  | map entries => exact absurd ⟨entries, rfl⟩ h
  | null | bool | int | float | text | other | list => rfl

/-- Where a path leads to something, no tree but a map was gone into. -/
theorem eq_nil_of_not_isMap (h : ¬ t.IsMap) (hu : at? path t = some u) : path = [] := by
  cases path with
  | nil => rfl
  | cons key path =>
    rw [at?_cons_of_not_isMap h] at hu
    nomatch hu

theorem distinct_of_not_isMap (h : ¬ t.IsMap) : Distinct t := by
  intro path inner hinner
  obtain rfl := eq_nil_of_not_isMap h hinner
  exact absurd ⟨inner, by simpa using hinner⟩ h

theorem Distinct.nodup (h : Distinct (.map entries)) : (entries.map Prod.fst).Nodup :=
  h [] entries (at?_nil _)

theorem Distinct.of_find? (h : Distinct (.map entries)) (hu : Keyed.find? key entries = some u) :
    Distinct u := by
  intro path inner hinner
  refine h (key :: path) inner ?_
  rw [at?_cons_map, hu]
  exact hinner

/-- A map has distinct keys throughout if its own keys are, and those of the trees in it. -/
theorem distinct_map_iff :
    Distinct (.map entries) ↔ (entries.map Prod.fst).Nodup ∧ ∀ e ∈ entries, Distinct e.2 := by
  constructor
  · intro h
    exact ⟨h.nodup, fun e he => h.of_find? ((Keyed.find?_eq_some_iff h.nodup).2 he)⟩
  · rintro ⟨hn, h⟩ path inner hinner
    cases path with
    | nil =>
      obtain rfl : entries = inner := by simpa using hinner
      exact hn
    | cons key path =>
      rw [at?_cons_map, Option.bind_eq_some_iff] at hinner
      obtain ⟨u, hu, hinner⟩ := hinner
      exact h (key, u) ((Keyed.find?_eq_some_iff hn).1 hu) path inner hinner

end Paths

/-! ## The entries of a merged map -/

section Entries

variable {key : Key} {base upper above : Entries} {t : Tree}

theorem mergeTree_of_not_isMap (h : ¬ t.IsMap) (lower : Option Tree) : mergeTree lower t = t :=
  mergeTree_of_not_map (fun entries he => h ⟨entries, he⟩) lower

@[simp] theorem mergeTree_map_map (base upper : Entries) :
    mergeTree (some (.map base)) (.map upper) = .map (merge base upper) := by
  rw [mergeTree]

/-- A map over what is no map is left as it is. -/
theorem mergeTree_over_not_map {lower : Option Tree} (h : ∀ base, lower ≠ some (.map base))
    (t : Tree) : mergeTree lower t = t := by
  by_cases ht : t.IsMap
  · obtain ⟨upper, rfl⟩ := ht
    rw [mergeTree]
    exact fun base hlower => h base hlower
  · exact mergeTree_of_not_isMap ht lower

@[simp] theorem mergeTree_none (t : Tree) : mergeTree none t = t :=
  mergeTree_over_not_map (by simp) t

@[simp] theorem merge_cons (base : Entries) (key : Key) (t : Tree) (upper : Entries) :
    merge base ((key, t) :: upper) =
      merge (Keyed.put key (mergeTree (Keyed.find? key base) t) base) upper := by
  rw [merge, mergeEntry]

/-- **What is found in a merged map**: what the upper map has lies over what the lower one has. -/
theorem find?_merge (hn : (upper.map Prod.fst).Nodup) (base : Entries) (key : Key) :
    Keyed.find? key (merge base upper) =
      match Keyed.find? key upper with
      | none => Keyed.find? key base
      | some t => some (mergeTree (Keyed.find? key base) t) := by
  induction upper generalizing base with
  | nil => rw [merge_nil, Keyed.find?_nil]
  | cons e upper ih =>
    obtain ⟨k, t⟩ := e
    obtain ⟨hfresh, hn⟩ := List.nodup_cons.1 hn
    rw [merge_cons, ih hn]
    by_cases hk : k = key
    · subst hk
      have hrest : Keyed.find? k upper = none := Keyed.find?_eq_none_iff.2 hfresh
      simp [hrest, Keyed.find?, Keyed.find?_put_self]
    · have hkeep : ∀ t, Keyed.find? key (Keyed.put k t base) = Keyed.find? key base := fun t =>
        Keyed.find?_put_of_ne (Keyed.exact_of_lawful k) (Keyed.exact_of_lawful key) (Ne.symm hk) t
          base
      simp [hkeep, Keyed.find?, hk]

/-- **The keys of a merged map**: those of the lower map in their order, then the new ones of the
upper map. -/
theorem keys_merge (hn : (upper.map Prod.fst).Nodup) (base : Entries) :
    (merge base upper).map Prod.fst =
      base.map Prod.fst ++ (upper.map Prod.fst).filter (· ∉ base.map Prod.fst) := by
  induction upper generalizing base with
  | nil => simp [merge_nil]
  | cons e upper ih =>
    obtain ⟨k, t⟩ := e
    obtain ⟨hfresh, hn⟩ := List.nodup_cons.1 hn
    rw [merge_cons, ih hn, List.map_cons]
    by_cases hk : k ∈ base.map Prod.fst
    · rw [Keyed.keys_put_of_mem (Keyed.exact_of_lawful k) _ hk,
        List.filter_cons_of_neg (by simpa using hk)]
    · rw [Keyed.put_of_not_mem (Keyed.exact_of_lawful k) _ hk,
        List.filter_cons_of_pos (by simpa using hk)]
      have hsame : (upper.map Prod.fst).filter (· ∉ (base ++ [(k, mergeTree
          (Keyed.find? k base) t)]).map Prod.fst) =
          (upper.map Prod.fst).filter (· ∉ base.map Prod.fst) := by
        refine List.filter_congr fun key hkey => ?_
        have hne : key ≠ k := fun h => hfresh (h ▸ hkey)
        simp [hne]
      rw [hsame, List.map_append, List.append_assoc]
      rfl

theorem nodup_keys_merge (hbase : (base.map Prod.fst).Nodup) (hupper : (upper.map Prod.fst).Nodup) :
    ((merge base upper).map Prod.fst).Nodup := by
  rw [keys_merge hupper, List.nodup_append]
  refine ⟨hbase, hupper.filter _, ?_⟩
  rintro key hkey _ hnew rfl
  simp only [List.mem_filter, decide_eq_true_eq] at hnew
  exact hnew.2 hkey

theorem empty_merge (hn : (upper.map Prod.fst).Nodup) : merge [] upper = upper := by
  have hkeys : (merge [] upper).map Prod.fst = upper.map Prod.fst := by
    rw [keys_merge hn, List.filter_eq_self.2 (by simp)]
    rfl
  refine Keyed.ext_of_find? (nodup_keys_merge List.nodup_nil hn) hkeys fun key _ => ?_
  rw [find?_merge hn, Keyed.find?_nil]
  cases Keyed.find? key upper with
  | none => rfl
  | some t => exact congrArg some (mergeTree_none t)

end Entries

/-! ## Laying a tree over twice -/

section Again

mutual

/-- What holds of all trees that are no maps, and of a map when it holds of what is in it, holds of
all trees. -/
theorem inductionOnMaps {p : Tree → Prop} (leaf : ∀ t, ¬ t.IsMap → p t)
    (map : ∀ entries : Entries, (∀ e ∈ entries, p e.2) → p (.map entries)) : ∀ t, p t
  | .map entries => map entries (inductionOnEntries leaf map entries)
  | .null => leaf .null (by simp [IsMap])
  | .bool b => leaf (.bool b) (by simp [IsMap])
  | .int n => leaf (.int n) (by simp [IsMap])
  | .float x => leaf (.float x) (by simp [IsMap])
  | .text s => leaf (.text s) (by simp [IsMap])
  | .other s => leaf (.other s) (by simp [IsMap])
  | .list items => leaf (.list items) (by simp [IsMap])
termination_by structural t => t

theorem inductionOnEntry {p : Tree → Prop} (leaf : ∀ t, ¬ t.IsMap → p t)
    (map : ∀ entries : Entries, (∀ e ∈ entries, p e.2) → p (.map entries)) :
    ∀ e : Key × Tree, p e.2
  | (_, t) => inductionOnMaps leaf map t
termination_by structural e => e

theorem inductionOnEntries {p : Tree → Prop} (leaf : ∀ t, ¬ t.IsMap → p t)
    (map : ∀ entries : Entries, (∀ e ∈ entries, p e.2) → p (.map entries)) :
    ∀ entries : List (Key × Tree), ∀ e ∈ entries, p e.2
  | [] => List.forall_mem_nil _
  | e :: entries =>
    List.forall_mem_cons.2 ⟨inductionOnEntry leaf map e, inductionOnEntries leaf map entries⟩
termination_by structural entries => entries

end

variable {base upper : Entries} {lower : Option Tree}

/-- A map that is laid over something is merged into some map. -/
theorem exists_mergeTree_map (hlower : ∀ u, lower = some u → Distinct u)
    (hupper : Distinct (.map upper)) :
    ∃ base, mergeTree lower (.map upper) = .map (merge base upper) ∧ Distinct (.map base) := by
  by_cases h : ∃ base, lower = some (.map base)
  · obtain ⟨base, rfl⟩ := h
    exact ⟨base, mergeTree_map_map base upper, hlower _ rfl⟩
  · refine ⟨[], ?_, distinct_map_iff.2 ⟨List.nodup_nil, List.forall_mem_nil _⟩⟩
    rw [mergeTree_over_not_map (fun base hbase => h ⟨base, hbase⟩), empty_merge hupper.nodup]

/-- **Laying a tree over a second time changes nothing**: no key of its map is new any more. -/
theorem mergeTree_mergeTree (t : Tree) (lower : Option Tree)
    (hlower : ∀ u, lower = some u → Distinct u) (ht : Distinct t) :
    mergeTree (some (mergeTree lower t)) t = mergeTree lower t := by
  induction t using inductionOnMaps generalizing lower with
  | leaf t hleaf => rw [mergeTree_of_not_isMap hleaf, mergeTree_of_not_isMap hleaf]
  | map upper ih =>
    obtain ⟨base, hmerged, hbase⟩ := exists_mergeTree_map hlower ht
    rw [hmerged, mergeTree_map_map]
    have hn := ht.nodup
    have hkeys : (merge (merge base upper) upper).map Prod.fst =
        (merge base upper).map Prod.fst := by
      have hold : ∀ key ∈ upper.map Prod.fst, key ∈ (merge base upper).map Prod.fst := by
        intro key hkey
        rw [keys_merge hn, List.mem_append]
        by_cases hk : key ∈ base.map Prod.fst
        · exact .inl hk
        · exact .inr (List.mem_filter.2 ⟨hkey, by simpa using hk⟩)
      rw [keys_merge hn, List.filter_eq_nil_iff.2 (by simpa using hold), List.append_nil]
    have hdistinct := nodup_keys_merge hbase.nodup hn
    refine congrArg map (Keyed.ext_of_find? (hkeys ▸ hdistinct) hkeys fun key _ => ?_)
    rw [find?_merge hn, find?_merge hn]
    cases hfound : Keyed.find? key upper with
    | none => rfl
    | some u =>
      have hmem := (Keyed.find?_eq_some_iff hn).1 hfound
      have hdeep : ∀ v, Keyed.find? key base = some v → Distinct v := fun v hv => hbase.of_find? hv
      exact congrArg some (ih (key, u) hmem _ hdeep (ht.of_find? hfound))

theorem merge_merge (hbase : Distinct (.map base)) (hupper : Distinct (.map upper)) :
    merge (merge base upper) upper = merge base upper := by
  have hagain := mergeTree_mergeTree (.map upper) (some (.map base)) (by simpa using hbase) hupper
  simpa using hagain

end Again

/-! ## The law of paths -/

/-- **What a merged tree has at a path.** -/
structure Overlay (lower upper merged : Tree) (path : List Key) : Prop where
  /-- What the upper tree has and is no map is there. -/
  value : ∀ t, at? path upper = some t → ¬ t.IsMap → at? path merged = some t
  /-- Where both trees have maps there is one, with the keys of the lower one and then the new
  ones. -/
  both : ∀ base above, at? path lower = some (.map base) → at? path upper = some (.map above) →
    ∃ entries, at? path merged = some (.map entries) ∧
      entries.map Prod.fst =
        base.map Prod.fst ++ (above.map Prod.fst).filter (· ∉ base.map Prod.fst)
  /-- What the upper tree neither has nor hides is as in the lower one. -/
  absent : at? path upper = none →
    (∀ before, before <+: path → ∀ t, at? before upper = some t → t.IsMap) →
    at? path merged = at? path lower
  /-- A map of the upper tree where the lower one has none is there. -/
  map : ∀ above, at? path upper = some (.map above) →
    (∀ base, at? path lower ≠ some (.map base)) → at? path merged = some (.map above)

section Overlay

variable {key : Key} {base upper : Entries} {path : List Key} {t : Tree}

variable (base path) in
theorem at?_cons_merge (hn : (upper.map Prod.fst).Nodup) (hfound : Keyed.find? key upper = some t) :
    at? (key :: path) (.map (merge base upper)) =
      at? path (mergeTree (Keyed.find? key base) t) := by
  rw [at?_cons_map, find?_merge hn, hfound]
  rfl

/-- Where the upper tree has something that is no map, only that counts. -/
theorem overlay_of_value (hn : (upper.map Prod.fst).Nodup)
    (hfound : Keyed.find? key upper = some t) (ht : ¬ t.IsMap) :
    Overlay (.map base) (.map upper) (.map (merge base upper)) (key :: path) := by
  have hmerged := at?_cons_merge base path hn hfound
  have hupper : at? (key :: path) (.map upper) = at? path t := by
    rw [at?_cons_map, hfound]
    rfl
  rw [mergeTree_of_not_isMap ht, ← hupper] at hmerged
  have hnomap : ∀ above, at? (key :: path) (.map upper) ≠ some (.map above) := by
    intro above hover
    rw [hupper] at hover
    obtain rfl := eq_nil_of_not_isMap ht hover
    exact ht ⟨above, by simpa using hover⟩
  refine ⟨fun u hu _ => hmerged.trans hu, fun _ above _ hover => absurd hover (hnomap above),
    fun _ habsent => ?_, fun above hover => absurd hover (hnomap above)⟩
  have hhidden : at? [key] (.map upper) = some t := by simp [hfound]
  exact absurd (habsent [key] (by simp) t hhidden) ht

/-- Where the lower tree has no map, the one of the upper tree is taken as it is. -/
theorem overlay_of_new {above : Entries} (hn : (upper.map Prod.fst).Nodup)
    (hfound : Keyed.find? key upper = some (.map above))
    (hbase : ∀ inner, Keyed.find? key base ≠ some (.map inner)) :
    Overlay (.map base) (.map upper) (.map (merge base upper)) (key :: path) := by
  have hmerged := at?_cons_merge base path hn hfound
  have hupper : at? (key :: path) (.map upper) = at? path (.map above) := by
    rw [at?_cons_map, hfound]
    rfl
  rw [mergeTree_over_not_map hbase, ← hupper] at hmerged
  have hlower : ∀ u, at? (key :: path) (.map base) = some u → path = [] ∧ ¬ u.IsMap := by
    intro u hu
    rw [at?_cons_map, Option.bind_eq_some_iff] at hu
    obtain ⟨v, hv, hu⟩ := hu
    have hleaf : ¬ v.IsMap := by
      rintro ⟨inner, rfl⟩
      exact hbase inner hv
    obtain rfl := eq_nil_of_not_isMap hleaf hu
    obtain rfl : v = u := by simpa using hu
    exact ⟨rfl, hleaf⟩
  refine ⟨fun u hu _ => hmerged.trans hu, fun inner _ hinner _ => ?_, fun hnone _ => ?_,
    fun _ hover _ => hmerged.trans hover⟩
  · exact absurd ⟨inner, rfl⟩ (hlower _ hinner).2
  · rw [hmerged, hnone]
    cases hu : at? (key :: path) (.map base) with
    | none => rfl
    | some u =>
      obtain ⟨rfl, -⟩ := hlower u hu
      rw [hupper, at?_nil] at hnone
      nomatch hnone

/-- **The law of paths.** -/
theorem overlay_merge (hbase : Distinct (.map base)) (hupper : Distinct (.map upper))
    (path : List Key) : Overlay (.map base) (.map upper) (.map (merge base upper)) path := by
  have hn := hupper.nodup
  induction path generalizing base upper with
  | nil =>
    refine ⟨fun t ht hleaf => ?_, fun low above hlow hover => ?_, fun hnone => ?_,
      fun above _ hlow => ?_⟩
    · exact absurd ⟨upper, by simpa using ht.symm⟩ hleaf
    · obtain rfl : base = low := by simpa using hlow
      obtain rfl : upper = above := by simpa using hover
      exact ⟨_, at?_nil _, keys_merge hn base⟩
    · nomatch hnone
    · exact absurd (at?_nil _) (hlow base)
  | cons key path ih =>
    cases hfound : Keyed.find? key upper with
    | none =>
      have hnone : at? (key :: path) (.map upper) = none := by simp [hfound]
      have hmerged : at? (key :: path) (.map (merge base upper)) =
          at? (key :: path) (.map base) := by
        rw [at?_cons_map, find?_merge hn, hfound, at?_cons_map]
      refine ⟨fun t ht => ?_, fun _ above _ hover => ?_, fun _ _ => hmerged, fun above hover => ?_⟩
      · rw [hnone] at ht
        nomatch ht
      · rw [hnone] at hover
        nomatch hover
      · rw [hnone] at hover
        nomatch hover
    | some t =>
      by_cases ht : t.IsMap
      · obtain ⟨above, rfl⟩ := ht
        by_cases hlow : ∃ inner, Keyed.find? key base = some (.map inner)
        · obtain ⟨inner, hlow⟩ := hlow
          have hdeep := hupper.of_find? hfound
          have hinner := ih (hbase.of_find? hlow) hdeep hdeep.nodup
          have hmerged : at? (key :: path) (.map (merge base upper)) =
              at? path (.map (merge inner above)) := by
            rw [at?_cons_merge _ _ hn hfound, hlow, mergeTree_map_map]
          have hlower : at? (key :: path) (.map base) = at? path (.map inner) := by
            rw [at?_cons_map, hlow]
            rfl
          have hover : at? (key :: path) (.map upper) = at? path (.map above) := by
            rw [at?_cons_map, hfound]
            rfl
          refine ⟨?_, ?_, ?_, ?_⟩
          · rw [hmerged, hover]
            exact hinner.value
          · rw [hmerged, hlower, hover]
            exact hinner.both
          · rw [hmerged, hlower, hover]
            intro hnone habsent
            refine hinner.absent hnone fun before hbefore u hu => ?_
            refine habsent (key :: before) (List.cons_prefix_cons.2 ⟨rfl, hbefore⟩) u ?_
            rw [at?_cons_map, hfound]
            exact hu
          · rw [hmerged, hlower, hover]
            exact hinner.map
        · exact overlay_of_new hn hfound fun inner hinner => hlow ⟨inner, hinner⟩
      · exact overlay_of_value hn hfound ht

/-- **Configurations laid over each other** obey the law of paths. So an empty configuration changes
nothing from above or from below, and neither does one that is laid over itself or a second time. -/
theorem merge_laws (hbase : Distinct (.map base)) (hupper : Distinct (.map upper)) :
    (∀ path, Overlay (.map base) (.map upper) (.map (merge base upper)) path) ∧
      merge base [] = base ∧ merge [] upper = upper ∧ merge base base = base ∧
      merge (merge base upper) upper = merge base upper := by
  refine ⟨overlay_merge hbase hupper, merge_nil base, empty_merge hupper.nodup, ?_,
    merge_merge hbase hupper⟩
  have hself := mergeTree_mergeTree (.map base) none (by simp) hbase
  simpa using hself

end Overlay

/-- Settings with a map, a number and a list. -/
def defaults : Entries :=
  [(.text "search", .map [(.text "timeout", .int 30), (.text "tags", .list [.text "a"]),
      (.text "endpoint", .text "e")]),
    (.text "queue", .int 5), (.integer 1, .null)]

/-- Settings to lay over them: one number is another one, a list becomes a map, a number becomes
nothing, and there is a new section. -/
def overrides : Entries :=
  [(.text "log", .map [(.text "dir", .text "log")]), (.text "queue", .null),
    (.text "search", .map [(.text "size", .int 10), (.text "tags", .map [(.text "b", .int 1)]),
      (.text "timeout", .int 5)])]

theorem distinct_defaults : Distinct (.map defaults) := by
  simp [defaults, distinct_map_iff, distinct_of_not_isMap, IsMap]

theorem distinct_overrides : Distinct (.map overrides) := by
  simp [overrides, distinct_map_iff, distinct_of_not_isMap, IsMap]

/-- The law at two such trees. -/
theorem merge_laws_of_overrides :
    Distinct (.map defaults) ∧ Distinct (.map overrides) ∧
      (∀ path, Overlay (.map defaults) (.map overrides) (.map (merge defaults overrides)) path) ∧
      merge defaults [] = defaults ∧ merge [] overrides = overrides ∧
      merge defaults defaults = defaults ∧
      merge (merge defaults overrides) overrides = merge defaults overrides :=
  ⟨distinct_defaults, distinct_overrides, merge_laws distinct_defaults distinct_overrides⟩

example : merge defaults overrides =
    [(.text "search", .map [(.text "timeout", .int 5), (.text "tags", .map [(.text "b", .int 1)]),
        (.text "endpoint", .text "e"), (.text "size", .int 10)]),
      (.text "queue", .null), (.integer 1, .null),
      (.text "log", .map [(.text "dir", .text "log")])] := rfl

end Config.Tree

end SearchIndex
