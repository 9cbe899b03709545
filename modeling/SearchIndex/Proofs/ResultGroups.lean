import SearchIndex.Proofs.Contents
import SearchIndex.Proofs.FirstEntity
import SearchIndex.Proofs.Groups

/-!
# Groups of entities

Entities are listed, or grouped by the short names of their kinds. Both go through the hits on their
own, and one takes the kind out of the fields that the other one only looks at; still the groups
hold exactly the entities that are listed, each in the group of the kind of its hit.

## Main definitions

* `entityOf?`, `shortNameOf?`: what becomes of a hit, if it is something, and the short name of the
  hit's kind
* `kept`: the hits that something becomes of, with their entities
* `IsGrouping`: groups are those of hits by their short names

## Main results

* `entityOf?_eq_some_iff`: what a factory makes of a hit that has a kind
* `hydrateHits_eq_ok`, `groupHits_eq_ok`: the listed and the grouped entities by those of the hits
* `isGrouping_of_groupHits`: the groups hold the listed entities
-/

namespace SearchIndex.Index

/-! ## What becomes of a hit -/

section Hits

variable {factory : Factory} {typeField : Value} {h : Hit} {hits : List Hit}

/-- What becomes of a hit, if it is something. -/
def entityOf? (factory : Factory) (typeField : Value) (h : Hit) : Option Value :=
  (hydrateHit factory typeField h).toOption.filter isSomething

/-- The short name of the kind of a hit, if it has one. -/
def shortNameOf? (typeField : Value) (h : Hit) : Option String :=
  (typeField.key?.bind fun key => kindOf? key h).map resultType

/-- **The hits that something becomes of**, with their entities. -/
def kept (factory : Factory) (typeField : Value) (hits : List Hit) : List (Hit × Value) :=
  hits.filterMap fun h => (entityOf? factory typeField h).map (h, ·)

theorem keyOf_eq_ok_iff {key : Value.Key} :
    typeField.keyOf = .ok key ↔ typeField.key? = some key := by
  rw [Value.keyOf]
  cases typeField.key? <;> simp

theorem kindOf?_of_no_fields (key : Value.Key) (hfields : h.fields = []) :
    kindOf? key h = none := by
  simp [kindOf?, Hit.flatten, hfields, Value.lookup, Value.valueAt?, Value.truthy]

/-- **Something becomes of a hit** exactly if it has a kind and the factory makes something of
it. -/
theorem entityOf?_eq_some_iff {v : Value} :
    entityOf? factory typeField h = some v ↔
      ∃ key kind, typeField.key? = some key ∧ kindOf? key h = some kind ∧
        factory kind (attributesOf key kind h) = .ok v ∧ isSomething v = true := by
  have hentity : entityOf? factory typeField h = some v ↔
      hydrateHit factory typeField h = .ok v ∧ isSomething v = true := by
    rw [entityOf?, Option.filter_eq_some_iff]
    cases hydrateHit factory typeField h <;> simp [Except.toOption]
  rw [hentity, hydrateHit]
  constructor
  · rintro ⟨hv, hsome⟩
    split at hv
    · obtain rfl := Except.ok.inj hv
      cases hsome
    · obtain ⟨key, hkey, hv⟩ := bind_eq_ok_iff.1 hv
      rw [hydrateBy] at hv
      cases hkind : kindOf? key h with
      | none =>
        rw [hkind] at hv
        obtain rfl := Except.ok.inj hv
        cases hsome
      | some kind =>
        rw [hkind] at hv
        exact ⟨key, kind, keyOf_eq_ok_iff.1 hkey, hkind, hv, hsome⟩
  · rintro ⟨key, kind, hkey, hkind, hv, hsome⟩
    have hfields : ¬ h.fields.isEmpty = true := by
      intro hempty
      rw [kindOf?_of_no_fields key (List.isEmpty_iff.1 hempty)] at hkind
      cases hkind
    rw [if_neg hfields, keyOf_eq_ok_iff.2 hkey]
    refine ⟨?_, hsome⟩
    show hydrateBy factory key h = .ok v
    rw [hydrateBy, hkind]
    exact hv

theorem isSome_shortNameOf? {v : Value} (hv : entityOf? factory typeField h = some v) :
    ∃ name, shortNameOf? typeField h = some name := by
  obtain ⟨key, kind, hkey, hkind, -⟩ := entityOf?_eq_some_iff.1 hv
  exact ⟨resultType kind, by rw [shortNameOf?, hkey, Option.bind_some, hkind, Option.map_some]⟩

/-! ## Listed and grouped entities -/

theorem hydrateHits_eq_ok {entities : List Value}
    (hentities : hydrateHits factory typeField hits = .ok entities) :
    entities = (kept factory typeField hits).map Prod.snd := by
  induction hits generalizing entities with
  | nil =>
    obtain rfl := Except.ok.inj hentities
    rfl
  | cons h hits ih =>
    rw [hydrateHits_cons] at hentities
    obtain ⟨entity, hentity, hentities⟩ := bind_eq_ok_iff.1 hentities
    obtain ⟨others, hothers, hentities⟩ := bind_eq_ok_iff.1 hentities
    obtain rfl := Except.ok.inj hentities
    rw [kept, List.filterMap_cons, entityOf?, hentity, ih hothers]
    cases hs : isSomething entity <;> simp [Except.toOption, Option.filter, hs, kept]

/-- A hit is labelled with the short name of its kind if something becomes of it. -/
theorem labelled_eq_ok {label : Option (String × Value)}
    (hlabel : labelled factory typeField h = .ok label) :
    label = (entityOf? factory typeField h).bind fun v =>
      (shortNameOf? typeField h).map (·, v) := by
  obtain ⟨key, hkey, hlabel⟩ := bind_eq_ok_iff.1 hlabel
  have hname : shortNameOf? typeField h = (kindOf? key h).map resultType := by
    rw [shortNameOf?, keyOf_eq_ok_iff.1 hkey, Option.bind_some]
  cases hkind : kindOf? key h with
  | none =>
    rw [hkind] at hlabel
    obtain rfl := Except.ok.inj hlabel
    simp [hname, hkind]
  | some kind =>
    rw [hkind] at hlabel
    obtain ⟨v, hv, hlabel⟩ := bind_eq_ok_iff.1 hlabel
    obtain rfl := Except.ok.inj hlabel
    rw [entityOf?, hv, hname, hkind]
    cases hs : isSomething v <;> simp [Except.toOption, Option.filter, hs]

/-- The labelled hits are those that something becomes of, with its short name. -/
theorem mapM_labelled_eq_ok {labels : List (Option (String × Value))}
    (hlabels : hits.mapM (labelled factory typeField) = .ok labels) :
    labels.filterMap id = (kept factory typeField hits).filterMap fun e =>
      (shortNameOf? typeField e.1).map (·, e.2) := by
  have hall := mapM_eq_ok hlabels
  clear hlabels
  induction hall with
  | nil => rfl
  | @cons h label hits labels hlabel _ ih =>
    rw [kept, List.filterMap_cons, List.filterMap_cons, ih, labelled_eq_ok hlabel]
    cases entityOf? factory typeField h with
    | none => rfl
    | some v =>
      cases hname : shortNameOf? typeField h <;>
        simp [hname, kept]

theorem groupHits_eq_ok {groups : List (String × List Value)}
    (hgroups : groupHits factory typeField hits = .ok groups) :
    groups = (Keyed.group Prod.fst ((kept factory typeField hits).filterMap fun e =>
      (shortNameOf? typeField e.1).map (·, e.2))).map fun g => (g.1, g.2.map Prod.snd) := by
  obtain ⟨labels, hlabels, hgroups⟩ := bind_eq_ok_iff.1 hgroups
  obtain rfl := Except.ok.inj hgroups
  rw [mapM_labelled_eq_ok hlabels]

end Hits

/-! ## Groups by names -/

section Groupings

variable {α β κ : Type} [BEq κ] [LawfulBEq κ]

/-- **Groups are those of items by their names**: a group for each name, in the order the names are
first met; none is empty, each holds what belongs to the items with its name, in their order, and
together they hold what belongs to all items, once each. -/
structure IsGrouping (name? : α → Option κ) (items : List (α × β)) (groups : List (κ × List β)) :
    Prop where
  names : groups.map Prod.fst = (items.filterMap fun e => name? e.1).eraseDups
  nonempty : ∀ g ∈ groups, g.2 ≠ []
  members : ∀ g ∈ groups, g.2 = (items.filter fun e => name? e.1 == some g.1).map Prod.snd
  whole : (groups.flatMap Prod.snd).Perm (items.map Prod.snd)

variable {name? : α → Option κ} {items : List (α × β)}

/-- What belongs to the items with a name, in two ways. -/
theorem map_filter_named (name? : α → Option κ) (items : List (α × β)) (name : κ) :
    ((items.filterMap fun e => (name? e.1).map (·, e.2)).filter (·.1 == name)).map Prod.snd =
      (items.filter fun e => name? e.1 == some name).map Prod.snd := by
  induction items with
  | nil => rfl
  | cons e items ih =>
    cases hname : name? e.1 with
    | none => simpa [hname] using ih
    | some other =>
      by_cases ho : other = name
      · subst ho
        simpa [hname] using ih
      · simpa [hname, ho] using ih

omit [BEq κ] [LawfulBEq κ] in
/-- With names for all items nothing is lost. -/
theorem map_filterMap_named (hnames : ∀ e ∈ items, ∃ name, name? e.1 = some name) :
    (items.filterMap fun e => (name? e.1).map (·, e.2)).map Prod.snd = items.map Prod.snd := by
  induction items with
  | nil => rfl
  | cons e items ih =>
    obtain ⟨⟨name, hname⟩, hrest⟩ := List.forall_mem_cons.1 hnames
    simp [hname, ih hrest]

/-- **The groups of named items** by their names. -/
theorem isGrouping_group (hnames : ∀ e ∈ items, ∃ name, name? e.1 = some name) :
    IsGrouping name? items ((Keyed.group Prod.fst (items.filterMap fun e =>
      (name? e.1).map (·, e.2))).map fun g => (g.1, g.2.map Prod.snd)) := by
  generalize hlabels : (items.filterMap fun e => (name? e.1).map (·, e.2)) = labels
  refine ⟨?_, fun g hg => ?_, fun g hg => ?_, ?_⟩
  · rw [List.map_map]
    show (Keyed.group Prod.fst labels).map Prod.fst = _
    rw [Keyed.keys_group, ← hlabels, List.map_filterMap]
    simp [Function.comp_def]
  · obtain ⟨⟨name, members⟩, hmem, rfl⟩ := List.mem_map.1 hg
    simpa using (Keyed.mem_group_iff.1 hmem).2
  · obtain ⟨⟨name, members⟩, hmem, rfl⟩ := List.mem_map.1 hg
    obtain ⟨rfl, -⟩ := Keyed.mem_group_iff.1 hmem
    rw [← hlabels]
    exact map_filter_named name? items name
  · have hperm : ((Keyed.group Prod.fst labels).flatMap Prod.snd).Perm labels :=
      Keyed.flatMap_group_perm
    rw [← map_filterMap_named hnames, hlabels, List.flatMap_map, ← List.map_flatMap]
    exact hperm.map Prod.snd

end Groupings

/-! ## The groups hold the listed entities -/

/-- **The grouped entities are the listed ones.** The listed entities are those of the hits that
something becomes of; each of these hits has a kind, and the groups are those of the hits by the
short names of the kinds. By the factory that keeps the attributes, every entity of a group has the
name of the group. -/
theorem isGrouping_of_groupHits {factory : Factory} {typeField : Value} {hits : List Hit}
    {entities : List Value} {groups : List (String × List Value)}
    (hentities : hydrateHits factory typeField hits = .ok entities)
    (hgroups : groupHits factory typeField hits = .ok groups) :
    entities = (kept factory typeField hits).map Prod.snd ∧
      IsGrouping (shortNameOf? typeField) (kept factory typeField hits) groups ∧
      (∀ e ∈ kept factory typeField hits,
        (∃ name, shortNameOf? typeField e.1 = some name) ∧ e.2 ≠ .null) ∧
      (factory = attributesOnly → ∀ g ∈ groups, ∀ v ∈ g.2, ∃ attributes, v = .map attributes ∧
        Value.valueAt? attributes resultTypeField = some (.text g.1)) := by
  have hof : ∀ e ∈ kept factory typeField hits, entityOf? factory typeField e.1 = some e.2 := by
    intro e he
    obtain ⟨h, -, hh⟩ := List.mem_filterMap.1 he
    obtain ⟨v, hv, rfl⟩ := Option.map_eq_some_iff.1 hh
    exact hv
  have hnames : ∀ e ∈ kept factory typeField hits, ∃ name, shortNameOf? typeField e.1 = some name :=
    fun e he => isSome_shortNameOf? (hof e he)
  have hgrouping := isGrouping_group hnames
  rw [← groupHits_eq_ok hgroups] at hgrouping
  refine ⟨hydrateHits_eq_ok hentities, hgrouping, fun e he => ⟨hnames e he, ?_⟩, ?_⟩
  · rintro hnull
    obtain ⟨-, -, -, -, -, hsome⟩ := entityOf?_eq_some_iff.1 (hof e he)
    rw [hnull] at hsome
    nomatch hsome
  · rintro rfl g hg v hv
    rw [hgrouping.members g hg] at hv
    obtain ⟨e, he, rfl⟩ := List.mem_map.1 hv
    obtain ⟨he, hname⟩ := List.mem_filter.1 he
    obtain ⟨key, kind, hkey, hkind, hattributes, -⟩ := entityOf?_eq_some_iff.1 (hof e he)
    refine ⟨attributesOf key kind e.1, (Except.ok.inj hattributes).symm, ?_⟩
    have hshort : resultType kind = g.1 := by
      simpa [shortNameOf?, hkey, hkind] using hname
    rw [← hshort]
    exact Keyed.find?_put_self (Value.Key.exact_text resultTypeField).beq_self ..

/-- Hits of two kinds, one of them with a result type of its own, and one without a kind. -/
def mixedHits : List Hit :=
  [articleIn "kind", Finder.untyped,
    ⟨"3", [(.text "result_type", .list [.text "own"]), (.text "kind", .text "a.b:Note")], []⟩,
    ⟨"4", [(.text "kind", .list [.text "Article", .text "Note"])], []⟩,
    ⟨"5", [(.text "kind", .list [])], []⟩]

/-- Their entities, listed and grouped. -/
theorem isGrouping_of_mixedHits :
    ∃ entities groups, hydrateHits attributesOnly (.text "kind") mixedHits = .ok entities ∧
      groupHits attributesOnly (.text "kind") mixedHits = .ok groups ∧ entities.length = 3 ∧
      groups.map (fun g => (g.1, g.2.length)) = [("article", 2), ("note", 1)] ∧
      IsGrouping (shortNameOf? (.text "kind")) (kept attributesOnly (.text "kind") mixedHits)
        groups ∧
      ∀ g ∈ groups, ∀ v ∈ g.2, ∃ attributes, v = .map attributes ∧
        Value.valueAt? attributes resultTypeField = some (.text g.1) := by
  obtain ⟨entities, hentities, hcount⟩ : ∃ entities,
      hydrateHits attributesOnly (.text "kind") mixedHits = .ok entities ∧ entities.length = 3 :=
    ⟨_, rfl, rfl⟩
  obtain ⟨groups, hgroups, hsizes⟩ : ∃ groups,
      groupHits attributesOnly (.text "kind") mixedHits = .ok groups ∧
        groups.map (fun g => (g.1, g.2.length)) = [("article", 2), ("note", 1)] :=
    ⟨_, rfl, rfl⟩
  obtain ⟨-, hgrouping, -, hown⟩ := isGrouping_of_groupHits hentities hgroups
  exact ⟨entities, groups, hentities, hgroups, hcount, hsizes, hgrouping, hown rfl⟩

end SearchIndex.Index
