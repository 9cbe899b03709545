import SearchIndex.Entity.Source
import SearchIndex.Proofs.Contents

/-!
# What is indexed comes back

A record is indexed with its fields and the field of kinds. When it is found again, and the response
has the value of each field in a list, the factory gets its kind and its fields: nothing has become
the empty text, the field of kinds is gone, and the short name of the kind is in its own field. This
holds of records that have one of these fields themselves, too.

## Main definitions

* `Sighting id fields`: a response with a single hit, a document
* `restored typeField kind fields`: the attributes that the fields of a record come back as

## Main results

* `Keyed.erase_put_self`, `Keyed.put_eq_map`: a key that is assigned and then erased, or is there
* `attributesOf_indexedFields`: the attributes of what was indexed
* `Sighting.ofResponse_eq_ok`: the hit that is read from a response
* `hydrateHit_of_indexed`: from a record to the call of the factory
-/

namespace SearchIndex.Keyed

variable {κ β : Type} [BEq κ] {key : κ} {value : β} {l : List (κ × β)}

/-- A key that is erased may have been assigned before. -/
theorem erase_put_self (h : (key == key) = true) : erase key (put key value l) = erase key l := by
  induction l with
  | nil => simp [put, erase, h]
  | cons e l ih =>
    obtain ⟨k, v⟩ := e
    simp only [erase] at ih
    by_cases hk : (k == key) = true
    · simp [put, erase, hk]
    · simp [put, erase, hk, ih]

theorem map_of_not_mem (hx : Exact key) (h : key ∉ l.map Prod.fst) :
    l.map (fun (k, v) => (k, if k == key then value else v)) = l := by
  induction l with
  | nil => rfl
  | cons e l ih =>
    rw [List.map_cons, List.mem_cons, not_or] at h
    simp [hx.beq_eq_false (Ne.symm h.1), ih h.2]

/-- A key that is there keeps its place when it is assigned. -/
theorem put_eq_map (hx : Exact key) (hn : (l.map Prod.fst).Nodup) (h : key ∈ l.map Prod.fst) :
    put key value l = l.map fun (k, v) => (k, if k == key then value else v) := by
  induction l with
  | nil => exact (List.not_mem_nil h).elim
  | cons e l ih =>
    obtain ⟨k, v⟩ := e
    obtain ⟨hk, hn⟩ := List.nodup_cons.1 hn
    by_cases he : k = key
    · subst he
      simp [put, hx.beq_self, map_of_not_mem hx hk]
    · have hm : key ∈ l.map Prod.fst := (List.mem_cons.1 h).resolve_left (Ne.symm he)
      simp [put, hx.beq_eq_false he, ih hn hm]

end SearchIndex.Keyed

namespace SearchIndex.Index

open Entity (Record Repository)

/-! ## The attributes of what was indexed -/

/-- **The attributes that the fields of a record come back as**, in their order: nothing has become
the empty text, the field of kinds is gone, and the field for the short name of the kind has it, at
the end if the record has no such field. -/
def restored (typeField kind : String) (fields : Fields) : Fields :=
  let kept := fields.filter fun (name, _) => !(name == .text typeField)
  let attributes := kept.map fun (name, v) =>
    (name, if name == .text resultTypeField then .text (resultType kind) else Document.blankNull v)
  if fields.any fun (name, _) => name == .text resultTypeField then attributes
  else attributes ++ [(.text resultTypeField, .text (resultType kind))]

/-- The fields of a document as a response has them: the value of each in a list. -/
def listed (fields : Fields) : Fields := fields.map fun (name, v) => (name, .list [v])

theorem flatten_listed (id : String) (fields exprs : Fields) :
    Hit.flatten ⟨id, listed fields, exprs⟩ = fields := by
  simp only [Hit.flatten, listed, List.map_map]
  exact List.map_id _

variable {typeField kind : String} {fields : Fields} {h : Hit}

theorem indexedFields_ne_nil (typeField : String) (kind : Value) (fields : Fields) :
    Document.indexedFields typeField kind fields ≠ [] := by
  intro h
  have hfind := Document.find?_indexedFields (Value.Key.exact_text typeField).beq_self kind fields
  rw [h] at hfind
  cases hfind

/-- What was indexed has its kind. -/
theorem kindOf?_indexedFields (hk : kind ≠ "")
    (hh : h.flatten = Document.indexedFields typeField (.text kind) fields) :
    kindOf? typeField h = some kind := by
  have hfind := Document.find?_indexedFields (Value.Key.exact_text typeField).beq_self
    (.text kind) fields
  simp [kindOf?, hh, Value.lookup, hfind, Value.truthy, hk, Value.plain_text]

/-- **The attributes of what was indexed** are the fields of the record, restored. The short name is
kept, as the field of kinds is another one. -/
theorem attributesOf_indexedFields (ht : typeField ≠ resultTypeField)
    (hn : (fields.map Prod.fst).Nodup)
    (hh : h.flatten = Document.indexedFields typeField (.text kind) fields) :
    attributesOf typeField kind h = restored typeField kind fields := by
  have hx := Value.Key.exact_text resultTypeField
  have hkept : Keyed.erase (Value.Key.text typeField) h.flatten =
      (fields.filter fun (name, _) => !(name == .text typeField)).map
        fun (name, v) => (name, Document.blankNull v) := by
    rw [hh, Document.indexedFields,
      Keyed.erase_put_self (Value.Key.exact_text typeField).beq_self, Keyed.erase, List.filter_map]
    rfl
  have hkeys : (Keyed.erase (Value.Key.text typeField) h.flatten).map Prod.fst =
      (fields.map Prod.fst).filter fun name => !(name == .text typeField) := by
    rw [hkept, List.map_map, List.filter_map]
    rfl
  have hmem : .text resultTypeField ∈
      (Keyed.erase (Value.Key.text typeField) h.flatten).map Prod.fst ↔
        (fields.any fun (name, _) => name == .text resultTypeField) = true := by
    have hne : (Value.Key.text resultTypeField == .text typeField) = false :=
      Bool.eq_false_iff.2 fun he => ht (Value.Key.text.inj (Value.Key.beq_text_iff.1 he)).symm
    simp [hkeys, Value.Key.beq_text_iff, hne]
  rw [attributesOf, restored]
  split
  · next hr =>
    rw [Keyed.put_eq_map hx (hkeys ▸ hn.filter _) (hmem.2 hr), hkept, List.map_map]
    refine List.map_congr_left fun e _ => ?_
    rfl
  · next hr =>
    rw [Keyed.put_of_not_mem hx _ (mt hmem.1 hr), hkept]
    refine congrArg (· ++ _) (List.map_congr_left fun e he => ?_)
    have hname : (e.1 == Value.Key.text resultTypeField) = false :=
      Bool.eq_false_iff.2 fun h => hr (List.any_eq_true.2 ⟨e, (List.mem_filter.1 he).1, h⟩)
    simp only [hname, Bool.false_eq_true, if_false]

theorem hydrateHit_of_flatten (hk : kind ≠ "") (ht : typeField ≠ resultTypeField)
    (hn : (fields.map Prod.fst).Nodup)
    (hh : h.flatten = Document.indexedFields typeField (.text kind) fields) (factory : Factory) :
    hydrateHit factory (.text typeField) h = factory kind (restored typeField kind fields) := by
  have hkey : hydrateHit factory (.text typeField) h = hydrateBy factory typeField h :=
    hydrateHit_ofKey factory (.text typeField) h
  rw [hkey, hydrateBy, kindOf?_indexedFields hk hh, ← attributesOf_indexedFields ht hn hh]

/-! ## From a record to the call of the factory -/

/-- What is read leniently is itself if it counts as true. -/
theorem lookup_orElse {entries : Fields} {key : Value.Key} {v : Value}
    (h : Value.valueAt? entries key = some v) (ht : v.truthy = true) (other : Value) :
    (Value.lookup entries key).orElse other = v := by
  rw [Value.lookup, h, Option.getD_some, Value.orElse, if_pos ht]

/-- What holds a value counts as true. -/
theorem truthy_of_valueAt? {entries : Fields} {key : Value.Key} {v : Value}
    (h : Value.valueAt? entries key = some v) : (Value.map entries).truthy = true := by
  cases entries with
  | nil => cases h
  | cons => rfl

/-- **A response whose only hit is a document**: the hit has the id of the document and its fields.
The numbers of the response can be read, and it may say more. -/
structure Sighting (id : String) (fields : Fields) where
  payload : Fields
  envelope : Fields
  hit : Fields
  hits_eq : Value.valueAt? payload "hits" = some (.map envelope)
  hit_eq : Value.valueAt? envelope "hit" = some (.list [.map hit])
  id_eq : Value.valueAt? hit "id" = some (.text id)
  fields_eq : Value.valueAt? hit "fields" = some (.map (listed fields))
  exprs : ∃ exprs, fieldsAt hit "exprs" = .ok exprs
  found : ∃ n, integerAt envelope "found" = .ok n
  start : ∃ n, integerAt envelope "start" = .ok n

namespace Sighting

variable {id : String} {fields : Fields}

/-- The response. -/
def response (a : Sighting id fields) : Value := .map a.payload

/-- The response that says nothing more. -/
def bare (id : String) (fields : Fields) : Sighting id fields where
  payload := [("hits", .map [("found", .int 1), ("start", .int 0),
    ("hit", .list [.map [("id", .text id), ("fields", .map (listed fields))]])])]
  envelope := [("found", .int 1), ("start", .int 0),
    ("hit", .list [.map [("id", .text id), ("fields", .map (listed fields))]])]
  hit := [("id", .text id), ("fields", .map (listed fields))]
  hits_eq := rfl
  hit_eq := rfl
  id_eq := rfl
  fields_eq := rfl
  exprs := ⟨_, rfl⟩
  found := ⟨_, rfl⟩
  start := ⟨_, rfl⟩

/-- **The hit that is read from the response**. -/
theorem ofResponse_eq_ok (a : Sighting id fields) (hf : fields ≠ []) :
    ∃ result exprs, Result.ofResponse a.response = .ok result ∧
      result.hits = [⟨id, listed fields, exprs⟩] := by
  obtain ⟨exprs, hexprs⟩ := a.exprs
  obtain ⟨found, hfound⟩ := a.found
  obtain ⟨start, hstart⟩ := a.start
  have hfields : fieldsAt a.hit "fields" = .ok (listed fields) := by
    have ht : (Value.map (listed fields)).truthy = true := by simp [Value.truthy, listed, hf]
    rw [fieldsAt, lookup_orElse a.fields_eq ht, Value.pairsOf_map]
  have hhit : [Value.map a.hit].mapM hitOf? = .ok [some ⟨id, listed fields, exprs⟩] := by
    simp [hitOf?, hfields, hexprs, a.id_eq, Value.plain_text, bind, Except.bind, pure, Except.pure]
  have henvelope := lookup_orElse a.hits_eq (truthy_of_valueAt? a.hit_eq) (.map [])
  have hitems := lookup_orElse a.hit_eq rfl (.list [])
  refine ⟨⟨found, start, [⟨id, listed fields, exprs⟩], Value.lookup a.envelope "cursor",
    (Value.lookup a.payload "facets").orElse (.map []),
    (Value.lookup a.payload "stats").orElse (.map [])⟩, exprs, ?_, rfl⟩
  simp only [response, Result.ofResponse, Value.entriesFor_map, henvelope, hitems,
    Value.itemsOf_list, hhit, hfound, hstart, bind, Except.bind]
  rfl

end Sighting

/-- **What is indexed comes back.** -/
theorem hydrateHit_of_indexed {typeField kind id : String} {repository : Repository}
    {record : Record} {fields : Fields} (hk : kind ≠ "") (ht : typeField ≠ resultTypeField)
    (hn : (fields.map Prod.fst).Nodup) (hf : fields ≠ [])
    (hd : repository.document record = .ok (.map fields))
    (hid : repository.searchableId record = .ok id) :
    ∃ sent, buildDocuments (.text typeField) (.text kind) [record] repository =
        .ok [.add id sent] ∧
      ∀ a : Sighting id sent, ∃ result hit, Result.ofResponse a.response = .ok result ∧
        result.hits = [hit] ∧ hit.id = id ∧
        ∀ factory, hydrateHit factory (.text typeField) hit =
          factory kind (restored typeField kind fields) := by
  refine ⟨Document.indexedFields typeField (.text kind) fields, ?_, fun a => ?_⟩
  · simp [buildDocuments, documentOf?_of_map hd hf hid, bind, Except.bind, pure, Except.pure]
  · have hsent : Document.indexedFields typeField (.text kind) fields ≠ [] :=
      indexedFields_ne_nil typeField (.text kind) fields
    obtain ⟨result, exprs, hresult, hhits⟩ := a.ofResponse_eq_ok hsent
    exact ⟨result, _, hresult, hhits, rfl,
      hydrateHit_of_flatten hk ht hn (flatten_listed id _ exprs)⟩

/-- A record that has a field of kinds and one for a short name itself, nothing, and values that do
not count as true. -/
def clashing : Fields :=
  [("id", .int 7), ("title", .null), ("searchable_type", .text "Draft"), ("stars", .int 0),
    ("result_type", .bool false), ("note", .text "")]

/-- The source of that record, which is indexed with all of its fields. -/
def clashingSource : Entity.Source where
  records := [.map clashing]
  indexed := .record

/-- What it comes back with. -/
def clashingRestored : Fields :=
  [("id", .int 7), ("title", .text ""), ("stars", .int 0), ("result_type", .text "article"),
    ("note", .text "")]

theorem hydrateHit_of_clashing :
    ∃ sent, buildDocuments (.text "searchable_type") (.text "app.models.Article") [.map clashing]
          clashingSource.repository = .ok [.add "7" sent] ∧
      ∀ a : Sighting "7" sent, ∃ result hit, Result.ofResponse a.response = .ok result ∧
        result.hits = [hit] ∧ hit.id = "7" ∧
        ∀ factory, hydrateHit factory (.text "searchable_type") hit =
          factory "app.models.Article" clashingRestored := by
  have hshort : resultType "app.models.Article" = "article" := by decide +kernel
  have hrestored : restored "searchable_type" "app.models.Article" clashing = clashingRestored := by
    rw [restored, hshort]
    rfl
  have hkeys : (clashing.map Prod.fst).Nodup := by simp [clashing]
  rw [← hrestored]
  exact hydrateHit_of_indexed (by decide) (by decide) hkeys (List.cons_ne_nil _ _) rfl rfl

end SearchIndex.Index
