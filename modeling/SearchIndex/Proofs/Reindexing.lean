import SearchIndex.Proofs.Routes

/-!
# Reindexing there and back

Bringing all records of a kind into the index adds a document for each record that has fields, and
taking them out deletes the document of each record. Both send the operations of a chunk as one
batch, and none for a chunk without operations. Done one after the other they leave the documents
that are of no record.

## Main definitions

* `Repository.Presents r records idOf fieldsOf`: a repository lists records with their ids and
  fields
* `Reindexing.operation?`: what is sent for a record
* `Reindexing.batches`: what is sent for chunks
* `Backend.TakesAll b`: a backend takes every batch

## Main results

* `Reindexing.mem_batches`: a batch has an operation, and not more than a chunk has records
* `StoreWithUploads.attempt_sendAll`: what the chunks of records do
* `StoreWithUploads.attempt_reindexing`: what bringing in or taking out all records does
* `StoreWithUploads.bring_then_take`: what both do, one after the other
-/

namespace SearchIndex

open Command (Reindexing)
open Entity (Record Repository Registry slices)
open Index (Backend Contents Document Gateway documentOf?)

/-- **A repository lists records**, each with an id and a map of fields; a document that counts as
nothing has no fields. -/
structure Entity.Repository.Presents (r : Repository) (records : List Record)
    (idOf : Record → String) (fieldsOf : Record → Fields) : Prop where
  all : r.all = .ok records
  id : ∀ record ∈ records, r.searchableId record = .ok (idOf record)
  document : ∀ record ∈ records, ∃ document, r.document record = .ok document ∧
    (document = .map (fieldsOf record) ∨ document.truthy = false ∧ fieldsOf record = [])

namespace Command.Reindexing

variable {typeField kind : String} {r : Repository} {records chunk : List Record}
  {idOf : Record → String} {fieldsOf : Record → Fields}

/-! ## What is sent -/

/-- **What is sent for a record**: one without fields is not added, but it is deleted. -/
def operation? (typeField kind : String) (idOf : Record → String) (fieldsOf : Record → Fields) :
    Reindexing → Record → Option Document
  | bring, record =>
    if (fieldsOf record).isEmpty then none
    else some (.add (idOf record)
      (Document.indexedFields (.text typeField) (.text kind) (fieldsOf record)))
  | take, record => some (.delete (idOf record))

theorem id_of_operation? {direction : Reindexing} {record : Record} {document : Document}
    (h : operation? typeField kind idOf fieldsOf direction record = some document) :
    document.id = idOf record := by
  cases direction with
  | bring =>
    rw [operation?] at h
    split at h <;> cases h
    rfl
  | take =>
    cases h
    rfl

/-- What is brought in are the records with fields. -/
theorem filterMap_bring (records : List Record) :
    records.filterMap (operation? typeField kind idOf fieldsOf bring) =
      (records.filter fun record => !(fieldsOf record).isEmpty).map fun record =>
        .add (idOf record)
          (Document.indexedFields (.text typeField) (.text kind) (fieldsOf record)) := by
  induction records with
  | nil => rfl
  | cons record records ih =>
    rw [List.filterMap_cons, List.filter_cons, operation?]
    cases (fieldsOf record).isEmpty with
    | true => exact ih
    | false => exact congrArg _ ih

theorem filterMap_take (records : List Record) :
    records.filterMap (operation? typeField kind idOf fieldsOf take) =
      (records.map idOf).map Document.delete := by
  rw [List.map_map]
  exact congrFun List.filterMap_eq_map records

/-- **What is sent for chunks**: a batch for each chunk in which there is anything to send. -/
def batches (op : Record → Option Document) (chunks : List (List Record)) :
    List (List Document) :=
  (chunks.map (List.filterMap op)).filter fun batch => !batch.isEmpty

theorem batches_cons (op : Record → Option Document) (chunk : List Record)
    (chunks : List (List Record)) :
    batches op (chunk :: chunks) =
      ([chunk.filterMap op].filter fun batch => !batch.isEmpty) ++ batches op chunks :=
  List.filter_append [chunk.filterMap op] _

theorem flatten_batches (op : Record → Option Document) (chunks : List (List Record)) :
    (batches op chunks).flatten = chunks.flatten.filterMap op := by
  rw [batches, List.flatten_filter_not_isEmpty, List.filterMap_flatten]

/-- **A batch has an operation**, and not more operations than a chunk has records. -/
theorem mem_batches {op : Record → Option Document} {chunks : List (List Record)}
    {batch : List Document} (h : batch ∈ batches op chunks) :
    1 ≤ batch.length ∧ ∃ chunk ∈ chunks, batch.length ≤ chunk.length := by
  obtain ⟨hmem, hne⟩ := List.mem_filter.1 h
  obtain ⟨chunk, hchunk, rfl⟩ := List.mem_map.1 hmem
  exact ⟨List.length_pos_iff.2 (by simpa using hne), chunk, hchunk, List.length_filterMap_le ..⟩

/-- **What is uploaded for the slices of a list** has 1 to `n + 1` operations in each batch. -/
theorem length_of_mem_upload {op : Record → Option Document} {n : Nat} {batch : List Value}
    (h : batch ∈ (batches op (slices n records)).map (List.map Document.toValue)) :
    1 ≤ batch.length ∧ batch.length ≤ n + 1 := by
  obtain ⟨documents, hdocuments, rfl⟩ := List.mem_map.1 h
  obtain ⟨hone, chunk, hchunk, hle⟩ := mem_batches hdocuments
  rw [List.length_map]
  exact ⟨hone, Nat.le_trans hle (Entity.length_le_of_mem_slices hchunk)⟩

theorem documentOf?_of_presents (hr : r.Presents records idOf fieldsOf) {record : Record}
    (h : record ∈ records) :
    documentOf? (.text typeField) (.text kind) r record =
      .ok (operation? typeField kind idOf fieldsOf bring record) := by
  obtain ⟨document, hd, hfields⟩ := hr.document record h
  rw [operation?]
  by_cases hempty : fieldsOf record = []
  · have hfalse : document.truthy = false := by
      obtain rfl | ⟨hfalse, -⟩ := hfields
      · rw [hempty]
        rfl
      · exact hfalse
    rw [hempty]
    simp [documentOf?, hd, hfalse, bind, Except.bind, pure, Except.pure]
  · obtain rfl : document = .map (fieldsOf record) :=
      hfields.resolve_right fun hfalse => hempty hfalse.2
    rw [Index.documentOf?_of_map hd hempty (hr.id record h)]
    simp [hempty]

/-- **A chunk is sent** as the operations of its records. -/
theorem send_eq {σ : Type} {g : Gateway σ} (hg : g.typeField = .text typeField)
    (hr : r.Presents records idOf fieldsOf) (hchunk : chunk ⊆ records) (direction : Reindexing) :
    direction.send g kind r chunk = discard (g.send (.text kind)
      (chunk.filterMap (operation? typeField kind idOf fieldsOf direction))) := by
  cases direction with
  | bring =>
    have hbuilt : Index.buildDocuments g.typeField (.text kind) chunk r =
        .ok (chunk.filterMap (operation? typeField kind idOf fieldsOf bring)) := by
      rw [hg, Index.buildDocuments,
        mapM_eq_ok_map fun record h => documentOf?_of_presents hr (hchunk h)]
      simp [bind, Except.bind, pure, Except.pure, List.filterMap_map]
    rw [send, Gateway.update, Act.ofExcept_bind_of_eq_ok hbuilt]
  | take =>
    have hids : chunk.mapM r.searchableId = .ok (chunk.map idOf) :=
      mapM_eq_ok_map fun record h => hr.id record (hchunk h)
    rw [send, Gateway.remove, Act.ofExcept_bind_of_eq_ok hids, Gateway.deleteIds, filterMap_take]

end Command.Reindexing

/-- **A backend takes every batch.** -/
def Index.Backend.TakesAll {σ : Type} (b : Backend σ) : Prop :=
  ∀ operations s, ∃ response s', (b.upload operations).attempt s = (.ok response, s')

namespace StoreWithUploads

variable {τ : Type} {b : Backend τ} {contents : τ → Contents} {typeField kind : String}
  {r : Repository} {records : List Record} {idOf : Record → String} {fieldsOf : Record → Fields}

/-! ## What batches do -/

/-- What is there after some batches: they are recorded as they were sent, and the backend holds
what their operations make of its contents. -/
structure After (contents : τ → Contents) (d d' : StoreWithUploads τ)
    (batches : List (List Document)) : Prop where
  uploads : d'.uploads = d.uploads ++ batches.map (List.map Document.toValue)
  contents : contents d'.own = (contents d.own).applyAll batches.flatten

theorem After.same {d d' : StoreWithUploads τ} (huploads : d'.uploads = d.uploads)
    (hown : d'.own = d.own) :
    After contents d d' [] :=
  ⟨by rw [huploads]; exact (List.append_nil _).symm, by rw [hown]; rfl⟩

theorem After.trans {d d' d'' : StoreWithUploads τ} {batches batches' : List (List Document)}
    (h : After contents d d' batches) (h' : After contents d' d'' batches') :
    After contents d d'' (batches ++ batches') where
  uploads := by rw [h'.uploads, h.uploads, List.append_assoc, List.map_append]
  contents := by rw [h'.contents, h.contents, ← Contents.applyAll_append, List.flatten_append]

section TakesAll

variable (typeField) (hb : b.Holds contents) (hall : b.TakesAll)

include hb hall

/-- **What a batch does**; an empty one is not sent, and another is noted before it is uploaded. -/
theorem attempt_send (kind : String) (documents : List Document) (d : StoreWithUploads τ) :
    ∃ d', (discard ((gateway b (.text typeField)).send (.text kind) documents)).attempt d =
        (.ok (), d') ∧
      After contents d d' ([documents].filter fun batch => !batch.isEmpty) := by
  cases documents with
  | nil => exact ⟨d, rfl, .same rfl rfl⟩
  | cons first documents =>
    obtain ⟨response, own, hown⟩ := hall ((first :: documents).map Document.toValue) d.own
    have hupload (d' : StoreWithUploads τ) (h : d'.own = d.own) :
        (upload b ((first :: documents).map Document.toValue)).attempt d' = (.ok response, { d' with
          own := own
          uploads := d'.uploads ++ [(first :: documents).map Document.toValue] }) := by
      refine Act.attempt_bind_eq_ok_iff.2 ⟨(), _, rfl, ?_⟩
      simp only [inOwn, Act.within, Act.attempt_ofStep, h, hown]
    refine ⟨_, Act.attempt_discard_eq_ok_iff.2 ⟨some response, Act.attempt_bind_eq_ok_iff.2
      ⟨(), _, rfl, Act.attempt_bind_eq_ok_iff.2 ⟨response, _, hupload _ rfl, rfl⟩⟩⟩, rfl, ?_⟩
    simpa using hb.upload _ _ _ _ hown

/-- **What the chunks of records do**, one after the other. -/
theorem attempt_sendAll (hr : r.Presents records idOf fieldsOf) (direction : Reindexing)
    (kind : String) (total : Nat) {chunks : List (List Record)}
    (hchunks : ∀ chunk ∈ chunks, chunk ⊆ records) (d : StoreWithUploads τ) :
    ∃ d', (direction.sendAll (gateway b (.text typeField)) kind r total chunks).attempt d =
        (.ok (total + chunks.flatten.length), d') ∧
      After contents d d' (Reindexing.batches
        (Reindexing.operation? typeField kind idOf fieldsOf direction) chunks) := by
  induction chunks generalizing total d with
  | nil => exact ⟨d, rfl, .same rfl rfl⟩
  | cons chunk chunks ih =>
    obtain ⟨hchunk, hchunks⟩ := List.forall_mem_cons.1 hchunks
    obtain ⟨d₁, hsend, hafter⟩ := attempt_send typeField hb hall kind
      (chunk.filterMap (Reindexing.operation? typeField kind idOf fieldsOf direction)) d
    obtain ⟨d₂, hrest, hafter'⟩ := ih (total + chunk.length) hchunks { d₁ with
      notes := d₁.notes ++ [_] }
    refine ⟨d₂, ?_, ?_⟩
    · rw [Reindexing.sendAll, Reindexing.send_eq rfl hr hchunk]
      refine Act.attempt_bind_eq_ok_iff.2 ⟨(), d₁, hsend, ?_⟩
      refine Act.attempt_bind_eq_ok_iff.2 ⟨(), _, rfl, ?_⟩
      rw [List.flatten_cons, List.length_append, ← Nat.add_assoc]
      exact hrest
    · rw [Reindexing.batches_cons]
      exact hafter.trans ⟨hafter'.uploads, hafter'.contents⟩

/-- **What bringing in or taking out all records does.** -/
theorem attempt_reindexing (hr : r.Presents records idOf fieldsOf) {registry : Registry}
    (hget : registry.get (.text kind) = .ok r) (direction : Reindexing) (n : Nat)
    (d : StoreWithUploads τ) :
    ∃ d', (direction.run (gateway b (.text typeField)) registry kind (n + 1 : Nat)).attempt d =
        (.ok records.length, d') ∧
      After contents d d' (Reindexing.batches
        (Reindexing.operation? typeField kind idOf fieldsOf direction) (slices n records)) := by
  obtain ⟨d₁, hsend, hafter⟩ := attempt_sendAll typeField hb hall hr direction
    kind 0 (fun chunk (h : chunk ∈ slices n records) => (Entity.mem_slices h).2) d
  rw [Entity.flatten_slices, Nat.zero_add] at hsend
  rw [Reindexing.run, Act.ofExcept_bind_of_eq_ok hget,
    Act.ofExcept_bind_of_eq_ok (Entity.Repository.chunks_int hr.all n)]
  by_cases hnone : records.length = 0
  · refine ⟨{ d₁ with notes := d₁.notes ++ [.info ("No " ++ kind ++ " records found")] }, ?_,
      hafter.uploads, hafter.contents⟩
    refine Act.attempt_bind_eq_ok_iff.2 ⟨_, d₁, hsend, ?_⟩
    rw [if_pos hnone]
    rfl
  · refine ⟨d₁, Act.attempt_bind_eq_ok_iff.2 ⟨_, d₁, hsend, ?_⟩, hafter⟩
    rw [if_neg hnone]
    rfl

/-- **Taking out undoes bringing in.** With a backend that takes every batch, both go through all
records of a kind. Bringing in adds a document for each record with fields, taking out deletes one
for each record, and a batch has no more operations than chunks are to have records. What is left
in the end are the documents that were there, without those with the ids of records. -/
theorem bring_then_take (hr : r.Presents records idOf fieldsOf) {registry : Registry}
    (hget : registry.get (.text kind) = .ok r) {n : Int} (hn : 1 ≤ n) (d : StoreWithUploads τ) :
    ∃ d₁ d₂ added deleted,
      (Reindexing.bring.run (gateway b (.text typeField)) registry kind n).attempt d =
        (.ok records.length, d₁) ∧
      (Reindexing.take.run (gateway b (.text typeField)) registry kind n).attempt d₁ =
        (.ok records.length, d₂) ∧
      d₁.uploads = d.uploads ++ added ∧ d₂.uploads = d₁.uploads ++ deleted ∧
      added.flatten = (records.filter fun record => !(fieldsOf record).isEmpty).map (fun record =>
        (Document.add (idOf record)
          (Document.indexedFields (.text typeField) (.text kind) (fieldsOf record))).toValue) ∧
      deleted.flatten = records.map (fun record => (Document.delete (idOf record)).toValue) ∧
      (∀ batch ∈ added ++ deleted, 1 ≤ batch.length ∧ batch.length ≤ n) ∧
      contents d₂.own = (contents d.own).without (records.map idOf) := by
  obtain ⟨m, rfl⟩ : ∃ m : Nat, n = (m + 1 : Nat) := ⟨n.toNat - 1, by omega⟩
  obtain ⟨d₁, hbring, hadded⟩ := attempt_reindexing typeField hb hall hr hget .bring m d
  obtain ⟨d₂, htake, hdeleted⟩ := attempt_reindexing typeField hb hall hr hget .take m d₁
  refine ⟨d₁, d₂, _, _, hbring, htake, hadded.uploads, hdeleted.uploads, ?_, ?_, ?_, ?_⟩
  · rw [← List.map_flatten, Reindexing.flatten_batches, Entity.flatten_slices,
      Reindexing.filterMap_bring, List.map_map]
    rfl
  · rw [← List.map_flatten, Reindexing.flatten_batches, Entity.flatten_slices,
      Reindexing.filterMap_take, List.map_map, List.map_map]
    rfl
  · intro batch h
    have hsize : 1 ≤ batch.length ∧ batch.length ≤ m + 1 :=
      (List.mem_append.1 h).elim Reindexing.length_of_mem_upload Reindexing.length_of_mem_upload
    exact ⟨hsize.1, Int.ofNat_le.2 hsize.2⟩
  · rw [hdeleted.contents, hadded.contents, Reindexing.flatten_batches, Reindexing.flatten_batches,
      Entity.flatten_slices, Reindexing.filterMap_take, Contents.applyAll_delete]
    refine Contents.applyAll_without (fun document h => ?_) _
    obtain ⟨record, hrecord, hsome⟩ := List.mem_filterMap.1 h
    exact Reindexing.id_of_operation? hsome ▸ List.mem_map_of_mem hrecord

end TakesAll

/-- A record in a language, and one without a language and without fields. -/
def bilingual : Repository where
  fetch _ := .ok []
  all := .ok [.map [("id", .int 1), ("language", .text "en")], .map [("id", .int 2)]]
  key record := Entity.Source.valueOf record "id"
  locale := some fun record => Entity.Source.valueOf record "language"
  document record := do
    let language ← Entity.Source.valueOf record "language"
    return if language.truthy then .map [("language", language)] else .map []

/-- Documents with the ids of both records, and one of no record. -/
def stocked : Queue.StoreWithContents where
  contents id := if id ∈ ["en-1", "2", "3"] then some [] else none

theorem bring_then_take_of_bilingual :
    let gateway := gateway Queue.StoreWithContents.index (.text "searchable_type")
    let registry : Registry := Keyed.put (.text "Article") bilingual []
    ∃ d₁ d₂ added deleted,
      (Reindexing.bring.run gateway registry "Article" 1).attempt { own := stocked } =
        (.ok 2, d₁) ∧
      (Reindexing.take.run gateway registry "Article" 1).attempt d₁ = (.ok 2, d₂) ∧
      d₂.uploads = added ++ deleted ∧
      added.flatten = [(Document.add "en-1" [(.text "language", .text "en"),
        (.text "searchable_type", .text "Article")]).toValue] ∧
      deleted.flatten = [(Document.delete "en-1").toValue, (Document.delete "2").toValue] ∧
      d₂.own.contents = stocked.contents.without ["en-1", "2"] := by
  intro gateway registry
  have hr : bilingual.Presents
      [.map [("id", .int 1), ("language", .text "en")], .map [("id", .int 2)]]
      (fun record => (bilingual.searchableId record).toOption.getD "")
      (fun record =>
        (bilingual.document record >>= Value.entriesFor "items").toOption.getD []) := by
    refine ⟨rfl, ?_, ?_⟩ <;> simp only [List.forall_mem_cons]
    · exact ⟨rfl, rfl, fun _ h => (List.not_mem_nil h).elim⟩
    · exact ⟨⟨_, rfl, .inl rfl⟩, ⟨_, rfl, .inl rfl⟩, fun _ h => (List.not_mem_nil h).elim⟩
  have hget : registry.get (.text "Article") = .ok bilingual :=
    Registry.get_put_self [] "Article" bilingual
  obtain ⟨d₁, d₂, added, deleted, hbring, htake, huploads, huploads', hadded, hdeleted, -, hleft⟩ :=
    bring_then_take "searchable_type" Queue.StoreWithContents.lawfulWithIndex.index
      (fun _ _ => ⟨_, _, rfl⟩) hr hget
      (by decide : (1 : Int) ≤ 1) { own := stocked }
  refine ⟨d₁, d₂, added, deleted, hbring, htake, ?_, hadded.trans rfl, hdeleted.trans rfl, hleft⟩
  rw [huploads', huploads]
  rfl

end StoreWithUploads

end SearchIndex
