import SearchIndex.Proofs.Changes

/-!
# Documents of other kinds

The kinds of records share one index, and the id of a document does not say its kind. So a run for
the records of one kind leaves the documents of the others as long as no id is shared: a document of
another kind is unchanged exactly if no deletion names its id and no record that is brought in is
indexed under it.

## Main definitions

* `Built`: the documents that updates build

## Main results

* `LawfulWithIndex.updates_eq_ok`: the updates of a run add what they build
* `LawfulWithIndex.contents_of_groups`: the contents after a run, whatever its kinds
* `LawfulWithIndex.unchanged_iff`: when a document of another kind is unchanged
* `StoreWithContents.replaced_by_other_kind`: a document is replaced or deleted by the record of
  another kind
-/

namespace SearchIndex.Queue

open Entity (Record Repository Registry Source chunked)
open Index (Contents Document Gateway documentOf?)

/-- A record that is fetched for some ids, chunk by chunk. -/
def Fetched (repository : Repository) (size : Value) (ids : List String) (record : Record) : Prop :=
  ∃ chunks, chunked ids size = .ok chunks ∧
    ∃ chunk ∈ chunks, ∃ records, repository.fetch (chunk.map .text) = .ok records ∧ record ∈ records

/-- **Updates of a kind build a document**: it is built of a record that is fetched for their
ids. -/
def Built (typeField : Value) (registry : Registry) (size : Value) (kind : String)
    (ids : List String) (d : Document) : Prop :=
  ∃ repository, registry.get (.text kind) = .ok repository ∧
    ∃ record, Fetched repository size ids record ∧
      documentOf? typeField (.text kind) repository record = .ok (some d)

/-- Updates of no ids build nothing. -/
theorem not_built_nil {typeField : Value} {registry : Registry} {size : Value} {kind : String}
    {d : Document} : ¬ Built typeField registry size kind [] d := by
  rintro ⟨_, -, record, ⟨chunks, hchunks, chunk, hchunk, -⟩, -⟩
  obtain ⟨n, -, hn⟩ := bind_eq_ok_iff.1 hchunks
  rw [Entity.slices_nil] at hn
  cases hn
  exact List.not_mem_nil hchunk

/-- Where ids have no languages, updates build documents with the ids that they name. -/
theorem Built.id_mem {typeField : Value} {registry : Registry} {size : Value} {kind : String}
    {ids : List String} {d : Document} {live : String → Option Record}
    (h : Built typeField registry size kind ids d)
    (hr : ∀ r, registry.get (.text kind) = .ok r → r.Offers live) : d.id ∈ ids := by
  obtain ⟨r, hget, record, ⟨chunks, hchunks, chunk, hchunk, records, hfetch, hm⟩, hdoc⟩ := h
  obtain ⟨id, hid, hl⟩ := ((hr r hget).fetch chunk records hfetch record).1 hm
  obtain ⟨id', fields, hs, rfl⟩ := documentOf?_eq_some hdoc
  obtain rfl : id = id' := Except.ok.inj (((hr r hget).searchableId hl).symm.trans hs)
  rw [← Entity.flatten_of_chunked hchunks]
  exact List.mem_flatten_of_mem hchunk hid

/-- What an operation leaves under the id of its document. -/
def left : Document → Option Fields
  | .add _ fields => some fields
  | .delete _ => none

/-- Where there are operations on a document, one of them says what is left of it. -/
theorem exists_applyAll_eq {c : Contents} {documents : List Document} {id : String}
    (h : ∃ d ∈ documents, d.id = id) :
    ∃ d ∈ documents, d.id = id ∧ c.applyAll documents id = left d := by
  induction documents generalizing c with
  | nil => simp at h
  | cons d documents ih =>
    rw [Contents.applyAll_cons]
    by_cases hrest : ∃ d' ∈ documents, d'.id = id
    · obtain ⟨d', hd', hid, he⟩ := ih hrest
      exact ⟨d', List.mem_cons_of_mem _ hd', hid, he⟩
    · have hid : d.id = id := ((List.exists_mem_cons_iff _ _ _).1 h).resolve_right hrest
      refine ⟨d, List.mem_cons_self .., hid, ?_⟩
      rw [Contents.applyAll_of_ne fun d' hd' he => hrest ⟨d', hd', he⟩, ← hid]
      cases d <;> exact Function.update_self ..

/-- The field of kinds of a document that is built. -/
theorem valueAt?_of_documentOf? {typeField : String} {kind : Value} {r : Repository}
    {record : Record} {id : String} {fields : Fields}
    (h : documentOf? (.text typeField) kind r record = .ok (some (.add id fields))) :
    Value.valueAt? fields typeField = some kind := by
  obtain ⟨document, -, h⟩ := bind_eq_ok_iff.1 h
  split at h
  · cases h
  · obtain ⟨entries, -, h⟩ := bind_eq_ok_iff.1 h
    obtain ⟨_, hkey, h⟩ := bind_eq_ok_iff.1 h
    obtain ⟨id', -, h⟩ := bind_eq_ok_iff.1 h
    cases hkey
    cases h
    exact Document.find?_indexedFields (Value.Key.exact_text typeField).beq_self kind entries

namespace LawfulWithIndex

variable {σ : Type} {q : Access σ} {g : Gateway σ} {contents : σ → Contents} {s s' : σ}
  {registry : Registry} {size : Value}

/-- The documents that are built of the records of some chunks are added. -/
theorem chunks_eq_ok (w : LawfulWithIndex q g contents) {kind : String} {r : Repository}
    {chunks : List (List String)} {n : Nat}
    (h : ((Courier.ofParts q g registry size).updateChunks kind r chunks).attempt s = (.ok n, s')) :
    ∃ documents, contents s' = (contents s).applyAll documents ∧
      ∀ d, d ∈ documents ↔ ∃ chunk ∈ chunks, ∃ records, r.fetch (chunk.map .text) = .ok records ∧
        ∃ record ∈ records, documentOf? g.typeField (.text kind) r record = .ok (some d) := by
  induction chunks generalizing s n with
  | nil =>
    cases h
    exact ⟨[], rfl, by simp⟩
  | cons chunk chunks ih =>
    rw [Courier.updateChunks] at h
    obtain ⟨records, s₁, hf, h⟩ := Act.attempt_bind_eq_ok_iff.1 h
    obtain ⟨hfetch, rfl⟩ := Prod.mk.inj hf
    have hfetch : r.fetch (chunk.map .text) = .ok records := hfetch
    by_cases he : records.isEmpty
    · rw [if_pos he] at h
      obtain ⟨_, s₂, hn, h⟩ := Act.attempt_bind_eq_ok_iff.1 h
      obtain ⟨documents, hc, hd⟩ := ih h
      refine ⟨documents, hc.trans (by rw [w.note _ _ _ hn]), fun d => ?_⟩
      rw [hd, List.exists_mem_cons_iff, hfetch]
      simp [List.isEmpty_iff.1 he]
    · rw [if_neg he] at h
      obtain ⟨_, s₂, hu, h⟩ := Act.attempt_bind_eq_ok_iff.1 h
      obtain ⟨m, s₃, hrest, h⟩ := Act.attempt_bind_eq_ok_iff.1 h
      cases h
      obtain ⟨o, hu⟩ := Act.attempt_discard_eq_ok_iff.1 hu
      obtain ⟨built, hb, hbc⟩ := Index.Gateway.update_eq_ok w.index hu
      obtain ⟨documents, hc, hd⟩ := ih hrest
      refine ⟨built ++ documents, ?_, fun d => ?_⟩
      · rw [hc, hbc, Contents.applyAll_append]
      · rw [List.mem_append, hd, Index.mem_buildDocuments hb, List.exists_mem_cons_iff, hfetch]
        simp

/-- **The updates of a run** add what they build. -/
theorem updates_eq_ok (w : LawfulWithIndex q g contents) {groups : List (String × List Entry)}
    {report report' : Report}
    (h : ((Courier.ofParts q g registry size).performAll .update groups report).attempt s =
      (.ok report', s')) :
    ∃ documents, contents s' = (contents s).applyAll documents ∧
      ∀ d, d ∈ documents ↔
        ∃ p ∈ groups, Built g.typeField registry size p.1 (p.2.map (·.intent.id)) d := by
  induction groups generalizing s report with
  | nil =>
    cases h
    exact ⟨[], rfl, by simp⟩
  | cons p groups ih =>
    obtain ⟨kind, entries⟩ := p
    rw [Courier.performAll] at h
    obtain ⟨_, s₁, hn, h⟩ := Act.attempt_bind_eq_ok_iff.1 h
    obtain ⟨n, s₂, hp, h⟩ := Act.attempt_bind_eq_ok_iff.1 h
    obtain ⟨r, s₃, hl, hp⟩ := Act.attempt_bind_eq_ok_iff.1 hp
    obtain ⟨hget, rfl⟩ := Prod.mk.inj hl
    obtain ⟨chunks, s₄, hc, hp⟩ := Act.attempt_bind_eq_ok_iff.1 hp
    obtain ⟨hchunks, rfl⟩ := Prod.mk.inj hc
    have hget : registry.get (.text kind) = .ok r := hget
    have hchunks : chunked (entries.map (·.intent.id)) size = .ok chunks := hchunks
    obtain ⟨built, hbc, hb⟩ := w.chunks_eq_ok hp
    obtain ⟨documents, hdc, hd⟩ := ih h
    refine ⟨built ++ documents, ?_, fun d => ?_⟩
    · rw [hdc, hbc, w.note _ _ _ hn, Contents.applyAll_append]
    · rw [List.mem_append, hd, hb, List.exists_mem_cons_iff]
      refine or_congr_left ?_
      simp only [Built, Fetched, hget, hchunks, Except.ok.injEq]
      constructor
      · rintro ⟨chunk, hchunk, records, hf, record, hr, hdoc⟩
        exact ⟨r, rfl, record, ⟨chunks, rfl, chunk, hchunk, records, hf, hr⟩, hdoc⟩
      · rintro ⟨_, rfl, record, ⟨_, rfl, chunk, hchunk, records, hf, hr⟩, hdoc⟩
        exact ⟨chunk, hchunk, records, hf, record, hr, hdoc⟩

/-- **The contents after a run**: what the updates build is added, and then what is to be deleted is
removed. -/
theorem contents_of_groups (w : LawfulWithIndex q g contents) {report : Report}
    (h : (Courier.ofParts q g registry size).run.attempt s = (.ok report, s')) :
    ∃ documents, (∀ d, d ∈ documents ↔
        ∃ p ∈ byKind ((batch (q.store s).table.claim).of .update),
          Built g.typeField registry size p.1 (p.2.map (·.intent.id)) d) ∧
      contents s' = ((contents s).applyAll documents).without
        (idsOf (byKind ((batch (q.store s).table.claim).of .delete))) := by
  obtain ⟨b, s₁, hb, h⟩ := Act.attempt_bind_eq_ok_iff.1 h
  obtain ⟨updated, s₂, hu, h⟩ := Act.attempt_bind_eq_ok_iff.1 h
  obtain ⟨deleted, s₃, hd, h⟩ := Act.attempt_bind_eq_ok_iff.1 h
  obtain ⟨n, s₄, hf, h⟩ := Act.attempt_bind_eq_ok_iff.1 h
  cases h
  obtain ⟨rfl, -⟩ := Access.claim_eq_ok w.queue hb
  obtain ⟨documents, hc, hdocuments⟩ := w.updates_eq_ok hu
  refine ⟨documents, hdocuments, ?_⟩
  rw [w.contents_flush hf, w.performAll_delete_eq_ok hd, hc, w.contents_claim hb]

/-- The contents after a run for the records of one kind. -/
theorem contents_of_kind (w : LawfulWithIndex q g contents) {kind : String} {report : Report}
    (hk : ∀ i ∈ (q.store s).table.intents, i.kind = kind)
    (h : (Courier.ofParts q g registry size).run.attempt s = (.ok report, s')) :
    ∃ documents, (∀ d, d ∈ documents ↔
        Built g.typeField registry size kind ((q.store s).table.idsFor .update) d) ∧
      contents s' =
        ((contents s).applyAll documents).without ((q.store s).table.idsFor .delete) := by
  obtain ⟨documents, hdocuments, hcontents⟩ := w.contents_of_groups h
  refine ⟨documents, fun d => ?_, ?_⟩
  · rw [hdocuments, ← Table.ids_of_batch]
    rcases eq_or_ne ((batch (q.store s).table.claim).of .update) [] with he | hne
    · rw [he]
      exact ⟨fun ⟨_, hp, _⟩ => (List.not_mem_nil hp).elim, fun hd => (not_built_nil hd).elim⟩
    · rw [byKind, Keyed.group_of_forall_eq (fun _ => Table.kind_of_mem_batch hk) hne]
      refine ⟨?_, fun hd => ⟨_, List.mem_singleton_self _, hd⟩⟩
      rintro ⟨p, hp, hd⟩
      obtain rfl := List.mem_singleton.1 hp
      exact hd
  · rw [hcontents, ← Table.ids_of_batch]
    funext id
    simp only [Contents.without, mem_idsOf_byKind, List.mem_map]

/-- **A document of another kind is unchanged** by a run for the records of one kind exactly if no
deletion names its id, and no record that is fetched for the updates is indexed under it. What is
deleted is gone, and what was brought in last under the id has the kind of the run. -/
theorem unchanged_iff {typeField kind id : String} {fields : Fields} {report : Report}
    (w : LawfulWithIndex q g contents) (hg : g.typeField = .text typeField)
    (hk : ∀ i ∈ (q.store s).table.intents, i.kind = kind)
    (h : (Courier.ofParts q g registry size).run.attempt s = (.ok report, s'))
    (hc : contents s id = some fields)
    (hf : Value.valueAt? fields typeField ≠ some (.text kind)) :
    contents s' id = contents s id ↔
      id ∉ (q.store s).table.idsFor .delete ∧
        ∀ fields', ¬ Built g.typeField registry size kind ((q.store s).table.idsFor .update)
          (.add id fields') := by
  obtain ⟨documents, hdocuments, hcontents⟩ := w.contents_of_kind hk h
  rw [hcontents, Contents.without]
  split
  · next hd =>
    rw [hc]
    simp [hd]
  · next hd =>
    rw [and_iff_right hd]
    constructor
    · intro he fields' hb
      have hex : ∃ d ∈ documents, d.id = id := ⟨_, (hdocuments _).2 hb, rfl⟩
      obtain ⟨d, hm, -, hleft⟩ := exists_applyAll_eq (c := contents s) hex
      obtain ⟨_, -, record, -, hdoc⟩ := (hdocuments d).1 hm
      obtain ⟨id', fields'', -, rfl⟩ := documentOf?_eq_some hdoc
      rw [hg] at hdoc
      rw [hleft, hc] at he
      exact hf (Option.some.inj he ▸ valueAt?_of_documentOf? hdoc)
    · intro hb
      refine Contents.applyAll_of_ne fun d hm he => ?_
      obtain ⟨r, hget, record, hr, hdoc⟩ := (hdocuments d).1 hm
      obtain ⟨id', fields', -, rfl⟩ := documentOf?_eq_some hdoc
      obtain rfl : id' = id := he
      exact hb fields' ⟨r, hget, record, hr, hdoc⟩

end LawfulWithIndex

/-! ## Two kinds with one id -/

namespace StoreWithContents

/-- Two kinds whose records have the same ids. -/
def bothKinds : Registry := Keyed.put (.text "B") source.repository registry

/-- What a run for both kinds gives, and what is there after it. -/
def ranForBoth (b : StoreWithContents) : Except Failure Report × StoreWithContents :=
  (Courier.ofParts queue gateway bothKinds).run.attempt b

theorem ranForBoth_eq_ok {b : StoreWithContents} (h : (ranForBoth b).1.isOk = true) :
    ∃ report, (Courier.ofParts queue gateway bothKinds).run.attempt b =
      (.ok report, (ranForBoth b).2) := by
  rw [ranForBoth] at h ⊢
  exact Act.exists_attempt_eq_ok h

/-- The kind of the document with an id. -/
def kindAt (b : StoreWithContents) (id : String) : Option String :=
  (b.contents id).bind fun fields => (Value.lookup fields Query.defaultTypeField).text?

/-- A document of one kind is in the index. -/
def beside : StoreWithContents where
  contents id := if id = "2" then some [("searchable_type", .text "B")] else none

/-- Records of the other kind, with other ids, are saved and deleted. -/
def besideTold : StoreWithContents := told [.saved "A" (.text "1"), .deleted "A" (.text "9")] beside

theorem unchanged_of_other_ids :
    (ranForBoth besideTold).2.contents "2" = besideTold.contents "2" := by
  have hkind : ∀ i ∈ (queue.store besideTold).table.intents, i.kind = "A" := by decide +kernel
  obtain ⟨report, hran⟩ := ranForBoth_eq_ok (b := besideTold) (by decide +kernel)
  have hother : Value.valueAt? [("searchable_type", .text "B")] "searchable_type" ≠
      some (.text "A") :=
    fun h => absurd (Value.text.inj (Option.some.inj h)) (by decide)
  refine (lawfulWithIndex.unchanged_iff rfl hkind hran rfl hother).2 ⟨by decide +kernel, ?_⟩
  intro fields' hb
  have hoffers : ∀ r, bothKinds.get (.text "A") = .ok r → r.Offers source.live := by
    intro r h
    cases h
    exact offers_source
  have hid : "2" ∈ (queue.store besideTold).table.idsFor .update := hb.id_mem hoffers
  exact absurd hid (by decide +kernel)

/-- The record of the other kind is brought into the index. -/
def indexed : StoreWithContents := (ranForBoth (told [.saved "B" (.text "1")] {})).2

/-- **A document is replaced or deleted by the record of another kind** that has its id. -/
theorem replaced_by_other_kind :
    indexed.kindAt "1" = some "B" ∧
      ((∀ i ∈ (told [.saved "A" (.text "1")] indexed).store.table.intents, i.kind = "A") ∧
        (ranForBoth (told [.saved "A" (.text "1")] indexed)).1.isOk = true ∧
        (ranForBoth (told [.saved "A" (.text "1")] indexed)).2.kindAt "1" = some "A") ∧
      (∀ i ∈ (told [.deleted "A" (.text "1")] indexed).store.table.intents, i.kind = "A") ∧
        (ranForBoth (told [.deleted "A" (.text "1")] indexed)).1.isOk = true ∧
        (ranForBoth (told [.deleted "A" (.text "1")] indexed)).2.kindAt "1" = none := by
  decide +kernel

end StoreWithContents

end SearchIndex.Queue
