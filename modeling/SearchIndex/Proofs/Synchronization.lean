import SearchIndex.Entity.Source
import SearchIndex.Proofs.Contents
import SearchIndex.Proofs.Groups
import SearchIndex.Proofs.Transaction
import SearchIndex.Queue.Delivery

/-!
# What a run makes of the index

A successful run first puts in the documents of the records that are to be updated and still live,
and then removes those that are to be deleted. So of a document that is to be deleted nothing is
left, whatever else is to be done with it.

## Main definitions

* `LawfulWithIndex q g contents`: a world with a queue and a gateway to an index with some contents
* `Repository.Offers r live`: a repository without languages, and the records that live in it
* `Source.live s`: the records of a source by their keys
* `currentOf`, `current?`: what a record that lives is indexed with

## Main results

* `Source.offers`: a source offers its records
* `LawfulWithIndex.update_eq_ok`: updating the records with some ids
* `LawfulWithIndex.contents_of_run`: the contents after a successful run
-/

namespace SearchIndex.Entity

open Index (mapM_eq_ok)

/-- **A repository without languages gives the records that live** by their keys. -/
structure Repository.Offers (r : Repository) (live : String → Option Record) : Prop where
  fetch : ∀ (ids : List String) records, r.fetch (ids.map .text) = .ok records →
    ∀ record, record ∈ records ↔ ∃ id ∈ ids, live id = some record
  key : ∀ id record, live id = some record → ∃ key, r.key record = .ok key ∧ key.plain = id
  locale : ∀ locale id record, r.locale = some locale → live id = some record →
    ∃ v, locale record = .ok v ∧ v.truthy = false

/-- The id of a document is the key of its record. -/
theorem Repository.Offers.searchableId {r : Repository} {live : String → Option Record}
    (hr : r.Offers live) {id : String} {record : Record} (h : live id = some record) :
    r.searchableId record = .ok id := by
  obtain ⟨key, hk, rfl⟩ := hr.key id record h
  rcases hl : r.locale with _ | locale
  · simp [Repository.searchableId, hl, hk, bind, Except.bind, pure, Except.pure, localizedId,
      Value.truthy]
  · obtain ⟨v, hv, ht⟩ := hr.locale locale _ record hl h
    simp [Repository.searchableId, hl, hk, hv, ht, bind, Except.bind, pure, Except.pure,
      localizedId]

namespace Source

variable {s : Source} {id : String} {record : Record} {found : List Record}

/-- The record of a source with an id. -/
def live (s : Source) (id : String) : Option Record :=
  match s.recordsWith (.text id) with
  | .ok found => found.head?
  | .error _ => none

/-- The keys of a source's records tell them apart. -/
def Distinct (s : Source) : Prop :=
  ∀ record ∈ s.records, ∀ record' ∈ s.records, ∀ key key', s.keyOf record = .ok key →
    s.keyOf record' = .ok key' → key.plain = key'.plain → record = record'

theorem mem_filterAuxM {α : Type} {p : α → Except Failure Bool} {l collected l' : List α}
    (h : l.filterAuxM p collected = .ok l') (a : α) :
    a ∈ l' ↔ a ∈ collected ∨ a ∈ l ∧ p a = .ok true := by
  induction l generalizing collected with
  | nil =>
    cases h
    simp
  | cons b l ih =>
    rcases hb : p b with _ | _ | _ <;>
      simp only [List.filterAuxM, hb, bind, Except.bind, reduceCtorEq] at h <;> rw [ih h] <;>
      grind

theorem mem_filterM {α : Type} {p : α → Except Failure Bool} {l l' : List α}
    (h : l.filterM p = .ok l') (a : α) : a ∈ l' ↔ a ∈ l ∧ p a = .ok true := by
  rcases hf : l.filterAuxM p [] with _ | collected <;>
    simp only [List.filterM, hf, bind, Except.bind, reduceCtorEq] at h
  cases h
  rw [List.mem_reverse, mem_filterAuxM hf]
  simp only [List.not_mem_nil, false_or]

/-- The records with an id are those whose key it is. -/
theorem mem_recordsWith (h : s.recordsWith (.text id) = .ok found) :
    record ∈ found ↔ record ∈ s.records ∧ ∃ key, s.keyOf record = .ok key ∧ key.plain = id := by
  rw [mem_filterM h]
  rcases hk : s.keyOf record with _ | key
  · simp [bind, Except.bind]
  · simp [bind, Except.bind, pure, Except.pure, Value.text?, @eq_comm String id]

/-- The record that lives with an id is the one whose key it is. -/
theorem live_eq_some_iff (hd : s.Distinct) (h : s.recordsWith (.text id) = .ok found) :
    s.live id = some record ↔ record ∈ found := by
  rw [live, h]
  constructor
  · exact List.mem_of_head?
  · intro hm
    obtain ⟨first, rest, rfl⟩ := List.exists_cons_of_ne_nil (List.ne_nil_of_mem hm)
    obtain ⟨hf, key, hk, hid⟩ := (mem_recordsWith h).1 (List.mem_cons_self ..)
    obtain ⟨hr, key', hk', rfl⟩ := (mem_recordsWith h).1 hm
    exact congrArg some (hd first hf record hr key key' hk hk' hid)

/-- **A source whose keys tell its records apart offers them.** -/
theorem offers (hl : s.localeField = none) (hd : s.Distinct) : s.repository.Offers s.live where
  fetch ids records h record := by
    rcases hf : (ids.map Value.text).mapM s.recordsWith with _ | found <;>
      simp only [repository, fetch, hf, bind, Except.bind, reduceCtorEq] at h
    cases h
    have hall := mapM_eq_ok hf
    rw [List.forall₂_map_left_iff] at hall
    clear hf
    induction hall with
    | nil => simp
    | cons hid _ ih =>
      rw [List.flatten_cons, List.mem_append, List.exists_mem_cons_iff, live_eq_some_iff hd hid]
      exact or_congr_right ih
  key id record h := by
    rcases hf : s.recordsWith (.text id) with _ | found
    · simp only [live, hf, reduceCtorEq] at h
    · exact ((mem_recordsWith hf).1 ((live_eq_some_iff hd hf).1 h)).2
  locale locale id record h _ := by
    simp only [repository, hl, Option.map_none, reduceCtorEq] at h

end Source

end SearchIndex.Entity

namespace SearchIndex.Queue

open Entity (Record Repository Registry)
open Index (Contents Document Gateway documentOf? buildDocuments)

section Current

variable {typeField kind : Value} {r : Repository} {live : String → Option Record} {id : String}
  {fields : Fields}

/-- What the record with an id is indexed with, if it lives and has fields. -/
def currentOf (typeField kind : Value) (r : Repository) (live : String → Option Record)
    (id : String) : Option Fields :=
  match (live id).map (documentOf? typeField kind r) with
  | some (.ok (some (.add _ fields))) => some fields
  | _ => none

/-- What the record of a kind with an id is indexed with, by the repository of the kind. -/
def current? (typeField : Value) (registry : Registry) (live : String → String → Option Record)
    (kind id : String) : Option Fields :=
  match registry.get (.text kind) with
  | .ok r => currentOf typeField (.text kind) r (live kind) id
  | .error _ => none

/-- A document that is built of a record has its id. -/
theorem documentOf?_eq_some {record : Record} {d : Document}
    (h : documentOf? typeField kind r record = .ok (some d)) :
    ∃ id fields, r.searchableId record = .ok id ∧ d = .add id fields := by
  simp only [documentOf?, bind, Except.bind] at h
  split at h
  · cases h
  split at h
  · cases h
  split at h
  · cases h
  split at h
  · cases h
  split at h
  · cases h
  · next hid =>
    cases h
    exact ⟨_, _, hid, rfl⟩

theorem currentOf_eq_some_iff (hr : r.Offers live) :
    currentOf typeField kind r live id = some fields ↔
      ∃ record, live id = some record ∧
        documentOf? typeField kind r record = .ok (some (.add id fields)) := by
  constructor
  · intro h
    rcases hl : live id with _ | record
    · simp [currentOf, hl] at h
    · simp only [currentOf, hl, Option.map_some] at h
      split at h
      · next id' _ hd =>
        obtain ⟨id', fields', hid, he⟩ := documentOf?_eq_some (Option.some.inj hd)
        obtain rfl : id = id' := Except.ok.inj ((hr.searchableId hl).symm.trans hid)
        cases he
        cases h
        exact ⟨record, rfl, Option.some.inj hd⟩
      · cases h
  · rintro ⟨record, hl, hd⟩
    simp [currentOf, hl, hd]

end Current

/-! ## The steps of a run -/

/-- **A world with a queue and a gateway** to an index with some contents: the gateway's backend
holds them, and the queue does not touch them. -/
structure LawfulWithIndex {σ : Type} (q : Access σ) (g : Gateway σ) (contents : σ → Contents) :
    Prop where
  queue : q.Lawful
  index : g.backend.Holds contents
  withStore : ∀ store s, contents (q.withStore store s) = contents s
  note : ∀ n s s', (q.note n).attempt s = (.ok (), s') → contents s' = contents s

namespace LawfulWithIndex

variable {σ α : Type} {q : Access σ} {g : Gateway σ} {contents : σ → Contents} {s s' : σ}

theorem contents_use (w : LawfulWithIndex q g contents) {a : Act Store α} {o : Except Failure α}
    (h : (q.use a).attempt s = (o, s')) : contents s' = contents s := by
  cases h
  exact w.withStore _ s

/-- Operations of the queue leave the contents. -/
theorem contents_push (w : LawfulWithIndex q g contents) {action id kind : Value}
    (h : (q.push action id kind).attempt s = (.ok (), s')) : contents s' = contents s := by
  obtain ⟨a, s₁, ha, h⟩ := Act.attempt_bind_eq_ok_iff.1 h
  obtain ⟨_, s₂, hu, hn⟩ := Act.attempt_bind_eq_ok_iff.1 h
  obtain ⟨-, rfl⟩ := Prod.mk.inj ha
  rw [w.note _ _ _ hn, w.contents_use hu]

theorem contents_claim (w : LawfulWithIndex q g contents) {b : Batch}
    (h : q.claim.attempt s = (.ok b, s')) : contents s' = contents s := by
  obtain ⟨running, s₁, hu, h⟩ := Act.attempt_bind_eq_ok_iff.1 h
  obtain ⟨_, s₂, hn, h⟩ := Act.attempt_bind_eq_ok_iff.1 h
  cases h
  rw [w.note _ _ _ hn, w.contents_use hu]

theorem contents_flush (w : LawfulWithIndex q g contents) {n : Nat}
    (h : q.flush.attempt s = (.ok n, s')) : contents s' = contents s := by
  obtain ⟨removed, s₁, hu, h⟩ := Act.attempt_bind_eq_ok_iff.1 h
  obtain ⟨_, s₂, hn, h⟩ := Act.attempt_bind_eq_ok_iff.1 h
  cases h
  rw [w.note _ _ _ hn, w.contents_use hu]

section Run

variable {registry : Registry} {size : Value} {kind : String} {r : Repository}
  {live : String → Option Record}

/-- **Updating the records with some ids** refreshes their documents. -/
theorem update_eq_ok (w : LawfulWithIndex q g contents) (hr : r.Offers live) {ids : List String}
    {records : List Record} {o : Option Fields} (hf : r.fetch (ids.map .text) = .ok records)
    (h : (g.update (.text kind) records r).attempt s = (.ok o, s')) :
    contents s' = (contents s).refreshed ids (currentOf g.typeField (.text kind) r live) := by
  obtain ⟨documents, hd, hc⟩ := Index.Gateway.update_eq_ok w.index h
  rw [hc]
  refine Contents.applyAll_eq_refreshed fun d => ?_
  rw [Index.mem_buildDocuments hd]
  constructor
  · rintro ⟨record, hm, hb⟩
    obtain ⟨id, hid, hl⟩ := (hr.fetch ids records hf record).1 hm
    obtain ⟨id', fields, hs, rfl⟩ := documentOf?_eq_some hb
    obtain rfl : id = id' := Except.ok.inj ((hr.searchableId hl).symm.trans hs)
    exact ⟨id, hid, fields, (currentOf_eq_some_iff hr).2 ⟨record, hl, hb⟩, rfl⟩
  · rintro ⟨id, hid, fields, hcur, rfl⟩
    obtain ⟨record, hl, hb⟩ := (currentOf_eq_some_iff hr).1 hcur
    exact ⟨record, (hr.fetch ids records hf record).2 ⟨id, hid, hl⟩, hb⟩

theorem updateChunks_eq_ok (w : LawfulWithIndex q g contents) (hr : r.Offers live)
    {chunks : List (List String)} {n : Nat}
    (h : ((Courier.ofParts q g registry size).updateChunks kind r chunks).attempt s = (.ok n, s')) :
    contents s' =
      (contents s).refreshed chunks.flatten (currentOf g.typeField (.text kind) r live) := by
  induction chunks generalizing s n with
  | nil =>
    cases h
    exact (Contents.refreshed_of_none (fun _ h => (List.not_mem_nil h).elim) _).symm
  | cons ids chunks ih =>
    rw [Courier.updateChunks] at h
    obtain ⟨records, s₁, hf, h⟩ := Act.attempt_bind_eq_ok_iff.1 h
    obtain ⟨hfetch, rfl⟩ := Prod.mk.inj hf
    rw [List.flatten_cons, ← Contents.refreshed_append]
    by_cases he : records.isEmpty
    · rw [if_pos he] at h
      obtain ⟨_, s₂, hn, h⟩ := Act.attempt_bind_eq_ok_iff.1 h
      have hnone : ∀ id ∈ ids, currentOf g.typeField (.text kind) r live id = none := by
        intro id hid
        refine Option.eq_none_iff_forall_ne_some.2 fun fields hcur => ?_
        obtain ⟨record, hl, -⟩ := (currentOf_eq_some_iff hr).1 hcur
        have hm := (hr.fetch ids records hfetch record).2 ⟨id, hid, hl⟩
        rw [List.isEmpty_iff.1 he] at hm
        exact List.not_mem_nil hm
      rw [ih h, w.note _ _ _ hn, Contents.refreshed_of_none hnone]
    · rw [if_neg he] at h
      obtain ⟨_, s₂, hu, h⟩ := Act.attempt_bind_eq_ok_iff.1 h
      obtain ⟨m, s₃, hrest, h⟩ := Act.attempt_bind_eq_ok_iff.1 h
      cases h
      obtain ⟨o, hu⟩ := Act.attempt_discard_eq_ok_iff.1 hu
      rw [ih hrest, w.update_eq_ok hr hfetch hu]

theorem deleteChunks_eq_ok (w : LawfulWithIndex q g contents) {chunks : List (List String)}
    (h : ((Courier.ofParts q g registry size).deleteChunks kind chunks).attempt s = (.ok (), s')) :
    contents s' = (contents s).without chunks.flatten := by
  induction chunks generalizing s with
  | nil =>
    cases h
    exact (Contents.without_nil _).symm
  | cons ids chunks ih =>
    rw [Courier.deleteChunks] at h
    obtain ⟨_, s₁, hd, h⟩ := Act.attempt_bind_eq_ok_iff.1 h
    obtain ⟨o, hd⟩ := Act.attempt_discard_eq_ok_iff.1 hd
    rw [ih h, Index.Gateway.deleteIds_eq_ok w.index hd, Contents.without_append, List.flatten_cons]

variable {live : String → String → Option Record} {kindOf : String → String}

/-- **The updates of a run** refresh the documents of the ids, each by the repository of its
kind. -/
theorem performAll_update_eq_ok (w : LawfulWithIndex q g contents)
    {groups : List (String × List Entry)} {report report' : Report}
    (hr : ∀ p ∈ groups, ∀ r, registry.get (.text p.1) = .ok r → r.Offers (live p.1))
    (hk : ∀ p ∈ groups, ∀ e ∈ p.2, kindOf e.intent.id = p.1)
    (h : ((Courier.ofParts q g registry size).performAll .update groups report).attempt s =
      (.ok report', s')) :
    contents s' = (contents s).refreshed (idsOf groups)
      fun id => current? g.typeField registry live (kindOf id) id := by
  induction groups generalizing s report with
  | nil =>
    cases h
    exact (Contents.refreshed_of_none (fun _ h => (List.not_mem_nil h).elim) _).symm
  | cons p groups ih =>
    obtain ⟨kind, entries⟩ := p
    obtain ⟨hr, hrs⟩ := List.forall_mem_cons.1 hr
    obtain ⟨hk, hks⟩ := List.forall_mem_cons.1 hk
    rw [Courier.performAll] at h
    obtain ⟨_, s₁, hn, h⟩ := Act.attempt_bind_eq_ok_iff.1 h
    obtain ⟨n, s₂, hp, h⟩ := Act.attempt_bind_eq_ok_iff.1 h
    obtain ⟨r, s₃, hl, hp⟩ := Act.attempt_bind_eq_ok_iff.1 hp
    obtain ⟨hget, rfl⟩ := Prod.mk.inj hl
    obtain ⟨chunks, s₄, hc, hp⟩ := Act.attempt_bind_eq_ok_iff.1 hp
    obtain ⟨hchunks, rfl⟩ := Prod.mk.inj hc
    rw [ih hrs hks h, w.updateChunks_eq_ok (hr r hget) hp, w.note _ _ _ hn,
      Entity.flatten_of_chunked hchunks, idsOf_cons, ← Contents.refreshed_append]
    congr 1
    refine Contents.refreshed_congr (fun id hid => ?_) _
    obtain ⟨e, he, rfl⟩ := List.mem_map.1 hid
    rw [hk e he, current?, hget]

/-- **The deletions of a run** remove the documents with the ids. -/
theorem performAll_delete_eq_ok (w : LawfulWithIndex q g contents)
    {groups : List (String × List Entry)} {report report' : Report}
    (h : ((Courier.ofParts q g registry size).performAll .delete groups report).attempt s =
      (.ok report', s')) :
    contents s' = (contents s).without (idsOf groups) := by
  induction groups generalizing s report with
  | nil =>
    cases h
    exact (Contents.without_nil _).symm
  | cons p groups ih =>
    obtain ⟨kind, entries⟩ := p
    rw [Courier.performAll] at h
    obtain ⟨_, s₁, hn, h⟩ := Act.attempt_bind_eq_ok_iff.1 h
    obtain ⟨n, s₂, hp, h⟩ := Act.attempt_bind_eq_ok_iff.1 h
    obtain ⟨chunks, s₃, hc, hp⟩ := Act.attempt_bind_eq_ok_iff.1 hp
    obtain ⟨hchunks, rfl⟩ := Prod.mk.inj hc
    obtain ⟨_, s₄, hd, hp⟩ := Act.attempt_bind_eq_ok_iff.1 hp
    cases hp
    rw [ih h, w.deleteChunks_eq_ok hd, w.note _ _ _ hn, Entity.flatten_of_chunked hchunks,
      Contents.without_append, idsOf_cons]

theorem mem_intents_of_claim {t : Table} {e : Entry} (he : e ∈ t.claim) : e.intent ∈ t.intents := by
  rw [← t.intents_mark .waiting .running]
  exact List.mem_map.2 ⟨e, he, rfl⟩

/-- The ids of an action in the batch of a table, where an id says its kind. -/
theorem mem_idsOf_batch {t : Table} (hk : ∀ i ∈ t.intents, kindOf i.id = i.kind) (a : Action)
    (id : String) :
    id ∈ idsOf (byKind ((batch t.claim).of a)) ↔
      ⟨id, kindOf id, a⟩ ∈ t.intents := by
  rw [mem_idsOf_byKind, batch_of]
  constructor
  · rintro ⟨e, he, rfl⟩
    obtain ⟨he, ha⟩ := List.mem_filter.1 he
    have hi := mem_intents_of_claim he
    rw [hk _ hi, ← eq_of_beq ha]
    exact hi
  · intro hi
    rw [← t.intents_mark .waiting .running] at hi
    obtain ⟨e, he, hei⟩ := List.mem_map.1 hi
    exact ⟨e, List.mem_filter.2 ⟨he, by simp [hei]⟩, by rw [hei]⟩

/-- **The contents after a successful run** of what the table says. -/
theorem contents_of_run (w : LawfulWithIndex q g contents) {report : Report}
    (hk : ∀ i ∈ (q.store s).table.intents, kindOf i.id = i.kind)
    (hr : ∀ i ∈ (q.store s).table.intents, ∀ r, registry.get (.text i.kind) = .ok r →
      r.Offers (live i.kind))
    (h : (Courier.ofParts q g registry size).run.attempt s = (.ok report, s')) (id : String) :
    contents s' id =
      if ⟨id, kindOf id, .delete⟩ ∈ (q.store s).table.intents then none
      else if ⟨id, kindOf id, .update⟩ ∈ (q.store s).table.intents then
        (current? g.typeField registry live (kindOf id) id).or (contents s id)
      else contents s id := by
  obtain ⟨b, s₁, hb, h⟩ := Act.attempt_bind_eq_ok_iff.1 h
  obtain ⟨updated, s₂, hu, h⟩ := Act.attempt_bind_eq_ok_iff.1 h
  obtain ⟨deleted, s₃, hd, h⟩ := Act.attempt_bind_eq_ok_iff.1 h
  obtain ⟨n, s₄, hf, h⟩ := Act.attempt_bind_eq_ok_iff.1 h
  cases h
  obtain ⟨rfl, -⟩ := Access.claim_eq_ok w.queue hb
  have hentry {a : Action} {p : String × List Entry} {e : Entry}
      (hp : p ∈ byKind ((batch (q.store s).table.claim).of a)) (he : e ∈ p.2) :
      e.intent.kind = p.1 ∧ e.intent ∈ (q.store s).table.intents := by
    rw [(mem_byKind_iff.1 hp).1, batch_of] at he
    obtain ⟨he, hkind⟩ := List.mem_filter.1 he
    exact ⟨eq_of_beq hkind, mem_intents_of_claim (List.mem_filter.1 he).1⟩
  have hupdated : contents s₂ = (contents s₁).refreshed
      (idsOf (byKind ((batch (q.store s).table.claim).of .update))) fun id =>
        current? g.typeField registry live (kindOf id) id := by
    refine w.performAll_update_eq_ok (fun p hp => ?_) (fun p hp e he => ?_) hu
    · obtain ⟨e, he⟩ := List.exists_mem_of_ne_nil _ (mem_byKind_iff.1 hp).2
      obtain ⟨hkind, hi⟩ := hentry hp he
      exact hkind ▸ hr _ hi
    · obtain ⟨hkind, hi⟩ := hentry hp he
      exact (hk _ hi).trans hkind
  rw [w.contents_flush hf, w.performAll_delete_eq_ok hd, hupdated, w.contents_claim hb]
  simp only [Contents.without, Contents.refreshed, mem_idsOf_batch hk]

end Run

end LawfulWithIndex

end SearchIndex.Queue
