import SearchIndex.Proofs.Synchronization

/-!
# Changes of records

The application tells the queue what happens to its records, and a run brings the index up to date.
A record that was deleted at last is absent afterwards. One that was saved or restored at last is
there with its document exactly if it was never deleted before: a deletion stays in the queue beside
the update that follows it, and a run does deletions last.

## Main definitions

* `Change`: what happened to a record
* `Access.tellAll`: tell the queue of some changes
* `lastChange? changes kind id`: what happened to a record at last
* `Store.asked s changes`: what is asked of a queue after some changes
* `StoreWithContents`: the store of a queue, with the contents of an index

## Main results

* `LawfulWithIndex.tellAll_eq_ok`: the queue holds what it was told
* `LawfulWithIndex.contents_of_asked`: the index after a run of what is asked
* `LawfulWithIndex.contents_of_changes`: the index after some changes and a run
* `StoreWithContents.absent_of_restored`: a record that is deleted and restored before a run is
  absent
-/

namespace SearchIndex.Queue

open Entity (Record Repository Registry Source)
open Index (Contents Document Gateway documentOf?)

/-- What happened to a record of the application. -/
inductive Change where
  | saved (kind : String) (key : Value)
  | deleted (kind : String) (key : Value)
  | restored (kind : String) (key : Value)

namespace Change

def kind : Change → String
  | .saved kind _ | .deleted kind _ | .restored kind _ => kind

/-- The id of the record: the text of its key. -/
def id : Change → String
  | .saved _ key | .deleted _ key | .restored _ key => key.plain

/-- What has to be done in the index. -/
def action : Change → Action
  | .saved _ _ | .restored _ _ => .update
  | .deleted _ _ => .delete

def intent (c : Change) : Intent := ⟨c.id, c.kind, c.action⟩

end Change

def Access.tell {σ : Type} (q : Access σ) : Change → Act σ Unit
  | .saved kind key => q.saved (.text kind) key
  | .deleted kind key => q.deleted (.text kind) key
  | .restored kind key => q.restored (.text kind) key

/-- **Tell the queue of some changes**, one after the other. -/
def Access.tellAll {σ : Type} (q : Access σ) : List Change → Act σ Unit
  | [] => pure ()
  | c :: changes => do
    q.tell c
    q.tellAll changes

/-- What happened to the record of a kind with an id at last. -/
def lastChange? (changes : List Change) (kind id : String) : Option Change :=
  (changes.filter fun c => c.kind = kind ∧ c.id = id).getLast?

/-- **What is asked of a queue** after some changes: what its table holds, and what the changes
ask for. -/
def Store.asked (s : Store) (changes : List Change) : List Intent :=
  s.table.intents ++ changes.map Change.intent

/-- Where the kind of a record is fixed by its id, an id says its kind. -/
theorem exists_kindOf {intents : List Intent}
    (h : ∀ i ∈ intents, ∀ j ∈ intents, i.id = j.id → i.kind = j.kind) :
    ∃ kindOf : String → String, ∀ i ∈ intents, kindOf i.id = i.kind := by
  refine ⟨fun id => (intents.find? (·.id = id)).elim "" Intent.kind, fun i hi => ?_⟩
  rcases hf : intents.find? (·.id = i.id) with _ | j
  · exact absurd (decide_eq_true rfl) (List.find?_eq_none.1 hf i hi)
  · have hid : j.id = i.id := by simpa using List.find?_some hf
    simp only [hf, Option.elim_some, h j (List.mem_of_find?_eq_some hf) i hi hid]

theorem mem_of_lastChange? {changes : List Change} {kind id : String} {c : Change}
    (h : lastChange? changes kind id = some c) : c ∈ changes := by
  have hm := List.mem_of_getLast? h
  exact (List.mem_filter.1 hm).1

namespace LawfulWithIndex

variable {σ : Type} {q : Access σ} {g : Gateway σ} {contents : σ → Contents} {s s₁ s₂ : σ}
  {changes : List Change}

theorem tell_eq_push (q : Access σ) (c : Change) :
    ∃ key, c.id = key.plain ∧ q.tell c = q.push (.text c.action.name) key (.text c.kind) := by
  cases c <;> exact ⟨_, rfl, rfl⟩

/-- **The queue holds what it was told**, and the index is untouched. What a change asks for is in
the table that the next one finds. -/
theorem tellAll_eq_ok (w : LawfulWithIndex q g contents)
    (h : (q.tellAll changes).attempt s = (.ok (), s₁)) :
    (∀ i, i ∈ (q.store s₁).table.intents ↔ i ∈ (q.store s).asked changes) ∧
      contents s₁ = contents s := by
  induction changes generalizing s with
  | nil =>
    cases h
    simp [Store.asked]
  | cons c changes ih =>
    obtain ⟨_, s', hc, h⟩ := Act.attempt_bind_eq_ok_iff.1 h
    obtain ⟨key, hkey, htell⟩ := tell_eq_push q c
    rw [htell] at hc
    obtain ⟨time, -, ht⟩ := Access.push_eq_ok w.queue (Action.read_name c.action) hc
    obtain ⟨hi, hcontents⟩ := ih h
    refine ⟨fun i => ?_, hcontents.trans (w.contents_push hc)⟩
    rw [hi, Store.asked, List.mem_append, ht, Table.mem_intents_push, Store.asked, List.map_cons,
      List.mem_append, List.mem_cons, or_assoc, Change.intent, hkey]

section Run

variable {registry : Registry} {size : Value} {report : Report}
  {live : String → String → Option Record}

/-- **The contents after some changes and a run**: where a deletion is asked for nothing is left,
and else what is current is there. -/
theorem contents_of_asked (w : LawfulWithIndex q g contents)
    (hk : ∀ i ∈ (q.store s).asked changes, ∀ j ∈ (q.store s).asked changes,
      i.id = j.id → i.kind = j.kind)
    (hr : ∀ i ∈ (q.store s).asked changes, ∀ r, registry.get (.text i.kind) = .ok r →
      r.Offers (live i.kind))
    (ht : (q.tellAll changes).attempt s = (.ok (), s₁))
    (h : (Courier.ofParts q g registry size).run.attempt s₁ = (.ok report, s₂))
    {i : Intent} (hi : i ∈ (q.store s).asked changes) :
    contents s₂ i.id =
      if ⟨i.id, i.kind, .delete⟩ ∈ (q.store s).asked changes then none
      else (current? g.typeField registry live i.kind i.id).or (contents s i.id) := by
  obtain ⟨hmem, hcontents⟩ := w.tellAll_eq_ok ht
  obtain ⟨kindOf, hkindOf⟩ := exists_kindOf hk
  rw [w.contents_of_run (fun j hj => hkindOf j ((hmem j).1 hj)) (fun j hj => hr j ((hmem j).1 hj))
    h, hcontents, hkindOf i hi]
  simp only [hmem]
  have hupdate (hd : ⟨i.id, i.kind, .delete⟩ ∉ (q.store s).asked changes) :
      ⟨i.id, i.kind, .update⟩ ∈ (q.store s).asked changes := by
    rcases ha : i.action with _ | _
    · exact ha ▸ hi
    · exact absurd (ha ▸ hi) hd
  split
  · rfl
  · next hd => rw [if_pos (hupdate hd)]

/-- A record that lives with fields is indexed with them. -/
theorem current?_eq_some {typeField kind id : String} {r : Repository} {record : Record}
    {fields : Fields} (hget : registry.get (.text kind) = .ok r) (hr : r.Offers (live kind))
    (hl : live kind id = some record) (hd : r.document record = .ok (.map fields))
    (hf : fields ≠ []) :
    current? (.text typeField) registry live kind id =
      some (Document.indexedFields (.text typeField) (.text kind) fields) := by
  rw [current?, hget]
  exact (currentOf_eq_some_iff hr).2
    ⟨record, hl, Index.documentOf?_of_map hd hf (hr.searchableId hl)⟩

/-- **The index after some changes and a run.** A record that was deleted at last is absent. One
that was saved or restored at last, and lives with fields, is there with them exactly if no deletion
of it is asked for, and else it is absent. -/
theorem contents_of_changes {typeField : String} (w : LawfulWithIndex q g contents)
    (hg : g.typeField = .text typeField)
    (hk : ∀ i ∈ (q.store s).asked changes, ∀ j ∈ (q.store s).asked changes,
      i.id = j.id → i.kind = j.kind)
    (hr : ∀ i ∈ (q.store s).asked changes, ∀ r, registry.get (.text i.kind) = .ok r →
      r.Offers (live i.kind))
    (ht : (q.tellAll changes).attempt s = (.ok (), s₁))
    (h : (Courier.ofParts q g registry size).run.attempt s₁ = (.ok report, s₂))
    {c : Change} (hc : lastChange? changes c.kind c.id = some c) :
    (c.action = .delete → contents s₂ c.id = none) ∧
      (c.action = .update → ∀ r record fields, registry.get (.text c.kind) = .ok r →
        live c.kind c.id = some record → r.document record = .ok (.map fields) → fields ≠ [] →
        (contents s₂ c.id = some (Document.indexedFields (.text typeField) (.text c.kind) fields) ↔
          ⟨c.id, c.kind, .delete⟩ ∉ (q.store s).asked changes) ∧
        (⟨c.id, c.kind, .delete⟩ ∈ (q.store s).asked changes → contents s₂ c.id = none)) := by
  have hi : c.intent ∈ (q.store s).asked changes :=
    List.mem_append_right _ (List.mem_map.2 ⟨c, mem_of_lastChange? hc, rfl⟩)
  have hcontents := w.contents_of_asked hk hr ht h hi
  have hdeleted (hd : ⟨c.id, c.kind, .delete⟩ ∈ (q.store s).asked changes) :
      contents s₂ c.id = none := hcontents.trans (if_pos hd)
  constructor
  · intro ha
    exact hdeleted (ha ▸ hi)
  · intro _ r record fields hget hl hdoc hf
    have hcur : current? (.text typeField) registry live c.kind c.id = some _ :=
      current?_eq_some hget (hr _ hi r hget) hl hdoc hf
    refine ⟨⟨fun hthere hd => ?_, fun hd => ?_⟩, hdeleted⟩
    · rw [hdeleted hd] at hthere
      cases hthere
    · refine hcontents.trans ((if_neg hd).trans ?_)
      rw [hg]
      simp only [Change.intent, hcur, Option.some_or]

end Run

end LawfulWithIndex

/-! ## An index in memory -/

/-- The store of a queue, with the contents of an index. -/
structure StoreWithContents where
  store : Store := {}
  contents : Contents := fun _ => none

namespace StoreWithContents

/-- The queue of the store; notes are not kept. -/
def queue : Access StoreWithContents where
  store := StoreWithContents.store
  withStore store b := { b with store := store }
  note _ := pure ()

/-- The index with the contents: it accepts every batch, and finds nothing. -/
def index : Index.Backend StoreWithContents where
  search _ := pure (.map [])
  upload documents := Act.ofStep fun b =>
    (.ok [], { b with contents := b.contents.applyAll (documents.filterMap Document.ofValue?) })
  note _ := pure ()

def gateway : Gateway StoreWithContents := ⟨index, .text Query.defaultTypeField⟩

/-- **The queue and the index do not touch each other.** -/
theorem lawfulWithIndex : LawfulWithIndex queue gateway StoreWithContents.contents where
  queue := ⟨fun _ _ => rfl, fun _ _ => rfl⟩
  index := {
    upload := by
      intro documents s r s' h
      cases h
      simp [List.filterMap_map]
    note := by
      intro n s s' h
      cases h
      rfl }
  withStore _ _ := rfl
  note _ s s' h := by
    cases h
    rfl

/-- What is there after the queue was told of some changes. -/
def told (changes : List Change) (b : StoreWithContents) : StoreWithContents :=
  ((queue.tellAll changes).attempt b).2

theorem told_eq_ok {changes : List Change} {b : StoreWithContents}
    (h : ((queue.tellAll changes).attempt b).1.isOk = true) :
    (queue.tellAll changes).attempt b = (.ok (), told changes b) := by
  obtain ⟨_, ht⟩ := Act.exists_attempt_eq_ok h
  exact ht

/-- A source of a single record. -/
def source : Source where
  records := [.map [("id", .text "1"), ("title", .text "T")]]

theorem offers_source : source.repository.Offers source.live := by
  refine source.offers rfl ?_
  simp [Source.Distinct, source]

/-- Its record lives, whatever kind is asked for. -/
def live (_ : String) : String → Option Record := source.live

/-- The registry of its kind. -/
def registry : Registry := Keyed.put (.text "A") source.repository []

/-- What a run gives, and what is there after it. -/
def ran (b : StoreWithContents) : Except Failure Report × StoreWithContents :=
  (Courier.ofParts queue gateway registry).run.attempt b

theorem ran_eq_ok {b : StoreWithContents} (h : (ran b).1.isOk = true) :
    ∃ report, (Courier.ofParts queue gateway registry).run.attempt b = (.ok report, (ran b).2) := by
  rw [ran] at h ⊢
  exact Act.exists_attempt_eq_ok h

/-- The record that lives is not in the index yet, and one that lives no more is still there. -/
def behind : StoreWithContents where
  contents id := if id = "2" then some [] else none

def savedAndDeleted : List Change := [.saved "A" (.text "1"), .deleted "A" (.text "2")]

theorem contents_of_savedAndDeleted :
    (ran (told savedAndDeleted behind)).2.contents "1" =
        some [(.text "title", .text "T"), (.text "searchable_type", .text "A")] ∧
      (ran (told savedAndDeleted behind)).2.contents "2" = none := by
  have hkind : ∀ i ∈ (queue.store behind).asked savedAndDeleted, i.kind = "A" := by decide
  have hk : ∀ i ∈ (queue.store behind).asked savedAndDeleted,
      ∀ j ∈ (queue.store behind).asked savedAndDeleted, i.id = j.id → i.kind = j.kind := by
    intro i hi j hj _
    rw [hkind i hi, hkind j hj]
  have hr : ∀ i ∈ (queue.store behind).asked savedAndDeleted, ∀ r,
      registry.get (.text i.kind) = .ok r → r.Offers (live i.kind) := by
    intro i hi r h
    rw [hkind i hi, registry, Registry.get_put_self] at h
    cases h
    exact offers_source
  have htold : (queue.tellAll savedAndDeleted).attempt behind =
      (.ok (), told savedAndDeleted behind) := told_eq_ok (by decide +kernel)
  obtain ⟨report, hran⟩ := ran_eq_ok (b := told savedAndDeleted behind) (by decide +kernel)
  have hsaved := lawfulWithIndex.contents_of_changes (c := .saved "A" (.text "1")) rfl hk hr htold
    hran rfl
  have hdeleted := lawfulWithIndex.contents_of_changes (c := .deleted "A" (.text "2")) rfl hk hr
    htold hran rfl
  simp only [Change.kind, Change.id, Value.plain_text] at hsaved hdeleted
  refine ⟨?_, hdeleted.1 rfl⟩
  have hthere := hsaved.2 rfl source.repository _ [("title", .text "T")]
    (Registry.get_put_self [] "A" source.repository) rfl rfl (List.cons_ne_nil _ _)
  exact hthere.1.2 (by decide)

def deletedAndRestored : List Change := [.deleted "A" (.text "1"), .restored "A" (.text "1")]

/-- **A record that is deleted and restored before a run is absent after it**, though it lives and
has fields. -/
theorem absent_of_restored :
    lastChange? deletedAndRestored "A" "1" = some (.restored "A" (.text "1")) ∧
      (queue.tellAll deletedAndRestored).attempt {} = (.ok (), told deletedAndRestored {}) ∧
      (∃ report, (Courier.ofParts queue gateway registry).run.attempt (told deletedAndRestored {}) =
        (.ok report, (ran (told deletedAndRestored {})).2)) ∧
      registry.get (.text "A") = .ok source.repository ∧
      source.live "1" = some (.map [("id", .text "1"), ("title", .text "T")]) ∧
      source.repository.document (.map [("id", .text "1"), ("title", .text "T")]) =
        .ok (.map [("title", .text "T")]) ∧
      (ran (told deletedAndRestored {})).2.contents "1" = none := by
  refine ⟨rfl, told_eq_ok (by decide +kernel), ran_eq_ok (by decide +kernel),
    Registry.get_put_self [] "A" source.repository, rfl, rfl, ?_⟩
  exact Option.isNone_iff_eq_none.1 (by decide +kernel)

end StoreWithContents

end SearchIndex.Queue
