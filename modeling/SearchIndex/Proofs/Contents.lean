import Mathlib.Data.List.Forall2
import Mathlib.Logic.Function.Basic
import SearchIndex.Index.Gateway
import SearchIndex.Proofs.Outcome

/-!
# The contents of the index

The index maps the ids of documents to their fields: adding a document replaces the one with its
id, and deleting removes it. A backend holds such contents in its world when every batch it accepts
changes them operation by operation. Through the gateway, deleting ids removes their documents, and
updating records puts in the documents that are built of them.

## Main definitions

* `Document.ofValue?`: the operation that was sent
* `Contents`: a map from ids to fields
* `Contents.applyAll`: the contents after some operations
* `Contents.without`, `Contents.refreshed`: without some ids, and with what is current for them
* `Backend.Holds b contents`: a backend holds the contents of the index

## Main results

* `Contents.applyAll_delete`, `Contents.applyAll_eq_refreshed`: deleting removes, adding refreshes
* `Gateway.send_eq_ok`, `Gateway.deleteIds_eq_ok`, `Gateway.update_eq_ok`: what a successful request
  does
-/

namespace SearchIndex.Index

open Entity (Record Repository)

/-- The operation that a value says. -/
def Document.ofValue? : Value → Option Document
  | .map [(.text "type", .text "add"), (.text "id", .text id), (.text "fields", .map fields)] =>
    some (.add id fields)
  | .map [(.text "type", .text "delete"), (.text "id", .text id)] => some (.delete id)
  | _ => none

@[simp] theorem Document.ofValue?_toValue (d : Document) : ofValue? d.toValue = some d := by
  cases d <;> rfl

/-- **The index as a map from the ids of documents to their fields.** -/
abbrev Contents := String → Option Fields

namespace Contents

variable {c : Contents} {id : String} {fields : Fields} {documents : List Document}

/-- One operation. -/
def apply (c : Contents) : Document → Contents
  | .add id fields => Function.update c id (some fields)
  | .delete id => Function.update c id none

/-- The contents after some operations, one after the other. -/
def applyAll (c : Contents) (documents : List Document) : Contents := documents.foldl apply c

/-- The contents without the documents with some ids. -/
def without (c : Contents) (ids : List String) : Contents :=
  fun id => if id ∈ ids then none else c id

/-- The contents with what is current for some ids, where there is anything. -/
def refreshed (c : Contents) (ids : List String) (current : String → Option Fields) : Contents :=
  fun id => if id ∈ ids then (current id).or (c id) else c id

theorem applyAll_cons (d : Document) :
    c.applyAll (d :: documents) = (c.apply d).applyAll documents := rfl

theorem applyAll_append (c : Contents) (documents documents' : List Document) :
    c.applyAll (documents ++ documents') = (c.applyAll documents).applyAll documents' :=
  List.foldl_append

theorem apply_of_ne {d : Document} (h : d.id ≠ id) : c.apply d id = c id := by
  cases d <;> exact Function.update_of_ne (Ne.symm h) _ _

/-- Operations on other documents leave a document. -/
theorem applyAll_of_ne (h : ∀ d ∈ documents, d.id ≠ id) : c.applyAll documents id = c id := by
  induction documents generalizing c with
  | nil => rfl
  | cons d documents ih =>
    obtain ⟨hd, hrest⟩ := List.forall_mem_cons.1 h
    rw [applyAll_cons, ih hrest, apply_of_ne hd]

/-- **Deleting removes** the documents with the ids. -/
theorem applyAll_delete (c : Contents) (ids : List String) :
    c.applyAll (ids.map .delete) = c.without ids := by
  induction ids generalizing c with
  | nil => rfl
  | cons id ids ih =>
    rw [List.map_cons, applyAll_cons, ih]
    funext x
    by_cases hx : x = id
    · subst hx
      simp [without, apply]
    · simp [without, apply, hx]

/-- **Adding replaces**: the document is the one that was added, if all that were added with its id
are one. -/
theorem applyAll_of_mem (h : .add id fields ∈ documents)
    (hd : ∀ d ∈ documents, d.id = id → d = .add id fields) :
    c.applyAll documents id = some fields := by
  induction documents generalizing c with
  | nil => exact (List.not_mem_nil h).elim
  | cons d documents ih =>
    rw [applyAll_cons]
    by_cases hm : .add id fields ∈ documents
    · exact ih hm fun d hd' => hd d (List.mem_cons_of_mem _ hd')
    · obtain rfl : Document.add id fields = d := (List.mem_cons.1 h).resolve_right hm
      rw [applyAll_of_ne fun d hd' he => hm (hd d (List.mem_cons_of_mem _ hd') he ▸ hd')]
      exact Function.update_self ..

/-- **Adding what is current** for some ids refreshes the contents. -/
theorem applyAll_eq_refreshed {ids : List String} {current : String → Option Fields}
    (h : ∀ d, d ∈ documents ↔
      ∃ id ∈ ids, ∃ fields, current id = some fields ∧ d = .add id fields) :
    c.applyAll documents = c.refreshed ids current := by
  have hne (id : String) (hid : id ∉ ids ∨ current id = none) :
      c.applyAll documents id = c id := by
    refine applyAll_of_ne fun d hd he => ?_
    obtain ⟨id', hid', fields, hc, rfl⟩ := (h d).1 hd
    obtain rfl : id' = id := he
    rcases hid with hid | hid
    · exact hid hid'
    · rw [hid] at hc
      cases hc
  funext id
  by_cases hid : id ∈ ids
  · rcases hc : current id with _ | fields
    · simp [refreshed, hid, hc, hne id (.inr hc)]
    · have hmem := (h _).2 ⟨id, hid, fields, hc, rfl⟩
      rw [applyAll_of_mem hmem fun d hd he => ?_]
      · simp [refreshed, hid, hc]
      · obtain ⟨id', -, fields', hc', rfl⟩ := (h d).1 hd
        obtain rfl : id' = id := he
        rw [hc] at hc'
        cases hc'
        rfl
  · simp [refreshed, hid, hne id (.inl hid)]

theorem refreshed_of_none {ids : List String} {current : String → Option Fields}
    (h : ∀ id ∈ ids, current id = none) (c : Contents) : c.refreshed ids current = c := by
  funext id
  by_cases hid : id ∈ ids
  · simp [refreshed, h id hid]
  · simp [refreshed, hid]

theorem refreshed_congr {ids : List String} {current current' : String → Option Fields}
    (h : ∀ id ∈ ids, current id = current' id) (c : Contents) :
    c.refreshed ids current = c.refreshed ids current' := by
  funext id
  by_cases hid : id ∈ ids
  · simp [refreshed, hid, h id hid]
  · simp [refreshed, hid]

@[simp] theorem without_nil (c : Contents) : c.without [] = c := by
  funext id
  simp [without]

theorem without_append (c : Contents) (ids ids' : List String) :
    (c.without ids).without ids' = c.without (ids ++ ids') := by
  funext id
  by_cases h : id ∈ ids <;> by_cases h' : id ∈ ids' <;> simp [without, h, h']

/-- What became of the documents with some ids does not matter once they are taken out. -/
theorem applyAll_without {ids : List String} (h : ∀ d ∈ documents, d.id ∈ ids) (c : Contents) :
    (c.applyAll documents).without ids = c.without ids := by
  funext id
  by_cases hid : id ∈ ids
  · simp [without, hid]
  · simp only [without, hid, if_false]
    exact applyAll_of_ne fun d hd he => hid (he ▸ h d hd)

theorem refreshed_append (c : Contents) (ids ids' : List String)
    (current : String → Option Fields) :
    (c.refreshed ids current).refreshed ids' current = c.refreshed (ids ++ ids') current := by
  funext id
  by_cases h : id ∈ ids <;> by_cases h' : id ∈ ids' <;> simp [refreshed, h, h', ← Option.or_assoc]

end Contents

/-- **A backend holds the contents of the index**: what it accepts changes them, and its notes do
not. -/
structure Backend.Holds {σ : Type} (b : Backend σ) (contents : σ → Contents) : Prop where
  upload : ∀ documents s r s', (b.upload (documents.map Document.toValue)).attempt s = (.ok r, s') →
    contents s' = (contents s).applyAll documents
  note : ∀ n s s', (b.note n).attempt s = (.ok (), s') → contents s' = contents s

/-! ## Documents of records -/

theorem mapM_eq_ok {α β : Type} {f : α → Except Failure β} {l : List α} {ys : List β}
    (h : l.mapM f = .ok ys) : List.Forall₂ (fun x y => f x = .ok y) l ys := by
  induction l generalizing ys with
  | nil =>
    cases h
    exact .nil
  | cons x l ih =>
    rw [List.mapM_cons] at h
    rcases hx : f x with _ | y <;> simp only [hx, bind, Except.bind, reduceCtorEq] at h
    rcases hl : l.mapM f with _ | zs <;> simp only [hl, reduceCtorEq] at h
    cases h
    exact .cons hx (ih hl)

/-- A record with fields is added under its id. -/
theorem documentOf?_of_map {typeField id : String} {kind : Value} {repository : Repository}
    {record : Record} {fields : Fields} (hd : repository.document record = .ok (.map fields))
    (hf : fields ≠ []) (hid : repository.searchableId record = .ok id) :
    documentOf? (.text typeField) kind repository record =
      .ok (some (.add id (Document.indexedFields (.text typeField) kind fields))) := by
  have ht : (Value.map fields).truthy = true := by simp [Value.truthy, hf]
  simp [documentOf?, hd, ht, hid, bind, Except.bind, pure, Except.pure, Value.entriesFor,
    Value.keyOf, Value.key?]

/-- The documents that are built are those of the records that have fields. -/
theorem mem_buildDocuments {typeField kind : Value} {records : List Record}
    {repository : Repository} {documents : List Document} {d : Document}
    (h : buildDocuments typeField kind records repository = .ok documents) :
    d ∈ documents ↔ ∃ r ∈ records, documentOf? typeField kind repository r = .ok (some d) := by
  rcases hm : records.mapM (documentOf? typeField kind repository) with _ | built <;>
    simp only [buildDocuments, hm, bind, Except.bind, reduceCtorEq] at h
  cases h
  have hf := mapM_eq_ok hm
  have hb : d ∈ built.filterMap id ↔ some d ∈ built := by simp
  rw [hb]
  clear hm hb
  induction hf with
  | nil => simp
  | cons hx _ ih =>
    rw [List.mem_cons, List.exists_mem_cons_iff, hx, Except.ok.injEq]
    exact or_congr eq_comm ih

namespace Gateway

variable {σ : Type} {g : Gateway σ} {contents : σ → Contents} {s s' : σ} {o : Option Fields}

theorem send_eq_ok (hb : g.backend.Holds contents) {kind : Value} {documents : List Document}
    (h : (g.send kind documents).attempt s = (.ok o, s')) :
    contents s' = (contents s).applyAll documents := by
  cases documents with
  | nil =>
    cases h
    rfl
  | cons first documents =>
    obtain ⟨_, s₁, hn, h⟩ := Act.attempt_bind_eq_ok_iff.1 h
    obtain ⟨r, s₂, hu, h⟩ := Act.attempt_bind_eq_ok_iff.1 h
    cases h
    rw [hb.upload _ _ _ _ hu, hb.note _ _ _ hn]

/-- **Deleting by ids** removes the documents. -/
theorem deleteIds_eq_ok (hb : g.backend.Holds contents) {kind : Value} {ids : List String}
    (h : (g.deleteIds kind ids).attempt s = (.ok o, s')) :
    contents s' = (contents s).without ids := by
  rw [send_eq_ok hb h, Contents.applyAll_delete]

/-- **Updating records** puts in the documents that are built of them. -/
theorem update_eq_ok (hb : g.backend.Holds contents) {kind : Value} {records : List Record}
    {repository : Repository}
    (h : (g.update kind records repository).attempt s = (.ok o, s')) :
    ∃ documents, buildDocuments g.typeField kind records repository = .ok documents ∧
      contents s' = (contents s).applyAll documents := by
  obtain ⟨documents, s₁, hd, h⟩ := Act.attempt_bind_eq_ok_iff.1 h
  obtain ⟨hbuilt, rfl⟩ := Prod.mk.inj hd
  exact ⟨documents, hbuilt, send_eq_ok hb h⟩

end Gateway

end SearchIndex.Index
