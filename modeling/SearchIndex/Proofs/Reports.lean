import Mathlib.Algebra.Ring.Nat
import SearchIndex.Proofs.Course
import SearchIndex.Proofs.Routes

/-!
# What a report says

A run reports how many entries it claimed and flushed, how many records it brought into the index,
and how many ids it asked to delete, while others may use the queue. Deletions are counted as they
are sent, and what was claimed is flushed unless it is pushed again. The records that are brought in
are counted as they are fetched, those included whose document counts as nothing: of them nothing
is sent.

## Main definitions

* `operations action uploads`: the number of operations that were uploaded
* `Repository.hollow r record`: the document of a record counts as nothing
* `Call.documents`: what a call hands to the index
* `Call.brought`, `Call.removed`, `Call.hollow`: what a call counts for
* `Table.Moved t t' calls`: what calls make of the running entries of a table
* `SharedStore.Went typeField s s' calls`: what went on between two moments
* `SharedStore.Goes typeField s s' brought removed`: how much was done between two moments
* `SharedStore.Ran typeField s s' before t during t'`: a run between two moments
* `Report.Accounts`: a report is what happened

## Main results

* `operations_uploadsFor`: what is uploaded for calls
* `SharedStore.Goes.trans`, `SharedStore.goes_happen`, `SharedStore.goes_own`: what goes on step by
  step
* `SharedStore.performAll_eq_ok`: what the groups of an action add to a report
* `SharedStore.run_eq_ok`: what a run that succeeds did, and what it reports
* `count_running_add`: what was claimed still runs unless it was pushed again
* `SharedStore.accounts_iff`: when the report of a run is what happened
-/

namespace SearchIndex

open Entity (Record Repository Registry)
open Index (Backend Document documentOf? buildDocuments)

/-- The document of a record counts as nothing. -/
def Entity.Repository.hollow (r : Repository) (record : Record) : Bool :=
  match r.document record with
  | .ok document => !document.truthy
  | .error _ => false

namespace Queue

/-! ## What is uploaded -/

/-- The number of operations of a name that were uploaded. -/
def operations (action : String) (uploads : List (List Value)) : Nat :=
  uploads.flatten.countP fun operation =>
    (Document.ofValue? operation).any fun document => document.action == action

section Documents

variable {typeField kind : Value} {r : Repository}

theorem isNone_of_documentOf? {record : Record} {built : Option Document}
    (h : documentOf? typeField kind r record = .ok built) : built.isNone = r.hollow record := by
  obtain ⟨document, hd, h⟩ := bind_eq_ok_iff.1 h
  have hhollow : r.hollow record = !document.truthy := by rw [Repository.hollow, hd]
  rw [hhollow]
  cases ht : document.truthy with
  | false =>
    rw [ht] at h
    cases h
    rfl
  | true =>
    rw [ht] at h
    obtain ⟨fields, -, h⟩ := bind_eq_ok_iff.1 h
    obtain ⟨key, -, h⟩ := bind_eq_ok_iff.1 h
    obtain ⟨id, -, h⟩ := bind_eq_ok_iff.1 h
    cases h
    rfl

/-- **The records of which nothing is built** are those whose document counts as nothing. -/
theorem counts_of_buildDocuments {records : List Record} {documents : List Document}
    (h : buildDocuments typeField kind records r = .ok documents) :
    (∀ document ∈ documents, document.action = "add") ∧
      documents.length + records.countP r.hollow = records.length := by
  obtain ⟨built, hbuilt, hdocuments⟩ := bind_eq_ok_iff.1 h
  cases hdocuments
  have hall := Index.mapM_eq_ok hbuilt
  clear h hbuilt
  induction hall with
  | nil => simp
  | @cons record first records built hrecord _ ih =>
    obtain ⟨hadds, hlength⟩ := ih
    have hhollow := isNone_of_documentOf? hrecord
    rw [List.countP_cons, List.length_cons, ← hhollow]
    cases first with
    | none =>
      rw [List.filterMap_cons_none rfl]
      refine ⟨hadds, ?_⟩
      simp only [Option.isNone_none, if_true]
      omega
    | some document =>
      obtain ⟨_, _, -, rfl⟩ := documentOf?_eq_some hrecord
      rw [List.filterMap_cons_some (f := id) rfl]
      refine ⟨List.forall_mem_cons.2 ⟨rfl, hadds⟩, ?_⟩
      simp only [List.length_cons, Option.isNone_some, Bool.false_eq_true, if_false]
      omega

end Documents

/-- What a call hands to the index. -/
def Call.documents (typeField : Value) : Call → List Document
  | .updated kind records repository =>
    match buildDocuments typeField (.text kind) records repository with
    | .ok documents => documents
    | .error _ => []
  | .deleted _ ids => ids.map .delete
  | _ => []

/-- The number of records that a call brings into the index. -/
def Call.brought : Call → Nat
  | .updated _ records _ => records.length
  | _ => 0

/-- The number of documents that a call asks to delete. -/
def Call.removed : Call → Nat
  | .deleted _ ids => ids.length
  | _ => 0

/-- The number of records of a call of which nothing is sent. -/
def Call.hollow : Call → Nat
  | .updated _ records repository => records.countP repository.hollow
  | _ => 0

/-- The documents of the records of a call could be built. -/
def Call.Built (typeField : Value) : Call → Prop
  | .updated kind records repository =>
    ∃ documents, buildDocuments typeField (.text kind) records repository = .ok documents
  | _ => True

/-- A call of others. -/
def Call.ofOthers : Call → Prop
  | .pushed _ => True
  | .requeued => True
  | _ => False

/-- A call that neither claims nor flushes. -/
def Call.between : Call → Prop
  | .claimed _ => False
  | .flushed => False
  | _ => True

/-- The batches that are uploaded for calls: none for a call without documents. -/
def uploadsFor (typeField : Value) (calls : List Call) : List (List Value) :=
  ((calls.map (Call.documents typeField)).filter fun batch => !batch.isEmpty).map
    (List.map Document.toValue)

theorem uploadsFor_append (typeField : Value) (calls calls' : List Call) :
    uploadsFor typeField (calls ++ calls') = uploadsFor typeField calls ++
      uploadsFor typeField calls' := by
  simp [uploadsFor]

theorem flatten_uploadsFor (typeField : Value) (calls : List Call) :
    (uploadsFor typeField calls).flatten =
      (calls.flatMap (Call.documents typeField)).map Document.toValue := by
  rw [uploadsFor, ← List.map_flatten, List.flatten_filter_not_isEmpty, List.flatMap_def]

/-- **What a call hands to the index** is what it counts for, but for the records of which nothing
is sent. -/
theorem Call.counts_documents {typeField : Value} {call : Call} (h : call.Built typeField) :
    (call.documents typeField).countP (fun d => d.action == "add") + call.hollow = call.brought ∧
      (call.documents typeField).countP (fun d => d.action == "delete") = call.removed := by
  cases call with
  | updated kind records repository =>
    obtain ⟨documents, hdocuments⟩ := h
    obtain ⟨hadds, hlength⟩ := counts_of_buildDocuments hdocuments
    have hall : documents.countP (fun d => d.action == "add") = documents.length :=
      List.countP_eq_length.2 fun d hd => by simp [hadds d hd]
    have hnone : documents.countP (fun d => d.action == "delete") = 0 :=
      List.countP_eq_zero.2 fun d hd => by simp [hadds d hd]
    simp only [Call.documents, hdocuments, hall, hnone]
    exact ⟨hlength, rfl⟩
  | deleted kind ids =>
    simp only [Call.documents, Call.hollow, Call.brought, Call.removed, List.countP_map,
      Function.comp_def, Document.action]
    exact ⟨by simp, by simp⟩
  | _ => exact ⟨rfl, rfl⟩

/-- **What is uploaded for calls** is what they count for, but for the records of which nothing is
sent. -/
theorem operations_uploadsFor {typeField : Value} {calls : List Call}
    (h : ∀ call ∈ calls, call.Built typeField) :
    operations "add" (uploadsFor typeField calls) + (calls.map Call.hollow).sum =
        (calls.map Call.brought).sum ∧
      operations "delete" (uploadsFor typeField calls) = (calls.map Call.removed).sum := by
  simp only [operations, flatten_uploadsFor, List.countP_map, Function.comp_def,
    Document.ofValue?_toValue, Option.any_some]
  induction calls with
  | nil => exact ⟨rfl, rfl⟩
  | cons call calls ih =>
    obtain ⟨hcall, hcalls⟩ := List.forall_mem_cons.1 h
    obtain ⟨hadd, hdelete⟩ := ih hcalls
    obtain ⟨hadd', hdelete'⟩ := Call.counts_documents hcall
    simp only [List.flatMap_cons, List.countP_append, List.map_cons, List.sum_cons]
    omega

/-! ## What others do -/

/-- The intents that were pushed. -/
def pushesOf (calls : List Call) : List Intent :=
  calls.filterMap fun call =>
    match call with
    | .pushed intent => some intent
    | _ => none

theorem pushesOf_append (calls calls' : List Call) :
    pushesOf (calls ++ calls') = pushesOf calls ++ pushesOf calls' :=
  List.filterMap_append

theorem Table.withStatus_cons (status : Status) (e : Entry) (t : Table) :
    Table.withStatus status (e :: t) =
      if e.status = status then e :: t.withStatus status else t.withStatus status := by
  simp [withStatus, List.filter_cons]

/-- What is pushed does not run any more, and nothing else is stopped. -/
theorem Table.withStatus_running_push {t : Table} (ht : t.intents.Nodup) (i : Intent)
    (time : Int) :
    (t.push i time).withStatus .running =
      (t.withStatus .running).filter fun e => e.intent ≠ i := by
  induction t with
  | nil => rfl
  | cons e t ih =>
    obtain ⟨he, ht⟩ := List.nodup_cons.1 ht
    by_cases hi : e.intent = i
    · have hrest : (withStatus .running t).filter (fun e => e.intent ≠ i) =
          withStatus .running t := by
        refine List.filter_eq_self.2 fun x hx => decide_eq_true fun hxi => he ?_
        exact List.mem_map.2 ⟨x, (List.mem_filter.1 hx).1, hxi.trans hi.symm⟩
      have hpush : push i time (e :: t) = ⟨i, .waiting, time⟩ :: t := if_pos hi
      rw [hpush, withStatus_cons, withStatus_cons, if_neg (by simp)]
      split
      · rw [List.filter_cons_of_neg (by simpa using hi), hrest]
      · exact hrest.symm
    · have hpush : push i time (e :: t) = e :: push i time t := if_neg hi
      rw [hpush, withStatus_cons, withStatus_cons, ih ht]
      split
      · rw [List.filter_cons_of_pos (by simpa using hi)]
      · rfl

/-- **What calls make of a table**, as long as nothing is requeued: what is pushed does not run any
more. -/
structure Table.Moved (t t' : Table) (calls : List Call) : Prop where
  nodup : t.intents.Nodup → t'.intents.Nodup
  running : t.intents.Nodup → .requeued ∉ calls →
    t'.withStatus .running =
      (t.withStatus .running).filter fun e => e.intent ∉ pushesOf calls

namespace Table

variable {t t' t'' : Table} {calls calls' : List Call}

theorem Moved.same (h : pushesOf calls = []) : t.Moved t calls :=
  ⟨id, fun _ _ => by simp [h]⟩

theorem Moved.trans (h : t.Moved t' calls) (h' : t'.Moved t'' calls') :
    t.Moved t'' (calls ++ calls') where
  nodup ht := h'.nodup (h.nodup ht)
  running ht hcalls := by
    obtain ⟨hcalls, hcalls'⟩ := not_or.1 (mt List.mem_append.2 hcalls)
    rw [h'.running (h.nodup ht) hcalls', h.running ht hcalls, List.filter_filter]
    refine List.filter_congr fun e _ => ?_
    simp only [pushesOf_append, List.mem_append, not_or, Bool.decide_and, Bool.and_comm]

theorem moved_push (t : Table) (i : Intent) (time : Int) : t.Moved (t.push i time) [.pushed i] where
  nodup := nodup_intents_push
  running ht _ := by
    rw [withStatus_running_push ht]
    refine List.filter_congr fun e _ => ?_
    simp [pushesOf]

theorem moved_requeue (t : Table) : t.Moved t.requeue [.requeued] where
  nodup ht := by
    rw [requeue, intents_mark]
    exact ht
  running _ h := (h (List.mem_singleton_self _)).elim

end Table

/-! ## What goes on at a shared store -/

/-- **What went on between two moments of a shared store**: the calls since then, none of them a
claim or a flush, with what was uploaded for them and what they made of the table. -/
structure SharedStore.Went {τ : Type} (typeField : Value)
    (s s' : SharedStore (StoreWithUploads τ)) (calls : List Call) : Prop where
  moments : s'.moments.map Prod.fst = s.moments.map Prod.fst ++ calls
  between : ∀ call ∈ calls, call.between
  uploads : s'.own.uploads = s.own.uploads ++ uploadsFor typeField calls
  built : ∀ call ∈ calls, call.Built typeField
  moved : s.store.table.Moved s'.store.table calls

/-- **So many records were brought in and so many documents deleted** between two moments of a
shared store. -/
def SharedStore.Goes {τ : Type} (typeField : Value) (s s' : SharedStore (StoreWithUploads τ))
    (brought removed : Nat) : Prop :=
  ∃ calls, SharedStore.Went typeField s s' calls ∧ (calls.map Call.brought).sum = brought ∧
    (calls.map Call.removed).sum = removed

namespace SharedStore

variable {τ α β : Type} {typeField : Value} {s s' s'' : SharedStore (StoreWithUploads τ)}
  {calls calls' : List Call}

theorem Went.same (hmoments : s'.moments = s.moments) (huploads : s'.own.uploads = s.own.uploads)
    (htable : s'.store.table = s.store.table) : Went typeField s s' [] where
  moments := by rw [hmoments, List.append_nil]
  between _ h := (List.not_mem_nil h).elim
  uploads := by rw [huploads]; exact (List.append_nil _).symm
  built _ h := (List.not_mem_nil h).elim
  moved := htable ▸ .same rfl

theorem Went.trans (h : Went typeField s s' calls) (h' : Went typeField s' s'' calls') :
    Went typeField s s'' (calls ++ calls') where
  moments := by rw [h'.moments, h.moments, List.append_assoc]
  between call hcall := (List.mem_append.1 hcall).elim (h.between call) (h'.between call)
  uploads := by rw [h'.uploads, h.uploads, uploadsFor_append, List.append_assoc]
  built call hcall := (List.mem_append.1 hcall).elim (h.built call) (h'.built call)
  moved := h.moved.trans h'.moved

theorem Goes.same (hmoments : s'.moments = s.moments) (huploads : s'.own.uploads = s.own.uploads)
    (htable : s'.store.table = s.store.table) : Goes typeField s s' 0 0 :=
  ⟨[], .same hmoments huploads htable, rfl, rfl⟩

theorem Goes.one (call : Call) {t : Table} (hmoments : s'.moments = s.moments ++ [(call, t)])
    (hbetween : call.between)
    (huploads : s'.own.uploads = s.own.uploads ++ uploadsFor typeField [call])
    (hbuilt : call.Built typeField) (hmoved : s.store.table.Moved s'.store.table [call]) :
    Goes typeField s s' call.brought call.removed := by
  refine ⟨[call], ⟨?_, ?_, huploads, ?_, hmoved⟩, List.sum_singleton, List.sum_singleton⟩
  · rw [hmoments, List.map_append]
    rfl
  · intro c hc
    exact List.mem_singleton.1 hc ▸ hbetween
  · intro c hc
    exact List.mem_singleton.1 hc ▸ hbuilt

theorem Goes.trans {brought removed brought' removed' : Nat}
    (h : Goes typeField s s' brought removed) (h' : Goes typeField s' s'' brought' removed') :
    Goes typeField s s'' (brought + brought') (removed + removed') := by
  obtain ⟨calls, h, rfl, rfl⟩ := h
  obtain ⟨calls', h', rfl, rfl⟩ := h'
  exact ⟨calls ++ calls', h.trans h', by simp, by simp⟩

/-! ### What others do -/

/-- An action changes nothing but the store itself. -/
def InStore (a : Act (SharedStore τ) α) : Prop :=
  ∀ s, ∃ store, (a.attempt s).2 = { s with store := store }

theorem inStore_use (a : Act Store α) : InStore ((queue : Access (SharedStore τ)).use a) :=
  fun _ => ⟨_, rfl⟩

theorem InStore.bind_pure {a : Act (SharedStore τ) α} (ha : InStore a)
    {k : α → Act (SharedStore τ) β} {f : α → β} (hk : ∀ x s, (k x).attempt s = (.ok (f x), s)) :
    InStore (a >>= k) := by
  intro s
  rw [Act.snd_attempt_bind_of_pure hk]
  exact ha s

theorem inStore_push (action : Action) (id : Value) (kind : String) :
    InStore (τ := τ) (queue.push (.text action.name) id (.text kind)) := by
  rw [Access.push, Action.read_name]
  exact (inStore_use (Store.push action id (.text kind))).bind_pure fun _ _ => rfl

theorem inStore_claim : InStore (τ := τ) queue.claim :=
  (inStore_use Store.claim).bind_pure (f := batch) fun _ _ => rfl

theorem inStore_flush : InStore (τ := τ) queue.flush :=
  (inStore_use Store.flush).bind_pure (f := id) fun _ _ => rfl

theorem inStore_requeue : InStore (τ := τ) queue.requeue :=
  (inStore_use Store.requeue).bind_pure (f := id) fun _ _ => rfl

/-- What is recorded of an action that succeeded. -/
theorem recorded_eq_ok {σ : Type} {a : Act (SharedStore σ) α} {event : α → Call}
    {s s' : SharedStore σ} {x : α}
    (h : (recorded a event).attempt s = (.ok x, s')) :
    ∃ s₁, a.attempt s = (.ok x, s₁) ∧
      s' = { s₁ with moments := s₁.moments ++ [(event x, s₁.store.table)] } := by
  obtain ⟨y, s₁, ha, h⟩ := Act.attempt_bind_eq_ok_iff.1 h
  cases h
  exact ⟨s₁, ha, rfl⟩

/-- **What others do to the queue** is recorded if it succeeds; otherwise it leaves the table. -/
theorem goes_recorded {a : Act (SharedStore (StoreWithUploads τ)) α}
    {Q : α → Table → Table → Prop} {call : Call} (ha : InStore a) (hd : Does a Q)
    (hcall : call.ofOthers) (hQ : ∀ x t t', Q x t t' → t.Moved t' [call])
    (s : SharedStore (StoreWithUploads τ)) :
    Goes typeField s ((recorded a fun _ => call).attempt s).2 0 0 := by
  obtain ⟨store, hstore⟩ := ha s
  have htable := hd s.moments s.store.table s ⟨rfl, rfl⟩
  rw [recorded, Act.attempt_bind]
  rcases hx : a.attempt s with ⟨f | x, s'⟩ <;> rw [hx] at hstore htable <;> subst hstore
  · exact .same rfl rfl htable.2
  · obtain ⟨t', hmoved, -, rfl⟩ := htable
    have hmoved := hQ x _ _ hmoved
    cases call with
    | pushed i => exact Goes.one (.pushed i) rfl trivial (List.append_nil _).symm trivial hmoved
    | requeued => exact Goes.one .requeued rfl trivial (List.append_nil _).symm trivial hmoved
    | _ => exact hcall.elim

/-- **Nothing is brought in or deleted by others.** -/
theorem goes_happen (s : SharedStore (StoreWithUploads τ)) (h : Happening) :
    Goes typeField s (s.happen h) 0 0 := by
  cases h with
  | push action id kind =>
    refine goes_recorded (inStore_push action id kind) (does_push action id kind) (by trivial) ?_ s
    rintro _ t _ ⟨time, rfl⟩
    exact t.moved_push _ time
  | requeue =>
    refine goes_recorded inStore_requeue does_requeue (by trivial) ?_ s
    rintro _ t _ rfl
    exact t.moved_requeue
  | tick clock => exact .same rfl rfl rfl
  | obstruct obstacles => exact .same rfl rfl rfl

theorem goes_foldl_happen (hs : List Happening) (s : SharedStore (StoreWithUploads τ)) :
    Goes typeField s (hs.foldl happen s) 0 0 := by
  induction hs generalizing s with
  | nil => exact .same rfl rfl rfl
  | cons h hs ih => exact (goes_happen s h).trans (ih (s.happen h))

variable (typeField) in
/-- **Before a call that succeeds others go first**, and then it is recorded. -/
theorem call_eq_ok {a : Act (SharedStore (StoreWithUploads τ)) α} {event : α → Call} {x : α}
    (h : (call a event).attempt s = (.ok x, s')) :
    ∃ s₁, Goes typeField s s₁ 0 0 ∧ (recorded a event).attempt s₁ = (.ok x, s') := by
  obtain ⟨_, s₁, hinterlude, h⟩ := Act.attempt_bind_eq_ok_iff.1 h
  cases hinterlude
  have hfirst : Goes typeField s { s with schedule := s.schedule.tail } 0 0 := .same rfl rfl rfl
  exact ⟨_, hfirst.trans (goes_foldl_happen _ _), h⟩

/-! ### What the run does -/

section Run

variable {b : Backend τ} {registry : Registry} {size : Value} {n : Nat}

/-- **A batch that was sent** was uploaded, unless it is empty. -/
theorem uploads_of_send (kind : Value) {documents : List Document} {d d' : StoreWithUploads τ}
    (hsend : (discard ((StoreWithUploads.gateway b typeField).send kind documents)).attempt d =
      (.ok (), d')) :
    d'.uploads = d.uploads ++
      ([documents].filter fun batch => !batch.isEmpty).map (List.map Document.toValue) := by
  obtain ⟨response, h⟩ := Act.attempt_discard_eq_ok_iff.1 hsend
  cases documents with
  | nil =>
    cases h
    exact (List.append_nil _).symm
  | cons first documents =>
    obtain ⟨_, d₁, hnote, hrest⟩ := Act.attempt_bind_eq_ok_iff.1 h
    obtain ⟨fields, d₂, hupload, hlast⟩ := Act.attempt_bind_eq_ok_iff.1 hrest
    obtain ⟨_, d₃, hrecord, hown⟩ := Act.attempt_bind_eq_ok_iff.1 hupload
    cases hnote
    cases hrecord
    cases hlast
    obtain ⟨-, rfl⟩ := Prod.mk.inj hown
    rfl

/-- The courier of a queue that others use too, and of an index. -/
def courier (b : Backend τ) (typeField : Value) (registry : Registry) (size : Value) :
    Courier (SharedStore (StoreWithUploads τ)) :=
  (Courier.ofParts StoreWithUploads.queue (StoreWithUploads.gateway b typeField) registry
    size).onShared

/-- **A call to the consumer's own parts.** -/
theorem goes_own (event : α → Call) {a : Act (StoreWithUploads τ) α} {x : α}
    (hbetween : (event x).between) (hpush : pushesOf [event x] = [])
    (ha : ∀ d d', a.attempt d = (.ok x, d') →
      (event x).Built typeField ∧ d'.uploads = d.uploads ++ uploadsFor typeField [event x])
    (h : (call (inOwn a) event).attempt s = (.ok x, s')) :
    Goes typeField s s' (event x).brought (event x).removed := by
  obtain ⟨s₁, hothers, hcall⟩ := call_eq_ok typeField h
  obtain ⟨s₂, hown, rfl⟩ := recorded_eq_ok hcall
  rw [inOwn, Act.within, Act.attempt_ofStep] at hown
  rcases hx : a.attempt s₁.own with ⟨outcome, own⟩
  rw [hx] at hown
  cases hown
  obtain ⟨hbuilt, huploads⟩ := ha s₁.own own hx
  rw [← Nat.zero_add (event x).brought, ← Nat.zero_add (event x).removed]
  exact hothers.trans (.one (event x) rfl hbetween huploads hbuilt (.same hpush))

theorem goes_note {note : Log.Note} {u : Unit}
    (h : ((courier b typeField registry size).note note).attempt s = (.ok u, s')) :
    Goes typeField s s' 0 0 := by
  cases h
  exact .same rfl rfl rfl

theorem goes_lookup {kind : String} {repository : Repository}
    (h : ((courier b typeField registry size).lookup kind).attempt s = (.ok repository, s')) :
    Goes typeField s s' 0 0 := by
  refine goes_own (Call.found kind) trivial rfl (fun d d' hd => ?_) h
  obtain ⟨-, rfl⟩ := Prod.mk.inj hd
  exact ⟨trivial, (List.append_nil _).symm⟩

theorem goes_fetch {repository : Repository} {ids : List String} {records : List Record}
    (h : ((courier b typeField registry size).fetch repository ids).attempt s =
      (.ok records, s')) : Goes typeField s s' 0 0 := by
  refine goes_own (Call.fetched repository ids) trivial rfl (fun d d' hd => ?_) h
  obtain ⟨-, rfl⟩ := Prod.mk.inj hd
  exact ⟨trivial, (List.append_nil _).symm⟩

theorem goes_update {kind : String} {records : List Record} {repository : Repository} {u : Unit}
    (h : ((courier b typeField registry size).update kind records repository).attempt s =
      (.ok u, s')) : Goes typeField s s' records.length 0 := by
  refine goes_own (fun _ => Call.updated kind records repository) trivial rfl
    (fun d d' hd => ?_) h
  obtain ⟨response, hsent⟩ := Act.attempt_discard_eq_ok_iff.1 hd
  obtain ⟨documents, d₁, hbuild, hsend⟩ := Act.attempt_bind_eq_ok_iff.1 hsent
  obtain ⟨hdocuments, rfl⟩ := Prod.mk.inj hbuild
  have hdocuments : buildDocuments typeField (.text kind) records repository = .ok documents :=
    hdocuments
  refine ⟨⟨documents, hdocuments⟩, ?_⟩
  have hcall : (Call.updated kind records repository).documents typeField = documents := by
    rw [Call.documents, hdocuments]
  rw [uploads_of_send _ (Act.attempt_discard_eq_ok_iff.2 ⟨response, hsend⟩), uploadsFor,
    List.map_singleton, hcall]

theorem goes_delete {kind : String} {ids : List String} {u : Unit}
    (h : ((courier b typeField registry size).delete kind ids).attempt s = (.ok u, s')) :
    Goes typeField s s' 0 ids.length := by
  refine goes_own (fun _ => Call.deleted kind ids) trivial rfl
    (fun d d' hd => ⟨trivial, uploads_of_send (.text kind) hd⟩) h

/-- **The records of some chunks** are counted as they are brought in. -/
theorem goes_updateChunks {kind : String} {repository : Repository} {chunks : List (List String)}
    (h : ((courier b typeField registry size).updateChunks kind repository chunks).attempt s =
      (.ok n, s')) : Goes typeField s s' n 0 := by
  induction chunks generalizing s n with
  | nil =>
    cases h
    exact .same rfl rfl rfl
  | cons ids chunks ih =>
    obtain ⟨records, s₁, hfetch, h₁⟩ := Act.attempt_bind_eq_ok_iff.1 h
    have hfetched := goes_fetch hfetch
    split at h₁
    · obtain ⟨_, s₂, hnote, h₂⟩ := Act.attempt_bind_eq_ok_iff.1 h₁
      have hrest := hfetched.trans ((goes_note hnote).trans (ih h₂))
      rwa [Nat.zero_add, Nat.zero_add] at hrest
    · obtain ⟨_, s₂, hupdate, h₂⟩ := Act.attempt_bind_eq_ok_iff.1 h₁
      obtain ⟨m, s₃, hrest, hsum⟩ := Act.attempt_bind_eq_ok_iff.1 h₂
      cases hsum
      have hgoes := hfetched.trans ((goes_update hupdate).trans (ih hrest))
      rwa [Nat.zero_add] at hgoes

theorem goes_deleteChunks {kind : String} {chunks : List (List String)} {u : Unit}
    (h : ((courier b typeField registry size).deleteChunks kind chunks).attempt s = (.ok u, s')) :
    Goes typeField s s' 0 chunks.flatten.length := by
  induction chunks generalizing s with
  | nil =>
    cases h
    exact .same rfl rfl rfl
  | cons ids chunks ih =>
    obtain ⟨_, s₁, hdelete, h₁⟩ := Act.attempt_bind_eq_ok_iff.1 h
    rw [List.flatten_cons, List.length_append]
    exact (goes_delete hdelete).trans (ih h₁)

/-- What an action counts for: the records that were brought in, or the deletions. -/
def counts : Action → Nat → Nat × Nat
  | .update, n => (n, 0)
  | .delete, n => (0, n)

/-- **The number of a group** is what was done for it. -/
theorem goes_perform {a : Action} {kind : String} {ids : List String}
    (h : ((courier b typeField registry size).perform a kind ids).attempt s = (.ok n, s')) :
    Goes typeField s s' (counts a n).1 (counts a n).2 := by
  cases a with
  | update =>
    obtain ⟨repository, s₁, hlookup, h₁⟩ := Act.attempt_bind_eq_ok_iff.1 h
    obtain ⟨chunks, s₂, hchunks, h₂⟩ := Act.attempt_bind_eq_ok_iff.1 h₁
    obtain ⟨-, rfl⟩ := Prod.mk.inj hchunks
    have hgoes := (goes_lookup hlookup).trans (goes_updateChunks h₂)
    rwa [Nat.zero_add, Nat.zero_add] at hgoes
  | delete =>
    obtain ⟨chunks, s₁, hchunks, h₁⟩ := Act.attempt_bind_eq_ok_iff.1 h
    obtain ⟨hflatten, rfl⟩ := Prod.mk.inj hchunks
    obtain ⟨_, s₂, hdelete, hlength⟩ := Act.attempt_bind_eq_ok_iff.1 h₁
    cases hlength
    rw [← Entity.flatten_of_chunked hflatten]
    exact goes_deleteChunks hdelete

/-- **What the groups of an action add to a report** is what was done for them. -/
theorem performAll_eq_ok {a : Action} {groups : List (String × List Entry)}
    {report report' : Report}
    (h : ((courier b typeField registry size).performAll a groups report).attempt s =
      (.ok report', s')) :
    ∃ sent, Goes typeField s s' (counts a sent).1 (counts a sent).2 ∧
      report' = report.withGroups a (idsByKind groups) sent := by
  induction groups generalizing s report with
  | nil =>
    cases h
    refine ⟨0, ?_, (Report.withGroups_nil _ a).symm⟩
    cases a <;> exact .same rfl rfl rfl
  | cons g groups ih =>
    obtain ⟨_, s₁, hnote, h₁⟩ := Act.attempt_bind_eq_ok_iff.1 h
    obtain ⟨m, s₂, hperform, h₂⟩ := Act.attempt_bind_eq_ok_iff.1 h₁
    obtain ⟨sent, hrest, rfl⟩ := ih h₂
    refine ⟨m + sent, ?_, ?_⟩
    · have hgoes := (goes_note hnote).trans ((goes_perform hperform).trans hrest)
      cases a <;> simpa [counts] using hgoes
    · exact Report.withGroups_withGroup report a g.1 (g.2.map (·.intent.id)) _ m sent

theorem lawful_queue : (queue : Access (SharedStore τ)).Lawful where
  table_withStore _ _ := rfl
  table_note _ _ := rfl

variable (typeField) in
/-- A call to the queue is recorded behind what others did before it. -/
theorem call_queue_eq_ok {a : Act (SharedStore (StoreWithUploads τ)) α} (ha : InStore a)
    {event : α → Call} {x : α}
    (h : (call a event).attempt s = (.ok x, s')) :
    ∃ s₁ store, Goes typeField s s₁ 0 0 ∧ a.attempt s₁ = (.ok x, { s₁ with store := store }) ∧
      s' = { s₁ with store := store, moments := s₁.moments ++ [(event x, store.table)] } := by
  obtain ⟨s₁, hothers, hcall⟩ := call_eq_ok typeField h
  obtain ⟨s₂, hqueue, rfl⟩ := recorded_eq_ok hcall
  obtain ⟨store, hstore⟩ := ha s₁
  rw [hqueue] at hstore
  obtain rfl : s₂ = { s₁ with store := store } := hstore
  exact ⟨s₁, store, hothers, hqueue, rfl⟩

/-- **A run between two moments of a shared store**: what went on before it claimed the table `t`,
and then before it flushed the table `t'`. -/
structure Ran (typeField : Value) (s s' : SharedStore (StoreWithUploads τ)) (before : List Call)
    (t : Table) (during : List Call) (t' : Table) : Prop where
  moments : s'.moments.map Prod.fst =
    s.moments.map Prod.fst ++ (before ++ .claimed (batch t.claim) :: (during ++ [.flushed]))
  between : ∀ call ∈ before ++ during, call.between
  uploads : s'.own.uploads = s.own.uploads ++ uploadsFor typeField (before ++ during)
  built : ∀ call ∈ before ++ during, call.Built typeField
  idle : (before.map Call.brought).sum = 0 ∧ (before.map Call.removed).sum = 0
  nodup : s.store.table.intents.Nodup → t.intents.Nodup
  moved : t.claim.Moved t' during

/-- **A run that succeeds** reports what it was asked for, and what was done for it. What others do
before the claim comes first; what they do before the flush belongs to what is between. -/
theorem run_eq_ok {report : Report}
    (h : (courier b typeField registry size).run.attempt s = (.ok report, s')) :
    ∃ before t during t', Ran typeField s s' before t during t' ∧
      report = {
        claimed := t.length
        updated := (during.map Call.brought).sum
        deleted := (during.map Call.removed).sum
        flushed := t'.count .running
        groups := reported .update (t.groupsFor .update) ++
          reported .delete (t.groupsFor .delete) } := by
  obtain ⟨claimed, s₂, hclaim, h₂⟩ := Act.attempt_bind_eq_ok_iff.1 h
  obtain ⟨updates, s₃, hupdates, h₃⟩ := Act.attempt_bind_eq_ok_iff.1 h₂
  obtain ⟨deletions, s₄, hdeletions, h₄⟩ := Act.attempt_bind_eq_ok_iff.1 h₃
  obtain ⟨flushed, s₅, hflush, hreport⟩ := Act.attempt_bind_eq_ok_iff.1 h₄
  cases hreport
  obtain ⟨s₁, store, ⟨before, hbefore, hidle⟩, hclaimed, rfl⟩ :=
    call_queue_eq_ok typeField inStore_claim hclaim
  obtain ⟨rfl, htable⟩ := Access.claim_eq_ok lawful_queue hclaimed
  obtain ⟨updated, hupdated, rfl⟩ := performAll_eq_ok hupdates
  obtain ⟨deleted, hdeleted, rfl⟩ := performAll_eq_ok hdeletions
  obtain ⟨s₅, store', hothers, hflushed, rfl⟩ := call_queue_eq_ok typeField inStore_flush hflush
  obtain ⟨rfl, -⟩ := Access.flush_eq_ok lawful_queue hflushed
  obtain ⟨during, hduring, hbrought, hremoved⟩ := (hupdated.trans hdeleted).trans hothers
  have htable : store.table = s₁.store.table.claim := htable
  refine ⟨before, s₁.store.table, during, s₅.store.table, ?_, ?_⟩
  · constructor
    · simp only [List.map_append, hduring.moments, hbefore.moments, List.append_assoc]
      rfl
    · intro call hcall
      exact (List.mem_append.1 hcall).elim (hbefore.between call) (hduring.between call)
    · rw [uploadsFor_append, ← List.append_assoc, ← hbefore.uploads]
      exact hduring.uploads
    · intro call hcall
      exact (List.mem_append.1 hcall).elim (hbefore.built call) (hduring.built call)
    · exact hidle
    · exact hbefore.moved.nodup
    · rw [← htable]
      exact hduring.moved
  · rw [hbrought, hremoved, ← idsByKind_batch, ← idsByKind_batch, ← length_batch s₁.store.table]
    simp only [Report.withGroups, counts, Nat.add_zero, Nat.zero_add, List.nil_append]
    rfl

end Run

end SharedStore

/-! ## What happened -/

/-- **A report is what happened**: it says how many operations of either name were uploaded, how
many entries the groups have, and how many of the claimed entries were not pushed again. -/
structure Report.Accounts (report : Report) (uploads : List (List Value)) (entries : List Entry)
    (pushed : List Intent) : Prop where
  updated : report.updated = operations "add" uploads
  deleted : report.deleted = operations "delete" uploads
  claimed : report.claimed = (report.groups.map fun g => g.2.2).sum
  flushed : report.flushed + entries.countP (fun e => e.intent ∈ pushed) = report.claimed

section Counters

variable {t t' : Table}

theorem sum_reported (a : Action) (groups : List (String × List String)) :
    ((reported a groups).map fun g => g.2.2).sum = (groups.flatMap Prod.snd).length := by
  rw [reported, List.map_map, List.length_flatMap]
  rfl

/-- **The groups of a report have all the entries** of the table. -/
theorem sum_reported_groupsFor (t : Table) :
    ((reported .update (t.groupsFor .update) ++ reported .delete (t.groupsFor .delete)).map
      fun g => g.2.2).sum = t.length := by
  have hrest : t.filter (fun e => !(e.intent.action == .update)) =
      t.filter fun e => e.intent.action == .delete := by
    refine List.filter_congr fun e _ => ?_
    cases e.intent.action <;> rfl
  rw [List.map_append, List.sum_append, sum_reported, sum_reported,
    (t.flatMap_groupsFor_perm .update).length_eq, (t.flatMap_groupsFor_perm .delete).length_eq,
    Table.idsFor, Table.idsFor, List.length_map, List.length_map,
    List.length_eq_length_filter_add (fun e => e.intent.action == .update) (l := t), hrest]

/-- **What was claimed still runs**, unless it was pushed again. -/
theorem count_running_add {during : List Call} (ht : t.intents.Nodup)
    (h : t.claim.Moved t' during) (hrequeued : .requeued ∉ during) :
    t'.count .running +
      ((batch t.claim).flatMap Prod.snd).countP (fun e => e.intent ∈ pushesOf during) =
        t.length := by
  have hclaim : t.claim.intents.Nodup := by
    rw [Table.claim, Table.intents_mark]
    exact ht
  have hperm : ((batch t.claim).flatMap Prod.snd).Perm t.claim := Keyed.flatMap_group_perm
  have hlength : t.claim.length = t.length := List.length_map _
  rw [Table.count, h.running hclaim hrequeued, Table.withStatus_running_claim, hperm.countP_eq,
    ← List.countP_eq_length_filter, ← hlength, Nat.add_comm]
  rw [List.length_eq_countP_add_countP fun e : Entry => decide (e.intent ∈ pushesOf during)]
  simp only [decide_not, Bool.decide_eq_true]

end Counters

/-- **No hollow record is counted** if none is brought in. -/
theorem sum_hollow_eq_zero_iff {calls : List Call} :
    (calls.map Call.hollow).sum = 0 ↔
      ∀ kind records repository, .updated kind records repository ∈ calls →
        ∀ record ∈ records, repository.hollow record = false := by
  rw [List.sum_eq_zero_iff_forall_eq_nat]
  simp only [List.forall_mem_map]
  constructor
  · intro h kind records repository hcall record hrecord
    exact Bool.eq_false_iff.2 (List.countP_eq_zero.1 (h _ hcall) record hrecord)
  · intro h call hcall
    cases call with
    | updated kind records repository =>
      refine List.countP_eq_zero.2 fun record hrecord => ?_
      rw [h kind records repository hcall record hrecord]
      exact Bool.false_ne_true
    | _ => rfl

/-- **When the report of a run is what happened**, whatever others do to the queue before each of
its calls. Only the number of records that were brought in can be more than was uploaded, by the
records whose document counts as nothing. -/
theorem SharedStore.accounts_iff {τ : Type} (b : Backend τ) (typeField : Value)
    (registry : Registry) (size : Value) {s s' : SharedStore (StoreWithUploads τ)} {report : Report}
    (hn : s.store.table.intents.Nodup)
    (h : (courier b typeField registry size).run.attempt s = (.ok report, s')) :
    ∃ before claimed during uploads,
      s'.moments.map Prod.fst = s.moments.map Prod.fst ++
        (before ++ .claimed claimed :: (during ++ [.flushed])) ∧
      (∀ call ∈ before ++ during, call.between) ∧ s'.own.uploads = s.own.uploads ++ uploads ∧
      report.updated = operations "add" uploads + (during.map Call.hollow).sum ∧
      (.requeued ∉ during →
        Report.Accounts { report with updated := operations "add" uploads } uploads
            (claimed.flatMap Prod.snd) (pushesOf during) ∧
          (report.Accounts uploads (claimed.flatMap Prod.snd) (pushesOf during) ↔
            ∀ kind records repository, .updated kind records repository ∈ during →
              ∀ record ∈ records, repository.hollow record = false)) := by
  obtain ⟨before, t, during, t', hran, rfl⟩ := run_eq_ok h
  obtain ⟨hadd, hdelete⟩ := operations_uploadsFor hran.built
  obtain ⟨hbrought, hremoved⟩ := hran.idle
  have hidle : (before.map Call.hollow).sum = 0 := by
    have hbuilt := (List.forall_mem_append.1 hran.built).1
    have := (operations_uploadsFor hbuilt).1
    omega
  simp only [List.map_append, List.sum_append, hbrought, hremoved, hidle, Nat.zero_add]
    at hadd hdelete
  refine ⟨before, _, during, _, hran.moments, hran.between, hran.uploads, hadd.symm, ?_⟩
  intro hrequeued
  have hflushed := count_running_add (hran.nodup hn) hran.moved hrequeued
  have hclaimed := (sum_reported_groupsFor t).symm
  refine ⟨⟨rfl, hdelete.symm, hclaimed, hflushed⟩, ?_⟩
  rw [← sum_hollow_eq_zero_iff]
  constructor
  · intro hall
    have hupdated : (during.map Call.brought).sum = _ := hall.updated
    omega
  · intro hzero
    rw [hzero, Nat.add_zero] at hadd
    exact ⟨hadd.symm, hdelete.symm, hclaimed, hflushed⟩

namespace SharedStore

/-- A backend that accepts every batch. -/
def accepting : Backend Unit := ⟨fun _ => pure .null, fun _ => pure [], fun _ => pure ()⟩

/-- A run over articles one by one, of which attributes with some names are indexed. -/
def articleRun (names : List Value.Key) (s : SharedStore (StoreWithUploads Unit)) :
    Except Failure Report × SharedStore (StoreWithUploads Unit) :=
  let source : Entity.Source := {
    records := [.map [("id", .int 1), ("title", .text "A")], .map [("id", .int 3)]]
    indexed := .fields names }
  let registry : Registry := Keyed.put (.text "Article") source.repository []
  (courier accepting (.text "searchable_type") registry (.int 1)).run.attempt s

/-- A queue with two updates, one of them claimed before, and a deletion. The first update is asked
for again while it is done. -/
def repeating : SharedStore (StoreWithUploads Unit) where
  own := { own := () }
  store := { table := [⟨⟨"1", "Article", .update⟩, .waiting, 0⟩,
    ⟨⟨"2", "Article", .delete⟩, .waiting, 0⟩, ⟨⟨"3", "Article", .update⟩, .running, 0⟩] }
  schedule := [[], [], [], [.push .update (.int 1) "Article"]]

theorem accounts_of_repeating :
    ∃ report s' before claimed during, articleRun ["title"] repeating = (.ok report, s') ∧
      report = ⟨3, 2, 1, 2, [(.update, "Article", 2), (.delete, "Article", 1)]⟩ ∧
      s'.moments.map Prod.fst = before ++ .claimed claimed :: (during ++ [.flushed]) ∧
      report.Accounts s'.own.uploads (claimed.flatMap Prod.snd) (pushesOf during) := by
  have hreport : (articleRun ["title"] repeating).1.toOption =
      some ⟨3, 2, 1, 2, [(.update, "Article", 2), (.delete, "Article", 1)]⟩ := by
    decide +kernel
  have hmoments : ∀ m ∈ (articleRun ["title"] repeating).2.moments,
      m.1.hollow = 0 ∧ (m.1.errand.isSome ∨ pushesOf [m.1] ≠ []) := by
    decide +kernel
  rcases hrun : articleRun ["title"] repeating with ⟨f | report, s'⟩ <;>
    rw [hrun] at hreport hmoments
  · cases hreport
  · obtain ⟨before, claimed, during, uploads, hcalls, -, huploads, -, hhappened⟩ :=
      accounts_iff _ _ _ _ (by decide : repeating.store.table.intents.Nodup) hrun
    obtain rfl : s'.own.uploads = uploads := huploads
    have hduring : ∀ call ∈ during,
        call.hollow = 0 ∧ (call.errand.isSome ∨ pushesOf [call] ≠ []) := by
      intro call hcall
      have hmem : call ∈ s'.moments.map Prod.fst := by
        rw [hcalls]
        simp [hcall]
      obtain ⟨m, hm, rfl⟩ := List.mem_map.1 hmem
      exact hmoments m hm
    obtain ⟨-, hiff⟩ := hhappened fun hrequeued => by
      simpa [Call.errand, pushesOf] using (hduring _ hrequeued).2
    refine ⟨report, s', before, claimed, during, rfl, Option.some.inj hreport, hcalls, ?_⟩
    refine hiff.2 (sum_hollow_eq_zero_iff.1 (List.sum_eq_zero_iff_forall_eq_nat.2 ?_))
    exact List.forall_mem_map.2 fun call hcall => (hduring call hcall).1

/-- An article without anything that is indexed is counted, and nothing of it is uploaded. -/
theorem not_accounts_of_hollow :
    let s : SharedStore (StoreWithUploads Unit) :=
      { own := { own := () }, store := { table := [⟨⟨"1", "Article", .update⟩, .waiting, 0⟩] } }
    ∃ report s', articleRun [] s = (.ok report, s') ∧
      ∀ claimed pushed, ¬ report.Accounts s'.own.uploads claimed pushed := by
  intro s
  have hreport : (articleRun [] s).1.toOption.map Report.updated = some 1 := by decide +kernel
  have huploads : (articleRun [] s).2.own.uploads = [] := by decide +kernel
  rcases hrun : articleRun [] s with ⟨f | report, s'⟩ <;> rw [hrun] at hreport huploads
  · cases hreport
  · refine ⟨report, s', rfl, fun claimed pushed h => ?_⟩
    have hone : report.updated = 1 := Option.some.inj hreport
    have hnone := h.updated
    rw [hone, huploads] at hnone
    cases hnone

end SharedStore

end Queue

end SearchIndex
