import Mathlib.Data.List.Nodup
import SearchIndex.Command.Reindexing
import SearchIndex.Index.Rehearsal
import SearchIndex.Proofs.Changes
import SearchIndex.Proofs.Chunks
import SearchIndex.Proofs.Couriers

/-!
# Two ways into the index

All records of a kind get into the index by reindexing, chunk by chunk. They also get there through
the queue, when an update of each of them is asked for and a run is made. With chunks of one size
both ways upload the same batches in the same order, whatever the backend answers, and if one of
them fails the other one does, too.

## Main definitions

* `Act.Along R a b`: two actions that fail alike and keep worlds related
* `Repository.Lists r records keyOf`: a repository that lists records and finds them by their keys
* `StoreWithUploads τ`: a world in which every upload is recorded
* `StoreWithUploads.Beside`: worlds in which the same was uploaded

## Main results

* `Act.Along.bind`, `Act.Along.after_left`, `Act.Along.after_right`: the rules for such actions
* `StoreWithUploads.along_sendAll`: the chunks of records and the chunks of their ids
* `StoreWithUploads.attempt_tellAll`, `StoreWithUploads.attempt_run`: what the queue holds, and what
  a run claims of it
* `StoreWithUploads.same_uploads`: the two ways agree
-/

namespace SearchIndex

namespace Act

variable {σ τ α β γ δ : Type} {R : σ → τ → Prop}

/-- **Two actions go along with each other**: from related worlds one fails as the other does, and
the worlds they leave are related. -/
def Along (R : σ → τ → Prop) (a : Act σ α) (b : Act τ β) : Prop :=
  ∀ s t, R s t → (∀ f, (a.attempt s).1 = .error f ↔ (b.attempt t).1 = .error f) ∧
    R (a.attempt s).2 (b.attempt t).2

/-- Two outcomes fail alike if both give a result. -/
theorem fails_iff_of_ok {out : Except Failure α} {other : Except Failure β} {x : α} {y : β}
    (h : out = .ok x) (ho : other = .ok y) (f : Failure) : out = .error f ↔ other = .error f := by
  subst h ho
  simp

theorem along_pure (x : α) (y : β) : Along R (pure x) (pure y) :=
  fun _ _ h => ⟨fails_iff_of_ok rfl rfl, h⟩

theorem Alike.along {R : σ → σ → Prop} {a : Act σ α} (h : Alike R a) : Along R a a := by
  intro s t hR
  obtain ⟨hout, hR⟩ := h s t hR
  exact ⟨fun f => by rw [hout], hR⟩

theorem Along.bind {a : Act σ α} {b : Act τ β} {k : α → Act σ γ} {m : β → Act τ δ}
    (h : Along R a b) (hk : ∀ x y, Along R (k x) (m y)) : Along R (a >>= k) (b >>= m) := by
  intro s t hR
  obtain ⟨hout, hR⟩ := h s t hR
  rw [attempt_bind, attempt_bind]
  rcases hs : attempt a s with ⟨f | x, s'⟩ <;> rcases ht : attempt b t with ⟨g | y, t'⟩ <;>
    rw [hs, ht] at hout hR
  · obtain rfl : g = f := Except.error.inj ((hout f).1 rfl)
    exact ⟨fun _ => by simp, hR⟩
  · nomatch (hout f).1 rfl
  · nomatch (hout g).2 rfl
  · exact hk x y s' t' hR

/-- An action that shows nothing may go first. -/
theorem Along.after_left {a : Act σ α} {k : α → Act σ γ} {b : Act τ β}
    (ha : Along R a (pure () : Act τ Unit)) (hk : ∀ x, Along R (k x) b) : Along R (a >>= k) b :=
  ha.bind fun x _ => hk x

theorem Along.after_right {a : Act σ α} {b : Act τ β} {m : β → Act τ γ}
    (hb : Along R (pure () : Act σ Unit) b) (hm : ∀ y, Along R a (m y)) : Along R a (b >>= m) :=
  hb.bind fun _ y => hm y

/-- What becomes of the result does not matter. -/
theorem Along.result_right {a : Act σ α} {b : Act τ β} (h : Along R a b) (f : β → γ) :
    Along R a (b >>= fun y => pure (f y)) := by
  have hbind : Along R (a >>= fun x => pure x) (b >>= fun y => pure (f y)) :=
    h.bind fun x y => along_pure x (f y)
  rwa [bind_pure] at hbind

end Act

open Act (Along)
open Command (Reindexing)
open Entity (Record Repository Registry slices)
open Index (Backend Gateway)
open Queue (Access Action Change Courier Entry Intent Report Store Table)

/-- **A repository that lists records**, whose keys tell them apart, and finds them by their keys,
in the order that is asked for. -/
structure Entity.Repository.Lists (r : Repository) (records : List Record)
    (keyOf : Record → Value) : Prop where
  all : r.all = .ok records
  key : ∀ record ∈ records, r.key record = .ok (keyOf record)
  distinct : (records.map fun record => (keyOf record).plain).Nodup
  fetch : ∀ found ⊆ records,
    r.fetch (found.map fun record => .text (keyOf record).plain) = .ok found

namespace Entity.Source

theorem filterAuxM_of_ok {α : Type} {p : α → Except Failure Bool} {q : α → Bool} {l : List α}
    (h : ∀ a ∈ l, p a = .ok (q a)) (collected : List α) :
    l.filterAuxM p collected = .ok ((l.filter q).reverse ++ collected) := by
  induction l generalizing collected with
  | nil => rfl
  | cons a l ih =>
    obtain ⟨ha, hl⟩ := List.forall_mem_cons.1 h
    simp only [List.filterAuxM, ha, bind, Except.bind, ih hl]
    cases hq : q a <;> simp [hq]

/-- Where a function tells the items of a list apart, one of them has its value. -/
theorem filter_eq_singleton {α β : Type} [DecidableEq β] {f : α → β} {l : List α} {a : α}
    (hn : (l.map f).Nodup) (ha : a ∈ l) : l.filter (fun x => some (f a) == some (f x)) = [a] := by
  induction l with
  | nil => exact (List.not_mem_nil ha).elim
  | cons b l ih =>
    obtain ⟨hb, hn⟩ := List.nodup_cons.1 hn
    rcases List.mem_cons.1 ha with rfl | ha
    · have hrest : ∀ x ∈ l, f a ≠ f x := fun x hx he => hb (he ▸ List.mem_map_of_mem hx)
      simpa [List.filter_eq_nil_iff] using hrest
    · have hne : f a ≠ f b := fun he => hb (he ▸ List.mem_map_of_mem ha)
      simpa [hne] using ih hn ha

variable {s : Source} {keyOf : Record → Value}

/-- One record has the key of a record, if the keys tell the records apart. -/
theorem recordsWith_key (hk : ∀ record ∈ s.records, s.keyOf record = .ok (keyOf record))
    (hd : (s.records.map fun record => (keyOf record).plain).Nodup) {record : Record}
    (hm : record ∈ s.records) : s.recordsWith (.text (keyOf record).plain) = .ok [record] := by
  have hp : ∀ x ∈ s.records, (do
      let key ← s.keyOf x
      return (Value.text (keyOf record).plain).text? == some key.plain : Except Failure Bool) =
        .ok (some (keyOf record).plain == some (keyOf x).plain) := by
    intro x hx
    rw [hk x hx]
    rfl
  rw [recordsWith, List.filterM, filterAuxM_of_ok hp, filter_eq_singleton hd hm]
  rfl

/-- **A source lists its records** and finds them by their keys, if these tell them apart. -/
theorem lists (hl : s.listed = true)
    (hk : ∀ record ∈ s.records, s.keyOf record = .ok (keyOf record))
    (hd : (s.records.map fun record => (keyOf record).plain).Nodup) :
    s.repository.Lists s.records keyOf where
  all := by simp [repository, hl]
  key := hk
  distinct := hd
  fetch found hsub := by
    have hall : (found.map fun record => Value.text (keyOf record).plain).mapM s.recordsWith =
        .ok (found.map fun record => [record]) := by
      induction found with
      | nil => rfl
      | cons record found ih =>
        obtain ⟨hm, hsub⟩ := List.cons_subset.1 hsub
        rw [List.map_cons, List.mapM_cons, recordsWith_key hk hd hm, ih hsub]
        rfl
    show s.fetch _ = _
    rw [fetch, hall]
    show Except.ok (found.map fun record => [record]).flatten = _
    rw [← List.flatMap_def, List.flatMap_singleton']

end Entity.Source

/-- **A store that is free**: nothing stands in its way, and its clock shows a time that can be
kept. -/
structure Queue.Store.Free (s : Store) : Prop where
  obstacles : s.obstacles = {}
  clock : ∃ time, s.clock.bind Value.integerOf = .ok time ∧ 0 ≤ time ∧ time < twoTo 63

/-- The store of a queue with the uploads, each of which is recorded, and the world of the
backend. -/
structure StoreWithUploads (τ : Type) where
  /-- The world of the backend. -/
  own : τ
  store : Store := {}
  /-- The batches that were uploaded so far, accepted or not. -/
  uploads : List (List Value) := []
  notes : List Log.Note := []

namespace StoreWithUploads

variable {τ α : Type} {b : Backend τ} {typeField : Value} {d e : StoreWithUploads τ}

def inOwn (a : Act τ α) : Act (StoreWithUploads τ) α :=
  a.within StoreWithUploads.own fun own d => { d with own := own }

def note (n : Log.Note) : Act (StoreWithUploads τ) Unit :=
  Act.ofStep fun d => (.ok (), { d with notes := d.notes ++ [n] })

/-- An upload is recorded before the backend sees it. -/
def upload (b : Backend τ) (documents : List Value) : Act (StoreWithUploads τ) Fields := do
  Act.ofStep fun d => (.ok (), { d with uploads := d.uploads ++ [documents] })
  inOwn (b.upload documents)

/-- **The gateway that records uploads**, to any backend. -/
def gateway (b : Backend τ) (typeField : Value) : Gateway (StoreWithUploads τ) where
  backend := ⟨fun compiled => inOwn (b.search compiled), upload b, note⟩
  typeField := typeField

/-- The queue of the store. -/
def queue : Access (StoreWithUploads τ) :=
  ⟨StoreWithUploads.store, fun store d => { d with store := store }, note⟩

/-- **Worlds in which the same was uploaded**, with the same world of the backend; nothing stands in
the way of the queue of the second one. -/
structure Beside (d e : StoreWithUploads τ) : Prop where
  own : d.own = e.own
  uploads : d.uploads = e.uploads
  obstacles : e.store.obstacles = {}

/-! ## What shows in the uploads -/

theorem Beside.note_left (n : Log.Note) :
    Along Beside (note n) (pure () : Act (StoreWithUploads τ) Unit) :=
  fun _ _ h => ⟨Act.fails_iff_of_ok rfl rfl, h.own, h.uploads, h.obstacles⟩

theorem Beside.note_right (n : Log.Note) :
    Along Beside (pure () : Act (StoreWithUploads τ) Unit) (note n) :=
  fun _ _ h => ⟨Act.fails_iff_of_ok rfl rfl, h.own, h.uploads, h.obstacles⟩

theorem alike_inOwn (a : Act τ α) : Act.Alike Beside (inOwn a) := by
  rintro d e ⟨hown, huploads, hobstacles⟩
  simp only [inOwn, Act.within, Act.attempt_ofStep, hown]
  exact ⟨trivial, rfl, huploads, hobstacles⟩

theorem alike_note (n : Log.Note) : Act.Alike Beside (note n : Act (StoreWithUploads τ) Unit) :=
  fun _ _ h => ⟨rfl, h.own, h.uploads, h.obstacles⟩

theorem alike_upload (b : Backend τ) (documents : List Value) :
    Act.Alike Beside (upload b documents) := by
  have hrecord : Act.Alike Beside (Act.ofStep fun d : StoreWithUploads τ =>
      (.ok (), { d with uploads := d.uploads ++ [documents] })) :=
    fun _ _ h => ⟨rfl, h.own, congrArg (· ++ [documents]) h.uploads, h.obstacles⟩
  exact hrecord.bind fun _ => alike_inOwn (b.upload documents)

/-- Records of a kind are brought into the index in the same way. -/
theorem alike_update (kind : Value) (records : List Record) (r : Repository) :
    Act.Alike Beside ((gateway b typeField).update kind records r) := by
  refine (Act.alike_ofExcept _).bind fun documents => ?_
  cases documents with
  | nil => exact Act.alike_pure none
  | cons first documents =>
    exact (alike_note _).bind fun _ => (alike_upload b _).bind fun _ => Act.alike_pure _

variable {r : Repository} {records : List Record} {keyOf : Record → Value} {registry : Registry}
  {kind : String}

/-- **The chunks of records and the chunks of their ids** are brought into the index alike. The
records that are fetched for the ids are those of the chunk. -/
theorem along_sendAll (hr : r.Lists records keyOf) {size : Value} (total : Nat)
    {chunks : List (List Record)} (hc : ∀ chunk ∈ chunks, chunk ≠ [] ∧ chunk ⊆ records) :
    Along Beside (Reindexing.bring.sendAll (gateway b typeField) kind r total chunks)
      ((Courier.ofParts queue (gateway b typeField) registry size).updateChunks kind r
        (chunks.map (List.map fun record => (keyOf record).plain))) := by
  induction chunks generalizing total with
  | nil => exact Act.along_pure _ _
  | cons chunk chunks ih =>
    obtain ⟨⟨hne, hsub⟩, hc⟩ := List.forall_mem_cons.1 hc
    have hfetch :
        r.fetch ((chunk.map fun record => (keyOf record).plain).map .text) = .ok chunk := by
      rw [List.map_map]
      exact hr.fetch chunk hsub
    have hupdate : Along Beside (Reindexing.bring.send (gateway b typeField) kind r chunk)
        ((Courier.ofParts queue (gateway b typeField) registry size).update kind chunk r) :=
      ((alike_update _ _ _).bind fun _ => Act.alike_pure ()).along
    have hempty : chunk.isEmpty = false := by simpa using hne
    rw [List.map_cons, Reindexing.sendAll, Courier.updateChunks]
    show Along Beside _ (Act.ofExcept (r.fetch _) >>= _)
    rw [Act.ofExcept_bind_of_eq_ok hfetch, hempty]
    refine hupdate.bind fun _ _ => (Beside.note_left _).after_left fun _ => ?_
    exact (ih _ hc).result_right _

/-- **All records and the entries for their ids** are brought into the index alike. -/
theorem along_performAll (hr : r.Lists records keyOf)
    (hget : registry.get (.text kind) = .ok r) (n : Nat) {entries : List Entry}
    (hkind : ∀ e ∈ entries, e.intent.kind = kind)
    (hids : entries.map (·.intent.id) = records.map fun record => (keyOf record).plain)
    (report : Report) :
    Along Beside (Reindexing.bring.sendAll (gateway b typeField) kind r 0 (slices n records))
      ((Courier.ofParts queue (gateway b typeField) registry (.int (n + 1 : Nat))).performAll
        .update (Queue.byKind entries) report) := by
  rcases eq_or_ne entries [] with rfl | hne
  · obtain rfl : records = [] := List.map_eq_nil_iff.1 hids.symm
    rw [Entity.slices_nil]
    exact Act.along_pure _ _
  · rw [Queue.byKind, Keyed.group_of_forall_eq hkind hne, Courier.performAll]
    refine (Beside.note_right _).after_right fun _ => ?_
    refine Along.result_right ?_ _
    show Along Beside _ (Act.ofExcept (registry.get _) >>= _)
    rw [Act.ofExcept_bind_of_eq_ok hget]
    show Along Beside _ (Act.ofExcept (Entity.chunked _ (.int (n + 1 : Nat))) >>= _)
    rw [Act.ofExcept_bind_of_eq_ok (Entity.chunked_int _), hids, Entity.slices_map]
    exact along_sendAll hr 0 fun chunk h => Entity.mem_slices h

/-! ## What the queue holds -/

theorem attempt_push (hd : d.store.Free) (a : Action) (key : Value) (kind : String) :
    ∃ e time, (queue.push (.text a.name) key (.text kind)).attempt d = (.ok (), e) ∧ Beside d e ∧
      e.store.Free ∧ e.store.table = d.store.table.push ⟨key.plain, kind, a⟩ time := by
  obtain ⟨ho, time, hc, h0, ht⟩ := hd
  have hpush : (Store.push a key (.text kind)).attempt (queue.store d) = _ :=
    Store.attempt_push_of_free ho hc h0 ht a key kind
  rw [Access.push, Act.ofExcept_bind_of_eq_ok (Action.read_name a), Act.attempt_bind, Access.use,
    Act.within, Act.attempt_ofStep, hpush]
  exact ⟨_, time, rfl, ⟨rfl, rfl, ho⟩, ⟨ho, time, hc, h0, ht⟩, rfl⟩

/-- **A free queue holds what it is told**, in that order if all of it is new. -/
theorem attempt_tellAll (hd : d.store.Free) {changes : List Change}
    (hn : (d.store.asked changes).Nodup) :
    ∃ e, (queue.tellAll changes).attempt d = (.ok (), e) ∧ Beside d e ∧
      e.store.table.intents = d.store.asked changes := by
  induction changes generalizing d with
  | nil => exact ⟨d, rfl, ⟨rfl, rfl, hd.obstacles⟩, by simp [Store.asked]⟩
  | cons c changes ih =>
    obtain ⟨key, hkey, htell⟩ := Queue.LawfulWithIndex.tell_eq_push (queue (τ := τ)) c
    obtain ⟨d', time, hpush, hbeside, hd', htable⟩ := attempt_push hd c.action key c.kind
    have hnew : c.intent ∉ d.store.table.intents := by
      intro h
      rw [Store.asked, List.nodup_append] at hn
      exact hn.2.2 _ h _ (List.mem_cons_self ..) rfl
    have hasked : d'.store.asked changes = d.store.asked (c :: changes) := by
      rw [Store.asked, htable, ← hkey]
      show (Table.push c.intent time _).intents ++ _ = _
      rw [Table.push_of_not_mem time hnew]
      simp [Store.asked, Table.intents]
    obtain ⟨e, htold, hbeside', hintents⟩ := ih hd' (hasked ▸ hn)
    refine ⟨e, ?_, ⟨hbeside.own.trans hbeside'.own, hbeside.uploads.trans hbeside'.uploads,
      hbeside'.obstacles⟩, hintents.trans hasked⟩
    rw [Access.tellAll, htell, Act.attempt_bind, hpush]
    exact htold

/-- What is claimed of a table of updates of one kind. -/
theorem batch_of_updates {t : Table} {kind : String} {ids : List String}
    (h : t.intents = ids.map fun id => ⟨id, kind, .update⟩) :
    (∀ e ∈ (Queue.batch t.claim).of .update, e.intent.kind = kind) ∧
      ((Queue.batch t.claim).of .update).map (·.intent.id) = ids ∧
      (Queue.batch t.claim).of .delete = [] := by
  have hkind : ∀ i ∈ t.intents, i.kind = kind := by
    intro i hi
    rw [h] at hi
    obtain ⟨id, -, rfl⟩ := List.mem_map.1 hi
    rfl
  have hdelete : t.idsFor .delete = [] := by
    rw [Table.idsFor_eq, h, List.filter_map]
    simp [Function.comp_def]
  refine ⟨fun _ => Table.kind_of_mem_batch hkind, ?_,
    List.map_eq_nil_iff.1 ((t.ids_of_batch .delete).trans hdelete)⟩
  rw [Table.ids_of_batch, Table.idsFor_eq, h, List.filter_map, List.map_map]
  simp [Function.comp_def]

theorem notesFreely_queue : (queue : Access (StoreWithUploads τ)).NotesFreely := fun _ _ => rfl

/-- **A run** claims the batch of the table and goes on with it. -/
theorem attempt_run (ho : d.store.obstacles = {}) (g : Gateway (StoreWithUploads τ))
    (registry : Registry)
    (size : Value) :
    ∃ e, Beside d e ∧ (Courier.ofParts queue g registry size).run.attempt d =
      ((Courier.ofParts queue g registry size).afterClaim
        (Queue.batch d.store.table.claim)).attempt e := by
  obtain ⟨_, hattempt⟩ := notesFreely_queue.attempt_claim ho
  have hclaim : (Courier.ofParts queue g registry size).claim.attempt d = _ := hattempt
  rw [Courier.run_eq, Act.attempt_bind, hclaim]
  refine ⟨_, ?_, rfl⟩
  exact ⟨rfl, rfl, ho⟩

theorem Beside.flush_right (x : α) :
    Along Beside (pure x : Act (StoreWithUploads τ) α) queue.flush := by
  intro d e h
  obtain ⟨_, hflush⟩ := notesFreely_queue.attempt_flush h.obstacles
  rw [hflush]
  exact ⟨Act.fails_iff_of_ok rfl rfl, h.own, h.uploads, h.obstacles⟩

/-! ## The two ways -/

/-- No batch that was uploaded is empty. -/
def Filled (d : StoreWithUploads τ) : Prop := ∀ documents ∈ d.uploads, documents ≠ []

theorem ensures_inOwn (a : Act τ α) : Act.Ensures Filled (inOwn a) (fun _ => Filled) Filled := by
  intro d hd
  rw [inOwn, Act.within, Act.attempt_ofStep]
  rcases a.attempt d.own with ⟨_ | x, own⟩ <;> exact hd

theorem ensures_note (n : Log.Note) :
    Act.Ensures Filled (note n : Act (StoreWithUploads τ) Unit) (fun _ => Filled) Filled :=
  fun _ hd => hd

/-- **Nothing is uploaded for a batch without documents.** -/
theorem ensures_update (kind : Value) (records : List Record) (r : Repository) :
    Act.Ensures Filled ((gateway b typeField).update kind records r) (fun _ => Filled) Filled := by
  refine (Act.Ensures.ofExcept (fun _ _ _ hd => hd) fun _ hd => hd).bind fun documents => ?_
  cases documents with
  | nil => exact Act.Ensures.pure fun _ hd => hd
  | cons first documents =>
    have hrecord : Act.Ensures Filled (Act.ofStep fun d : StoreWithUploads τ =>
        (.ok (), { d with uploads :=
          d.uploads ++ [(first :: documents).map Index.Document.toValue] }))
        (fun _ => Filled) Filled := by
      intro d hd batch hb
      rcases List.mem_append.1 hb with hb | hb
      · exact hd batch hb
      · rw [List.mem_singleton.1 hb]
        exact List.cons_ne_nil _ _
    exact (ensures_note _).bind fun _ => (hrecord.bind fun _ => ensures_inOwn _).bind fun _ =>
      Act.Ensures.pure fun _ hd => hd

theorem ensures_sendAll (kind : String) (r : Repository) (total : Nat)
    (chunks : List (List Record)) :
    Act.Ensures Filled (Reindexing.bring.sendAll (gateway b typeField) kind r total chunks)
      (fun _ => Filled) Filled := by
  induction chunks generalizing total with
  | nil => exact Act.Ensures.pure fun _ hd => hd
  | cons chunk chunks ih =>
    have hsend : Act.Ensures Filled (Reindexing.bring.send (gateway b typeField) kind r chunk)
        (fun _ => Filled) Filled :=
      (ensures_update _ _ _).bind fun _ => Act.Ensures.pure fun _ hd => hd
    exact hsend.bind fun _ => (ensures_note _).bind fun _ => ih _

theorem ensures_run (registry : Registry) (kind : String) (size : Int) :
    Act.Ensures Filled (Reindexing.bring.run (gateway b typeField) registry kind size)
      (fun _ => Filled) Filled := by
  rw [Reindexing.run]
  refine (Act.Ensures.ofExcept (fun _ _ _ hd => hd) fun _ hd => hd).bind fun r => ?_
  refine (Act.Ensures.ofExcept (fun _ _ _ hd => hd) fun _ hd => hd).bind fun chunks => ?_
  refine (ensures_sendAll kind r 0 chunks).bind fun total => ?_
  dsimp only
  split
  · exact (ensures_note _).bind fun _ => Act.Ensures.pure fun _ hd => hd
  · exact Act.Ensures.pure fun _ hd => hd

/-- **Reindexing does what a run does after its claim**, when it claims an update of each record.
There are no deletions, and a flush does not show in the uploads. -/
theorem along_afterClaim (hr : r.Lists records keyOf)
    (hget : registry.get (.text kind) = .ok r) (n : Nat) {t : Table}
    (ht : t.intents =
      (records.map fun record => (keyOf record).plain).map fun id => ⟨id, kind, .update⟩) :
    Along Beside (Reindexing.bring.run (gateway b typeField) registry kind (n + 1 : Nat))
      ((Courier.ofParts queue (gateway b typeField) registry (.int (n + 1 : Nat))).afterClaim
        (Queue.batch t.claim)) := by
  obtain ⟨hkind, hids, hdelete⟩ := batch_of_updates ht
  rw [Reindexing.run, Act.ofExcept_bind_of_eq_ok hget,
    Act.ofExcept_bind_of_eq_ok (Entity.Repository.chunks_int hr.all n), Courier.afterClaim, hdelete]
  refine (along_performAll hr hget n hkind hids _).bind fun total report => ?_
  refine (Act.along_pure () report).after_right fun report => Along.result_right ?_ _
  dsimp only
  split
  · exact (Beside.note_left _).after_left fun _ => Beside.flush_right total
  · exact Beside.flush_right total

/-- **The two ways into the index agree.** Reindexing uploads what a run uploads after an update of
each record was asked for, and none of it is empty. -/
theorem same_uploads (hr : r.Lists records keyOf)
    (hget : registry.get (.text kind) = .ok r) {n : Int} (hn : 1 ≤ n) {store : Store}
    (hs : store.Free) (ht : store.table = []) (b : Backend τ) (typeField : Value) (own : τ) :
    let direct := (Reindexing.bring.run (gateway b typeField) registry kind n).attempt
      { own := own, store := store }
    ∃ told, (queue.tellAll (records.map fun record => .saved kind (keyOf record))).attempt
        { own := own, store := store } = (.ok (), told) ∧
      let queued := (Courier.ofParts queue (gateway b typeField) registry (.int n)).run.attempt told
      queued.2.uploads = direct.2.uploads ∧ queued.2.own = direct.2.own ∧
        (∀ f, queued.1 = .error f ↔ direct.1 = .error f) ∧
        ∀ documents ∈ direct.2.uploads, documents ≠ [] := by
  obtain ⟨m, rfl⟩ : ∃ m : Nat, n = (m + 1 : Nat) := ⟨n.toNat - 1, by omega⟩
  intro direct
  have hasked : store.asked (records.map fun record => .saved kind (keyOf record)) =
      (records.map fun record => (keyOf record).plain).map fun id => ⟨id, kind, .update⟩ := by
    rw [Store.asked, ht, List.map_map, List.map_map]
    rfl
  have hnodup : (store.asked (records.map fun record => .saved kind (keyOf record))).Nodup := by
    refine List.Nodup.of_map Intent.id ?_
    rw [hasked, List.map_map]
    simpa [Function.comp_def] using hr.distinct
  obtain ⟨told, htold, hbeside, hintents⟩ :=
    attempt_tellAll (d := { own := own, store := store }) hs hnodup
  obtain ⟨claimed, hbeside', hrun⟩ :=
    attempt_run hbeside.obstacles (gateway b typeField) registry (.int (m + 1 : Nat))
  obtain ⟨hfails, hown, huploads, -⟩ :=
    along_afterClaim hr hget m (hintents.trans hasked) { own := own, store := store } claimed
      ⟨hbeside.own.trans hbeside'.own, hbeside.uploads.trans hbeside'.uploads, hbeside'.obstacles⟩
  refine ⟨told, htold, ?_⟩
  rw [hrun]
  refine ⟨huploads.symm, hown.symm, fun f => (hfails f).symm, ?_⟩
  exact (ensures_run registry kind _).snd fun _ h => (List.not_mem_nil h).elim

/-- Three records with keys of different types. -/
def shelf : Entity.Source where
  records := [.map [("id", .int 1), ("title", .text "A")], .map [("id", .text "2")],
    .map [("id", .int 3), ("title", .text "C")]]

def shelfKey (record : Record) : Value :=
  match shelf.keyOf record with
  | .ok key => key
  | .error _ => .null

theorem lists_shelf : shelf.repository.Lists shelf.records shelfKey := by
  refine Entity.Source.lists rfl (fun record h => ?_) (by decide +kernel)
  simp only [shelf, List.mem_cons, List.not_mem_nil, or_false] at h
  rcases h with rfl | rfl | rfl <;> rfl

/-- The second of two batches is rejected. -/
theorem same_uploads_of_rejected :
    let registry : Registry := Keyed.put (.text "Article") shelf.repository []
    let start : StoreWithUploads Index.Script := { own := { rejected := [2] } }
    let direct := (Reindexing.bring.run (gateway Index.Script.backend (.text "searchable_type"))
      registry "Article" 2).attempt start
    ∃ told, (queue.tellAll [.saved "Article" (.int 1), .saved "Article" (.text "2"),
        .saved "Article" (.int 3)]).attempt start = (.ok (), told) ∧
      ((Courier.ofParts queue (gateway Index.Script.backend (.text "searchable_type")) registry
        (.int 2)).run.attempt told).2.uploads = direct.2.uploads ∧
      direct.2.uploads.length = 2 ∧ direct.1.isOk = false := by
  intro registry start direct
  have hget : registry.get (.text "Article") = .ok shelf.repository :=
    Registry.get_put_self [] "Article" shelf.repository
  have hfree : Store.Free {} := ⟨rfl, 0, rfl, by decide, by decide⟩
  obtain ⟨told, htold, hsame, -⟩ := same_uploads lists_shelf hget (n := 2) (by decide) hfree rfl
    Index.Script.backend (.text "searchable_type") { rejected := [2] }
  exact ⟨told, htold, hsame, by decide +kernel, by decide +kernel⟩

end StoreWithUploads

end SearchIndex
