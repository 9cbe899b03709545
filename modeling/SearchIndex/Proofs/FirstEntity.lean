import SearchIndex.Proofs.KindField

/-!
# The first entity

A finder asks for its first entity by asking for one hit. So the first entity is what becomes of the
first hit, even if nothing becomes of it and of a later one something does; and from then on the
finder asks for one hit.

## Main definitions

* `origin?`, `shelves`: the offset that is asked for, and a backend with the same hits for every
  request, with a cursor or without
* `Finder.FirstIsHead`: the first entity is the first of all entities
* `Finder.FirstLeaves`: asking for the first entity changes nothing
* `Leads`: nothing becomes of the first hit only if nothing becomes of the others

## Main results

* `hydrateHits_cons`, `map_headD_hydrateHits`: the entities of hits one by one, and of a single one
* `attempt_get_onShelves`, `attempt_first_onShelves`: the entities, and the first of them
* `firstIsHead_iff`, `firstLeaves_iff`: when they are what they should be
* `first_iff`: the finders whose first entity is what it should be
-/

namespace SearchIndex.Index

open Query (Request)

/-! ## Slices of one hit -/

section Slices

variable {α : Type} {size : Int}

theorem slice_one (items : List α) (start : Int) :
    slice items 1 start = items[start.toNat]?.toList := by
  have hone : (1 : Int).toNat = 1 := rfl
  rw [slice, hone, List.take_one, List.head?_drop]

theorem slice_of_nonpos (h : size ≤ 0) (items : List α) (start : Int) :
    slice items size start = [] := by
  rw [slice, Int.toNat_of_nonpos h, List.take_zero]

/-- A slice begins with the item at the offset, if there is one. -/
theorem slice_of_pos (h : 0 < size) (items : List α) (start : Int) :
    slice items size start = match items[start.toNat]? with
      | none => []
      | some item => item :: slice items (size - 1) (start.toNat + 1) := by
  have hsize : size.toNat = (size - 1).toNat + 1 := by omega
  have hnext : ((start.toNat : Int) + 1).toNat = start.toNat + 1 := by omega
  rw [slice, slice, hsize, hnext]
  cases hitem : items[start.toNat]? with
  | none => rw [List.drop_eq_nil_of_le (List.getElem?_eq_none_iff.1 hitem), List.take_nil]
  | some item =>
    obtain ⟨hlt, rfl⟩ := List.getElem?_eq_some_iff.1 hitem
    rw [List.drop_eq_getElem_cons hlt, List.take_succ_cons]

end Slices

/-! ## The entities of hits one by one -/

section Entities

variable {factory : Factory} {typeField : Value} {h : Hit} {hits : List Hit} {entities : List Value}

theorem isSomething_eq_false_iff {v : Value} : isSomething v = false ↔ v = .null := by
  cases v <;> simp [isSomething]

theorem hydrateHits_cons (factory : Factory) (typeField : Value) (h : Hit) (hits : List Hit) :
    hydrateHits factory typeField (h :: hits) = do
      let entity ← hydrateHit factory typeField h
      let entities ← hydrateHits factory typeField hits
      return if isSomething entity then entity :: entities else entities := by
  rw [hydrateHits, List.mapM_cons]
  cases hydrateHit factory typeField h with
  | error f => rfl
  | ok entity =>
    rw [hydrateHits]
    cases hits.mapM (hydrateHit factory typeField) with
    | error f => rfl
    | ok rest => cases he : isSomething entity <;> simp [bind, Except.bind, pure, Except.pure, he]

/-- **What becomes of a single hit** is the first of its entities, if it has any. -/
theorem map_headD_hydrateHits (factory : Factory) (typeField : Value) (h : Hit) :
    (hydrateHits factory typeField [h]).map (·.headD .null) = hydrateHit factory typeField h := by
  rw [hydrateHits_cons, hydrateHits_nil]
  cases hydrateHit factory typeField h with
  | error f => rfl
  | ok entity => cases entity <;> rfl

theorem isSomething_of_hydrateHits (hentities : hydrateHits factory typeField hits = .ok entities) :
    ∀ entity ∈ entities, isSomething entity = true := by
  obtain ⟨rest, -, hrest⟩ := bind_eq_ok_iff.1 hentities
  obtain rfl := Except.ok.inj hrest
  intro entity hentity
  exact (List.mem_filter.1 hentity).2

/-- No first entity means no entities. -/
theorem eq_nil_of_headD (hentities : hydrateHits factory typeField hits = .ok entities)
    (hhead : entities.headD .null = .null) : entities = [] := by
  cases entities with
  | nil => rfl
  | cons entity entities =>
    obtain rfl : entity = .null := hhead
    have hsomething := isSomething_of_hydrateHits hentities .null List.mem_cons_self
    nomatch hsomething

/-- **What becomes of the first hit is the first entity**, unless nothing becomes of it and
something of another hit. -/
theorem headD_hydrateHits_cons_iff (factory : Factory) (typeField : Value) (h : Hit)
    (hits : List Hit) :
    (∀ entities, hydrateHits factory typeField (h :: hits) = .ok entities →
        hydrateHit factory typeField h = .ok (entities.headD .null)) ↔
      (hydrateHit factory typeField h = .ok .null →
        ∀ entities, hydrateHits factory typeField (h :: hits) = .ok entities → entities = []) := by
  constructor
  · intro hfirst hnull entities hentities
    have hhead := hfirst entities hentities
    rw [hnull] at hhead
    exact eq_nil_of_headD hentities (Except.ok.inj hhead).symm
  · intro hrest entities hentities
    have hcons := hentities
    rw [hydrateHits_cons] at hcons
    obtain ⟨entity, hentity, hcons⟩ := bind_eq_ok_iff.1 hcons
    obtain ⟨others, -, hcons⟩ := bind_eq_ok_iff.1 hcons
    cases hs : isSomething entity with
    | true =>
      rw [hs, if_pos rfl] at hcons
      obtain rfl := Except.ok.inj hcons
      exact hentity
    | false =>
      obtain rfl := isSomething_eq_false_iff.1 hs
      rw [hrest hentity entities hentities]
      exact hentity

end Entities

/-! ## A backend with the same hits for every request -/

/-- The offset that parameters ask for: that of their cursor, or their start. -/
def originIn? (place : String → Int) (compiled : Fields) : Option Int :=
  match Keyed.find? (.text "cursor") compiled with
  | some (.text cursor) => some (place cursor)
  | _ =>
    match Keyed.find? (.text "start") compiled with
    | some (.int start) => some start
    | _ => none

/-- The offset that a request asks for. -/
def origin? (place : String → Int) (r : Request) : Option Int :=
  match r.cursor, r.start with
  | some cursor, _ => some (place cursor)
  | none, .int start => some start
  | none, _ => none

/-- **A backend with the same hits for every request**, which gives the slice that is asked for,
with a cursor or without. -/
def shelves (place : String → Int) (hits : List Hit) (compiled : Fields) : Act Unit Value :=
  match Keyed.find? (.text "size") compiled, originIn? place compiled with
  | some (.int size), some start =>
    pure (responseOf hits.length start (slice hits size start))
  | _, _ => pure (.map [])

theorem originIn?_parameters (place : String → Int) (r : Request) :
    originIn? place r.parameters = origin? place r := by
  rw [originIn?, Request.find?_cursor, Request.find?_start, origin?]
  cases r.cursor with
  | some cursor => rfl
  | none => cases r.start <;> rfl

/-! ## The first entity of a finder -/

namespace Finder

/-- **The first entity is the first of all entities**, or nothing if there are none. -/
def FirstIsHead {σ : Type} (f : Finder σ) (w : σ) : Prop :=
  ∀ entities, (f.get.attempt w).1 = .ok entities →
    (f.first.2.attempt w).1 = .ok (entities.headD .null)

/-- **Asking for the first entity changes nothing** of what the finder gives afterwards. -/
structure FirstLeaves {σ : Type} (f : Finder σ) (w : σ) : Prop where
  build : f.first.1.build = f.build
  get : (f.first.1.get.attempt (f.first.2.attempt w).2).1 = (f.get.attempt w).1
  execute : (f.first.1.execute.attempt (f.first.2.attempt w).2).1 = (f.execute.attempt w).1

/-- A finder with a backend that has those hits. -/
def onShelves (place : String → Int) (hits : List Hit) (typeField : Value) (factory : Factory)
    (b : Query.Builder) : Finder (Watched Unit) :=
  ⟨some (Watched.gateway (shelves place hits) typeField), factory, b⟩

/-- The builder with one hit asked for. -/
def forOne (b : Query.Builder) : Query.Builder :=
  { b with request := { b.request with size := .int 1 } }

/-- **Nothing becomes of the first hit only if nothing becomes of the others** of the window; of a
window without hits the first one is not counted. -/
def Leads (factory : Factory) (typeField : Value) (hits : List Hit) (size start : Int) : Prop :=
  ∀ h, hits[start.toNat]? = some h →
    if 0 < size then hydrateHit factory typeField h = .ok .null →
      ∀ entities, hydrateHits factory typeField (slice hits size start) = .ok entities →
        entities = []
    else hydrateHit factory typeField h = .ok .null

section OnShelves

variable {place : String → Int} {hits : List Hit} {typeField : Value} {factory : Factory}
  {b : Query.Builder} {size start : Int} {w : Watched Unit}

theorem fst_first_onShelves : (onShelves place hits typeField factory b).first.1 =
    onShelves place hits typeField factory (forOne b) := rfl

/-- The result of a request is the slice that it asks for. -/
theorem attempt_execute_onShelves (hw : b.request.isWhole = true)
    (hsize : b.request.size = .int size) (hstart : origin? place b.request = some start) :
    (onShelves place hits typeField factory b).execute.attempt w =
      (.ok { found := hits.length, start := start, hits := slice hits size start },
        ⟨(), w.searches ++ [b.request.parameters]⟩) := by
  have hanswer : (shelves place hits b.request.parameters).attempt w.own =
      (.ok (responseOf hits.length start (slice hits size start)), ()) := by
    rw [shelves, Request.find?_size, originIn?_parameters, hsize, hstart]
    rfl
  exact attempt_execute _ typeField w (Request.compile_eq_ok_iff.2 ⟨hw, rfl⟩) hanswer
    (ofResponse_responseOf ..)

/-- **The entities are those of the slice.** -/
theorem attempt_get_onShelves (hw : b.request.isWhole = true)
    (hsize : b.request.size = .int size) (hstart : origin? place b.request = some start) :
    (onShelves place hits typeField factory b).get.attempt w =
      (hydrateHits factory typeField (slice hits size start),
        ⟨(), w.searches ++ [b.request.parameters]⟩) := by
  show (Asking.all.entities (onShelves place hits typeField factory b)).attempt w = _
  exact Asking.attempt_entities rfl rfl (attempt_execute_onShelves hw hsize hstart)

/-- **The first entity is what becomes of the first hit**, if there is one. One hit is asked for,
whatever the finder asks for otherwise. -/
theorem attempt_first_onShelves (hw : b.request.isWhole = true)
    (hstart : origin? place b.request = some start) :
    ((onShelves place hits typeField factory b).first.2.attempt w).1 =
      match hits[start.toNat]? with
      | none => .ok .null
      | some h => hydrateHit factory typeField h := by
  have hone : origin? place (forOne b).request = some start := hstart
  have hfirst : ((onShelves place hits typeField factory b).first.2.attempt w).1 =
      (hydrateHits factory typeField (slice hits 1 start)).map (·.headD .null) := by
    show (Act.attempt ((onShelves place hits typeField factory (forOne b)).get >>= _) w).1 = _
    rw [Act.attempt_bind, attempt_get_onShelves (b := forOne b) hw rfl hone]
    cases hydrateHits factory typeField (slice hits 1 start) <;> rfl
  rw [hfirst, slice_one]
  cases hits[start.toNat]? with
  | none => rfl
  | some h => exact map_headD_hydrateHits factory typeField h

theorem firstIsHead_iff (hw : b.request.isWhole = true) (hsize : b.request.size = .int size)
    (hstart : origin? place b.request = some start) :
    (onShelves place hits typeField factory b).FirstIsHead w ↔
      Leads factory typeField hits size start := by
  rw [FirstIsHead, attempt_get_onShelves hw hsize hstart, attempt_first_onShelves hw hstart, Leads]
  by_cases hpos : 0 < size
  · rw [slice_of_pos hpos]
    cases hits[start.toNat]? with
    | none => simp [hydrateHits_nil]
    | some h =>
      simpa [hpos, slice_of_pos hpos] using headD_hydrateHits_cons_iff factory typeField h _
  · rw [slice_of_nonpos (Int.not_lt.1 hpos)]
    cases hits[start.toNat]? with
    | none => simp [hydrateHits_nil]
    | some h => simp [hydrateHits_nil, hpos]

/-- The sizes that are sent tell the two requests apart. -/
theorem firstLeaves_iff (hw : b.request.isWhole = true) (hsize : b.request.size = .int size)
    (hstart : origin? place b.request = some start) :
    (onShelves place hits typeField factory b).FirstLeaves w ↔ size = 1 := by
  constructor
  · intro h
    have hafter : (forOne b).request.isWhole = true := hw
    have hbuild : (forOne b).request.compile = b.request.compile := h.build
    rw [Request.compile_eq_ok_iff.2 ⟨hw, rfl⟩, Request.compile_eq_ok_iff] at hbuild
    have hsizes := congrArg (Keyed.find? (.text "size")) hbuild.2
    rw [Request.find?_size, Request.find?_size, hsize] at hsizes
    cases hsizes
    rfl
  · rintro rfl
    have hsame : forOne b = b := by rw [forOne, ← hsize]
    refine ⟨?_, ?_, ?_⟩
    · rw [fst_first_onShelves, hsame]
    · rw [fst_first_onShelves, hsame, attempt_get_onShelves hw hsize hstart,
        attempt_get_onShelves hw hsize hstart]
    · rw [fst_first_onShelves, hsame, attempt_execute_onShelves hw hsize hstart,
        attempt_execute_onShelves hw hsize hstart]

/-- A single hit leads its window. -/
theorem leads_one (factory : Factory) (typeField : Value) (hits : List Hit) (start : Int) :
    Leads factory typeField hits 1 start := by
  intro h hfirst
  rw [if_pos Int.one_pos, slice_one, hfirst]
  intro hnull entities hentities
  have hhead := map_headD_hydrateHits factory typeField h
  rw [Option.toList_some] at hentities
  rw [hentities, hnull] at hhead
  exact eq_nil_of_headD hentities (Except.ok.inj hhead)

/-- A request that cannot be written is not run. -/
theorem attempt_execute_of_not_isWhole (hw : b.request.isWhole = false) :
    (onShelves place hits typeField factory b).execute.attempt w =
      (.error (.query .absentChild), w) := by
  show Act.attempt (Gateway.execute _ b.request) w = _
  rw [Gateway.execute, Request.compile_of_not_isWhole hw]
  rfl

theorem attempt_get_of_not_isWhole (hw : b.request.isWhole = false) :
    (onShelves place hits typeField factory b).get.attempt w =
      (.error (.query .absentChild), w) := by
  show Act.attempt ((onShelves place hits typeField factory b).execute >>= _) w = _
  rw [Act.attempt_bind, attempt_execute_of_not_isWhole hw]

theorem firstIsHead_of_not_isWhole (hw : b.request.isWhole = false) :
    (onShelves place hits typeField factory b).FirstIsHead w := by
  intro entities hentities
  rw [attempt_get_of_not_isWhole hw] at hentities
  nomatch hentities

theorem firstLeaves_of_not_isWhole (hw : b.request.isWhole = false) :
    (onShelves place hits typeField factory b).FirstLeaves w := by
  have hafter : (forOne b).request.isWhole = false := hw
  refine ⟨?_, ?_, ?_⟩
  · exact (Request.compile_of_not_isWhole hafter).trans (Request.compile_of_not_isWhole hw).symm
  · rw [fst_first_onShelves, attempt_get_of_not_isWhole hafter, attempt_get_of_not_isWhole hw]
  · rw [fst_first_onShelves, attempt_execute_of_not_isWhole hafter,
      attempt_execute_of_not_isWhole hw]

/-- **The finders whose first entity is what it should be.** Of a request that can be written the
first entity is the first of all entities exactly if its first hit leads the window; and what the
finder gives afterwards is as before exactly if it asked for one hit already, which is also enough
for the first entity. -/
theorem first_iff (hsize : b.request.size = .int size)
    (hstart : origin? place b.request = some start) :
    let f := onShelves place hits typeField factory b
    (f.FirstIsHead w ↔ b.request.isWhole = false ∨ Leads factory typeField hits size start) ∧
      (f.FirstLeaves w ↔ b.request.isWhole = false ∨ size = 1) ∧
      (f.FirstLeaves w → f.FirstIsHead w) := by
  intro f
  cases hw : b.request.isWhole with
  | true =>
    have hhead : f.FirstIsHead w ↔ Leads factory typeField hits size start :=
      firstIsHead_iff hw hsize hstart
    have hleaves : f.FirstLeaves w ↔ size = 1 := firstLeaves_iff hw hsize hstart
    refine ⟨by simpa using hhead, by simpa using hleaves, fun h => hhead.2 ?_⟩
    obtain rfl := hleaves.1 h
    exact leads_one factory typeField hits start
  | false =>
    have hhead : f.FirstIsHead w := firstIsHead_of_not_isWhole hw
    have hleaves : f.FirstLeaves w := firstLeaves_of_not_isWhole hw
    exact ⟨by simpa using hhead, by simpa using hleaves, fun _ => hhead⟩

end OnShelves

/-- A hit without a kind. -/
def untyped : Hit := ⟨"1", [(.text "title", .list [.text "A"])], []⟩

/-- A finder of entities among that hit and an article after it, so many hits at once. -/
def articlesAfter (size : Int) : Finder (Watched Unit) :=
  onShelves (fun _ => 0) [untyped, articleIn "kind"] (.ofKey "kind") attributesOnly
    { request := { size := .int size } }

/-- A finder that asks for one hit. -/
theorem first_of_one_hit :
    let f := articlesAfter 1
    f.FirstIsHead ⟨(), []⟩ ∧ f.FirstLeaves ⟨(), []⟩ := by
  intro f
  obtain ⟨-, hleaves, hhead⟩ :
      (f.FirstIsHead ⟨(), []⟩ ↔ _) ∧ (f.FirstLeaves ⟨(), []⟩ ↔ _) ∧
        (f.FirstLeaves ⟨(), []⟩ → f.FirstIsHead ⟨(), []⟩) := first_iff rfl rfl
  have hunchanged : f.FirstLeaves ⟨(), []⟩ := hleaves.2 (.inr rfl)
  exact ⟨hhead hunchanged, hunchanged⟩

/-- A finder that asks for more hits has an entity, but nothing as the first one. -/
theorem not_firstIsHead_of_untyped :
    let f := articlesAfter 10
    ∃ entity, (f.get.attempt ⟨(), []⟩).1 = .ok [entity] ∧
      (f.first.2.attempt ⟨(), []⟩).1 = .ok .null ∧ isSomething entity = true ∧
      ¬ f.FirstIsHead ⟨(), []⟩ ∧ ¬ f.FirstLeaves ⟨(), []⟩ := by
  intro f
  have hnone : kindOf? "kind" untyped = none := by
    simp [kindOf?, untyped, Hit.flatten, Hit.firstValue, Value.lookup, Value.valueAt?, Keyed.find?,
      Value.Key.beq_text_iff, Value.truthy]
  have hkind : kindOf? "kind" (articleIn "kind") = some "Article" :=
    kindOf?_of_carries (carries_articleIn "kind")
  have hget : (f.get.attempt ⟨(), []⟩).1 =
      .ok [.map (attributesOf "kind" "Article" (articleIn "kind"))] := by
    refine (congrArg Prod.fst (attempt_get_onShelves rfl rfl rfl)).trans ?_
    refine (hydrateHits_attributesOnly "kind" [untyped, articleIn "kind"]).trans ?_
    simp [attributesOf?, hnone, hkind]
  have hfirst : (f.first.2.attempt ⟨(), []⟩).1 = .ok .null := by
    refine (attempt_first_onShelves rfl rfl).trans ?_
    refine (hydrateHit_ofKey attributesOnly "kind" untyped).trans ?_
    rw [hydrateBy, hnone]
  refine ⟨_, hget, hfirst, rfl, fun h => ?_, fun h => ?_⟩
  · have hhead := h _ hget
    rw [hfirst] at hhead
    have hnull := Except.ok.inj hhead
    rw [List.headD_cons] at hnull
    cases hnull
  · have hsizes : (10 : Int) = 1 := (firstLeaves_iff rfl rfl rfl).1 h
    cases hsizes

end Finder

end SearchIndex.Index
