import SearchIndex.Index.Finder
import SearchIndex.Proofs.Parts

/-!
# Pages of a request

A page is asked for by its size and number, of a gateway or of a finder. The backend is handed one
search: what the request compiles to, with the size of pages and the offset of the page. Only a
cursor, which stands in place of the offset, gets in the way: a request that was given one is sent
with it, and without an offset.

## Main definitions

* `Watched τ`: a world in which every search is recorded, with the world of what answers them
* `Entrance`, `Entrance.paginate`: the two ways to ask for a page
* `IsResized own sent size`: parameters are others with so many hits asked for
* `IsWindow own sent size start`: parameters are others with a window in place of theirs
* `slice`, `shelf`: the hits of a page, and a backend with the same hits for every request

## Main results

* `Watched.attempt_paginate`: what a backend is handed for a page
* `Request.isWindow_iff`: when a request has the window that is asked for
* `Request.isSome_cursor_of_steps`: the steps after which a request has a cursor
* `ofResponse_responseOf`: a backend with the same hits for every request gives the slice asked for
* `paginate_iff_of_steps`: the requests, however they are built, whose pages are what they should be
-/

namespace SearchIndex

/-! ## Windows of parameters -/

namespace Query.Request

/-- The name belongs to the window of a request. -/
def isWindowName (key : Value.Key) : Bool :=
  key == .text "cursor" || key == .text "size" || key == .text "start"

/-- Parameters are others with so many hits asked for; outside the window all is in its order. -/
structure IsResized (own sent : Fields) (size : Int) : Prop where
  size : Keyed.find? (.text "size") sent = some (.int size)
  others : sent.filter (fun e => !isWindowName e.1) = own.filter (fun e => !isWindowName e.1)

/-- **Parameters are others with a window in place of theirs**: so many hits from an offset on, and
no cursor. -/
structure IsWindow (own sent : Fields) (size start : Int) : Prop
    extends IsResized own sent size where
  start : Keyed.find? (.text "start") sent = some (.int start)
  cursor : Keyed.find? (.text "cursor") sent = none

/-- The request with a window. -/
def within (r : Request) (size start : Int) : Request :=
  { r with size := .int size, start := .int start }

section Window

variable {r : Request} {size start : Int}

theorem filter_given (p : Value.Key → Bool) (present : Bool) (name : String) (v : Value) :
    (given present name v).filter (fun e => p e.1) = given (present && p (.text name)) name v := by
  cases present <;> cases h : p (.text name) <;> simp [given, h]

theorem compile_of_not_isWhole (h : r.isWhole = false) : r.compile = .error .absentChild := by
  rw [compile]
  exact if_neg (Bool.not_eq_true _ ▸ h)

theorem compile_within_eq_ok (h : r.isWhole = true) :
    (r.within size start).compile = .ok (r.within size start).parameters :=
  compile_eq_ok_iff.2 ⟨h, rfl⟩

theorem find?_size : Keyed.find? (.text "size") r.parameters = some r.size := by
  simp [parameters, Keyed.find?_append, find?_given]

theorem find?_start :
    Keyed.find? (.text "start") r.parameters = if r.cursor.isNone then some r.start else none := by
  simp [parameters, Keyed.find?_append, find?_given]

theorem find?_cursor :
    Keyed.find? (.text "cursor") r.parameters = r.cursor.map .text := by
  cases h : r.cursor <;> simp [parameters, Keyed.find?_append, find?_given, h]

theorem filter_within : (r.within size start).parameters.filter (fun e => !isWindowName e.1) =
    r.parameters.filter (fun e => !isWindowName e.1) := by
  have hsize : isWindowName (.text "size") = true := rfl
  have hstart : isWindowName (.text "start") = true := rfl
  simp only [parameters, List.filter_append, filter_given fun key => !isWindowName key, hsize,
    hstart, Bool.not_true, Bool.and_false]
  rfl

theorem isResized : IsResized r.parameters (r.within size start).parameters size :=
  ⟨find?_size, filter_within⟩

/-- **A request has the window that is asked for exactly if it has no cursor.** -/
theorem isWindow_iff :
    IsWindow r.parameters (r.within size start).parameters size start ↔ r.cursor = none := by
  constructor
  · intro h
    have hcursor := h.cursor
    rw [find?_cursor] at hcursor
    exact Option.map_eq_none_iff.1 hcursor
  · intro h
    have hcursor : (r.within size start).cursor = none := h
    refine ⟨isResized, ?_, ?_⟩
    · rw [find?_start, hcursor]
      rfl
    · rw [find?_cursor, hcursor]
      rfl

end Window

/-! ## Steps that set a cursor -/

/-- The step sets a cursor. -/
def Step.setsCursor : Step → Bool
  | .setCursor _ => true
  | _ => false

theorem isSome_cursor_attempt (r : Request) (step : Step) :
    (r.attempt step).cursor.isSome = (r.cursor.isSome || step.setsCursor) := by
  cases step with
  | setCursor => simp [attempt, apply, Step.setsCursor]
  | _ =>
    refine Eq.trans ?_ (Bool.or_false _).symm
    exact congrArg Option.isSome (agree_attempt r (p := .cursor) (by simp [Step.touches]))

theorem isSome_cursor_of_steps (r : Request) (steps : List Step) :
    (steps.foldl attempt r).cursor.isSome = (r.cursor.isSome || steps.any Step.setsCursor) := by
  induction steps generalizing r with
  | nil => simp
  | cons step steps ih =>
    rw [List.foldl_cons, ih, isSome_cursor_attempt, List.any_cons, Bool.or_assoc]

end Query.Request

namespace Index

open Query (Request)

/-! ## What a backend is handed -/

/-- A world in which every search is recorded, with the world of what answers them. -/
structure Watched (τ : Type) where
  own : τ
  /-- The parameters that were searched for so far, answered or not. -/
  searches : List Fields := []

namespace Watched

variable {τ : Type} {answer : Fields → Act τ Value}

/-- A search is recorded before it is answered. -/
def search (answer : Fields → Act τ Value) (compiled : Fields) : Act (Watched τ) Value := do
  Act.ofStep fun w => (.ok (), { w with searches := w.searches ++ [compiled] })
  Act.within Watched.own (fun own w => { w with own := own }) (answer compiled)

/-- A gateway whose searches are recorded, whatever answers them. -/
def gateway (answer : Fields → Act τ Value) (typeField : Value) : Gateway (Watched τ) where
  backend := ⟨search answer, fun _ => pure [], fun _ => pure ()⟩
  typeField := typeField

theorem attempt_search (compiled : Fields) (w : Watched τ) :
    (search answer compiled).attempt w =
      (((answer compiled).attempt w.own).1,
        ⟨((answer compiled).attempt w.own).2, w.searches ++ [compiled]⟩) := rfl

end Watched

/-- How a page is asked for: of a gateway with a request, or of a finder that holds it. -/
inductive Entrance where
  | gateway
  | finder

/-- **A page of the hits of a request.** -/
def Entrance.paginate {σ : Type} (g : Gateway σ) (factory : Factory) (r : Request)
    (size number : Value) : Entrance → Act σ (Page Value)
  | .gateway => g.paginate r size number factory
  | .finder =>
    ((⟨some g, factory, ⟨g.typeField, r⟩⟩ : Finder σ).paginate size number).2

section Paginate

variable {τ : Type} (answer : Fields → Act τ Value) (typeField : Value) (factory : Factory)
  (entrance : Entrance) (w : Watched τ) {r : Request} (size number : Int)

/-- The offset of a page. -/
def offset (size number : Int) : Int := (max 1 number - 1) * size

/-- The page that a response holds. -/
def pageOf (size number : Int) (response : Value) : Except Failure (Page Value) := do
  let result ← Result.ofResponse response
  let items ← hydrateHits factory typeField result.hits
  return ⟨items, .int result.found, .int (max 1 number), .int size⟩

theorem paginate_eq : entrance.paginate (Watched.gateway answer typeField) factory r (.int size)
    (.int number) = (Watched.gateway answer typeField).paginate r (.int size) (.int number)
      factory := by
  cases entrance <;> rfl

theorem execute_eq {compiled : Fields} (h : r.compile = .ok compiled) :
    (Watched.gateway answer typeField).execute r =
      Watched.search answer compiled >>= fun response =>
        Act.ofExcept (Result.ofResponse response) := by
  have hcompile : r.compile.mapError Failure.query = .ok compiled := by
    rw [h]
    rfl
  rw [Gateway.execute, Act.ofExcept_bind_of_eq_ok hcompile]
  rfl

/-- The result of a request is what the response holds. -/
theorem attempt_execute {compiled : Fields} {response : Value} {own : τ} {result : Result}
    (h : r.compile = .ok compiled) (ha : (answer compiled).attempt w.own = (.ok response, own))
    (hresult : Result.ofResponse response = .ok result) :
    ((Watched.gateway answer typeField).execute r).attempt w =
      (.ok result, ⟨own, w.searches ++ [compiled]⟩) := by
  rw [execute_eq answer typeField h, Act.attempt_bind, Watched.attempt_search, ha, ← hresult]
  rfl

theorem paginate_eq_of_isWhole (h : r.isWhole = true) :
    entrance.paginate (Watched.gateway answer typeField) factory r (.int size) (.int number) =
      Watched.search answer (r.within size (offset size number)).parameters >>= fun response =>
        Act.ofExcept (pageOf typeField factory size number response) := by
  rw [paginate_eq, Gateway.paginate, Act.ofExcept_bind_of_eq_ok (window_int r size number)]
  show Gateway.execute _ (r.within size (offset size number)) >>= _ = _
  rw [execute_eq answer typeField (Request.compile_within_eq_ok h), bind_assoc]
  refine congrArg _ (funext fun response => ?_)
  rw [pageOf]
  cases Result.ofResponse response with
  | error f => rfl
  | ok result =>
    show (Act.ofExcept (hydrateHits factory typeField result.hits) >>= _) = _
    simp only [bind, Except.bind]
    cases hydrateHits factory typeField result.hits <;> rfl

/-- **The backend is handed one search**, and the page is what its response holds. -/
theorem attempt_paginate (h : r.isWhole = true) :
    (entrance.paginate (Watched.gateway answer typeField) factory r (.int size)
      (.int number)).attempt w =
      let sent := (r.within size (offset size number)).parameters
      (((answer sent).attempt w.own).1.bind (pageOf typeField factory size number),
        ⟨((answer sent).attempt w.own).2, w.searches ++ [sent]⟩) := by
  rw [paginate_eq_of_isWhole answer typeField factory entrance size number h, Act.attempt_bind,
    Watched.attempt_search]
  dsimp only
  cases ((answer (r.within size (offset size number)).parameters).attempt w.own).1 <;> rfl

theorem attempt_paginate_of_not_isWhole (h : r.isWhole = false) :
    (entrance.paginate (Watched.gateway answer typeField) factory r (.int size)
      (.int number)).attempt w = (.error (.query .absentChild), w) := by
  have hcompile : (r.within size (offset size number)).compile = .error .absentChild :=
    Request.compile_of_not_isWhole h
  rw [paginate_eq, Gateway.paginate, Act.ofExcept_bind_of_eq_ok (window_int r size number)]
  show Act.attempt (Gateway.execute _ (r.within size (offset size number)) >>= _) w = _
  rw [Gateway.execute, hcompile]
  rfl

end Paginate

/-! ## A backend with the same hits for every request -/

/-- A hit as a response holds it. -/
def Hit.toValue (h : Hit) : Value :=
  .map [("id", .text h.id), ("fields", .map h.fields), ("exprs", .map h.exprs)]

/-- So many items from an offset on. -/
def slice {α : Type} (items : List α) (size start : Int) : List α :=
  (items.drop start.toNat).take size.toNat

/-- A response with some of all hits. -/
def responseOf (found start : Int) (hits : List Hit) : Value :=
  .map [("hits", .map [("found", .int found), ("start", .int start),
    ("hit", .list (hits.map Hit.toValue))])]

/-- **A backend with the same hits for every request**, which gives the slice that is asked for. -/
def shelf (hits : List Hit) (compiled : Fields) : Act Unit Value :=
  match Keyed.find? (.text "size") compiled, Keyed.find? (.text "start") compiled with
  | some (.int size), some (.int start) =>
    pure (responseOf hits.length start (slice hits size start))
  | _, _ => pure (.map [])

theorem orElse_int (n : Int) : (Value.int n).orElse (.int 0) = .int n := by
  by_cases h : n = 0
  · subst h
    rfl
  · simp [Value.orElse, Value.truthy, Number.truthy, h]

theorem orElse_list (items : List Value) : (Value.list items).orElse (.list []) = .list items := by
  cases items <;> rfl

theorem orElse_map (entries : Fields) : (Value.map entries).orElse (.map []) = .map entries := by
  cases entries <;> rfl

theorem hitOf?_toValue (h : Hit) : hitOf? h.toValue = .ok (some h) := by
  have hfields : fieldsAt [("id", .text h.id), ("fields", .map h.fields), ("exprs", .map h.exprs)]
      "fields" = .ok h.fields := congrArg Value.pairsOf (orElse_map h.fields)
  have hexprs : fieldsAt [("id", .text h.id), ("fields", .map h.fields), ("exprs", .map h.exprs)]
      "exprs" = .ok h.exprs := congrArg Value.pairsOf (orElse_map h.exprs)
  simp only [Hit.toValue, hitOf?, hfields, hexprs]
  rfl

theorem mapM_hitOf? (hits : List Hit) :
    (hits.map Hit.toValue).mapM hitOf? = .ok (hits.map some) := by
  induction hits with
  | nil => rfl
  | cons h hits ih =>
    rw [List.map_cons, List.mapM_cons, hitOf?_toValue, ih]
    rfl

theorem ofResponse_responseOf (found start : Int) (hits : List Hit) :
    Result.ofResponse (responseOf found start hits) =
      .ok { found := found, start := start, hits := hits } := by
  have hitems : Value.itemsOf ((Value.list (hits.map Hit.toValue)).orElse (.list [])) =
      .ok (hits.map Hit.toValue) := congrArg Value.itemsOf (orElse_list _)
  have hfound : integerAt [("found", .int found), ("start", .int start),
      ("hit", .list (hits.map Hit.toValue))] "found" = .ok found :=
    congrArg Value.integerOf (orElse_int found)
  have hstart : integerAt [("found", .int found), ("start", .int start),
      ("hit", .list (hits.map Hit.toValue))] "start" = .ok start :=
    congrArg Value.integerOf (orElse_int start)
  have hsome : (hits.map some).filterMap id = hits := by simp [List.filterMap_map]
  show (Value.itemsOf ((Value.list (hits.map Hit.toValue)).orElse (.list [])) >>= _) = _
  rw [hitems]
  show ((hits.map Hit.toValue).mapM hitOf? >>= _) = _
  rw [mapM_hitOf?]
  show (integerAt [("found", .int found), ("start", .int start),
    ("hit", .list (hits.map Hit.toValue))] "found" >>= _) = _
  rw [hfound]
  show (integerAt [("found", .int found), ("start", .int start),
    ("hit", .list (hits.map Hit.toValue))] "start" >>= _) = _
  rw [hstart]
  show Except.ok _ = _
  rw [hsome]
  rfl

/-- **A page of fixed hits has the entities of its slice.** -/
theorem pageOf_responseOf (typeField : Value) (factory : Factory) (size number found start : Int)
    (hits : List Hit) :
    pageOf typeField factory size number (responseOf found start hits) =
      (hydrateHits factory typeField hits).map fun items =>
        ⟨items, .int found, .int (max 1 number), .int size⟩ := by
  rw [pageOf, ofResponse_responseOf]
  show (hydrateHits factory typeField hits >>= _) = _
  cases hydrateHits factory typeField hits <;> rfl

theorem shelf_of_isWindow {hits : List Hit} {own sent : Fields} {size start : Int}
    (h : Request.IsWindow own sent size start) :
    shelf hits sent = pure (responseOf hits.length start (slice hits size start)) := by
  simp only [shelf, h.size, h.start]

/-- **The pages of a request**, however it is built, and however they are asked for. Without a
clause that can be written nothing is searched for. Otherwise one search is made, which differs
from the request's own parameters in the window alone, and has the size of pages; it has the window
of the page exactly if no cursor was ever set, and then the page is the slice of fixed hits. -/
theorem paginate_iff_of_steps {τ : Type} (answer : Fields → Act τ Value) (typeField : Value)
    (factory : Factory) (entrance : Entrance) (w : Watched τ) (first : Value)
    (steps : List Request.Step) (size number : Int) :
    let r := steps.foldl Request.attempt { size := first }
    let asked {τ : Type} (answer : Fields → Act τ Value) :=
      entrance.paginate (Watched.gateway answer typeField) factory r (.int size) (.int number)
    match r.compile with
    | .error f => (asked answer).attempt w = (.error (.query f), w)
    | .ok own => ∃ sent, ((asked answer).attempt w).2.searches = w.searches ++ [sent] ∧
      Request.IsResized own sent size ∧
      (Request.IsWindow own sent size (offset size number) ↔
        steps.any Request.Step.setsCursor = false) ∧
      (steps.any Request.Step.setsCursor = false → ∀ hits : List Hit,
        ((asked (shelf hits)).attempt ⟨(), []⟩).1 =
          (hydrateHits factory typeField (slice hits size (offset size number))).map fun items =>
            ⟨items, .int hits.length, .int (max 1 number), .int size⟩) := by
  intro r asked
  cases hw : r.isWhole with
  | false =>
    have hcompile : r.compile = .error .absentChild := by
      rw [Request.compile]
      exact if_neg (Bool.not_eq_true _ ▸ hw)
    rw [hcompile]
    exact attempt_paginate_of_not_isWhole answer typeField factory entrance w size number hw
  | true =>
    have hcursor : r.cursor = none ↔ steps.any Request.Step.setsCursor = false := by
      rw [← Option.isNone_iff_eq_none, ← Option.isSome_eq_false_iff,
        Request.isSome_cursor_of_steps]
      rfl
    rw [Request.compile_eq_ok_iff.2 ⟨hw, rfl⟩]
    have hiff : Request.IsWindow r.parameters (r.within size (offset size number)).parameters size
        (offset size number) ↔ steps.any Request.Step.setsCursor = false :=
      Request.isWindow_iff.trans hcursor
    refine ⟨_, ?_, Request.isResized, hiff, fun hnone hits => ?_⟩
    · rw [attempt_paginate answer typeField factory entrance w size number hw]
    · rw [attempt_paginate _ typeField factory entrance _ size number hw]
      dsimp only
      rw [shelf_of_isWindow (hiff.2 hnone)]
      exact pageOf_responseOf ..

/-- The third page of a request with a cursor is searched for without an offset. -/
theorem not_isWindow_of_cursor :
    let r := [Request.Step.setCursor (.text "abc")].foldl Request.attempt {}
    ∃ own sent, r.compile = .ok own ∧
      ((Entrance.gateway.paginate (Watched.gateway (shelf []) (.text "searchable_type"))
        attributesOnly r (.int 5) (.int 3)).attempt ⟨(), []⟩).2.searches = [sent] ∧
      sent = [(.text "cursor", .text "abc"), (.text "queryParser", .text "structured"),
        (.text "size", .int 5)] ∧
      ¬ Request.IsWindow own sent 5 (offset 5 3) := by
  refine ⟨_, _, rfl, rfl, rfl, fun h => ?_⟩
  nomatch (show (none : Option Value) = some _ from h.start)

end Index

end SearchIndex
