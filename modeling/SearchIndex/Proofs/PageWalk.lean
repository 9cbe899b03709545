import Mathlib.Order.Bounds.Basic
import SearchIndex.Proofs.Paging
import SearchIndex.Proofs.Rounding

/-!
# Walks over pages

Pages are asked for one after another as long as one is said to follow. Whether one follows is told
by the number of the last page, which is a rounded quotient. Where that survives rounding, a walk
ends at the last page, and its windows cover every result once.

## Main definitions

* `Walk`: pages of a request one after another, as long as more are said to follow
* `Tells`: a backend that finds so many results for every request
* `Covers sent offset`: the window of a search has the result at an offset
* `Paged total size n`: so many results have `n` pages, for a page and for a walk

## Main results

* `lastPage_eq_ok_iff`: the number of the last page
* `walk_iff`: what a walk searches for and where it ends
* `paged_iff`: the numbers of results and page sizes for which pages are what they should be
-/

namespace SearchIndex.Index

open Query (Request)

/-! ## The number of the last page -/

/-- The least number of pages, from one on, that have room for all results. -/
def IsPageCount (total size n : Nat) : Prop := IsLeast {n | 1 ≤ n ∧ total ≤ n * size} n

section LastPage

variable {α : Type} {total size n : Nat}

theorem isPageCount (h : 1 ≤ size) : IsPageCount total size ((total - 1) / size + 1) := by
  have hdiv := Nat.div_add_mod' (total - 1) size
  have hmod := Nat.mod_lt (total - 1) h
  refine ⟨⟨Nat.succ_pos _, ?_⟩, ?_⟩
  · rw [Nat.add_one_mul]
    omega
  · rintro n ⟨hone, hroom⟩
    obtain ⟨n, rfl⟩ : ∃ before, n = before + 1 := ⟨n - 1, by omega⟩
    refine Nat.succ_le_succ (Nat.lt_succ_iff.1 ((Nat.div_lt_iff_lt_mul h).2 ?_))
    rw [Nat.succ_mul] at hroom ⊢
    omega

theorem IsPageCount.eq (hn : IsPageCount total size n) (h : 1 ≤ size) :
    n = (total - 1) / size + 1 :=
  hn.unique (isPageCount h)

/-- A page before the last one is a full page, with results behind it. -/
theorem IsPageCount.lt_iff (hn : IsPageCount total size n) {number : Nat} (h : 1 ≤ number) :
    number < n ↔ number * size < total := by
  constructor
  · intro hlt
    exact Nat.not_le.1 fun hle => Nat.not_le.2 hlt (hn.2 ⟨h, hle⟩)
  · intro hlt
    exact Nat.lt_of_mul_lt_mul_right (hlt.trans_le hn.1.2)

/-- **The number of the last page** is what it should be exactly if the quotient of results and page
size survives rounding. -/
theorem lastPage_eq_ok_iff (hn : IsPageCount total size n) (h : 1 ≤ size) (items : List α)
    (number : Value) :
    Page.lastPage ⟨items, .int total, number, .int size⟩ = .ok n ↔
      Number.SurvivesRounding total size := by
  have hsize : (Number.int 0).less (.int (size : Int)) = true := by
    rw [Number.less_int, decide_eq_true_eq]
    omega
  rw [← Number.ceilQuotient_iff h, ← hn.eq h]
  show (if (Number.int 0).less (.int (size : Int)) = true then
    ((Number.ceilQuotient total size).map (max 1)).mapError Failure.arithmetic else _) = _ ↔ _
  rw [if_pos hsize]
  cases (Number.ceilQuotient total size).map (max 1) <;> simp [Except.mapError]

theorem hasMore_eq {p : Page α} (hlast : p.lastPage = .ok n) {number : Nat}
    (hnumber : p.number = .int number) : p.hasMore = .ok (decide (number < n)) := by
  rw [Page.hasMore, hlast, hnumber]
  show Except.ok (decide ((number : Int) < n)) = _
  simp only [Int.ofNat_lt]

end LastPage

/-! ## Walks -/

section Walk

variable {σ : Type} (g : Gateway σ) (factory : Factory) (size : Int)

/-- **The pages of a request one after another**, from a number on, as long as more are said to
follow: the number and the world with which the walk ends. The window of a page stays with the
request. -/
inductive Walk : Request → Int → σ → Int → σ → Prop
  | stop {r : Request} {number : Int} {w w' : σ} {page : Page Value}
    (asked : (g.paginate r (.int size) (.int number) factory).attempt w = (.ok page, w'))
    (more : page.hasMore = .ok false) : Walk r number w number w'
  | next {r r' : Request} {number last : Int} {n : Number} {w w' w'' : σ} {page : Page Value}
    (asked : (g.paginate r (.int size) (.int number) factory).attempt w = (.ok page, w'))
    (more : page.hasMore = .ok true)
    (left : window r (.int size) (.int number) = .ok (r', n))
    (rest : Walk r' (number + 1) w' last w'') : Walk r number w last w''

variable {g factory size} {r : Request} {number last : Int} {w w' w'' : σ} {page : Page Value}

theorem walk_iff_of_stop
    (asked : (g.paginate r (.int size) (.int number) factory).attempt w = (.ok page, w'))
    (more : page.hasMore = .ok false) :
    Walk g factory size r number w last w'' ↔ last = number ∧ w'' = w' := by
  constructor
  · rintro (⟨asked', -⟩ | ⟨asked', more', -⟩) <;> rw [asked] at asked' <;> cases asked'
    · exact ⟨rfl, rfl⟩
    · rw [more] at more'
      cases more'
  · rintro ⟨rfl, rfl⟩
    exact .stop asked more

theorem walk_iff_of_next
    (asked : (g.paginate r (.int size) (.int number) factory).attempt w = (.ok page, w'))
    (more : page.hasMore = .ok true) :
    Walk g factory size r number w last w'' ↔
      Walk g factory size (r.within size (offset size number)) (number + 1) w' last w'' := by
  constructor
  · rintro (⟨asked', more'⟩ | ⟨asked', -, left, rest⟩) <;> rw [asked] at asked' <;> cases asked'
    · rw [more] at more'
      cases more'
    · rw [window_int] at left
      cases left
      exact rest
  · exact .next asked more (window_int r size number)

end Walk

/-! ## What a walk searches for -/

section Searches

variable {τ : Type} {answer : Fields → Act τ Value} {typeField : Value} {factory : Factory}

/-- **A backend that finds so many results**, whatever is searched for, and some hits of them that
become entities. -/
def Tells (answer : Fields → Act τ Value) (typeField : Value) (factory : Factory) (total : Int) :
    Prop :=
  ∀ compiled own, ∃ response own' result items,
    (answer compiled).attempt own = (.ok response, own') ∧
      Result.ofResponse response = .ok result ∧ result.found = total ∧
        hydrateHits factory typeField result.hits = .ok items

/-- The window of a search has the result at an offset. -/
def Covers (sent : Fields) (offset : Nat) : Prop :=
  ∃ size start : Int, Keyed.find? (.text "size") sent = some (.int size) ∧
    Keyed.find? (.text "start") sent = some (.int start) ∧ start ≤ offset ∧ offset < start + size

/-- The windows of the first pages of a request. -/
def windows (r : Request) (size : Int) (pages : List Nat) : List Fields :=
  pages.map fun (before : Nat) => (r.within size (before * size)).parameters

theorem attempt_paginate_of_tells {total : Int} (htells : Tells answer typeField factory total)
    {r q : Request} (hwhole : r.isWhole = true)
    (hq : ∀ size start, q.within size start = r.within size start) (size : Int) (before : Nat)
    (w : Watched τ) :
    ∃ items w', ((Watched.gateway answer typeField).paginate q (.int size)
        (.int (before + 1 : Nat)) factory).attempt w =
          (.ok ⟨items, .int total, .int (before + 1 : Nat), .int size⟩, w') ∧
      w'.searches = w.searches ++ windows r size [before] := by
  have hnumber : max 1 ((before + 1 : Nat) : Int) = (before + 1 : Nat) := by omega
  have hoffset : offset size (before + 1 : Nat) = before * size := by
    rw [offset, hnumber, Int.natCast_succ, Int.add_sub_cancel]
  obtain ⟨response, own', result, items, hanswer, hresult, rfl, hitems⟩ :=
    htells (r.within size (before * size)).parameters w.own
  refine ⟨items, ⟨own', w.searches ++ windows r size [before]⟩, ?_, rfl⟩
  have hwhole' : q.isWhole = true := (congrArg Request.isWhole (hq 0 0)).trans hwhole
  refine (attempt_paginate answer typeField factory .gateway w size _ hwhole').trans ?_
  dsimp only
  rw [hoffset, hq, hanswer]
  show (pageOf typeField factory size _ response, _) = _
  simp only [pageOf, hresult, bind, Except.bind, hitems, hnumber]
  rfl

/-- **A walk ends at the last page**, and searches for the windows of the pages up to it in their
order. The rest of a walk is a walk from the next page on, with the window of this one. -/
theorem walk_iff {total size n : Nat} (htells : Tells answer typeField factory total)
    (hn : IsPageCount total size n) (hlast : ∀ (items : List Value) (number : Value),
      Page.lastPage ⟨items, .int total, number, .int size⟩ = .ok n)
    {r : Request} (hwhole : r.isWhole = true) (before ahead : Nat) (hahead : n = before + 1 + ahead)
    {q : Request} (hq : ∀ size start, q.within size start = r.within size start) (w : Watched τ) :
    ∃ w', w'.searches = w.searches ++ windows r size (List.range' before (ahead + 1)) ∧
      ∀ last w'', Walk (Watched.gateway answer typeField) factory size q (before + 1 : Nat) w last
        w'' ↔ last = n ∧ w'' = w' := by
  induction ahead generalizing before q w with
  | zero =>
    obtain rfl : n = before + 1 := hahead
    obtain ⟨items, w₁, asked, hsearches⟩ := attempt_paginate_of_tells htells hwhole hq size before w
    have more := hasMore_eq (hlast items (.int (before + 1 : Nat))) rfl
    rw [decide_eq_false (Nat.lt_irrefl _)] at more
    exact ⟨w₁, hsearches, fun last w'' => walk_iff_of_stop asked more⟩
  | succ ahead ih =>
    obtain ⟨items, w₁, asked, hsearches⟩ := attempt_paginate_of_tells htells hwhole hq size before w
    have more := hasMore_eq (hlast items (.int (before + 1 : Nat))) rfl
    rw [decide_eq_true (show before + 1 < n by omega)] at more
    obtain ⟨w', hsearches', hwalk⟩ := ih (before + 1) (by omega)
      (q := q.within size (offset size (before + 1 : Nat))) (fun size start => hq size start) w₁
    refine ⟨w', ?_, fun last w'' => (walk_iff_of_next asked more).trans (hwalk last w'')⟩
    rw [hsearches', hsearches, List.append_assoc, List.range'_succ (n := ahead + 1)]
    rfl

end Searches

/-! ## What the windows of a walk cover -/

/-- **Searches cover results once**: each has the window of its page in place of the window of other
parameters, and each result is in the window of exactly one of them. -/
structure CoverOnce (own : Fields) (sents : List Fields) (total size : Nat) : Prop where
  window : ∀ (before : Nat) (sent : Fields), sents[before]? = some sent →
    Request.IsWindow own sent size (before * size)
  once : ∀ offset < total, ∃! before : Nat, ∃ sent, sents[before]? = some sent ∧ Covers sent offset

theorem covers_iff {own sent : Fields} {size before offset : Nat} (h : 1 ≤ size)
    (hwindow : Request.IsWindow own sent size (before * size)) :
    Covers sent offset ↔ offset / size = before := by
  have hcovers : Covers sent offset ↔ before * size ≤ offset ∧ offset < before * size + size := by
    simp only [Covers, hwindow.size, hwindow.start, Option.some.injEq, Value.int.injEq]
    constructor
    · rintro ⟨_, _, rfl, rfl, hlow, hhigh⟩
      omega
    · rintro ⟨hlow, hhigh⟩
      exact ⟨_, _, rfl, rfl, by omega, by omega⟩
  rw [hcovers, Nat.div_eq_iff h]
  omega

theorem coverOnce_windows {total size n : Nat} (hn : IsPageCount total size n) (h : 1 ≤ size)
    {r : Request} (hcursor : r.cursor = none) :
    CoverOnce r.parameters (windows r size (List.range' 0 n)) total size := by
  have hfind (before : Nat) (sent : Fields) :
      (windows r size (List.range' 0 n))[before]? = some sent ↔
        before < n ∧ sent = (r.within size (before * size)).parameters := by
    simp [windows, List.getElem?_eq_some_iff, eq_comm (a := sent)]
  have hwindow (before : Nat) :
      Request.IsWindow r.parameters (r.within size (before * size)).parameters size
        (before * size) :=
    Request.isWindow_iff.2 hcursor
  constructor
  · intro before sent hsent
    obtain ⟨-, rfl⟩ := (hfind before sent).1 hsent
    exact hwindow before
  · intro offset hoffset
    have hlt : offset / size < n :=
      (Nat.div_lt_iff_lt_mul h).2 (Nat.lt_of_lt_of_le hoffset hn.1.2)
    refine ⟨offset / size, ⟨_, (hfind _ _).2 ⟨hlt, rfl⟩, (covers_iff h (hwindow _)).2 rfl⟩, ?_⟩
    rintro before ⟨sent, hsent, hcovers⟩
    obtain ⟨-, rfl⟩ := (hfind before sent).1 hsent
    exact ((covers_iff h (hwindow before)).1 hcovers).symm

/-! ## When pages are what they should be -/

/-- **So many results have `n` pages.** A page tells that number and whether results follow. A walk
over the pages of a request without a cursor, with a backend that finds so many results, ends at the
last page, and its searches cover the results once. -/
structure Paged (total size n : Nat) : Prop where
  last : ∀ {α : Type} (items : List α) (number : Value),
    Page.lastPage ⟨items, .int total, number, .int size⟩ = .ok n
  more : ∀ {α : Type} (items : List α) (number : Nat), 1 ≤ number →
    Page.hasMore ⟨items, .int total, .int number, .int size⟩ =
      .ok (decide (number * size < total))
  walk : ∀ {τ : Type} {answer : Fields → Act τ Value} {typeField : Value} {factory : Factory},
    Tells answer typeField factory total → ∀ {r : Request} {own : Fields}, r.compile = .ok own →
      r.cursor = none → ∀ w : Watched τ, ∃ w' sents,
        (∀ last w'', Walk (Watched.gateway answer typeField) factory size r 1 w last w'' ↔
          last = n ∧ w'' = w') ∧
        w'.searches = w.searches ++ sents ∧ sents.length = n ∧ CoverOnce own sents total size

/-- **The pages of results are what they should be** exactly if the quotient of results and page
size survives rounding. -/
theorem paged_iff {total size n : Nat} (h : 1 ≤ size) (hn : IsPageCount total size n) :
    Paged total size n ↔ Number.SurvivesRounding total size := by
  constructor
  · intro hpaged
    exact (lastPage_eq_ok_iff hn h ([] : List Value) .null).1 (hpaged.last [] .null)
  · intro hsurvives
    have hlast {α : Type} (items : List α) (number : Value) :
        Page.lastPage ⟨items, .int total, number, .int size⟩ = .ok n :=
      (lastPage_eq_ok_iff hn h items number).2 hsurvives
    refine ⟨hlast, ?_, ?_⟩
    · intro α items number hnumber
      rw [hasMore_eq (hlast items _) rfl]
      exact congrArg Except.ok (decide_eq_decide.2 (hn.lt_iff hnumber))
    · intro τ answer typeField factory htells r own hcompile hcursor w
      obtain ⟨hwhole, rfl⟩ := Request.compile_eq_ok_iff.1 hcompile
      have hone : 1 ≤ n := hn.1.1
      obtain ⟨w', hsearches, hwalk⟩ := walk_iff htells hn hlast hwhole 0 (n - 1)
        (by omega) (fun size start => rfl) w
      rw [Nat.sub_add_cancel hone] at hsearches
      refine ⟨w', _, hwalk, hsearches, ?_, coverOnce_windows hn h hcursor⟩
      simp [windows]

/-- A quotient half a unit above an odd number is rounded up to the number of pages. -/
theorem paged_of_tie : Paged 9007199254740995 2 4503599627370498 :=
  (paged_iff (by decide) (isPageCount (by decide))).2 (by decide +kernel)

/-- One result more than doubles have digits for is lost: it is on no page. -/
theorem not_paged_of_many :
    IsPageCount 9007199254740993 1 9007199254740993 ∧
      Page.lastPage (⟨[], .int 9007199254740993, .int 9007199254740992, .int 1⟩ : Page Value) =
        .ok 9007199254740992 ∧
      Page.hasMore (⟨[], .int 9007199254740993, .int 9007199254740992, .int 1⟩ : Page Value) =
        .ok false ∧
      ¬ Paged 9007199254740993 1 9007199254740993 := by
  have hlast : Page.lastPage
      (⟨[], .int 9007199254740993, .int 9007199254740992, .int 1⟩ : Page Value) =
        .ok 9007199254740992 := rfl
  refine ⟨isPageCount (by decide), hlast, rfl, fun h => ?_⟩
  have hshould := h.last ([] : List Value) (.int 9007199254740992)
  exact absurd (Except.ok.inj (hlast.symm.trans hshould)) (by decide)

end SearchIndex.Index
