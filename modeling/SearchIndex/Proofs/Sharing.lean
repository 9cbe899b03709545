import SearchIndex.Proofs.History
import SearchIndex.Proofs.Managers

/-!
# Sharing the manager

Clients construct managers, which may fail, and close them, in any order and again. Every
construction and every closing has one of few effects on the roster of the pool, so the history of
them says which manager is shared, what it was made for, and what became of its connection.

## Main definitions

* `Event`, `History`: what clients did with managers
* `Event.Effect r r'`: what an event does to the roster
* `Happens k s e s'`, `Run k h s`: one event in a world, and the histories of a world
* `MadeSince path manager h`, `FailedSince h`: what happened since a manager was last closed
* `Roster.Ordered r`, `Roster.Grows r r'`: what holds of every roster, and of every change of it
* `Kept h r`: the roster is what the history says

## Main results

* `Happens.effect`: an event has its effect
* `Kept.next`: what one event preserves
* `Run.kept`: the roster after a run is what the history says
* `Run.sharing`: which manager the next construction gives, which constructions share a connection,
  and what it does to close a manager again
-/

namespace SearchIndex.Storage

open Queue (Since eq_or_exists_of_snoc_eq not_since_nil since_snoc)

variable {σ : Type}

/-! ## Events -/

/-- What a client did with managers. -/
inductive Event where
  /-- A construction for a path made a manager. -/
  | made (path : String) (manager : Nat)
  /-- A construction for a path gave the shared manager. -/
  | given (path : String) (manager : Nat)
  | failed (path : String) (cause : Failure)
  /-- A manager was closed, which had a connection or not. -/
  | closed (manager : Nat) (linked : Bool)

namespace Event

/-- A construction for the path gave the manager. -/
def Gives (path : String) (manager : Nat) : Event → Prop
  | .made p m | .given p m => p = path ∧ m = manager
  | _ => False

def Fails : Event → Prop
  | .failed _ _ => True
  | _ => False

/-- A manager with a connection was closed. -/
def Ends : Event → Prop
  | .closed _ linked => linked = true
  | _ => False

/-- Which manager is shared after an event. -/
def shares (r : Roster) : Event → Option Nat
  | .made _ _ | .failed _ _ => some r.managers.length
  | .given _ _ => r.shared
  | .closed _ linked => if linked then none else r.shared

/-- **What an event does to the roster.** -/
def Effect (r r' : Roster) : Event → Prop
  | .made path manager => r.shared = none ∧ manager = r.managers.length ∧ r' = r.full path
  | .given _ manager => r.shared = some manager ∧ r' = r
  | .failed path _ => r.shared = none ∧ (r' = r.half path ∨ r' = r.full path)
  | .closed manager linked => linked = (r.link? manager).isSome ∧ r' = r.close manager

end Event

/-- What was done with managers, the earliest first. -/
abbrev History := List Event

/-- The manager was made for the path, and no manager with a connection was closed since. -/
def MadeSince (path : String) (manager : Nat) : History → Prop :=
  Since (fun _ e => e = .made path manager) fun _ e => ¬ e.Ends

/-- A construction failed, and no manager with a connection was closed since. -/
def FailedSince : History → Prop := Since (fun _ e => e.Fails) fun _ e => ¬ e.Ends

/-- **What happens to a world** when a client constructs a manager or closes one. -/
inductive Happens (k : Keeper σ) (s : σ) : Event → σ → Prop
  | made {path : String} {manager : Nat} {s' : σ} (hshared : (k.pool s).shared = none)
      (h : (k.acquire path).attempt s = (.ok manager, s')) : Happens k s (.made path manager) s'
  | given {path : String} {manager other : Nat} {s' : σ} (hshared : (k.pool s).shared = some other)
      (h : (k.acquire path).attempt s = (.ok manager, s')) : Happens k s (.given path manager) s'
  | failed {path : String} {f : Failure} {s' : σ}
      (h : (k.acquire path).attempt s = (.error f, s')) : Happens k s (.failed path f) s'
  | closed {manager : Nat} {s' : σ} (h : (k.close manager).attempt s = (.ok (), s')) :
      Happens k s (.closed manager ((k.pool s).link? manager).isSome) s'

/-- **The histories of a world** that starts without managers. Between the events it may change in
any way that leaves the managers and their connections alone. -/
inductive Run (k : Keeper σ) : History → σ → Prop
  | start {s : σ} (hmanagers : (k.pool s).managers = []) (hshared : (k.pool s).shared = none) :
      Run k [] s
  | next {h : History} {e : Event} {s s' : σ} (hrun : Run k h s) (he : Happens k s e s') :
      Run k (h ++ [e]) s'
  | meanwhile {h : History} {s s' : σ} (hrun : Run k h s)
      (hroster : (k.pool s').roster = (k.pool s).roster) : Run k h s'

/-- **An event has its effect.** While a manager is shared, no construction fails. -/
theorem Happens.effect {k : Keeper σ} (hk : k.Lawful) {s s' : σ} {e : Event}
    (h : Happens k s e s') : e.Effect (k.pool s).roster (k.pool s').roster := by
  cases h with
  | made hshared h =>
    rcases hk.attempt_acquire_of_not_shared hshared h with ⟨hmanager, hroster⟩ | ⟨f, hf, -⟩
    · exact ⟨hshared, Except.ok.inj hmanager, hroster⟩
    · cases hf
  | given hshared h =>
    cases (k.acquire_of_shared hshared _).symm.trans h
    exact ⟨hshared, rfl⟩
  | failed h =>
    rcases hshared : (k.pool s).shared with _ | manager
    · rcases hk.attempt_acquire_of_not_shared hshared h with ⟨hf, -⟩ | ⟨_, -, hroster⟩
      · cases hf
      · exact ⟨hshared, hroster⟩
    · cases (k.acquire_of_shared hshared _).symm.trans h
  | closed h =>
    cases h
    refine ⟨rfl, ?_⟩
    rw [hk.pool]
    exact Pool.roster_close _ _

/-! ## The roster after a history -/

namespace Roster

/-- **Every connection is that of one manager at most**, and the shared manager's is open. -/
structure Ordered (r : Roster) : Prop where
  bound : ∀ manager link, r.link? manager = some link → link < r.links.length
  apart : ∀ manager other link, r.link? manager = some link → r.link? other = some link →
    manager = other
  shared : ∀ manager, r.shared = some manager → manager < r.managers.length
  connected : ∀ manager link, r.shared = some manager → r.link? manager = some link →
    ∃ place, r.links[link]? = some ⟨place, true⟩

/-- A manager stays what it is, and a connection at its place; a closed one stays closed. -/
structure Grows (r r' : Roster) : Prop where
  manager : ∀ (i : Nat) (m : Manager), r.managers[i]? = some m → r'.managers[i]? = some m
  link : ∀ (i : Nat) (l : Link), r.links[i]? = some l →
    ∃ l', r'.links[i]? = some l' ∧ l'.place = l.place ∧ (l'.connected → l.connected)

variable {r r' : Roster} {path : String}

theorem ordered_of_managers_eq_nil (hmanagers : r.managers = []) (hshared : r.shared = none) :
    r.Ordered := by
  have hlink (i : Nat) : r.link? i = none := by
    rw [Roster.link?, hmanagers]
    rfl
  constructor <;> simp [hlink, hshared]

theorem ordered_of_link?_eq (h : r.Ordered) (hlink : ∀ i, r'.link? i = r.link? i)
    (hlinks : r.links.length ≤ r'.links.length)
    (hshared : ∀ i, r'.shared = some i → i < r'.managers.length)
    (hconnected : ∀ i link, r'.shared = some i → r'.link? i = some link →
      ∃ place, r'.links[link]? = some ⟨place, true⟩) : r'.Ordered where
  bound i link hi := (h.bound i link (hlink i ▸ hi)).trans_le hlinks
  apart i j link hi hj := h.apart i j link (hlink i ▸ hi) (hlink j ▸ hj)
  shared := hshared
  connected := hconnected

theorem Ordered.half (h : r.Ordered) (path : String) : (r.half path).Ordered := by
  refine ordered_of_link?_eq h link?_half (Nat.le_refl _) ?_ ?_
  · rintro _ ⟨⟩
    simp [Roster.half]
  · rintro _ link ⟨⟩ hlink
    rw [link?_half] at hlink
    exact absurd (lt_length_of_link? hlink) (Nat.lt_irrefl _)

theorem Ordered.close (h : r.Ordered) (manager : Nat) : (r.close manager).Ordered := by
  refine ordered_of_link?_eq h (link?_close manager) ?_ ?_ ?_
  all_goals rw [Roster.close]; rcases r.link? manager with _ | link
  · exact Nat.le_refl _
  · simp
  · exact h.shared
  · rintro _ ⟨⟩
  · exact h.connected
  · rintro _ _ ⟨⟩

theorem Ordered.full (h : r.Ordered) (path : String) : (r.full path).Ordered where
  bound i link hi := by
    have hlength : (r.full path).links.length = r.links.length + 1 := List.length_append
    rw [link?_full] at hi
    split at hi
    · cases hi
      omega
    · have := h.bound i link hi
      omega
  apart i j link hi hj := by
    rw [link?_full] at hi hj
    have hbound (i : Nat) := h.bound i link
    split at hi <;> split at hj
    · omega
    · cases hi
      exact absurd (hbound j hj) (Nat.lt_irrefl _)
    · cases hj
      exact absurd (hbound i hi) (Nat.lt_irrefl _)
    · exact h.apart i j link hi hj
  shared := by
    rintro _ ⟨⟩
    simp [Roster.full]
  connected := by
    rintro _ link ⟨⟩ hlink
    rw [link?_full, if_pos rfl] at hlink
    cases hlink
    exact ⟨_, List.getElem?_concat_length⟩

theorem grows_half (r : Roster) (path : String) : r.Grows (r.half path) where
  manager i m hm := by
    rw [half, getElem?_snoc, if_neg (Nat.ne_of_lt (List.getElem?_eq_some_iff.1 hm).1), hm]
  link i l hl := ⟨l, hl, rfl, id⟩

theorem grows_full (r : Roster) (path : String) : r.Grows (r.full path) where
  manager i m hm := by
    rw [full, getElem?_snoc, if_neg (Nat.ne_of_lt (List.getElem?_eq_some_iff.1 hm).1), hm]
  link i l hl := by
    rw [full, getElem?_snoc, if_neg (Nat.ne_of_lt (List.getElem?_eq_some_iff.1 hl).1)]
    exact ⟨l, hl, rfl, id⟩

theorem grows_close (r : Roster) (manager : Nat) : r.Grows (r.close manager) := by
  rw [Roster.close]
  rcases r.link? manager with _ | link
  · exact ⟨fun _ _ hm => hm, fun _ l hl => ⟨l, hl, rfl, id⟩⟩
  · refine ⟨fun _ _ hm => hm, fun i l hl => ?_⟩
    dsimp only
    rw [List.getElem?_modify, hl]
    split
    · exact ⟨_, rfl, rfl, fun h => absurd h Bool.false_ne_true⟩
    · exact ⟨_, rfl, rfl, id⟩

theorem Grows.link? (h : r.Grows r') {manager link : Nat} (hlink : r.link? manager = some link) :
    r'.link? manager = some link := by
  obtain ⟨m, hm, hl⟩ := Option.bind_eq_some_iff.1 hlink
  exact Option.bind_eq_some_iff.2 ⟨m, h.manager manager m hm, hl⟩

theorem Grows.lt_length (h : r.Grows r') {manager : Nat} (hm : manager < r.managers.length) :
    manager < r'.managers.length :=
  (List.getElem?_eq_some_iff.1 (h.manager manager _ (List.getElem?_eq_getElem hm))).1

end Roster

namespace Event.Effect

variable {e : Event} {r r' : Roster}

theorem grows (he : e.Effect r r') : r.Grows r' := by
  cases e with
  | made path manager =>
    obtain ⟨-, -, rfl⟩ := he
    exact r.grows_full path
  | given path manager =>
    obtain ⟨-, rfl⟩ := he
    exact ⟨fun _ _ hm => hm, fun _ l hl => ⟨l, hl, rfl, id⟩⟩
  | failed path f =>
    obtain ⟨-, rfl | rfl⟩ := he
    · exact r.grows_half path
    · exact r.grows_full path
  | closed manager linked =>
    obtain ⟨-, rfl⟩ := he
    exact r.grows_close manager

theorem ordered (he : e.Effect r r') (h : r.Ordered) : r'.Ordered := by
  cases e with
  | made path manager =>
    obtain ⟨-, -, rfl⟩ := he
    exact h.full path
  | given path manager =>
    obtain ⟨-, rfl⟩ := he
    exact h
  | failed path f =>
    obtain ⟨-, rfl | rfl⟩ := he
    · exact h.half path
    · exact h.full path
  | closed manager linked =>
    obtain ⟨-, rfl⟩ := he
    exact h.close manager

theorem shared_eq (he : e.Effect r r') : r'.shared = e.shares r := by
  cases e with
  | made path manager =>
    obtain ⟨-, -, rfl⟩ := he
    rfl
  | given path manager =>
    obtain ⟨-, rfl⟩ := he
    rfl
  | failed path f =>
    obtain ⟨-, rfl | rfl⟩ := he <;> rfl
  | closed manager linked =>
    obtain ⟨rfl, rfl⟩ := he
    unfold Roster.close
    rcases r.link? manager with _ | link <;> rfl

/-- Only closing a manager ends the sharing of one that was there before. -/
theorem shared_eq_some_iff (he : e.Effect r r') {manager : Nat}
    (hm : manager < r.managers.length) :
    r'.shared = some manager ↔ r.shared = some manager ∧ ¬ e.Ends := by
  rw [he.shared_eq]
  cases e with
  | made _ _ =>
    simp only [shares, he.1, Option.some.injEq, reduceCtorEq, false_and, iff_false]
    omega
  | given _ _ => simp [shares, Ends]
  | failed _ _ =>
    simp only [shares, he.1, Option.some.injEq, reduceCtorEq, false_and, iff_false]
    omega
  | closed _ linked => cases linked <;> simp [shares, Ends]

theorem shared_of_gives (he : e.Effect r r') {path : String} {manager : Nat}
    (h : e.Gives path manager) : r'.shared = some manager := by
  cases e with
  | made _ _ =>
    obtain ⟨-, rfl⟩ := h
    rw [he.shared_eq, shares, he.2.1]
  | given _ _ =>
    obtain ⟨-, rfl⟩ := h
    rw [he.shared_eq, shares, he.1]
  | failed _ _ => cases h
  | closed _ _ => cases h

theorem shared_ne_none_of_fails (he : e.Effect r r') (h : e.Fails) : r'.shared ≠ none := by
  cases e with
  | failed _ _ =>
    rw [he.shared_eq]
    exact Option.some_ne_none _
  | _ => cases h

/-- A shared manager was made by the event, or shared before, unless a construction failed. -/
theorem shared_cases (he : e.Effect r r') {manager : Nat} (h : r'.shared = some manager) :
    e.Fails ∨ (∃ path, e = .made path manager) ∨ r.shared = some manager ∧ ¬ e.Ends := by
  rw [he.shared_eq] at h
  cases e with
  | made path _ =>
    cases h
    rw [he.2.1]
    exact .inr (.inl ⟨path, rfl⟩)
  | given _ _ => exact .inr (.inr ⟨h, id⟩)
  | failed _ _ => exact .inl trivial
  | closed _ linked =>
    cases linked with
    | false => exact .inr (.inr ⟨h, Bool.false_ne_true⟩)
    | true => cases h

end Event.Effect

/-- **The roster is what the history says.** -/
structure Kept (h : History) (r : Roster) : Prop where
  ordered : r.Ordered
  /-- What was made is there, with a connection to the file at its path. -/
  made : ∀ path manager, .made path manager ∈ h →
    ∃ link l, r.managers[manager]? = some ⟨Path.normal path, some link, true⟩ ∧
      r.links[link]? = some l ∧ l.place = Path.place (Path.normal path)
  /-- What was closed has a closed connection. -/
  closed : ∀ manager, .closed manager true ∈ h →
    ∃ link l, r.link? manager = some link ∧ r.links[link]? = some l ∧ l.connected = false
  /-- What was given is shared until some manager is closed. -/
  given : ∀ past e later path manager, h = past ++ e :: later → e.Gives path manager →
    manager < r.managers.length ∧ (r.shared = some manager ↔ ∀ e' ∈ later, ¬ e'.Ends)
  /-- What is shared was made since, unless a construction failed since. -/
  origin : ∀ manager, r.shared = some manager →
    FailedSince h ∨ ∃ path, MadeSince path manager h
  /-- A manager is shared since a construction failed. -/
  held : FailedSince h → r.shared ≠ none

/-- **What one event preserves**: what was made stays what it is, with its connection at its place;
a manager that is closed with a connection has it closed; and one that was given stays shared as the
event says. -/
theorem Kept.next {h : History} {e : Event} {r r' : Roster} (hr : Kept h r)
    (he : e.Effect r r') : Kept (h ++ [e]) r' where
  ordered := he.ordered hr.ordered
  made path manager hmem := by
    rcases List.mem_append.1 hmem with hmem | hmem
    · obtain ⟨link, l, hm, hl, hplace⟩ := hr.made path manager hmem
      obtain ⟨l', hl', hplace', -⟩ := he.grows.link link l hl
      exact ⟨link, l', he.grows.manager manager _ hm, hl', hplace'.trans hplace⟩
    · obtain rfl := List.mem_singleton.1 hmem
      obtain ⟨-, rfl, rfl⟩ := he
      exact ⟨_, _, List.getElem?_concat_length, List.getElem?_concat_length, rfl⟩
  closed manager hmem := by
    rcases List.mem_append.1 hmem with hmem | hmem
    · obtain ⟨link, l, hlink, hl, hclosed⟩ := hr.closed manager hmem
      obtain ⟨l', hl', -, hconnected⟩ := he.grows.link link l hl
      refine ⟨link, l', he.grows.link? hlink, hl', ?_⟩
      rw [Bool.eq_false_iff] at hclosed ⊢
      exact fun h => hclosed (hconnected h)
    · obtain rfl := List.mem_singleton.1 hmem
      obtain ⟨hlinked, rfl⟩ := he
      obtain ⟨link, hlink⟩ := Option.isSome_iff_exists.1 hlinked.symm
      have hbound := hr.ordered.bound manager link hlink
      refine ⟨link, { r.links[link] with connected := false },
        (Roster.link?_close manager manager).trans hlink, ?_, rfl⟩
      rw [Roster.close, hlink]
      dsimp only
      rw [List.getElem?_modify_eq, List.getElem?_eq_getElem hbound]
      rfl
  given past x later path manager heq hx := by
    rcases eq_or_exists_of_snoc_eq heq with ⟨rfl, rfl, rfl⟩ | ⟨before, rfl, rfl⟩
    · have hshared := he.shared_of_gives hx
      refine ⟨(he.ordered hr.ordered).shared manager hshared, ?_⟩
      simp [hshared]
    · obtain ⟨hm, hshared⟩ := hr.given past x before path manager rfl hx
      refine ⟨he.grows.lt_length hm, ?_⟩
      rw [he.shared_eq_some_iff hm, hshared]
      simp [or_imp, forall_and]
  origin manager hshared := by
    rcases he.shared_cases hshared with hfails | ⟨path, rfl⟩ | ⟨hbefore, hends⟩
    · exact .inl (since_snoc.2 (.inl hfails))
    · exact .inr ⟨path, since_snoc.2 (.inl rfl)⟩
    · rcases hr.origin manager hbefore with hsince | ⟨path, hsince⟩
      · exact .inl (since_snoc.2 (.inr ⟨hsince, hends⟩))
      · exact .inr ⟨path, since_snoc.2 (.inr ⟨hsince, hends⟩)⟩
  held hsince := by
    rcases since_snoc.1 hsince with hfails | ⟨hsince, hends⟩
    · exact he.shared_ne_none_of_fails hfails
    · obtain ⟨manager, hmanager⟩ := Option.ne_none_iff_exists'.1 (hr.held hsince)
      rw [(he.shared_eq_some_iff (hr.ordered.shared manager hmanager)).2 ⟨hmanager, hends⟩]
      exact Option.some_ne_none _

/-- Without managers, there is nothing that the history could say. -/
theorem kept_nil {r : Roster} (hmanagers : r.managers = []) (hshared : r.shared = none) :
    Kept [] r where
  ordered := Roster.ordered_of_managers_eq_nil hmanagers hshared
  made _ _ hmem := absurd hmem List.not_mem_nil
  closed _ hmem := absurd hmem List.not_mem_nil
  given _ _ _ _ _ heq := absurd heq.symm (by simp)
  origin manager h := by
    rw [hshared] at h
    cases h
  held hfailed := absurd hfailed not_since_nil

/-- **The roster after a run** is what the history says. -/
theorem Run.kept {k : Keeper σ} (hk : k.Lawful) {h : History} {s : σ} (hrun : Run k h s) :
    Kept h (k.pool s).roster := by
  induction hrun with
  | start hmanagers hshared => exact kept_nil hmanagers hshared
  | next hrun he ih => exact ih.next (he.effect hk)
  | meanwhile hrun hroster ih => rwa [hroster]

/-! ## What the history says about constructions -/

theorem Event.Effect.eq_iff_of_gives {e : Event} {r r' : Roster} (he : e.Effect r r')
    {path : String} {manager other : Nat} (h : e.Gives path manager)
    (hother : other < r.managers.length) : other = manager ↔ r.shared = some other := by
  cases e with
  | made _ _ =>
    obtain ⟨-, rfl⟩ := h
    obtain ⟨hshared, rfl, -⟩ := he
    rw [hshared]
    exact iff_of_false (Nat.ne_of_lt hother) (Option.some_ne_none _).symm
  | given _ _ =>
    obtain ⟨-, rfl⟩ := h
    rw [he.1, Option.some.injEq]
    exact eq_comm
  | failed _ _ => cases h
  | closed _ _ => cases h

namespace Run

variable {k : Keeper σ} {h : History} {s : σ}

/-- A run up to an event: it ends in the event or goes on after it. -/
theorem split {past later : History} {e : Event} (hrun : Run k (past ++ e :: later) s) :
    ∃ s₁ s₂, Run k past s₁ ∧ Happens k s₁ e s₂ := by
  generalize heq : past ++ e :: later = h at hrun
  induction hrun generalizing later with
  | start => simp at heq
  | @next h x s s' hrun hx ih =>
    rcases eq_or_exists_of_snoc_eq heq.symm with ⟨-, rfl, rfl⟩ | ⟨before, -, rfl⟩
    · exact ⟨s, s', hrun, hx⟩
    · exact ih rfl
  | meanwhile _ _ ih => exact ih heq

variable (hk : k.Lawful)

include hk

/-- A manager is shared exactly while it was made since, when no construction failed. -/
theorem shared_eq_some_iff (hrun : Run k h s) (hok : ∀ e ∈ h, ¬ e.Fails) {manager : Nat} :
    (k.pool s).shared = some manager ↔ ∃ path, MadeSince path manager h := by
  have hr := hrun.kept hk
  constructor
  · intro hshared
    refine (hr.origin manager hshared).resolve_left ?_
    rintro ⟨past, e, later, rfl, hfails, -⟩
    exact hok e (by simp) hfails
  · rintro ⟨path, past, e, later, rfl, rfl, hends⟩
    refine (hr.given past _ later path manager rfl ⟨rfl, rfl⟩).2.2 fun e he => ?_
    obtain ⟨mid, rest, rfl⟩ := List.append_of_mem he
    exact hends mid e rest rfl

/-- What was given was made, when no construction failed. -/
theorem exists_made_of_gives (hrun : Run k h s) (hok : ∀ e ∈ h, ¬ e.Fails) {e : Event}
    (he : e ∈ h) {path : String} {manager : Nat} (hgives : e.Gives path manager) :
    ∃ other, .made other manager ∈ h := by
  obtain ⟨past, later, rfl⟩ := List.append_of_mem he
  cases e with
  | made _ _ =>
    obtain ⟨-, rfl⟩ := hgives
    exact ⟨_, he⟩
  | given _ _ =>
    obtain ⟨-, rfl⟩ := hgives
    obtain ⟨s₁, s₂, hpast, happens⟩ := hrun.split
    have hshared := (happens.effect hk).1
    obtain ⟨other, before, _, rest, rfl, rfl, -⟩ :=
      (hpast.shared_eq_some_iff hk fun e he => hok e (by simp [he])).1 hshared
    exact ⟨other, by simp⟩
  | failed _ _ => cases hgives
  | closed _ _ => cases hgives

/-- The manager that a construction gives is one for the path, unless a manager was made for another
path before, and no manager was closed since. Without a shared manager the construction makes one
for the path; a shared one has the path that it was made for, and an open connection. -/
theorem serves_iff (hrun : Run k h s) (hok : ∀ e ∈ h, ¬ e.Fails) {path : String} {manager : Nat}
    {s' : σ} (hattempt : (k.acquire path).attempt s = (.ok manager, s')) :
    (k.pool s').Serves manager path ↔
      ∀ other m, MadeSince other m h → Path.normal other = Path.normal path := by
  have hshared_iff {m : Nat} :
      (k.pool s).shared = some m ↔ ∃ other, MadeSince other m h :=
    hrun.shared_eq_some_iff hk hok
  rcases hshared : (k.pool s).shared with _ | m
  · rcases hk.attempt_acquire_of_not_shared hshared hattempt with ⟨hm, hroster⟩ | ⟨f, hf, -⟩
    · cases hm
      refine iff_of_true (Pool.serves_of_roster_eq_full hroster) fun other m hmade => ?_
      rw [hshared_iff.2 ⟨other, hmade⟩] at hshared
      cases hshared
    · cases hf
  · cases (k.acquire_of_shared hshared path).symm.trans hattempt
    have hr := hrun.kept hk
    have hmade {other : String} (h' : MadeSince other manager h) :
        ∃ link, (k.pool s).managers[manager]? = some ⟨Path.normal other, some link, true⟩ ∧
          (k.pool s).disk.links[link]? = some ⟨Path.place (Path.normal other), true⟩ := by
      obtain ⟨past, _, later, rfl, rfl, -⟩ := h'
      obtain ⟨link, l, hm, hl, hplace⟩ := hr.made other manager (by simp)
      have hlink : (k.pool s).roster.link? manager = some link := by
        rw [Roster.link?, hm]
        rfl
      obtain ⟨place, hopen⟩ := hr.ordered.connected manager link hshared hlink
      obtain rfl : l = ⟨place, true⟩ := Option.some.inj (hl.symm.trans hopen)
      exact ⟨link, hm, hplace ▸ hopen⟩
    constructor
    · rintro ⟨link, hm, -⟩ other m' h'
      obtain rfl : m' = manager :=
        Option.some.inj ((hshared_iff.2 ⟨other, h'⟩).symm.trans hshared)
      obtain ⟨_, hm', -⟩ := hmade h'
      exact congrArg Manager.path (Option.some.inj (hm'.symm.trans hm))
    · intro hsame
      obtain ⟨other, h'⟩ := hshared_iff.1 hshared
      obtain ⟨link, hm, hl⟩ := hmade h'
      rw [hsame other manager h'] at hm hl
      exact ⟨link, hm, hl⟩

/-- Two constructions share a connection unless a manager was closed in between. The manager of the
first was still shared when the second came, or not. -/
theorem link?_eq_iff (hrun : Run k h s) (hok : ∀ e ∈ h, ¬ e.Fails) {past between later : History}
    {e₁ e₂ : Event} (heq : h = past ++ e₁ :: (between ++ e₂ :: later)) {path₁ path₂ : String}
    {m₁ m₂ : Nat} (h₁ : e₁.Gives path₁ m₁) (h₂ : e₂.Gives path₂ m₂) :
    (k.pool s).link? m₁ = (k.pool s).link? m₂ ↔ ∀ e ∈ between, ¬ e.Ends := by
  have hr := hrun.kept hk
  have hlink {e : Event} {path : String} {m : Nat} (he : e ∈ h) (hgives : e.Gives path m) :
      ∃ link, (k.pool s).roster.link? m = some link := by
    obtain ⟨other, hmade⟩ := hrun.exists_made_of_gives hk hok he hgives
    obtain ⟨link, _, hm, -⟩ := hr.made other m hmade
    exact ⟨link, by rw [Roster.link?, hm]; rfl⟩
  obtain ⟨link₁, hlink₁⟩ := hlink (by simp [heq]) h₁
  obtain ⟨link₂, hlink₂⟩ := hlink (by simp [heq]) h₂
  have hsame : (k.pool s).link? m₁ = (k.pool s).link? m₂ ↔ m₁ = m₂ := by
    constructor
    · intro hsame
      exact hr.ordered.apart m₁ m₂ link₁ hlink₁ (hsame.symm.trans hlink₁)
    · rintro rfl
      rfl
  have hrun₂ : Run k ((past ++ e₁ :: between) ++ e₂ :: later) s := by
    rw [List.append_assoc, List.cons_append, ← heq]
    exact hrun
  obtain ⟨s₁, s₂, hbefore, happens⟩ := hrun₂.split
  obtain ⟨hm₁, hshared⟩ := (hbefore.kept hk).given past e₁ between path₁ m₁ rfl h₁
  rw [hsame, (happens.effect hk).eq_iff_of_gives h₂ hm₁, hshared]

/-- Closing a manager again only ends the sharing. -/
theorem close_again (hrun : Run k h s) {manager : Nat} (hclosed : .closed manager true ∈ h) :
    (k.pool s).close manager = { k.pool s with shared := none } := by
  obtain ⟨link, l, hlink, hl, hoff⟩ := (hrun.kept hk).closed manager hclosed
  have hlink : (k.pool s).link? manager = some link := hlink
  have hl : (k.pool s).disk.links[link]? = some l := hl
  have hsame : (k.pool s).disk.disconnect link = (k.pool s).disk := by
    rw [Disk.disconnect, modify_eq_of_fixed hl]
    rw [← hoff]
  rw [Pool.close, hlink]
  dsimp only
  rw [hsame]

/-- **One manager at a time, whatever the path**: after any constructions that all succeed, and
any closings, the manager that the next construction gives is one for its path exactly when no
manager for another path is shared; two constructions share a connection exactly when no manager was
closed in between; and closing a manager again changes nothing exactly when no manager is shared. -/
theorem sharing (hrun : Run k h s) (hok : ∀ e ∈ h, ¬ e.Fails) :
    (∀ path manager s', (k.acquire path).attempt s = (.ok manager, s') →
      ((k.pool s').Serves manager path ↔
        ∀ other m, MadeSince other m h → Path.normal other = Path.normal path)) ∧
    (∀ past e₁ between e₂ later path₁ m₁ path₂ m₂,
      h = past ++ e₁ :: (between ++ e₂ :: later) → e₁.Gives path₁ m₁ → e₂.Gives path₂ m₂ →
      ((k.pool s).link? m₁ = (k.pool s).link? m₂ ↔ ∀ e ∈ between, ¬ e.Ends)) ∧
    ∀ manager, .closed manager true ∈ h →
      ((k.pool s).close manager = k.pool s ↔ ∀ other m, ¬ MadeSince other m h) := by
  refine ⟨?_, ?_, ?_⟩
  · intro path manager s' hattempt
    exact hrun.serves_iff hk hok hattempt
  · intro past e₁ between e₂ later path₁ m₁ path₂ m₂ heq h₁ h₂
    exact hrun.link?_eq_iff hk hok heq h₁ h₂
  · intro manager hclosed
    have hshared : (k.pool s).close manager = k.pool s ↔ (k.pool s).shared = none := by
      rw [hrun.close_again hk hclosed]
      constructor
      · intro hsame
        rw [← hsame]
      · intro hnone
        rw [← hnone]
    rw [hshared, Option.eq_none_iff_forall_ne_some]
    simp only [ne_eq, hrun.shared_eq_some_iff hk hok, not_exists]
    exact forall_comm

end Run

/-- A pool on its own, without notes. -/
def Pool.keeper : Keeper Pool := ⟨id, fun p _ => p, fun _ => pure ()⟩

theorem Pool.lawful_keeper : Pool.keeper.Lawful where
  pool _ _ := rfl
  note _ s := ⟨s, rfl, rfl⟩

theorem Disk.usable_of_empty : Disk.Usable (Path.normal "a.db") {} where
  reachable := by decide +kernel
  textless := by decide +kernel
  untroubled _ := rfl
  library := rfl
  sound := by
    rw [Disk.found, if_neg (by decide +kernel)]
    exact Schema.Tables.sound_nil

/-- The pool after a first construction on an empty disk. -/
theorem Pool.exists_first : ∃ p : Pool, Run Pool.keeper [.made "a.db" 0] p ∧
    p.roster = ⟨[⟨"a.db", some 0, true⟩], some 0, [⟨"a.db", true⟩]⟩ := by
  obtain ⟨p, hattempt, hroster, -⟩ :=
    Pool.lawful_keeper.exists_acquire_of_usable (s := {}) rfl Disk.usable_of_empty
  refine ⟨p, (Run.start (s := {}) rfl rfl).next (.made rfl hattempt), hroster.trans ?_⟩
  decide +kernel

/-- **The same file under another name** gets the manager that is there. -/
theorem Run.sharing_first : ∃ p : Pool, Run Pool.keeper [.made "a.db" 0] p ∧
    (Pool.keeper.acquire "./a.db").attempt p = (.ok 0, p) ∧ p.Serves 0 "./a.db" := by
  obtain ⟨p, hrun, hroster⟩ := Pool.exists_first
  have hok : ∀ e ∈ [Event.made "a.db" 0], ¬ e.Fails := by simp [Event.Fails]
  have hattempt : (Pool.keeper.acquire "./a.db").attempt p = (.ok 0, p) :=
    Pool.keeper.acquire_of_shared (congrArg Roster.shared hroster) "./a.db"
  refine ⟨p, hrun, hattempt,
    ((Run.sharing Pool.lawful_keeper hrun hok).1 _ _ _ hattempt).2 ?_⟩
  rintro other m ⟨past, e, later, heq, rfl, -⟩
  have hmem : Event.made other m ∈ [Event.made "a.db" 0] := by
    rw [heq]
    simp
  cases List.mem_singleton.1 hmem
  decide +kernel

/-- **Another file gets the manager that is there as well**, which has the path of the first. -/
theorem Run.not_serves_of_other_path : ∃ p : Pool, Run Pool.keeper [.made "a.db" 0] p ∧
    (Pool.keeper.acquire "b.db").attempt p = (.ok 0, p) ∧ ¬ p.Serves 0 "b.db" := by
  obtain ⟨p, hrun, hroster⟩ := Pool.exists_first
  refine ⟨p, hrun, Pool.keeper.acquire_of_shared (congrArg Roster.shared hroster) "b.db", ?_⟩
  rintro ⟨link, hm, -⟩
  have hmanagers : p.managers = [⟨"a.db", some 0, true⟩] := congrArg Roster.managers hroster
  rw [hmanagers] at hm
  have hpath : "a.db" = Path.normal "b.db" := congrArg Manager.path (Option.some.inj hm)
  exact absurd hpath (by decide +kernel)

end SearchIndex.Storage
