import SearchIndex.Proofs.Sharing

/-!
# Constructions that break off

A manager is shared before it has all it needs, so a construction that fails leaves it shared, and
whoever asks from then on gets it, whatever the path. Only closing a manager that has a connection
ends this; the one that is left has none unless its database could be opened. Without a failure in
the way, a construction for a usable path makes a manager that works.

## Main definitions

* `Live manager h`: a manager was made and not closed since

## Main results

* `Keeper.Lawful.attempt_acquire_of_failed`: what everybody gets after a failed construction
* `Run.shared_eq_none_iff`: without a live manager, none is shared unless a construction failed
* `Run.construction`: what a failed construction leaves, and when a construction makes a manager
-/

namespace SearchIndex.Storage

open Queue (Since not_since_nil since_snoc)

variable {σ : Type} {k : Keeper σ} (hk : k.Lawful)

/-- The manager was made and not closed since. -/
def Live (manager : Nat) : History → Prop :=
  Since (fun _ e => ∃ path, e = .made path manager) fun _ e => e ≠ .closed manager true

theorem MadeSince.live {path : String} {manager : Nat} {h : History}
    (hmade : MadeSince path manager h) : Live manager h := by
  obtain ⟨past, e, later, rfl, rfl, hends⟩ := hmade
  refine ⟨past, _, later, rfl, ⟨path, rfl⟩, ?_⟩
  rintro mid _ rest heq rfl
  exact hends mid _ rest heq rfl

theorem not_failedSince_of_ends {h : History} {e : Event} (he : e.Ends) :
    ¬ FailedSince (h ++ [e]) := by
  cases e with
  | closed manager linked =>
    rw [FailedSince, since_snoc]
    rintro (hfails | ⟨-, hends⟩)
    · exact hfails
    · exact hends he
  | _ => cases he

theorem live_snoc_iff {manager : Nat} {h : History} {e : Event} :
    Live manager (h ++ [e]) ↔
      (∃ path, e = .made path manager) ∨ Live manager h ∧ e ≠ .closed manager true :=
  since_snoc

include hk

/-- **After a failed construction** everybody gets the manager that it left, with its path: none
was shared before, since otherwise no construction fails. -/
theorem Keeper.Lawful.attempt_acquire_of_failed {s s' : σ} {path : String} {f : Failure}
    (h : (k.acquire path).attempt s = (.error f, s')) (other : String) :
    (k.acquire other).attempt s' = (.ok (k.pool s).managers.length, s') ∧
      ((k.pool s').managers[(k.pool s).managers.length]?).map Manager.path =
        some (Path.normal path) := by
  rcases hshared : (k.pool s).shared with _ | manager
  · rcases hk.attempt_acquire_of_not_shared hshared h with ⟨hf, -⟩ | ⟨_, -, hroster⟩
    · cases hf
    · have hleft : (k.pool s').shared = some (k.pool s).managers.length := by
        rcases hroster with hroster | hroster
        · exact congrArg Roster.shared hroster
        · exact congrArg Roster.shared hroster
      refine ⟨k.acquire_of_shared hleft other, ?_⟩
      rcases hroster with hroster | hroster
      all_goals
        rw [show (k.pool s').managers = _ from congrArg Roster.managers hroster]
        exact congrArg (Option.map Manager.path) List.getElem?_concat_length
  · cases (k.acquire_of_shared hshared path).symm.trans h

/-- **Without a live manager, none is shared unless a construction failed.** -/
theorem Run.shared_eq_none_iff {h : History} {s : σ} (hrun : Run k h s)
    (hlive : ∀ manager, ¬ Live manager h) : (k.pool s).shared = none ↔ ¬ FailedSince h := by
  have hr := hrun.kept hk
  constructor
  · intro hshared hfailed
    exact hr.held hfailed hshared
  · intro hfailed
    rw [Option.eq_none_iff_forall_ne_some]
    intro manager hshared
    rcases hr.origin manager hshared with h' | ⟨path, hmade⟩
    · exact hfailed h'
    · exact hlive manager hmade.live

/-- **What failed constructions do to later ones**: a failed construction leaves a manager that
everybody gets from then on, whatever the path; and while no manager is live, a construction for a
usable path makes a manager for it, one that works, exactly when no construction failed since a
manager with a connection was last closed. A shared manager is never a new one, so this asks whether
one is shared. -/
theorem Run.construction {h : History} {s : σ} (hrun : Run k h s) :
    (∀ path f s' other, (k.acquire path).attempt s = (.error f, s') →
      (k.acquire other).attempt s' = (.ok (k.pool s).managers.length, s') ∧
        ((k.pool s').managers[(k.pool s).managers.length]?).map Manager.path =
          some (Path.normal path)) ∧
    ((∀ manager, ¬ Live manager h) → ∀ path, (k.pool s).disk.Usable (Path.normal path) →
      ((∃ s', (k.acquire path).attempt s = (.ok (k.pool s).managers.length, s') ∧
        (k.pool s').Serves (k.pool s).managers.length path ∧
        (k.pool s').Works (k.pool s).managers.length) ↔ ¬ FailedSince h)) := by
  refine ⟨fun path f s' other hf => hk.attempt_acquire_of_failed hf other, ?_⟩
  intro hlive path husable
  rw [← hrun.shared_eq_none_iff hk hlive]
  constructor
  · rintro ⟨s', hattempt, -⟩
    rcases hshared : (k.pool s).shared with _ | manager
    · rfl
    · cases (k.acquire_of_shared hshared path).symm.trans hattempt
      exact absurd ((hrun.kept hk).ordered.shared _ hshared) (Nat.lt_irrefl _)
  · intro hshared
    obtain ⟨s', hattempt, hroster, hworks⟩ := hk.exists_acquire_of_usable hshared husable
    exact ⟨s', hattempt, Pool.serves_of_roster_eq_full hroster, hworks⟩

omit hk

/-- The pool on an empty disk, with its managers and connections. -/
def Pool.emptied (p : Pool) : Pool := { p with disk := { links := p.disk.links } }

theorem Pool.usable_emptied (p : Pool) : p.emptied.disk.Usable (Path.normal "a.db") :=
  have h := Disk.usable_of_empty
  ⟨h.reachable, h.textless, h.untroubled, h.sound, h.library⟩

/-- A pool on a disk whose storage library is too old. -/
def Pool.outdated : Pool := { disk := { library := "3.8.0" } }

/-- The manager that a construction leaves on such a disk has a connection, and can be closed. -/
theorem Pool.exists_closed_of_outdated : ∃ p : Pool,
    Run Pool.keeper [.failed "a.db" (.storageTooOld "3.8.0"), .closed 0 true] p ∧
    p.roster = ⟨[⟨"a.db", some 0, true⟩], none, [⟨"a.db", false⟩]⟩ := by
  have hreachable : outdated.disk.unreachable? (Path.normal "a.db") = none := by decide +kernel
  obtain ⟨p, rfl, hfailed⟩ :=
    Pool.lawful_keeper.attempt_acquire_of_reachable (s := outdated) rfl hreachable
  have hrun := (Run.start (k := Pool.keeper) (s := outdated) rfl rfl).next (.failed hfailed)
  have hclosed : Happens Pool.keeper (outdated.grown "a.db") (.closed 0 true) _ := .closed rfl
  refine ⟨_, hrun.next hclosed, ?_⟩
  decide +kernel

theorem Happens.closed_of_linked {manager link : Nat} {s s' : σ}
    (hlink : (k.pool s).link? manager = some link)
    (h : (k.close manager).attempt s = (.ok (), s')) : Happens k s (.closed manager true) s' := by
  have hclosed := Happens.closed h
  rwa [hlink] at hclosed

/-- Once the disk is emptied, a manager can be made and closed. -/
theorem Run.exists_made_closed {h : History} {p : Pool} (hrun : Run Pool.keeper h p)
    (hshared : p.shared = none) : ∃ p' : Pool,
    Run Pool.keeper (h ++ [.made "a.db" p.managers.length] ++ [.closed p.managers.length true]) p' ∧
      p'.roster = (p.roster.full "a.db").close p.managers.length := by
  obtain ⟨p₁, hmade, hroster, -⟩ :=
    Pool.lawful_keeper.exists_acquire_of_usable (s := p.emptied) hshared p.usable_emptied
  replace hroster : p₁.roster = p.roster.full "a.db" := hroster
  have hlink : p₁.roster.link? p.managers.length = some p.disk.links.length := by
    rw [hroster, Roster.link?_full]
    exact if_pos rfl
  have hrun : Run Pool.keeper h p.emptied := hrun.meanwhile rfl
  refine ⟨_, (hrun.next (.made hshared hmade)).next (.closed_of_linked hlink rfl), ?_⟩
  exact (p₁.roster_close _).trans (congrArg _ hroster)

/-- **A construction after one that failed**: the storage library was too old for the first, and the
manager that it left was closed. Then the disk was emptied, a manager was made and closed, and the
next one works. -/
theorem Run.construction_after_failed : ∃ p p' : Pool,
    Run Pool.keeper [.failed "a.db" (.storageTooOld "3.8.0"), .closed 0 true, .made "a.db" 1,
      .closed 1 true] p ∧
    (Pool.keeper.acquire "a.db").attempt p = (.ok 2, p') ∧ p'.Serves 2 "a.db" ∧ p'.Works 2 := by
  obtain ⟨p₁, hrun₁, hroster₁⟩ := Pool.exists_closed_of_outdated
  obtain ⟨p, hrun, hroster⟩ := hrun₁.exists_made_closed (congrArg Roster.shared hroster₁)
  have hcount₁ : p₁.managers.length = 1 := congrArg (List.length ∘ Roster.managers) hroster₁
  rw [hroster₁, hcount₁] at hroster
  rw [hcount₁] at hrun
  have hcount : (Pool.keeper.pool p.emptied).managers.length = 2 :=
    congrArg (List.length ∘ Roster.managers) hroster
  have hlive (manager : Nat) : ¬ Live manager ([] ++ [.failed "a.db" (.storageTooOld "3.8.0")] ++
      [.closed 0 true] ++ [.made "a.db" 1] ++ [.closed 1 true]) := by
    have hnone : ¬ Live manager [] := not_since_nil
    simp only [live_snoc_iff]
    grind
  have hrun' : Run Pool.keeper _ p.emptied := hrun.meanwhile rfl
  have hiff := (Run.construction Pool.lawful_keeper hrun').2 hlive "a.db" p.usable_emptied
  obtain ⟨p', hattempt, hserves, hworks⟩ := hiff.2 (not_failedSince_of_ends rfl)
  rw [hcount] at hattempt hserves hworks
  exact ⟨p.emptied, p', hrun', hattempt, hserves, hworks⟩

/-- **A folder for a database spoils every later path**: nobody gets another manager. -/
theorem Run.not_serves_of_failed :
    ∃ p : Pool, Run Pool.keeper [.failed "." .cannotOpenDatabase] p ∧
      (∀ manager, ¬ Live manager [.failed "." .cannotOpenDatabase]) ∧
      p.disk.Usable (Path.normal "a.db") ∧
      (Pool.keeper.acquire "a.db").attempt p = (.ok 0, p) ∧ ¬ p.Serves 0 "a.db" := by
  have hrefusal : Disk.unreachable? (Path.normal ".") {} = some .cannotOpenDatabase := rfl
  obtain ⟨p, hattempt, hpool⟩ :=
    Pool.lawful_keeper.attempt_acquire_of_unreachable (s := {}) rfl hrefusal
  obtain rfl : p = Pool.allocate (Path.normal ".") {} := hpool
  refine ⟨_, (Run.start (s := {}) rfl rfl).next (.failed hattempt), ?_, Disk.usable_of_empty,
    Pool.keeper.acquire_of_shared rfl "a.db", ?_⟩
  · rintro manager ⟨past, e, later, heq, ⟨path, rfl⟩, -⟩
    have hmem : Event.made path manager ∈ [Event.failed "." .cannotOpenDatabase] := by
      rw [heq]
      simp
    cases List.mem_singleton.1 hmem
  · rintro ⟨link, hm, -⟩
    have hlink : none = some link := congrArg Manager.link (Option.some.inj hm)
    cases hlink

end SearchIndex.Storage
