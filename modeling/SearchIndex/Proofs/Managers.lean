import SearchIndex.Proofs.Progress

/-!
# Making managers

A construction gives the shared manager, or it makes a new one, step by step. The new manager is
shared from its first step on, so a construction that breaks off leaves one that has no more than
its path, or one whose database was not brought up to date. For a path where nothing is in the way,
it leaves a manager that works.

## Main definitions

* `Roster`: the managers of a pool, the one that is shared, and the connections
* `Roster.half`, `Roster.full`, `Roster.close`: what constructions and closings do to the roster
* `Disk.Usable path d`: nothing is in the way of a database at a path
* `Pool.Serves p manager path`, `Pool.Works p manager`: a manager is one for a path, and it works

## Main results

* `Schema.Access.ensures_upgrade_of_kept`: what an upgrade leaves alone
* `Keeper.Lawful.attempt_acquire_of_not_shared`: a construction while no manager is shared
* `Keeper.Lawful.exists_acquire_of_usable`: a construction with nothing in its way
-/

namespace SearchIndex.Schema.Access

open Act (Ensures)

variable {σ δ : Type} {q : Access σ δ} {P : σ → Prop}
  (hput : ∀ c s, P s → P (q.withConnection c s))
  (hnote : ∀ n, Ensures P (q.note n) (fun _ => P) P)

include hput

theorem ensures_use_of_kept {α : Type} (a : Act (Connection δ) α) :
    Ensures P (q.use a) (fun _ => P) P := by
  intro s hs
  rw [use, Act.within, Act.attempt_ofStep]
  rcases a.attempt (q.connection s) with ⟨_ | _, c⟩
  · exact hput c s hs
  · exact hput c s hs

include hnote

theorem ensures_applyAll_of_kept (e : Engine δ) (ms : List Migration) :
    Ensures P (q.applyAll e ms) (fun _ => P) P := by
  induction ms with
  | nil => exact Ensures.pure fun _ hs => hs
  | cons m ms ih =>
    refine (ensures_use_of_kept hput (apply e m)).bind fun _ => ?_
    exact (hnote _).bind fun _ => ih

/-- **An upgrade leaves alone** what storing a connection and taking notes leave alone. -/
theorem ensures_upgrade_of_kept (e : Engine δ) (library : String) (ms : List Migration) :
    Ensures P (q.upgrade e library ms) (fun _ => P) P := by
  rw [upgrade]
  refine (Ensures.ofExcept (fun _ _ _ hs => hs) fun _ hs => hs).bind fun _ => ?_
  refine (Ensures.ofExcept (fun _ _ _ hs => hs) fun _ hs => hs).bind fun _ => ?_
  refine (ensures_use_of_kept hput _).bind fun _ => ?_
  refine (ensures_use_of_kept hput _).bind fun version => ?_
  rcases pending version ms with _ | ⟨m, ms⟩
  · exact hnote _
  · exact ensures_applyAll_of_kept hput hnote e (m :: ms)

end SearchIndex.Schema.Access

namespace SearchIndex.Storage

variable {σ : Type}

/-! ## Rosters -/

/-- The managers, the one that is shared, and the connections. -/
structure Roster where
  managers : List Manager
  shared : Option Nat
  links : List Link
deriving DecidableEq

/-- The roster of a pool. -/
def Pool.roster (p : Pool) : Roster := ⟨p.managers, p.shared, p.disk.links⟩

namespace Roster

/-- The connection of a manager. -/
def link? (r : Roster) (manager : Nat) : Option Nat := (r.managers[manager]?).bind Manager.link

/-- A new manager that got no further than its path. -/
def half (path : String) (r : Roster) : Roster :=
  { r with managers := r.managers ++ [⟨Path.normal path, none, false⟩],
           shared := some r.managers.length }

/-- A new manager with a connection of its own. -/
def full (path : String) (r : Roster) : Roster where
  managers := r.managers ++ [⟨Path.normal path, some r.links.length, true⟩]
  shared := some r.managers.length
  links := r.links ++ [⟨Path.place (Path.normal path), true⟩]

/-- The roster with a manager closed. -/
def close (manager : Nat) (r : Roster) : Roster :=
  match r.link? manager with
  | some link =>
    { r with shared := none, links := r.links.modify link fun l => { l with connected := false } }
  | none => r

variable {r : Roster} {path : String}

theorem getElem?_snoc {α : Type} (l : List α) (x : α) (i : Nat) :
    (l ++ [x])[i]? = if i = l.length then some x else l[i]? := by
  grind

theorem link?_half (manager : Nat) : (r.half path).link? manager = r.link? manager := by
  grind [link?, half]

theorem link?_full (manager : Nat) :
    (r.full path).link? manager =
      if manager = r.managers.length then some r.links.length else r.link? manager := by
  grind [link?, full]

theorem link?_close (manager other : Nat) : (r.close manager).link? other = r.link? other := by
  rw [close]
  split <;> rfl

theorem lt_length_of_link? {link : Nat} (h : r.link? manager = some link) :
    manager < r.managers.length := by
  obtain ⟨m, hm, -⟩ := Option.bind_eq_some_iff.1 h
  exact (List.getElem?_eq_some_iff.1 hm).1

end Roster

theorem Pool.roster_close (manager : Nat) (p : Pool) :
    (p.close manager).roster = p.roster.close manager := by
  have hlink : p.roster.link? manager = p.link? manager := rfl
  rw [close, Roster.close, hlink]
  cases p.link? manager <;> rfl

/-! ## Constructions -/

namespace Disk

/-- Why there is no connection to a file, if there is none. -/
def unreachable? (path : String) (d : Disk) : Option Failure :=
  if path = fileless then none else d.present.databaseRefusal? path

/-- The database that a new connection to a file finds. -/
def found (path : String) (d : Disk) : Database :=
  if path = fileless then {} else d.database (Path.place path)

/-- The disk with a connection to a file. -/
def opened (path : String) (d : Disk) : Disk :=
  { d with
    databases := Keyed.put (Path.place path) (d.found path) d.databases
    links := d.links ++ [⟨Path.place path, true⟩] }

/-- **Nothing is in the way of a database at a path**: there is a connection to it, no text lies
there, no statement runs into trouble, its tables can be brought up to date, and the storage library
is not too old for that. -/
structure Usable (path : String) (d : Disk) : Prop where
  reachable : d.unreachable? path = none
  textless : d.holdsText (Path.place path) = false
  untroubled : ∀ n, d.trouble n = none
  sound : (d.found path).schema.Sound
  library : Schema.checkLibrary d.library = .ok ()

theorem attempt_connect (path : String) (d : Disk) :
    (connect path).attempt d =
      match d.unreachable? path with
      | some f => (.error f, d)
      | none => (.ok d.links.length, d.opened path) := by
  rw [connect, Act.attempt_ofStep]
  dsimp only
  rw [← unreachable?]
  rcases d.unreachable? path with _ | f <;> rfl

/-- A new connection to a database that nothing is in the way of. -/
theorem Usable.idle_schema {path : String} {d : Disk} (h : d.Usable path) :
    Schema.Connection.Idle (d.found path).schema ((d.opened path).schema d.links.length) := by
  have hlink : (d.opened path).links[d.links.length]? = some ⟨Path.place path, true⟩ :=
    List.getElem?_concat_length
  have hplace : (d.opened path).placeOf d.links.length = Path.place path := by
    rw [placeOf, hlink]
    rfl
  have htext : (d.opened path).holdsText (Path.place path) = false := h.textless
  have hrefusal : (d.opened path).refusal? d.links.length = none := by
    rw [refusal?, hplace, htext, connected, hlink]
    rfl
  refine ⟨fun n => ?_, rfl, ?_⟩
  · show ((d.opened path).refusal? d.links.length).orElse (fun _ => d.trouble n) = none
    rw [hrefusal, h.untroubled]
    rfl
  · show ((d.opened path).database ((d.opened path).placeOf d.links.length)).schema = _
    rw [hplace, database, opened]
    dsimp only
    rw [Keyed.find?_put_self (beq_self_eq_true _)]
    rfl

end Disk

namespace Pool

/-- **A manager is one for a path**: it has the path and a lock, and a connection that is open and
leads there. -/
def Serves (p : Pool) (manager : Nat) (path : String) : Prop :=
  ∃ link, p.managers[manager]? = some ⟨Path.normal path, some link, true⟩ ∧
    p.disk.links[link]? = some ⟨Path.place (Path.normal path), true⟩

/-- **A manager works**: its connection refuses nothing, and the tables of the queue are there as
they should be. -/
def Works (p : Pool) (manager : Nat) : Prop :=
  ∃ link, p.link? manager = some link ∧ p.disk.refusal? link = none ∧
    (p.disk.schema link).content.Current

theorem serves_of_roster_eq_full {p : Pool} {r : Roster} {path : String}
    (h : p.roster = r.full path) : p.Serves r.managers.length path := by
  refine ⟨r.links.length, ?_, ?_⟩
  · rw [show p.managers = _ from congrArg Roster.managers h]
    exact List.getElem?_concat_length
  · rw [show p.disk.links = _ from congrArg Roster.links h]
    exact List.getElem?_concat_length

/-- The pool with one more manager, which has a connection and a lock. -/
def grown (path : String) (p : Pool) : Pool where
  disk := p.disk.opened path
  managers := p.managers ++ [⟨path, some p.disk.links.length, true⟩]
  shared := some p.managers.length

end Pool

theorem modify_length_append {α : Type} (f : α → α) (l : List α) (x : α) :
    (l ++ [x]).modify l.length f = l ++ [f x] := by
  induction l with
  | nil => rfl
  | cons y l ih => simpa using ih

theorem modify_eq_of_fixed {α : Type} {f : α → α} {l : List α} {i : Nat} {x : α}
    (h : l[i]? = some x) (hf : f x = x) : l.modify i f = l := by
  refine List.ext_getElem? fun j => ?_
  rw [List.getElem?_modify]
  split
  · next hij => rw [← hij, h, Option.map_eq_map, Option.map_some, hf]
  · exact Option.map_id'

namespace Keeper.Lawful

open Act (Ensures)

variable {k : Keeper σ} (hk : k.Lawful)

include hk

theorem ensures_note {P : σ → Prop} (hP : ∀ s s', k.pool s' = k.pool s → P s → P s')
    (n : Log.Note) : Ensures P (k.note n) (fun _ => P) P := by
  intro s hs
  obtain ⟨s', hs', hpool⟩ := hk.note n s
  rw [hs']
  exact hP s s' hpool hs

/-- An upgrade is about a database, and so it leaves the roster alone. -/
theorem roster_upgrade (link : Nat) (e : Schema.Engine Schema.Tables) (library : String)
    (ms : List Schema.Migration) (s : σ) :
    (k.pool (((k.tables link).upgrade e library ms).attempt s).2).roster = (k.pool s).roster := by
  have hput : ∀ c t, (k.pool t).roster = (k.pool s).roster →
      (k.pool ((k.tables link).withConnection c t)).roster = (k.pool s).roster := by
    intro c t ht
    show (k.pool (k.withPool _ t)).roster = _
    rw [hk.pool]
    exact ht
  have hnote := hk.ensures_note (P := fun t => (k.pool t).roster = (k.pool s).roster)
    fun t t' hpool ht => by rwa [hpool]
  exact (Schema.Access.ensures_upgrade_of_kept hput hnote e library ms).snd rfl

/-- Storing tables does not bring trouble. -/
theorem trouble_tables (link : Nat) (c : Schema.Connection Schema.Tables) (s : σ) :
    ((k.tables link).connection ((k.tables link).withConnection c s)).trouble =
      ((k.tables link).connection s).trouble := by
  show ((k.pool (k.withPool _ s)).disk.schema link).trouble = _
  rw [hk.pool]
  rfl

/-- An action on the disk, as one of a world. -/
theorem attempt_onDisk {α : Type} (a : Act Disk α) (s : σ) :
    ∃ s', (a.within (fun s => (k.pool s).disk) fun d s =>
        k.withPool { k.pool s with disk := d } s).attempt s =
      ((a.attempt (k.pool s).disk).1, s') ∧
      k.pool s' = { k.pool s with disk := (a.attempt (k.pool s).disk).2 } :=
  ⟨_, rfl, hk.pool _ _⟩

theorem attempt_change (f : Pool → Pool) (s : σ) :
    ∃ s', (k.change f).attempt s = (.ok (), s') ∧ k.pool s' = f (k.pool s) :=
  ⟨_, rfl, hk.pool _ _⟩

/-- A new manager gets no further than its path if there is no connection to the file. -/
theorem attempt_furnish_of_unreachable {s : σ} {path : String} {f : Failure}
    (hf : (k.pool s).disk.unreachable? path = some f) (manager : Nat) :
    ∃ s', (k.furnish manager path).attempt s = (.error f, s') ∧ k.pool s' = k.pool s := by
  obtain ⟨s', hs', hpool⟩ := hk.attempt_onDisk (Disk.connect path) s
  rw [Disk.attempt_connect, hf] at hs' hpool
  refine ⟨s', ?_, hpool⟩
  rw [furnish, Act.attempt_bind, hs']

/-- A new manager that gets a connection has its database upgraded. The connection comes first, then
its number is noted, and last the lock is there. -/
theorem attempt_furnish_of_reachable {s : σ} {path : String}
    (hf : (k.pool s).disk.unreachable? path = none) (manager : Nat) :
    ∃ s', (k.furnish manager path).attempt s =
        ((k.tables (k.pool s).disk.links.length).upgrade Schema.Tables.engine
          (k.pool s).disk.library Schema.queueMigrations).attempt s' ∧
      k.pool s' = { k.pool s with
        disk := (k.pool s).disk.opened path
        managers := (k.pool s).managers.modify manager fun m =>
          { m with link := some (k.pool s).disk.links.length, locked := true } } := by
  obtain ⟨s₁, hs₁, hpool₁⟩ := hk.attempt_onDisk (Disk.connect path) s
  rw [Disk.attempt_connect, hf] at hs₁ hpool₁
  obtain ⟨s₂, hs₂, hpool₂⟩ := hk.attempt_change
    (Pool.edit manager fun m => { m with link := some (k.pool s).disk.links.length }) s₁
  obtain ⟨s₃, hs₃, hpool₃⟩ := hk.attempt_change
    (Pool.edit manager fun m => { m with locked := true }) s₂
  refine ⟨s₃, ?_, ?_⟩
  · have hlibrary : (k.pool s₃).disk.library = (k.pool s).disk.library := by
      rw [hpool₃, hpool₂, hpool₁]
      rfl
    rw [furnish, Act.attempt_bind, hs₁]
    dsimp only
    rw [Act.attempt_bind, hs₂]
    dsimp only
    rw [Act.attempt_bind, hs₃]
    dsimp only
    rw [Act.attempt_bind, Act.attempt_ofStep]
    dsimp only
    rw [hlibrary]
  · rw [hpool₃, hpool₂, hpool₁]
    simp only [Pool.edit, List.modify_modify_eq]
    rfl

/-- A construction without a connection leaves a manager that has only its path. -/
theorem attempt_acquire_of_unreachable {s : σ} (hshared : (k.pool s).shared = none)
    {path : String} {f : Failure}
    (hf : (k.pool s).disk.unreachable? (Path.normal path) = some f) :
    ∃ s', (k.acquire path).attempt s = (.error f, s') ∧
      k.pool s' = (k.pool s).allocate (Path.normal path) := by
  obtain ⟨s₁, hs₁, hpool₁⟩ := hk.attempt_change (Pool.allocate (Path.normal path)) s
  have hf₁ : (k.pool s₁).disk.unreachable? (Path.normal path) = some f := by
    rw [hpool₁]
    exact hf
  obtain ⟨s₂, hs₂, hpool₂⟩ := hk.attempt_furnish_of_unreachable hf₁ (k.pool s).managers.length
  refine ⟨s₂, ?_, ?_⟩
  · rw [acquire, Act.attempt_bind, Act.attempt_ofStep]
    dsimp only
    rw [hshared]
    dsimp only
    rw [Act.attempt_bind, hs₁]
    dsimp only
    rw [Act.attempt_bind, hs₂]
  · rw [hpool₂, hpool₁]

/-- A construction with a connection ends as the upgrade of the database does. The new manager is
the last one from the start on, so what it gets is added at the end. -/
theorem attempt_acquire_of_reachable {s : σ} (hshared : (k.pool s).shared = none)
    {path : String} (hf : (k.pool s).disk.unreachable? (Path.normal path) = none) :
    ∃ s₁, k.pool s₁ = (k.pool s).grown (Path.normal path) ∧
      (k.acquire path).attempt s =
        ((k.tables (k.pool s).disk.links.length).upgrade Schema.Tables.engine
          (k.pool s).disk.library Schema.queueMigrations >>= fun _ =>
            pure (k.pool s).managers.length).attempt s₁ := by
  obtain ⟨s₁, hs₁, hpool₁⟩ := hk.attempt_change (Pool.allocate (Path.normal path)) s
  have hf₁ : (k.pool s₁).disk.unreachable? (Path.normal path) = none := by
    rw [hpool₁]
    exact hf
  obtain ⟨s₂, hs₂, hpool₂⟩ := hk.attempt_furnish_of_reachable hf₁ (k.pool s).managers.length
  refine ⟨s₂, ?_, ?_⟩
  · rw [hpool₂, hpool₁]
    simp only [Pool.allocate, modify_length_append]
    rfl
  · rw [acquire, Act.attempt_bind, Act.attempt_ofStep]
    dsimp only
    rw [hshared]
    dsimp only
    rw [Act.attempt_bind, hs₁]
    dsimp only
    rw [Act.attempt_bind, hs₂, hpool₁, Act.attempt_bind]
    rfl

/-- **A construction while no manager is shared** makes one, with a connection unless it fails.
Whether the upgrade succeeds or not, it leaves the new manager as it is. -/
theorem attempt_acquire_of_not_shared {s s' : σ} (hshared : (k.pool s).shared = none)
    {path : String} {outcome : Except Failure Nat}
    (h : (k.acquire path).attempt s = (outcome, s')) :
    outcome = .ok (k.pool s).managers.length ∧ (k.pool s').roster = (k.pool s).roster.full path ∨
      ∃ f, outcome = .error f ∧ ((k.pool s').roster = (k.pool s).roster.half path ∨
        (k.pool s').roster = (k.pool s).roster.full path) := by
  rcases hf : (k.pool s).disk.unreachable? (Path.normal path) with _ | f
  · obtain ⟨s₁, hpool, hattempt⟩ := hk.attempt_acquire_of_reachable hshared hf
    have hroster := hk.roster_upgrade (k.pool s).disk.links.length Schema.Tables.engine
      (k.pool s).disk.library Schema.queueMigrations s₁
    have hgrown : (k.pool s₁).roster = (k.pool s).roster.full path := by
      rw [hpool]
      rfl
    rw [hattempt, Act.attempt_bind] at h
    rcases hupgrade : ((k.tables (k.pool s).disk.links.length).upgrade Schema.Tables.engine
        (k.pool s).disk.library Schema.queueMigrations).attempt s₁ with ⟨f | _, s₂⟩ <;>
      rw [hupgrade] at h hroster <;> cases h
    · exact .inr ⟨f, rfl, .inr (hroster.trans hgrown)⟩
    · exact .inl ⟨rfl, hroster.trans hgrown⟩
  · obtain ⟨s₂, hattempt, hpool⟩ := hk.attempt_acquire_of_unreachable hshared hf
    cases hattempt.symm.trans h
    exact .inr ⟨f, rfl, .inl (congrArg Pool.roster hpool)⟩

/-- **A construction with nothing in its way**, while no manager is shared, makes a manager that
works. -/
theorem exists_acquire_of_usable {s : σ} (hshared : (k.pool s).shared = none) {path : String}
    (h : (k.pool s).disk.Usable (Path.normal path)) :
    ∃ s', (k.acquire path).attempt s = (.ok (k.pool s).managers.length, s') ∧
      (k.pool s').roster = (k.pool s).roster.full path ∧
      (k.pool s').Works (k.pool s).managers.length := by
  obtain ⟨s₁, hpool, hattempt⟩ := hk.attempt_acquire_of_reachable hshared h.reachable
  obtain ⟨d, hupgraded, hcurrent⟩ := h.sound.exists_upgraded
  have hidle : (k.tables (k.pool s).disk.links.length).Idle
      ((k.pool s).disk.found (Path.normal path)).schema s₁ := by
    show Schema.Connection.Idle _ ((k.pool s₁).disk.schema _)
    rw [hpool]
    exact h.idle_schema
  have hversions : Schema.checkVersions Schema.queueMigrations = .ok () := rfl
  have hout := (hk.lawful_tables (k.pool s).disk.links.length).ensures_upgrade_idle
    (hk.trouble_tables _) h.library hversions hupgraded s₁ hidle
  have hroster := hk.roster_upgrade (k.pool s).disk.links.length Schema.Tables.engine
    (k.pool s).disk.library Schema.queueMigrations s₁
  rw [hattempt, Act.attempt_bind]
  rcases hupgrade : ((k.tables (k.pool s).disk.links.length).upgrade Schema.Tables.engine
      (k.pool s).disk.library Schema.queueMigrations).attempt s₁ with ⟨f | _, s'⟩ <;>
    rw [hupgrade] at hout hroster
  · exact hout.elim
  · obtain ⟨htrouble, -, hcontent⟩ := hout
    have hfull : (k.pool s').roster = (k.pool s).roster.full path := by
      rw [hroster, hpool]
      rfl
    refine ⟨s', rfl, hfull, (k.pool s).disk.links.length, ?_, ?_, ?_⟩
    · show (k.pool s').roster.link? _ = _
      rw [hfull, Roster.link?_full]
      exact if_pos rfl
    · have h₀ := htrouble 0
      change ((k.pool s').disk.refusal? _).orElse _ = none at h₀
      rcases hrefusal : (k.pool s').disk.refusal? (k.pool s).disk.links.length with _ | f
      · rfl
      · rw [hrefusal] at h₀
        cases h₀
    · rw [show ((k.pool s').disk.schema _).content = d from hcontent]
      exact hcurrent

end Keeper.Lawful

end SearchIndex.Storage
