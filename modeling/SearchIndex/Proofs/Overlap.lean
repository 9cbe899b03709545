import SearchIndex.Proofs.History
import SearchIndex.Proofs.Upgrades

/-!
# Upgrades that overlap

Several connections may upgrade one database with one list of migrations. Each reads the recorded
version once, and applies what is then pending in one transaction after the other, without another
look at the version. So a connection applies migrations in order and each of them once, as long as
no other one applies any after it read the version; as soon as one does, the next migration of the
first connection is applied for the second time or takes the version back.

## Main definitions

* `Turn ι`: what one of several connections does: it reads the version, applies a migration, or
  breaks off
* `Course e ms initial turns d left`: turns of connections, the database after them, and the
  migrations that are left for each connection
* `Applies P turns`: of what was done before, `P` holds whenever a migration is applied
* `Fresh i turns`: no other connection applied a migration since one read the version
* `Undisturbed turns`: whoever applies a migration is fresh
* `InOrder first turns`: the version never decreases, and no migration is applied twice
* `Remains ms first turns i left`: what is left for a connection
* `Account e view ms first turns d left`: what turns say about the database and about what is left

## Main results

* `pending_eq_cons`: the first of what is pending, and the others
* `Account.read`, `Account.applied`, `Account.breakOff`: each turn keeps the account
* `Course.inOrder_iff`: migrations are applied in order and once exactly if whoever applies one is
  fresh
* `Tables.applied_twice`: two connections that both read the version first
-/

namespace SearchIndex.Schema

open Queue (Since since_snoc not_since_nil)

variable {ι δ ρ : Type}

/-! ## What is pending in order -/

section Pending

variable {ms rest : List Migration} {m m' : Migration} {version : Int}

theorem Consecutive.pairwise (h : Consecutive ms) : ms.Pairwise (·.version < ·.version) := by
  rw [List.pairwise_iff_getElem]
  intro i j hi hj hij
  rw [h i hi, h j hj]
  omega

theorem Consecutive.eq_of_version_eq (h : Consecutive ms) (hm : m ∈ ms) (hm' : m' ∈ ms)
    (hv : m.version = m'.version) : m = m' := by
  obtain ⟨i, hi, rfl⟩ := List.mem_iff_getElem.1 hm
  obtain ⟨j, hj, rfl⟩ := List.mem_iff_getElem.1 hm'
  rw [h i hi, h j hj] at hv
  obtain rfl : i = j := by omega
  rfl

theorem mem_pending : m ∈ pending version ms ↔ m ∈ ms ∧ version < m.version := by
  rw [pending, List.mem_filter, decide_eq_true_iff]

/-- **The first of what is pending** has the next version, and the others are pending after it. -/
theorem pending_eq_cons (hms : ms.Pairwise (·.version < ·.version))
    (h : pending version ms = m :: rest) :
    version < m.version ∧ rest = pending m.version ms ∧
      ∀ m' ∈ ms, version < m'.version → m.version ≤ m'.version := by
  have hm : m ∈ pending version ms := h ▸ List.mem_cons_self ..
  have hsorted : (m :: rest).Pairwise (·.version < ·.version) :=
    h ▸ hms.sublist List.filter_sublist
  have hfirst {x : Migration} : x ∈ rest → m.version < x.version :=
    List.rel_of_pairwise_cons hsorted
  refine ⟨(mem_pending.1 hm).2, ?_, fun m' hm' hv => ?_⟩
  · have hbeyond : pending m.version ms = pending m.version (m :: rest) := by
      rw [← h, pending, pending, pending, List.filter_filter]
      refine List.filter_congr fun x _ => ?_
      have := (mem_pending.1 hm).2
      by_cases hx : m.version < x.version
      · have hx' : version < x.version := by omega
        simp [hx, hx']
      · simp [hx]
    rw [hbeyond, pending, List.filter_cons_of_neg (by simp)]
    refine (List.filter_eq_self.2 fun x hx => ?_).symm
    simpa using hfirst hx
  · have hmem : m' ∈ m :: rest := h ▸ mem_pending.2 ⟨hm', hv⟩
    rcases List.mem_cons.1 hmem with rfl | hmem
    · exact Int.le_refl _
    · exact Int.le_of_lt (hfirst hmem)

end Pending

/-! ## Turns -/

/-- **What one of several connections does in an upgrade.** -/
inductive Turn (ι : Type) where
  /-- It reads the recorded version. -/
  | read (i : ι)
  /-- It applies a migration. -/
  | applied (i : ι) (m : Migration)
  /-- It breaks off. -/
  | brokeOff (i : ι)

/-- The migrations that were applied. -/
def applied (turns : List (Turn ι)) : List Migration :=
  turns.filterMap fun
    | .applied _ m => some m
    | _ => none

/-- The version that was recorded last, if one was recorded first. -/
def latest (first : Int) (turns : List (Turn ι)) : Int :=
  ((applied turns).getLast?.map Migration.version).getD first

/-- **Whenever a migration is applied, something holds** of what was done before, of the connection
and of the migration. -/
def Applies (P : List (Turn ι) → ι → Migration → Prop) (turns : List (Turn ι)) : Prop :=
  ∀ past i m later, turns = past ++ .applied i m :: later → P past i m

/-- **No other connection applied a migration** since one read the version. -/
def Fresh (i : ι) : List (Turn ι) → Prop :=
  Since (fun _ turn => turn = .read i) fun _ turn => ∀ j m, turn = .applied j m → j = i

/-- **Whoever applies a migration is fresh.** -/
def Undisturbed : List (Turn ι) → Prop := Applies fun past i _ => Fresh i past

/-- **The version never decreases, and no migration is applied twice.** -/
def InOrder (first : Int) : List (Turn ι) → Prop :=
  Applies fun past _ m => latest first past ≤ m.version ∧ m ∉ applied past

/-- The version goes up. -/
def Rising (first : Int) : List (Turn ι) → Prop :=
  Applies fun past _ m => latest first past < m.version

section Turns

variable {first : Int} {turns : List (Turn ι)} {turn : Turn ι} {i j : ι} {m : Migration}
  {P : List (Turn ι) → ι → Migration → Prop}

theorem applied_snoc : applied (turns ++ [.applied i m]) = applied turns ++ [m] := by
  simp [applied]

theorem applied_snoc_of_ne (h : ∀ i m, turn ≠ .applied i m) :
    applied (turns ++ [turn]) = applied turns := by
  rcases turn with i | ⟨i, m⟩ | i
  · simp [applied]
  · exact absurd rfl (h i m)
  · simp [applied]

theorem latest_snoc : latest first (turns ++ [.applied i m]) = m.version := by
  simp [latest, applied_snoc]

theorem latest_snoc_of_ne (h : ∀ i m, turn ≠ .applied i m) :
    latest first (turns ++ [turn]) = latest first turns := by
  rw [latest, applied_snoc_of_ne h, latest]

theorem latest_eq (first : Int) (turns : List (Turn ι)) :
    latest first turns = first ∨ ∃ m ∈ applied turns, latest first turns = m.version := by
  rw [latest]
  rcases h : (applied turns).getLast? with _ | m
  · exact .inl rfl
  · exact .inr ⟨m, List.mem_of_getLast? h, rfl⟩

theorem applies_nil : Applies P [] := by
  intro past i m later h
  simp at h

theorem applies_snoc :
    Applies P (turns ++ [turn]) ↔ Applies P turns ∧ ∀ i m, turn = .applied i m → P turns i m := by
  constructor
  · intro h
    refine ⟨fun past i m later heq => h past i m (later ++ [turn]) (by simp [heq]), ?_⟩
    rintro i m rfl
    exact h turns i m [] rfl
  · rintro ⟨h, hlast⟩ past i m later heq
    rcases List.eq_nil_or_concat later with rfl | ⟨later, y, rfl⟩
    · obtain ⟨rfl, hturn⟩ := List.append_inj' heq rfl
      cases hturn
      exact hlast i m rfl
    · rw [List.concat_eq_append] at heq
      have heq' : turns ++ [turn] = (past ++ .applied i m :: later) ++ [y] := by simpa using heq
      exact h past i m later (List.append_inj' heq' rfl).1

theorem applies_snoc_applied :
    Applies P (turns ++ [.applied i m]) ↔ Applies P turns ∧ P turns i m := by
  rw [applies_snoc]
  refine and_congr_right fun _ => ⟨fun h => h i m rfl, ?_⟩
  rintro h _ _ ⟨⟩
  exact h

theorem applies_snoc_of_ne (h : ∀ i m, turn ≠ .applied i m) :
    Applies P (turns ++ [turn]) ↔ Applies P turns := by
  rw [applies_snoc]
  exact and_iff_left fun i m hm => absurd hm (h i m)

theorem fresh_snoc_applied : Fresh j (turns ++ [.applied i m]) ↔ Fresh j turns ∧ i = j := by
  rw [Fresh, since_snoc]
  constructor
  · rintro (h | ⟨h, hij⟩)
    · cases h
    · exact ⟨h, hij i m rfl⟩
  · rintro ⟨h, rfl⟩
    refine .inr ⟨h, ?_⟩
    rintro _ _ ⟨⟩
    rfl

theorem fresh_snoc : Fresh i (turns ++ [turn]) ↔
    turn = .read i ∨ Fresh i turns ∧ ∀ j m, turn = .applied j m → j = i := since_snoc

/-- In order, the version is never below the first one. -/
theorem InOrder.le_latest (h : InOrder first turns) : first ≤ latest first turns := by
  induction turns using List.reverseRecOn with
  | nil => exact Int.le_refl _
  | append_singleton turns turn ih =>
    obtain ⟨hbefore, hlast⟩ := applies_snoc.1 h
    by_cases hturn : ∃ i m, turn = .applied i m
    · obtain ⟨i, m, rfl⟩ := hturn
      rw [latest_snoc]
      exact Int.le_trans (ih hbefore) (hlast i m rfl).1
    · rw [latest_snoc_of_ne fun i m hm => hturn ⟨i, m, hm⟩]
      exact ih hbefore

/-- Where the version goes up, what was applied is not beyond the last one. -/
theorem Rising.version_le_latest (h : Rising first turns) (hm : m ∈ applied turns) :
    m.version ≤ latest first turns := by
  induction turns using List.reverseRecOn with
  | nil => exact (List.not_mem_nil hm).elim
  | append_singleton turns turn ih =>
    by_cases hturn : ∃ i m, turn = .applied i m
    · obtain ⟨i, m', rfl⟩ := hturn
      obtain ⟨hbefore, hlt⟩ := applies_snoc_applied.1 h
      rw [applied_snoc, List.mem_append, List.mem_singleton] at hm
      rw [latest_snoc]
      rcases hm with hm | rfl
      · exact Int.le_of_lt (Int.lt_of_le_of_lt (ih hbefore hm) hlt)
      · exact Int.le_refl _
    · have hne (i : ι) (m : Migration) : turn ≠ .applied i m := fun h => hturn ⟨i, m, h⟩
      rw [applied_snoc_of_ne hne] at hm
      rw [latest_snoc_of_ne hne]
      exact ih ((applies_snoc_of_ne hne).1 h) hm

/-- Where the version goes up, migrations are applied in order and once. -/
theorem Rising.inOrder (h : Rising first turns) : InOrder first turns := by
  rintro past i m later rfl
  have hbefore : Rising first past :=
    fun past' j m' later' heq => h past' j m' (later' ++ .applied i m :: later) (by simp [heq])
  have hlt := h past i m later rfl
  refine ⟨Int.le_of_lt hlt, fun hm => ?_⟩
  have := hbefore.version_le_latest hm
  omega

end Turns

/-! ## Courses of overlapping upgrades -/

section Course

/-- **Turns of connections that upgrade one database** with one list of migrations, the database
after them, and what is left for each connection. A connection reads the version when nothing is
left for it; every migration that is left is one transaction, and if it fails the others are left
out. -/
inductive Course [DecidableEq ι] (e : Engine δ) (ms : List Migration) (initial : δ) :
    List (Turn ι) → δ → (ι → List Migration) → Prop
  | start : Course e ms initial [] initial fun _ => []
  | read {turns : List (Turn ι)} {d : δ} {left : ι → List Migration} {i : ι} {version : Int}
      (c : Course e ms initial turns d left) (hi : left i = []) (hv : e.version d = .ok version) :
      Course e ms initial (turns ++ [.read i]) d (Function.update left i (pending version ms))
  | apply {turns : List (Turn ι)} {d : δ} {left : ι → List Migration} {i : ι} {m : Migration}
      {rest : List Migration} {k k' : Connection δ} (c : Course e ms initial turns d left)
      (hi : left i = m :: rest) (hk : Settled (· = d) k)
      (h : (Schema.apply e m).attempt k = (.ok (), k')) :
      Course e ms initial (turns ++ [.applied i m]) k'.content (Function.update left i rest)
  | breakOff {turns : List (Turn ι)} {d : δ} {left : ι → List Migration} {i : ι} {m : Migration}
      {rest : List Migration} {k k' : Connection δ} {f : Failure}
      (c : Course e ms initial turns d left) (hi : left i = m :: rest) (hk : Settled (· = d) k)
      (h : (Schema.apply e m).attempt k = (.error f, k')) :
      Course e ms initial (turns ++ [.brokeOff i]) k'.content (Function.update left i [])

/-- **What is left for a connection** after some turns. -/
structure Remains (ms : List Migration) (first : Int) (turns : List (Turn ι)) (i : ι)
    (left : List Migration) : Prop where
  mem : ∀ m ∈ left, m ∈ ms
  /-- What is left for a fresh connection is what is pending. -/
  fresh : Fresh i turns → left = [] ∨ left = pending (latest first turns) ms
  /-- What is next for another one is not beyond the version, if the version went up. -/
  stale : Rising first turns → ¬ Fresh i turns →
    ∀ m rest, left = m :: rest → m.version ≤ latest first turns
  /-- In order, what is left is beyond the first version. -/
  above : InOrder first turns → ∀ m ∈ left, first < m.version

/-- **What turns say** about the database and the migrations that are left. -/
structure Account (e : Engine δ) (view : View δ ρ) (ms : List Migration) (first : Int)
    (turns : List (Turn ι)) (d : δ) (left : ι → List Migration) : Prop where
  prepared : e.Prepared d
  current : (view.recorded d).getD 0 = latest first turns
  remains : ∀ i, Remains ms first turns i (left i)
  applied_mem : ∀ m ∈ applied turns, m ∈ ms
  rising : InOrder first turns → Rising first turns
  rising_iff : Rising first turns ↔ Undisturbed turns

section Remains

variable {ms rest : List Migration} {first : Int} {turns : List (Turn ι)} {i j : ι}
  {m : Migration} {turn : Turn ι} {l : List Migration}

theorem remains_nil : Remains ms first turns i [] where
  mem _ hm := (List.not_mem_nil hm).elim
  fresh _ := .inl rfl
  stale _ _ _ _ h := nomatch h
  above _ _ hm := (List.not_mem_nil hm).elim

/-- What is left for a connection that reads the version. -/
theorem remains_read :
    Remains ms first (turns ++ [.read i]) i (pending (latest first turns) ms) := by
  have hne (j : ι) (m : Migration) : (.read i : Turn ι) ≠ .applied j m := nofun
  refine ⟨fun m hm => (mem_pending.1 hm).1, fun _ => .inr ?_, fun _ h => ?_, fun h m hm => ?_⟩
  · rw [latest_snoc_of_ne hne]
  · exact absurd (fresh_snoc.2 (.inl rfl)) h
  · have hfirst := InOrder.le_latest ((applies_snoc_of_ne hne).1 h)
    exact Int.lt_of_le_of_lt hfirst (mem_pending.1 hm).2

/-- What is left stays as it is while another connection applies nothing. -/
theorem Remains.keep (r : Remains ms first turns j l) (hturn : ∀ i m, turn ≠ .applied i m)
    (hread : turn ≠ .read j) : Remains ms first (turns ++ [turn]) j l := by
  have hfresh : Fresh j (turns ++ [turn]) ↔ Fresh j turns := by
    rw [fresh_snoc, or_iff_right hread]
    exact and_iff_left fun i m hm => absurd hm (hturn i m)
  refine ⟨r.mem, ?_, ?_, ?_⟩
  · rw [hfresh, latest_snoc_of_ne hturn]
    exact r.fresh
  · rw [hfresh, latest_snoc_of_ne hturn, Rising, applies_snoc_of_ne hturn]
    exact r.stale
  · rw [InOrder, applies_snoc_of_ne hturn]
    exact r.above

/-- **While the version goes up, what is next for a connection is beyond the last version exactly if
the connection is fresh.** -/
theorem Remains.latest_lt_iff (r : Remains ms first turns i (m :: rest)) (hms : Consecutive ms)
    (h : Rising first turns) : latest first turns < m.version ↔ Fresh i turns := by
  constructor
  · intro hlt
    by_contra hstale
    have := r.stale h hstale m rest rfl
    omega
  · intro hfresh
    rcases r.fresh hfresh with hnil | hpending
    · cases hnil
    · exact (pending_eq_cons hms.pairwise hpending.symm).1

/-- What is left for a connection that has applied what was next for it. -/
theorem Remains.applied_self (r : Remains ms first turns i (m :: rest)) (hms : Consecutive ms) :
    Remains ms first (turns ++ [.applied i m]) i rest := by
  refine ⟨fun m' hm' => r.mem m' (List.mem_cons_of_mem _ hm'), fun h => ?_, fun h hstale => ?_,
    fun h m' hm' => ?_⟩
  · rw [latest_snoc]
    rcases r.fresh (fresh_snoc_applied.1 h).1 with hnil | hpending
    · cases hnil
    · exact .inr (pending_eq_cons hms.pairwise hpending.symm).2.1
  · obtain ⟨hrising, hlt⟩ := applies_snoc_applied.1 h
    exact absurd (fresh_snoc_applied.2 ⟨(r.latest_lt_iff hms hrising).1 hlt, rfl⟩) hstale
  · exact r.above (applies_snoc_applied.1 h).1 m' (List.mem_cons_of_mem _ hm')

/-- What is left for a connection while another one applies a migration. What is next was the first
that was pending, or was not beyond the version before. -/
theorem Remains.applied_other (r : Remains ms first turns j l) (hms : Consecutive ms)
    (hm : m ∈ ms) (hij : i ≠ j) : Remains ms first (turns ++ [.applied i m]) j l := by
  refine ⟨r.mem, fun h => absurd (fresh_snoc_applied.1 h).2 hij, fun h _ m' later hl => ?_,
    fun h => r.above (applies_snoc_applied.1 h).1⟩
  obtain ⟨hrising, hlt⟩ := applies_snoc_applied.1 h
  rw [latest_snoc]
  by_cases hfresh : Fresh j turns
  · rcases r.fresh hfresh with hnil | hpending
    · rw [hl] at hnil
      cases hnil
    · exact (pending_eq_cons hms.pairwise (hpending.symm.trans hl)).2.2 m hm hlt
  · exact Int.le_of_lt (Int.lt_of_le_of_lt (r.stale hrising hfresh m' later hl) hlt)

end Remains

namespace Account

variable {e : Engine δ} {view : View δ ρ} {ms rest : List Migration} {first version : Int}
  {turns : List (Turn ι)} {d d' : δ} {left : ι → List Migration} {i : ι} {m : Migration}

theorem start (hd : e.Prepared d) :
    Account e view ms ((view.recorded d).getD 0) ([] : List (Turn ι)) d fun _ => [] where
  prepared := hd
  current := rfl
  remains _ := remains_nil
  applied_mem _ hm := (List.not_mem_nil hm).elim
  rising _ := applies_nil
  rising_iff := iff_of_true applies_nil applies_nil

/-- A turn in which nothing is applied. -/
theorem keep (a : Account e view ms first turns d left) {turn : Turn ι}
    {left' : ι → List Migration} (hturn : ∀ i m, turn ≠ .applied i m)
    (hleft : ∀ i, Remains ms first (turns ++ [turn]) i (left' i)) :
    Account e view ms first (turns ++ [turn]) d left' := by
  refine ⟨a.prepared, ?_, hleft, ?_, ?_, ?_⟩
  · rw [latest_snoc_of_ne hturn]
    exact a.current
  · rw [applied_snoc_of_ne hturn]
    exact a.applied_mem
  · rw [InOrder, Rising, applies_snoc_of_ne hturn, applies_snoc_of_ne hturn]
    exact a.rising
  · rw [Rising, Undisturbed, applies_snoc_of_ne hturn, applies_snoc_of_ne hturn]
    exact a.rising_iff

/-- In order, what is next for a connection is beyond the last version, if it is not below it and
was not applied. -/
theorem latest_lt (a : Account e view ms first turns d left) (hms : Consecutive ms)
    (h : InOrder first turns) (hm : m ∈ left i) (hle : latest first turns ≤ m.version)
    (hnew : m ∉ Schema.applied turns) : latest first turns < m.version := by
  by_contra hlt
  have heq : latest first turns = m.version := by omega
  rcases latest_eq first turns with hfirst | ⟨m', hm', hm'v⟩
  · have := (a.remains i).above h m hm
    omega
  · have := hms.eq_of_version_eq (a.applied_mem m' hm') ((a.remains i).mem m hm)
      (hm'v.symm.trans heq)
    exact hnew (this ▸ hm')

variable [DecidableEq ι]

theorem read (a : Account e view ms first turns d left) :
    Account e view ms first (turns ++ [.read i]) d
      (Function.update left i (pending (latest first turns) ms)) :=
  a.keep (fun _ _ => nofun) ((Function.forall_update_iff left _).2 ⟨remains_read, fun j hj =>
    (a.remains j).keep (fun _ _ => nofun) fun h => hj (Turn.read.inj h).symm⟩)

theorem breakOff (a : Account e view ms first turns d left) :
    Account e view ms first (turns ++ [.brokeOff i]) d (Function.update left i []) :=
  a.keep (fun _ _ => nofun) ((Function.forall_update_iff left _).2 ⟨remains_nil, fun j _ =>
    (a.remains j).keep (fun _ _ => nofun) nofun⟩)

/-- **A turn in which what is next for a connection is applied.** -/
theorem applied (a : Account e view ms first turns d left) (hms : Consecutive ms)
    (hi : left i = m :: rest) (hd' : e.Prepared d') (hv : view.recorded d' = some m.version) :
    Account e view ms first (turns ++ [.applied i m]) d' (Function.update left i rest) := by
  have hr : Remains ms first turns i (m :: rest) := hi ▸ a.remains i
  have hm : m ∈ m :: rest := List.mem_cons_self ..
  refine ⟨hd', by rw [hv, latest_snoc, Option.getD_some],
    (Function.forall_update_iff left _).2 ⟨hr.applied_self hms, fun j hj =>
      (a.remains j).applied_other hms (hr.mem m hm) hj.symm⟩, ?_, ?_, ?_⟩
  · rw [applied_snoc]
    simp only [List.mem_append, List.mem_singleton]
    rintro m' (hm' | rfl)
    · exact a.applied_mem m' hm'
    · exact hr.mem m' hm
  · rw [InOrder, Rising, applies_snoc_applied, applies_snoc_applied]
    rintro ⟨h, hle, hnew⟩
    exact ⟨a.rising h, a.latest_lt hms h (hi ▸ hm) hle hnew⟩
  · rw [Rising, Undisturbed, applies_snoc_applied, applies_snoc_applied]
    rw [← Rising, ← Undisturbed, ← a.rising_iff]
    exact and_congr_right fun h => hr.latest_lt_iff hms h

end Account

variable [DecidableEq ι] {e : Engine δ} {view : View δ ρ} {ms : List Migration}
  {turns : List (Turn ι)} {initial d : δ} {left : ι → List Migration}

/-- **What turns of connections say** about the database and the migrations that are left. What
fails in a transaction leaves the database. -/
theorem Course.account (he : e.Lawful view) (hms : Consecutive ms)
    (hs : ∀ m ∈ ms, ∀ s ∈ m.statements, e.Spares view s) (hd : e.Prepared initial)
    (c : Course e ms initial turns d left) :
    Account e view ms ((view.recorded initial).getD 0) turns d left := by
  induction c with
  | start => exact .start hd
  | read c hi hv ih =>
    rw [he.version hv, ih.current]
    exact ih.read
  | @apply turns d left i m rest k k' c hi hk h ih =>
    have hm : m ∈ left i := hi ▸ List.mem_cons_self ..
    obtain ⟨-, d₂, ⟨d₁, rfl, hrun⟩, hrecord⟩ := (ensures_apply e m).of_ok hk h
    have hp := Engine.prepared_run (hs m ((ih.remains i).mem m hm)) ih.prepared hrun
    obtain ⟨-, hrecorded, hp'⟩ := he.record hp hrecord
    exact ih.applied hms hi hp' hrecorded
  | breakOff c hi hk h ih =>
    obtain ⟨-, rfl⟩ := (ensures_apply e _).of_error hk h
    exact ih.breakOff

/-- **Overlapping upgrades apply migrations in order and once exactly if whoever applies one is
fresh**: if no other connection has applied any since it read the version. The recorded version is
that of the migration that was applied last. -/
theorem Course.inOrder_iff (he : e.Lawful view) (hms : Consecutive ms)
    (hs : ∀ m ∈ ms, ∀ s ∈ m.statements, e.Spares view s) (hd : e.Prepared initial)
    (c : Course e ms initial turns d left) :
    (view.recorded d).getD 0 = latest ((view.recorded initial).getD 0) turns ∧
      (InOrder ((view.recorded initial).getD 0) turns ↔ Undisturbed turns) := by
  have a := c.account he hms hs hd
  exact ⟨a.current, fun h => a.rising_iff.1 (a.rising h), fun h => (a.rising_iff.2 h).inOrder⟩

/-- The database after a migration that is applied when nothing troubles the connection. -/
def Engine.taken (e : Engine δ) (m : Migration) (d : δ) : δ :=
  ((Schema.apply e m).attempt { content := d }).2.content

/-- A migration that can be applied is one turn. -/
theorem Course.next (c : Course e ms initial turns d left) {i : ι} {m : Migration}
    {rest : List Migration} (hi : left i = m :: rest)
    (hok : ((Schema.apply e m).attempt { content := d }).1.isOk = true) :
    Course e ms initial (turns ++ [.applied i m]) (e.taken m d) (Function.update left i rest) := by
  obtain ⟨_, h⟩ := Act.exists_attempt_eq_ok hok
  exact c.apply hi ⟨rfl, rfl⟩ h

end Course

namespace Tables

/-- A migration that can be applied again and again. -/
def early : Migration := ⟨1, "early", "SELECT 1"⟩

/-- Another one, after it. -/
def late : Migration := ⟨2, "late", "SELECT 1"⟩

/-- A database with a table for the version. -/
def unversionedYet : Tables := [freshVersionTable]

/-- One of two connections that both read the version first applies both migrations, and then the
other one applies its first. -/
def overlapping : List (Turn Bool) :=
  [.read false, .read true, .applied false early, .applied false late, .applied true early]

theorem version_unversionedYet : engine.version unversionedYet = .ok 0 := by
  have hfind : unversionedYet.find? versionTable = some freshVersionTable := by decide +kernel
  have hcolumn : freshVersionTable.columns.any (sameName "version") = true := by decide +kernel
  simp only [engine, forVersion, hfind, hcolumn, if_true]
  rfl

/-- **Two connections that both read the version before one of them applies anything** apply a
migration twice, and the recorded version goes back. -/
theorem applied_twice :
    (∃ left, Course engine [early, late] unversionedYet overlapping
      (engine.taken early (engine.taken late (engine.taken early unversionedYet))) left) ∧
    (applied overlapping).count early = 2 ∧
    version? (engine.taken late (engine.taken early unversionedYet)) = some 2 ∧
    version? (engine.taken early (engine.taken late (engine.taken early unversionedYet))) =
      some 1 ∧
    ¬ InOrder 0 overlapping := by
  have c₀ : Course engine [early, late] unversionedYet ([] : List (Turn Bool)) unversionedYet
    fun _ => [] := .start
  have c := (c₀.read (i := false) rfl version_unversionedYet).read (i := true) rfl
    version_unversionedYet
  have c₁ := c.next (i := false) (show _ = early :: [late] from rfl) (by decide +kernel)
  have c₂ := c₁.next (i := false) (show _ = late :: [] from rfl) (by decide +kernel)
  have c₃ := c₂.next (i := true) (show _ = early :: [late] from rfl) (by decide +kernel)
  refine ⟨⟨_, c₃⟩, by decide, by decide +kernel, by decide +kernel, fun h => ?_⟩
  exact (h [.read false, .read true, .applied false early, .applied false late] true early []
    rfl).2 (by decide)

end Tables

end SearchIndex.Schema
