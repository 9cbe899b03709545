import Mathlib.Data.List.Infix
import SearchIndex.Proofs.Connections
import SearchIndex.Proofs.Scripts
import SearchIndex.Storage.Pool

/-!
# What upgrades leave

An upgrade takes a database from version to version, each migration as a whole or not at all. So
after any upgrades with lists that begin one plan, successful or not, the database is what the
scripts up to the recorded version make of the first one, each run once and in order.

## Main definitions

* `Engine.At e view scripts initial v d`: a database at a version of a plan
* `Access.Lawful q`: the connection of a world is changed by storing it and by nothing else
* `Access.after q e library calls s`: the world after upgrades
* `Access.FailsIn q e library ms n s`: an upgrade fails in the migration to the version `n`
* `Access.Advances`, `Access.Refused`: what an upgrade does along a plan, and what it does otherwise

## Main results

* `Access.ensures_applyAll`: migrations lead from version to version
* `Access.ensures_upgrade`: an upgrade leaves the database at a version
* `Access.applied_once`: what any upgrades leave, and what the next one does
* `Storage.Keeper.Lawful.lawful_tables`: the shared manager keeps a connection in this sense
-/

namespace SearchIndex.Schema

open Act (Ensures)

variable {σ δ ρ α : Type}

/-! ## Versions of a plan -/

/-- **A database at a version of a plan**: the version is recorded, and the rest of the database is
what the scripts up to it make of the initial one, each run once and in order. -/
structure Engine.At (e : Engine δ) (view : View δ ρ) (scripts : List Script) (initial : δ) (v : Nat)
    (d : δ) : Prop where
  bound : v ≤ scripts.length
  recorded : (view.recorded d).getD 0 = v
  rest : ∃ d', e.run ((scripts.take v).flatMap Script.statements) initial = .ok d' ∧
    view.rest d = view.rest d'

/-- The database is at a version, with a record of it. -/
def Engine.Ready (e : Engine δ) (view : View δ ρ) (scripts : List Script) (initial : δ) (v : Nat)
    (d : δ) : Prop :=
  e.At view scripts initial v d ∧ e.Prepared d

section Plan

variable {e : Engine δ} {view : View δ ρ} (he : e.Lawful view) {scripts : List Script}
  (hs : ∀ s ∈ scripts, ∀ statement ∈ s.statements, e.Spares view statement) {initial : δ} {v : Nat}

theorem Engine.at_zero {d : δ} (hd : view.recorded d = none) : e.At view scripts d 0 d where
  bound := Nat.zero_le _
  recorded := by rw [hd]; rfl
  rest := ⟨d, rfl, rfl⟩

include he in
theorem Engine.At.prepare {d d' : δ} (hd : e.At view scripts initial v d)
    (h : e.prepare d = .ok d') : e.Ready view scripts initial v d' := by
  obtain ⟨hrest, hrecorded, hp⟩ := he.prepare h
  refine ⟨⟨hd.bound, ?_, ?_⟩, hp⟩
  · rw [hrecorded, hd.recorded]
  · rw [hrest]
    exact hd.rest

include he hs in
/-- **The next script and its version lead to the next version.** -/
theorem Engine.Ready.step (hv : v < scripts.length) {d : δ}
    (h : Made (e.record (1 + v)) (Made (e.run scripts[v].statements)
      (e.Ready view scripts initial v)) d) :
    e.Ready view scripts initial (v + 1) d := by
  obtain ⟨d₂, ⟨d₁, ⟨hd₁, hp⟩, hrun⟩, hrecord⟩ := h
  have hscript := hs _ (List.getElem_mem hv)
  obtain ⟨hrest, hrecorded, hp'⟩ := he.record (Engine.prepared_run hscript hp hrun) hrecord
  obtain ⟨d₁', hd₁', hrest₁⟩ := hd₁.rest
  obtain ⟨d₂', hd₂', hrest₂⟩ := Engine.run_of_rest_eq hscript hrest₁ hrun
  refine ⟨⟨hv, ?_, d₂', ?_, hrest.trans hrest₂⟩, hp'⟩
  · rw [hrecorded, Option.getD_some]
    omega
  · rw [← List.take_append_getElem hv, List.flatMap_append, Engine.run_append, hd₁']
    show e.run (scripts[v].statements ++ []) d₁' = .ok d₂'
    rwa [List.append_nil]

end Plan

/-! ## Worlds with a connection -/

namespace Access

/-- **The connection of a world is changed by storing it and by nothing else.** -/
structure Lawful (q : Access σ δ) : Prop where
  content : ∀ c s, (q.connection (q.withConnection c s)).content = c.content
  draft : ∀ c s, c.draft = none → (q.connection (q.withConnection c s)).draft = none
  note : ∀ n s, ∃ s', (q.note n).attempt s = (.ok (), s') ∧ q.connection s' = q.connection s

/-- No transaction is open on the connection of a world, and its database has a property. -/
def Holds (q : Access σ δ) (p : δ → Prop) (s : σ) : Prop := Settled p (q.connection s)

/-- What an upgrade does before the first migration; it gives the recorded version. -/
def opening (q : Access σ δ) (e : Engine δ) (library : String) (ms : List Migration) :
    Act σ Int := do
  Act.ofExcept (checkLibrary library)
  Act.ofExcept (checkVersions ms)
  q.use (Connection.change e.prepare)
  q.use (Connection.look e.version)

/-- An upgrade that is opened goes on with what is pending. -/
def proceed (q : Access σ δ) (e : Engine δ) (version : Int) : List Migration → Act σ Unit
  | [] => q.note (.debug ("schema already at version " ++ Decimal.intText version ++
      ", no migrations to run"))
  | m :: ms => q.applyAll e (m :: ms)

theorem upgrade_eq (q : Access σ δ) (e : Engine δ) (library : String) (ms : List Migration) :
    q.upgrade e library ms =
      q.opening e library ms >>= fun version => q.proceed e version (pending version ms) := by
  simp only [upgrade, opening, bind_assoc]
  rfl

/-- **An upgrade fails in the migration to a version**: those before it that are pending are
applied, and it is not. -/
def FailsIn (q : Access σ δ) (e : Engine δ) (library : String) (ms : List Migration) (n : Nat)
    (s : σ) : Prop :=
  ∃ (version : Int) (s₁ : σ) (earlier : List Migration) (m : Migration) (later : List Migration)
    (s₂ : σ) (f : Failure) (s₃ : σ),
    (q.opening e library ms).attempt s = (.ok version, s₁) ∧
    pending version ms = earlier ++ m :: later ∧ m.version = (n : Int) ∧
    (q.applyAll e earlier).attempt s₁ = (.ok (), s₂) ∧
    (q.use (apply e m)).attempt s₂ = (.error f, s₃)

/-- **The world after upgrades**, whether they fail or not. -/
def after (q : Access σ δ) (e : Engine δ) (library : String) (calls : List (List Migration))
    (s : σ) : σ :=
  calls.foldl (fun s ms => ((q.upgrade e library ms).attempt s).2) s

section Lawful

variable {q : Access σ δ} (hq : q.Lawful)

include hq

theorem Lawful.ensures_use {p t : δ → Prop} {r : α → δ → Prop} {a : Act (Connection δ) α}
    (h : Ensures (Settled p) a (fun x => Settled (r x)) (Settled t)) :
    Ensures (q.Holds p) (q.use a) (fun x => q.Holds (r x)) (q.Holds t) := by
  have hput {p : δ → Prop} {c : Connection δ} (s : σ) (hc : Settled p c) :
      q.Holds p (q.withConnection c s) := by
    refine ⟨hq.draft c s hc.1, ?_⟩
    rw [hq.content]
    exact hc.2
  intro s hs
  have hout := h (q.connection s) hs
  rw [use, Act.within, Act.attempt_ofStep]
  rcases ha : a.attempt (q.connection s) with ⟨_ | x, c⟩ <;> rw [ha] at hout
  · exact hput s hout
  · exact hput s hout

theorem Lawful.ensures_note {p : δ → Prop} {E : σ → Prop} (n : Log.Note) :
    Ensures (q.Holds p) (q.note n) (fun _ => q.Holds p) E := by
  intro s hs
  obtain ⟨s', hs', hconnection⟩ := hq.note n s
  rw [hs']
  show Settled p (q.connection s')
  rw [hconnection]
  exact hs

/-- What the opening of an upgrade leaves, if it fails as well. -/
theorem Lawful.ensures_opening (e : Engine δ) (library : String) (ms : List Migration)
    {p : δ → Prop} :
    Ensures (q.Holds p) (q.opening e library ms)
      (fun version => q.Holds fun d => Made e.prepare p d ∧ e.version d = .ok version)
      (fun s => q.Holds p s ∨ q.Holds (Made e.prepare p) s) := by
  have hprepare := hq.ensures_use (Connection.ensures_change_settled (p := p) e.prepare)
  have hversion := hq.ensures_use (Connection.ensures_look (p := Made e.prepare p) e.version)
  refine (Ensures.ofExcept (fun _ _ _ hs => hs) fun _ hs => Or.inl hs).bind fun _ => ?_
  refine (Ensures.ofExcept (fun _ _ _ hs => hs) fun _ hs => Or.inl hs).bind fun _ => ?_
  refine (hprepare.mono_error fun _ hs => Or.inl hs).bind fun _ => ?_
  exact hversion.mono_error fun _ hs => Or.inr hs

end Lawful

theorem applyAll_append (q : Access σ δ) (e : Engine δ) (ms ms' : List Migration) :
    q.applyAll e (ms ++ ms') = q.applyAll e ms >>= fun _ => q.applyAll e ms' := by
  induction ms with
  | nil =>
    rw [List.nil_append, applyAll, pure_bind]
  | cons m ms ih =>
    rw [List.cons_append, applyAll, applyAll, ih]
    simp only [bind_assoc]

/-- Migrations that fail do so in one of them, after the earlier ones were applied. -/
theorem Lawful.applyAll_eq_error {q : Access σ δ} (hq : q.Lawful) {e : Engine δ}
    {ms : List Migration} {s s' : σ} {f : Failure}
    (h : (q.applyAll e ms).attempt s = (.error f, s')) :
    ∃ earlier m later s₁, ms = earlier ++ m :: later ∧
      (q.applyAll e earlier).attempt s = (.ok (), s₁) ∧
      (q.use (apply e m)).attempt s₁ = (.error f, s') := by
  induction ms generalizing s with
  | nil => cases h
  | cons m ms ih =>
    rw [applyAll, Act.attempt_bind] at h
    rcases happly : (q.use (apply e m)).attempt s with ⟨_ | _, s₁⟩ <;> rw [happly] at h
    · cases h
      exact ⟨[], m, ms, s, rfl, rfl, happly⟩
    · obtain ⟨s₂, hnote, -⟩ := hq.note
        (.info ("applied migration v" ++ Decimal.intText m.version ++ ": " ++ m.description)) s₁
      dsimp only at h
      rw [Act.attempt_bind, hnote] at h
      obtain ⟨earlier, m', later, s₃, rfl, hearlier, hfails⟩ := ih h
      refine ⟨m :: earlier, m', later, s₃, rfl, ?_, hfails⟩
      rw [applyAll, Act.attempt_bind, happly]
      dsimp only
      rw [Act.attempt_bind, hnote]
      exact hearlier

end Access

/-- A connection on its own, without notes. -/
def Connection.access : Access (Connection δ) δ := ⟨id, fun c _ => c, fun _ => pure ()⟩

theorem Connection.lawful_access : (access : Access (Connection δ) δ).Lawful where
  content _ _ := rfl
  draft _ _ h := h
  note _ s := ⟨s, rfl, rfl⟩

namespace Access

/-! ## Upgrades with lists that begin a plan -/

/-- **What an upgrade does to a world at a version** with a list that begins the plan. -/
structure Advances (q : Access σ δ) (e : Engine δ) (view : View δ ρ) (scripts : List Script)
    (initial : δ) (library : String) (v : Nat) (s : σ) (ms : List Migration) : Prop where
  /-- A success leads to the version of the list, unless the database is beyond it, -/
  success : ∀ s', (q.upgrade e library ms).attempt s = (.ok (), s') →
    q.Holds (e.At view scripts initial (max ms.length v)) s'
  /-- and then the same upgrade changes nothing any more. -/
  again : ∀ s' r s'', (q.upgrade e library ms).attempt s = (.ok (), s') →
    (q.upgrade e library ms).attempt s' = (r, s'') → q.Holds (· = (q.connection s').content) s''
  /-- A failure in a migration leaves the version before it, -/
  failure : ∀ j, q.FailsIn e library ms (j + 1) s →
    ∃ f s', (q.upgrade e library ms).attempt s = (.error f, s') ∧
      q.Holds (e.At view scripts initial j) s'
  /-- and any other failure leaves the version the upgrade found. -/
  otherwise : ∀ f s', (q.upgrade e library ms).attempt s = (.error f, s') →
    (∃ j, q.FailsIn e library ms (j + 1) s) ∨ q.Holds (e.At view scripts initial v) s'

/-- **An upgrade is refused**: the world is left alone, and with a storage library that will do the
first wrong version of the list is reported. -/
structure Refused (q : Access σ δ) (e : Engine δ) (library : String) (s : σ) (ms : List Migration) :
    Prop where
  untouched : ((q.upgrade e library ms).attempt s).2 = s
  reported : checkLibrary library = .ok () →
    ∃ (i : Nat) (hi : i < ms.length),
      (∀ (k : Nat) (hk : k < ms.length), k < i → ms[k].version = 1 + k) ∧ ms[i].version ≠ 1 + i ∧
        ((q.upgrade e library ms).attempt s).1 =
          .error (.versionGap (1 + i) ms[i].version ms[i].description)

section Plan

variable {q : Access σ δ} (hq : q.Lawful) {e : Engine δ} {view : View δ ρ} (he : e.Lawful view)
  {scripts : List Script}
  (hs : ∀ s ∈ scripts, ∀ statement ∈ s.statements, e.Spares view statement)
  (initial : δ) (library : String) {ms : List Migration} {v : Nat}

include hq he

/-- An opened upgrade knows the version the database is at. -/
theorem ensures_opening (scripts : List Script) (ms : List Migration) (v : Nat) :
    Ensures (q.Holds (e.At view scripts initial v)) (q.opening e library ms)
      (fun version => q.Holds fun d => version = v ∧ e.Ready view scripts initial v d)
      (q.Holds (e.At view scripts initial v)) := by
  have hready (d : δ) (hd : Made e.prepare (e.At view scripts initial v) d) :
      e.Ready view scripts initial v d := by
    obtain ⟨d₀, hd₀, hprepare⟩ := hd
    exact hd₀.prepare he hprepare
  refine ((hq.ensures_opening e library ms).mono_ok fun version s h => ?_).mono_error ?_
  · refine h.imp fun d ⟨hd, hversion⟩ => ⟨?_, hready d hd⟩
    rw [he.version hversion, (hready d hd).1.recorded]
  · rintro s (h | h)
    · exact h
    · exact h.imp fun d hd => (hready d hd).1

include hs

/-- The migration of a plan leads from one version to the next, or nowhere. -/
theorem ensures_use_apply (hv : v < (plan scripts).length) :
    Ensures (q.Holds (e.Ready view scripts initial v)) (q.use (apply e (plan scripts)[v]))
      (fun _ => q.Holds (e.Ready view scripts initial (v + 1)))
      (q.Holds (e.Ready view scripts initial v)) := by
  have hv' : v < scripts.length := length_plan scripts ▸ hv
  refine (hq.ensures_use (ensures_apply e (plan scripts)[v])).mono_ok fun _ s h => ?_
  rw [getElem_plan hv hv', Script.statements_migration] at h
  exact h.imp fun d hd => Engine.Ready.step he hs hv' hd

/-- **Migrations of a plan lead from version to version**, as far as they get. The first one moves
the version on, and the others begin what is then left of the plan. -/
theorem ensures_applyAll (hms : ms <+: (plan scripts).drop v) :
    Ensures (q.Holds (e.Ready view scripts initial v)) (q.applyAll e ms)
      (fun _ => q.Holds (e.Ready view scripts initial (v + ms.length)))
      (fun s => ∃ j, q.Holds (e.At view scripts initial j) s) := by
  induction ms generalizing v with
  | nil => exact Ensures.pure fun s hs => hs
  | cons m ms ih =>
    have hv : v < (plan scripts).length := by
      have hlength := hms.length_le
      rw [List.length_cons, List.length_drop] at hlength
      omega
    rw [List.drop_eq_getElem_cons hv, List.cons_prefix_cons] at hms
    obtain ⟨rfl, hms⟩ := hms
    have hfirst := (ensures_use_apply hq he hs initial hv).mono_error fun s h =>
      (⟨v, h.imp fun _ hd => hd.1⟩ : ∃ j, q.Holds (e.At view scripts initial j) s)
    have hrest := ih hms
    rw [applyAll]
    refine hfirst.bind fun _ => (hq.ensures_note _).bind fun _ => ?_
    rwa [List.length_cons, Nat.add_comm ms.length, ← Nat.add_assoc]

/-- **An upgrade takes a database from version to version**, as far as it gets. At the version of
the list and beyond there is nothing to do. -/
theorem ensures_upgrade (hms : ms <+: plan scripts) :
    Ensures (q.Holds (e.At view scripts initial v)) (q.upgrade e library ms)
      (fun _ => q.Holds (e.Ready view scripts initial (max ms.length v)))
      (fun s => ∃ j, q.Holds (e.At view scripts initial j) s) := by
  have hpending : pending v ms = ms.drop v :=
    pending_eq_drop ((consecutive_plan scripts).of_isPrefix hms) v
  have hopening := (ensures_opening hq he initial library scripts ms v).mono_error fun s h =>
    (⟨v, h⟩ : ∃ j, q.Holds (e.At view scripts initial j) s)
  rw [upgrade_eq]
  refine hopening.bind fun version s h => ?_
  obtain rfl : version = v := h.2.1
  have hready : q.Holds (e.Ready view scripts initial v) s := h.imp fun _ hd => hd.2
  rw [hpending]
  rcases hdrop : ms.drop v with _ | ⟨m, later⟩
  · have hlength : ms.length ≤ v := List.drop_eq_nil_iff.1 hdrop
    rw [Nat.max_eq_right hlength]
    exact hq.ensures_note _ s hready
  · have hlength : ms.length = v + (m :: later).length := by
      have := congrArg List.length hdrop
      rw [List.length_drop, List.length_cons] at this
      rw [List.length_cons]
      omega
    have happly := ensures_applyAll hq he hs initial (hdrop ▸ hms.drop v)
    rw [hlength, Nat.max_eq_left (Nat.le_add_right _ _)]
    exact happly s hready

/-- **A failure in a migration of a plan leaves the version before it.** The versions of a plan
count from one, so the failing one says how many came before it. -/
theorem FailsIn.holds (hms : ms <+: plan scripts) {s : σ}
    (h : q.Holds (e.At view scripts initial v) s) {j : Nat}
    (hfails : q.FailsIn e library ms (j + 1) s) :
    ∃ f s', (q.upgrade e library ms).attempt s = (.error f, s') ∧
      q.Holds (e.At view scripts initial j) s' := by
  obtain ⟨version, s₁, earlier, m, later, s₂, f, s₃, hopened, hpending, hm, hearlier, hfails⟩ :=
    hfails
  have hopening := (ensures_opening hq he initial library scripts ms v).of_ok h hopened
  obtain rfl : version = v := hopening.2.1
  have hready : q.Holds (e.Ready view scripts initial v) s₁ := hopening.imp fun _ hd => hd.2
  obtain ⟨hbegins, hi, rfl⟩ := getElem_plan_of_pending hms hpending
  obtain rfl : j = v + earlier.length := by
    have := consecutive_plan scripts _ hi
    omega
  have happlied := (ensures_applyAll hq he hs initial hbegins).of_ok hready hearlier
  have hleft := (ensures_use_apply hq he hs initial hi).of_error happlied hfails
  refine ⟨f, s₃, ?_, hleft.imp fun _ hd => hd.1⟩
  have hproceed : q.proceed e v (pending v ms) = q.applyAll e (pending v ms) := by
    rw [hpending]
    cases earlier <;> rfl
  rw [upgrade_eq, Act.attempt_bind, hopened]
  dsimp only
  rw [hproceed, hpending, applyAll_append, Act.attempt_bind, hearlier]
  dsimp only
  rw [applyAll, Act.attempt_bind, hfails]

omit hs in
/-- **A failing upgrade fails in a migration of the plan or leaves the version it found.** Without a
migration to apply there is only a note, which does not fail. -/
theorem failsIn_or_holds (hms : ms <+: plan scripts) {s s' : σ} {f : Failure}
    (h : q.Holds (e.At view scripts initial v) s)
    (hf : (q.upgrade e library ms).attempt s = (.error f, s')) :
    (∃ j, q.FailsIn e library ms (j + 1) s) ∨ q.Holds (e.At view scripts initial v) s' := by
  have hopening := ensures_opening hq he initial library scripts ms v
  rw [upgrade_eq, Act.attempt_bind] at hf
  rcases hopened : (q.opening e library ms).attempt s with ⟨_ | version, s₁⟩ <;>
    rw [hopened] at hf
  · cases hf
    exact Or.inr (hopening.of_error h hopened)
  · obtain rfl : version = v := (hopening.of_ok h hopened).2.1
    rcases hpending : pending v ms with _ | ⟨m, later⟩ <;> dsimp only at hf <;>
      rw [hpending, proceed] at hf
    · obtain ⟨s₂, hnote, -⟩ := hq.note (.debug ("schema already at version " ++
        Decimal.intText v ++ ", no migrations to run")) s₁
      rw [hnote] at hf
      cases hf
    · obtain ⟨earlier, m', later', s₂, hsplit, hearlier, hfails⟩ := hq.applyAll_eq_error hf
      rw [hsplit] at hpending
      obtain ⟨-, hi, rfl⟩ := getElem_plan_of_pending hms hpending
      refine Or.inl ⟨v + earlier.length, v, s₁, earlier, _, later', s₂, f, s', hopened, hpending,
        ?_, hearlier, hfails⟩
      have := consecutive_plan scripts _ hi
      omega

omit hs in
/-- **An upgrade changes nothing of a database that is at its version or beyond.** The record of the
version is there already, so adding it changes nothing. -/
theorem ensures_upgrade_again (hms : ms <+: plan scripts) {d : δ}
    (hd : e.Ready view scripts initial v d) (hlength : ms.length ≤ v) :
    Ensures (q.Holds (· = d)) (q.upgrade e library ms) (fun _ => q.Holds (· = d))
      (q.Holds (· = d)) := by
  have hprepare : ∀ d', Made e.prepare (· = d) d' → d' = d := by
    rintro d' ⟨_, rfl, hd'⟩
    exact Except.ok.inj (hd'.symm.trans hd.2)
  have hopening := (hq.ensures_opening e library ms (p := (· = d))).mono_error fun s h =>
    h.elim id fun h => h.imp hprepare
  rw [upgrade_eq]
  refine hopening.bind fun version s h => ?_
  obtain ⟨hmade, hversion⟩ := h.2
  obtain rfl : version = v := by
    rw [hprepare _ hmade] at hversion
    rw [he.version hversion, hd.1.recorded]
  rw [pending_eq_drop ((consecutive_plan scripts).of_isPrefix hms), List.drop_eq_nil_of_le hlength]
  exact hq.ensures_note _ s (h.imp fun d' hd' => hprepare d' hd'.1)

/-- **What an upgrade with a list that begins the plan does.** -/
theorem advances (hms : ms <+: plan scripts) {s : σ}
    (h : q.Holds (e.At view scripts initial v) s) :
    q.Advances e view scripts initial library v s ms where
  success s' hs' := by
    have hready := (ensures_upgrade hq he hs initial library hms).of_ok h hs'
    exact hready.imp fun _ hd => hd.1
  again s' r s'' hs' hs'' := by
    have hready := (ensures_upgrade hq he hs initial library hms).of_ok h hs'
    have hagain := ensures_upgrade_again hq he initial library hms hready.2 (Nat.le_max_left _ _)
    have hleft := hagain.snd ⟨hready.1, rfl⟩
    rwa [hs''] at hleft
  failure j hfails := FailsIn.holds hq he hs initial library hms h hfails
  otherwise f s' hf := failsIn_or_holds hq he initial library hms h hf

end Plan

/-- **A list that does not count from one is refused** before anything is touched. A storage library
that is too old is reported first. -/
theorem refused_of_not_consecutive (q : Access σ δ) (e : Engine δ) (library : String)
    {ms : List Migration} (hms : ¬Consecutive ms) (s : σ) : q.Refused e library s ms := by
  rcases hlibrary : checkLibrary library with f | _
  · have hattempt : (q.upgrade e library ms).attempt s = (.error f, s) := by
      rw [upgrade, hlibrary, Act.attempt_bind, Act.attempt_ofExcept]
    refine ⟨by rw [hattempt], fun h => ?_⟩
    rw [hlibrary] at h
    cases h
  · obtain ⟨i, hi, hbefore, hwrong, hcheck⟩ := checkVersions_of_not_consecutive hms
    have hattempt : (q.upgrade e library ms).attempt s =
        (.error (.versionGap (1 + i) ms[i].version ms[i].description), s) := by
      rw [upgrade, hlibrary, Act.attempt_bind, Act.attempt_ofExcept]
      dsimp only
      rw [hcheck, Act.attempt_bind, Act.attempt_ofExcept]
    exact ⟨by rw [hattempt], fun _ => ⟨i, hi, hbefore, hwrong, by rw [hattempt]⟩⟩

/-! ## Any upgrades -/

/-- The databases after any upgrades are at a version of the plan. -/
theorem holds_after {q : Access σ δ} (hq : q.Lawful) {e : Engine δ} {view : View δ ρ}
    (he : e.Lawful view) {scripts : List Script}
    (hs : ∀ s ∈ scripts, ∀ statement ∈ s.statements, e.Spares view statement) {initial : δ}
    {library : String} {calls : List (List Migration)}
    (hcalls : ∀ ms ∈ calls, ms <+: plan scripts ∨ ¬Consecutive ms) {s : σ}
    (h : ∃ v, q.Holds (e.At view scripts initial v) s) :
    ∃ v, q.Holds (e.At view scripts initial v) (q.after e library calls s) := by
  induction calls generalizing s with
  | nil => exact h
  | cons ms calls ih =>
    obtain ⟨hfirst, hrest⟩ := List.forall_mem_cons.1 hcalls
    obtain ⟨v, hv⟩ := h
    refine ih hrest ?_
    rcases hfirst with hms | hms
    · have hupgrade := (ensures_upgrade hq he hs initial library (v := v) hms).mono_ok fun _ s h =>
        (⟨_, h.imp fun _ hd => hd.1⟩ : ∃ j, q.Holds (e.At view scripts initial j) s)
      exact hupgrade.snd hv
    · refine ⟨v, ?_⟩
      dsimp only
      rwa [(refused_of_not_consecutive q e library hms s).untouched]

/-- **Upgrades take effect once, in order and as a whole**: after any upgrades of a database without
a version, with lists that begin one plan or do not count from one, failed or not, the database is
at a version of the plan, and the next upgrade goes on from there. -/
theorem applied_once {q : Access σ δ} (hq : q.Lawful) {e : Engine δ} {view : View δ ρ}
    (he : e.Lawful view) {scripts : List Script}
    (hs : ∀ s ∈ scripts, ∀ statement ∈ s.statements, e.Spares view statement) (library : String)
    {calls : List (List Migration)}
    (hcalls : ∀ ms ∈ calls, ms <+: plan scripts ∨ ¬Consecutive ms) {s : σ} {initial : δ}
    (h : q.Holds (fun d => d = initial ∧ view.recorded d = none) s) :
    ∃ v, q.Holds (e.At view scripts initial v) (q.after e library calls s) ∧
      (∀ ms, ms <+: plan scripts →
        q.Advances e view scripts initial library v (q.after e library calls s) ms) ∧
      ∀ ms, ¬Consecutive ms → q.Refused e library (q.after e library calls s) ms := by
  have hzero : q.Holds (e.At view scripts initial 0) s := h.imp fun d ⟨hd, hnone⟩ =>
    hd ▸ Engine.at_zero hnone
  obtain ⟨v, hv⟩ := holds_after hq he hs hcalls ⟨0, hzero⟩
  refine ⟨v, hv, fun ms hms => ?_, fun ms hms => ?_⟩
  · exact advances hq he hs initial library hms hv
  · exact refused_of_not_consecutive q e library hms _

end Access

namespace Tables

/-- A table in one script, two more in the next. -/
def twoSteps : List Script :=
  [⟨"one table", ["CREATE TABLE a (id INTEGER)"], by decide⟩,
    ⟨"two more", ["\n  CREATE TABLE b (id INTEGER)", "\n  CREATE TABLE c (id INTEGER)", "\n"],
      by decide⟩]

/-- A connection to an empty database, whose eleventh statement finds it locked. -/
def lockedLater : Connection Tables :=
  { content := [], trouble := fun n => if n = 10 then some .databaseLocked else none }

/-- The world after the first migration was applied and then both were asked for. -/
def interrupted : Connection Tables :=
  Connection.access.after engine "3.40.1" [(plan twoSteps).take 1, plan twoSteps] lockedLater

/-- **An upgrade that breaks off in its second migration** leaves the first one, and leads to the
second when it is done again. -/
theorem applied_once_interrupted :
    Connection.access.Holds (engine.At view twoSteps [] 1) interrupted ∧
      Connection.access.Holds (engine.At view twoSteps [] 2)
        ((Connection.access.upgrade engine "3.40.1" (plan twoSteps)).attempt interrupted).2 := by
  have hs : ∀ s ∈ twoSteps, ∀ statement ∈ s.statements, engine.Spares view statement := by
    have helsewhere : ∀ s ∈ twoSteps, ∀ statement ∈ s.statements,
        (Statement.ofText statement).elsewhere = true := by decide +kernel
    exact fun s hs statement hstatement => spares_execute (helsewhere s hs statement hstatement)
  have hcalls : ∀ ms ∈ [(plan twoSteps).take 1, plan twoSteps],
      ms <+: plan twoSteps ∨ ¬Consecutive ms := by
    intro ms hms
    simp only [List.mem_cons, List.not_mem_nil, or_false] at hms
    rcases hms with rfl | rfl
    · exact Or.inl (List.take_prefix _ _)
    · exact Or.inl List.prefix_rfl
  have hempty : Connection.access.Holds (fun d => d = [] ∧ view.recorded d = none) lockedLater :=
    ⟨rfl, rfl, rfl⟩
  obtain ⟨v, hv, hadvances, -⟩ := Access.applied_once Connection.lawful_access lawful_engine hs
    "3.40.1" hcalls hempty
  obtain ⟨hversion, hok⟩ : (interrupted.content.version?).getD 0 = 1 ∧
      ((Connection.access.upgrade engine "3.40.1" (plan twoSteps)).attempt
        interrupted).1.isOk = true := by
    decide +kernel
  obtain rfl : v = 1 := by exact_mod_cast hv.2.recorded.symm.trans hversion
  obtain ⟨_, hrun⟩ := Act.exists_attempt_eq_ok hok
  exact ⟨hv, (hadvances _ List.prefix_rfl).success _ hrun⟩

end Tables

end SearchIndex.Schema

/-! ## The shared manager -/

namespace SearchIndex.Storage

/-- What is put into the pool of a world is found there, and notes leave it alone. -/
structure Keeper.Lawful {σ : Type} (k : Keeper σ) : Prop where
  pool : ∀ p s, k.pool (k.withPool p s) = p
  note : ∀ n s, ∃ s', (k.note n).attempt s = (.ok (), s') ∧ k.pool s' = k.pool s

theorem Disk.database_edit (link : Nat) (f : Database → Database) (d : Disk) :
    (d.edit link f).database (d.placeOf link) = f (d.database (d.placeOf link)) := by
  rw [database, edit]
  dsimp only
  rw [Keyed.find?_put_self (beq_self_eq_true _)]
  rfl

/-- **The connection of a manager** is changed by storing it and by nothing else. -/
theorem Keeper.Lawful.lawful_tables {σ : Type} {k : Keeper σ} (hk : k.Lawful) (link : Nat) :
    (k.tables link).Lawful where
  content c s := by
    show ((k.pool (k.withPool _ s)).disk.schema link).content = c.content
    rw [hk.pool]
    exact congrArg Database.schema
      (Disk.database_edit link (fun b => { b with schema := c.content }) (k.pool s).disk)
  draft _ _ _ := rfl
  note n s := by
    obtain ⟨s', hs', hpool⟩ := hk.note n s
    refine ⟨s', hs', ?_⟩
    show (k.pool s').disk.schema link = (k.pool s).disk.schema link
    rw [hpool]

end SearchIndex.Storage
