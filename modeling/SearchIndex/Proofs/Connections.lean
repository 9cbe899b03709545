import SearchIndex.Proofs.Bookkeeping

/-!
# Transactions on a connection

What a statement ensures on a connection, in a transaction and outside of one. A failed statement
changes nothing but the number of statements, and a failed transaction drops its draft, so a
migration is applied as a whole or not at all.

## Main definitions

* `Made edit p d`: a database is what an edit makes of one with `p`
* `Settled p c`: no transaction is open on a connection, and its database has `p`
* `Drafted p q c`: a transaction is open on a database with `p`, and its draft has `q`

## Main results

* `Connection.ensures_forM_change`: statements in a transaction are run on the draft
* `ensures_apply`: a migration is applied as a whole or not at all
-/

namespace SearchIndex.Schema

open Act (Ensures)

variable {δ α : Type}

/-- What an edit makes of the databases with a property. -/
def Made (edit : δ → Except Failure δ) (p : δ → Prop) (d' : δ) : Prop :=
  ∃ d, p d ∧ edit d = .ok d'

/-- No transaction is open on a connection, and its database has a property. -/
def Settled (p : δ → Prop) (c : Connection δ) : Prop := c.draft = none ∧ p c.content

/-- A transaction is open on a connection: its database has one property, the draft another. -/
def Drafted (p q : δ → Prop) (c : Connection δ) : Prop :=
  p c.content ∧ ∃ draft, c.draft = some draft ∧ q draft

variable {p q q' : δ → Prop}

theorem Settled.imp {c : Connection δ} (h : Settled p c) (hpq : ∀ d, p d → q d) : Settled q c :=
  ⟨h.1, hpq _ h.2⟩

theorem Drafted.imp {c : Connection δ} (h : Drafted p q c) (hq : ∀ d, q d → q' d) :
    Drafted p q' c := by
  obtain ⟨hp, draft, hdraft, hq₀⟩ := h
  exact ⟨hp, draft, hdraft, hq _ hq₀⟩

namespace Connection

/-- The rule for statements: one fails for trouble from outside, or because it does what cannot be
done, and then it changes nothing but the number of statements. -/
theorem ensures_ask {P E : Connection δ → Prop} {Q : α → Connection δ → Prop}
    {act : Connection δ → Except Failure (α × Connection δ)}
    (hP : ∀ c, P c → P { c with count := c.count + 1 }) (hE : ∀ c, P c → E c)
    (hQ : ∀ c a c', P c → act c = .ok (a, c') → Q a c') : Ensures P (ask act) Q E := by
  intro c hc
  rw [ask, Act.attempt_ofStep]
  dsimp only
  rcases c.trouble c.count with _ | f
  · dsimp only
    rcases hact : act { c with count := c.count + 1 } with f | ⟨a, c'⟩
    · exact hE _ (hP c hc)
    · exact hQ _ a c' (hP c hc) hact
  · exact hE _ (hP c hc)

/-- A change outside a transaction is for good. -/
theorem ensures_change_settled (edit : δ → Except Failure δ) :
    Ensures (Settled p) (change edit) (fun _ => Settled (Made edit p)) (Settled p) := by
  refine ensures_ask (fun _ hc => hc) (fun _ hc => hc) fun c _ c' hc hact => ?_
  obtain ⟨d', hd', hc'⟩ := bind_eq_ok_iff.1 hact
  obtain ⟨hdraft, hp⟩ := hc
  rw [current, hdraft] at hd'
  rw [hdraft] at hc'
  cases hc'
  exact ⟨rfl, c.content, hp, hd'⟩

/-- A change in a transaction is one of the draft. -/
theorem ensures_change_drafted (edit : δ → Except Failure δ) :
    Ensures (Drafted p q) (change edit) (fun _ => Drafted p (Made edit q))
      (fun c => p c.content) := by
  refine ensures_ask (fun _ hc => hc) (fun _ hc => hc.1) fun c _ c' hc hact => ?_
  obtain ⟨d', hd', hc'⟩ := bind_eq_ok_iff.1 hact
  obtain ⟨hp, draft, hdraft, hq⟩ := hc
  rw [current, hdraft] at hd'
  rw [hdraft] at hc'
  cases hc'
  exact ⟨hp, d', rfl, draft, hq, hd'⟩

theorem ensures_look (read : δ → Except Failure α) :
    Ensures (Settled p) (look read) (fun a => Settled fun d => p d ∧ read d = .ok a)
      (Settled p) := by
  refine ensures_ask (fun _ hc => hc) (fun _ hc => hc) fun c a c' hc hact => ?_
  obtain ⟨a', ha', hc'⟩ := bind_eq_ok_iff.1 hact
  obtain ⟨hdraft, hp⟩ := hc
  rw [current, hdraft] at ha'
  cases hc'
  exact ⟨hdraft, hp, ha'⟩

theorem ensures_begin : Ensures (Settled p) begin (fun _ => Drafted p p) (Settled p) := by
  refine ensures_ask (fun _ hc => hc) (fun _ hc => hc) fun c _ c' hc hact => ?_
  cases hact
  exact ⟨hc.2, c.content, rfl, hc.2⟩

theorem ensures_commit :
    Ensures (Drafted p q) commit (fun _ => Settled q) (fun c => p c.content) := by
  refine ensures_ask (fun _ hc => hc) (fun _ hc => hc.1) fun c _ c' hc hact => ?_
  obtain ⟨-, draft, hdraft, hq⟩ := hc
  cases hact
  refine ⟨rfl, ?_⟩
  rw [current, hdraft]
  exact hq

theorem ensures_orRollback {P : Connection δ → Prop} {Q : α → Connection δ → Prop}
    {a : Act (Connection δ) α} (h : Ensures P a Q fun c => p c.content) :
    Ensures P (orRollback a) Q (Settled p) := by
  intro c hc
  have hout := h c hc
  rw [orRollback, Act.attempt_ofStep]
  rcases ha : a.attempt c with ⟨_ | x, c'⟩ <;> rw [ha] at hout
  · exact ⟨rfl, hout⟩
  · exact hout

/-- Statements in a transaction are run on the draft, each on what the one before it leaves. -/
theorem ensures_forM_change (e : Engine δ) (statements : List String) :
    Ensures (Drafted p q) (statements.forM fun s => change (e.execute s))
      (fun _ => Drafted p (Made (e.run statements) q)) (fun c => p c.content) := by
  induction statements generalizing q with
  | nil => exact Ensures.pure fun c hc => hc.imp fun d hd => ⟨d, hd, rfl⟩
  | cons s statements ih =>
    have hall := (ensures_change_drafted (p := p) (q := q) (e.execute s)).bind fun _ => ih
    refine hall.mono_ok fun _ c hc => hc.imp ?_
    rintro d' ⟨d₁, ⟨d, hd, hd₁⟩, hrun⟩
    exact ⟨d, hd, Engine.run_cons_eq_ok_iff.2 ⟨d₁, hd₁, hrun⟩⟩

end Connection

/-- **A migration is applied as a whole or not at all.** -/
theorem ensures_apply (e : Engine δ) (m : Migration) :
    Ensures (Settled p) (apply e m)
      (fun _ => Settled (Made (e.record m.version) (Made (e.run m.statements) p)))
      (Settled p) := by
  refine Connection.ensures_begin.bind fun _ => Connection.ensures_orRollback ?_
  refine (Connection.ensures_forM_change e m.statements).bind fun _ => ?_
  exact (Connection.ensures_change_drafted _).bind fun _ => Connection.ensures_commit

end SearchIndex.Schema
