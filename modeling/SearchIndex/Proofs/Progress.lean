import SearchIndex.Proofs.Upgrades

/-!
# Upgrades that succeed

Without trouble from outside, an upgrade does what its statements do: it fails where one of them
cannot be done, and else leaves what they leave. The tables of the queue can be brought up to date
unless a table of one of its names is there with other columns.

## Main definitions

* `Connection.Idle d c`, `Connection.Busy d c`: no trouble on a connection, and what it sees
* `Engine.applied e m d`, `Engine.upgraded e ms d`: what statements of an upgrade do to a database
* `transaction e statements version`: statements in a transaction, and the record of a version
* `Tables.Sound ts`: no table is in the way of the queue
* `Tables.Current ts`: the tables of the queue are up to date

## Main results

* `Access.Lawful.ensures_upgrade_idle`: an upgrade does what its statements do
* `Tables.statements_queueMigration`: what the statements of the queue's migration stand for
* `Tables.Sound.exists_upgraded`: sound tables can be brought up to date
-/

namespace SearchIndex.Schema

open Act (Ensures)

variable {σ δ α : Type}

/-! ## Connections without trouble -/

/-- What is never so. -/
def Never (_ : σ) : Prop := False

namespace Connection

/-- No statement runs into trouble, no transaction is open, and the database is this one. -/
def Idle (d : δ) (c : Connection δ) : Prop :=
  (∀ n, c.trouble n = none) ∧ c.draft = none ∧ c.content = d

/-- No statement runs into trouble, and the draft of the open transaction is this one. -/
def Busy (d : δ) (c : Connection δ) : Prop := (∀ n, c.trouble n = none) ∧ c.draft = some d

theorem ensures_ask_of_untroubled {P : Connection δ → Prop} {Q : α → Connection δ → Prop}
    {act : Connection δ → Except Failure (α × Connection δ)}
    (htrouble : ∀ c, P c → ∀ n, c.trouble n = none)
    (hact : ∀ c, P c → ∃ a c', act { c with count := c.count + 1 } = .ok (a, c') ∧ Q a c') :
    Ensures P (ask act) Q Never := by
  intro c hc
  obtain ⟨a, c', hact, hQ⟩ := hact c hc
  rw [ask, Act.attempt_ofStep]
  dsimp only
  rw [htrouble c hc c.count]
  dsimp only
  rw [hact]
  exact hQ

variable {d d' : δ} {edit : δ → Except Failure δ}

theorem ensures_change_idle (h : edit d = .ok d') :
    Ensures (Idle d) (change edit) (fun _ => Idle d') Never := by
  refine ensures_ask_of_untroubled (fun c hc => hc.1) ?_
  rintro c ⟨htrouble, hdraft, rfl⟩
  refine ⟨(), { c with count := c.count + 1, content := d' }, ?_, htrouble, hdraft, rfl⟩
  simp only [current, hdraft, Option.getD_none, h]
  rfl

theorem ensures_change_busy (h : edit d = .ok d') :
    Ensures (Busy d) (change edit) (fun _ => Busy d') Never := by
  refine ensures_ask_of_untroubled (fun c hc => hc.1) ?_
  rintro c ⟨htrouble, hdraft⟩
  refine ⟨(), { c with count := c.count + 1, draft := some d' }, ?_, htrouble, rfl⟩
  simp only [current, hdraft, Option.getD_some, h]
  rfl

theorem ensures_look_idle {read : δ → Except Failure α} {a : α} (h : read d = .ok a) :
    Ensures (Idle d) (look read) (fun a' c => a' = a ∧ Idle d c) Never := by
  refine ensures_ask_of_untroubled (fun c hc => hc.1) ?_
  rintro c ⟨htrouble, hdraft, rfl⟩
  refine ⟨a, { c with count := c.count + 1 }, ?_, rfl, htrouble, hdraft, rfl⟩
  simp only [current, hdraft, Option.getD_none, h]
  rfl

theorem ensures_begin_idle : Ensures (Idle d) begin (fun _ => Busy d) Never := by
  refine ensures_ask_of_untroubled (fun c hc => hc.1) ?_
  rintro c ⟨htrouble, -, rfl⟩
  exact ⟨(), _, rfl, htrouble, rfl⟩

theorem ensures_commit_busy : Ensures (Busy d) commit (fun _ => Idle d) Never := by
  refine ensures_ask_of_untroubled (fun c hc => hc.1) ?_
  rintro c ⟨htrouble, hdraft⟩
  refine ⟨(), _, rfl, htrouble, rfl, ?_⟩
  rw [current, hdraft]
  rfl

theorem ensures_forM_change_busy (e : Engine δ) {statements : List String}
    (h : e.run statements d = .ok d') :
    Ensures (Busy d) (statements.forM fun s => change (e.execute s)) (fun _ => Busy d') Never := by
  induction statements generalizing d with
  | nil =>
    cases h
    exact Ensures.pure fun c hc => hc
  | cons s statements ih =>
    obtain ⟨d₁, hd₁, hrun⟩ := Engine.run_cons_eq_ok_iff.1 h
    exact (ensures_change_busy hd₁).bind fun _ => ih hrun

theorem ensures_orRollback_of_never {P : Connection δ → Prop} {Q : α → Connection δ → Prop}
    {a : Act (Connection δ) α} (h : Ensures P a Q Never) : Ensures P (orRollback a) Q Never := by
  intro c hc
  have hout := h c hc
  rw [orRollback, Act.attempt_ofStep]
  rcases ha : a.attempt c with ⟨_ | x, c'⟩ <;> rw [ha] at hout
  · exact hout.elim
  · exact hout

end Connection

/-! ## Upgrades without trouble -/

namespace Engine

/-- What a migration does to a database. -/
def applied (e : Engine δ) (m : Migration) (d : δ) : Except Failure δ :=
  e.run m.statements d >>= e.record m.version

/-- What migrations do to a database, one after the other. -/
def appliedAll (e : Engine δ) (ms : List Migration) (d : δ) : Except Failure δ :=
  ms.foldlM (fun d m => e.applied m d) d

/-- **What an upgrade does to a database.** -/
def upgraded (e : Engine δ) (ms : List Migration) (d : δ) : Except Failure δ := do
  let d ← e.prepare d
  let version ← e.version d
  e.appliedAll (pending version ms) d

end Engine

/-- **Statements in a transaction**, each once and in order, and then the record of a version. -/
def transaction (e : Engine δ) (statements : List String) (version : Int) :
    Act (Connection δ) Unit := do
  Connection.begin
  Connection.orRollback do
    statements.forM fun statement => Connection.change (e.execute statement)
    Connection.change (e.record version)
    Connection.commit

theorem ensures_transaction_idle {e : Engine δ} {statements : List String} {version : Int}
    {d d' : δ} (h : e.run statements d >>= e.record version = .ok d') :
    Ensures (Connection.Idle d) (transaction e statements version) (fun _ => Connection.Idle d')
      Never := by
  obtain ⟨d₁, hrun, hrecord⟩ := bind_eq_ok_iff.1 h
  refine Connection.ensures_begin_idle.bind fun _ => Connection.ensures_orRollback_of_never ?_
  refine (Connection.ensures_forM_change_busy e hrun).bind fun _ => ?_
  exact (Connection.ensures_change_busy hrecord).bind fun _ => Connection.ensures_commit_busy

theorem apply_eq_transaction (e : Engine δ) (m : Migration) :
    apply e m = transaction e m.statements m.version := rfl

theorem ensures_apply_idle {e : Engine δ} {m : Migration} {d d' : δ} (h : e.applied m d = .ok d') :
    Ensures (Connection.Idle d) (apply e m) (fun _ => Connection.Idle d') Never :=
  ensures_transaction_idle h

namespace Access

/-- What a world sees over its connection, without trouble. -/
def Idle (q : Access σ δ) (d : δ) (s : σ) : Prop := Connection.Idle d (q.connection s)

variable {q : Access σ δ} (hq : q.Lawful)
  (htrouble : ∀ c s, (q.connection (q.withConnection c s)).trouble = (q.connection s).trouble)

include hq

theorem Lawful.ensures_note_idle {d : δ} (n : Log.Note) :
    Ensures (q.Idle d) (q.note n) (fun _ => q.Idle d) Never := by
  intro s hs
  obtain ⟨s', hs', hconnection⟩ := hq.note n s
  rw [hs']
  show Connection.Idle d (q.connection s')
  rw [hconnection]
  exact hs

include htrouble

theorem Lawful.ensures_use_idle {d d' : δ} {x : α} {a : Act (Connection δ) α}
    (h : Ensures (Connection.Idle d) a (fun y c => y = x ∧ Connection.Idle d' c) Never) :
    Ensures (q.Idle d) (q.use a) (fun y s => y = x ∧ q.Idle d' s) Never := by
  intro s hs
  have hout := h (q.connection s) hs
  rw [use, Act.within, Act.attempt_ofStep]
  rcases ha : a.attempt (q.connection s) with ⟨_ | y, c⟩ <;> rw [ha] at hout
  · exact hout.elim
  · obtain ⟨hy, -, hdraft, hcontent⟩ := hout
    refine ⟨hy, ?_, hq.draft c s hdraft, (hq.content c s).trans hcontent⟩
    rw [htrouble]
    exact hs.1

theorem Lawful.ensures_applyAll_idle {e : Engine δ} {ms : List Migration} {d d' : δ}
    (h : e.appliedAll ms d = .ok d') :
    Ensures (q.Idle d) (q.applyAll e ms) (fun _ => q.Idle d') Never := by
  induction ms generalizing d with
  | nil =>
    cases h
    exact Ensures.pure fun s hs => hs
  | cons m ms ih =>
    obtain ⟨d₁, hd₁, hrest⟩ := bind_eq_ok_iff.1 h
    have happly := hq.ensures_use_idle htrouble (x := ())
      ((ensures_apply_idle hd₁).mono_ok fun _ c hc => ⟨rfl, hc⟩)
    rw [applyAll]
    refine (happly.mono_ok fun _ s hs => hs.2).bind fun _ => ?_
    exact (hq.ensures_note_idle _).bind fun _ => ih hrest

/-- **Without trouble, an upgrade does what its statements do.** They are chosen by the version that
was read. -/
theorem Lawful.ensures_upgrade_idle {e : Engine δ} {library : String} {ms : List Migration}
    (hlibrary : checkLibrary library = .ok ()) (hms : checkVersions ms = .ok ()) {d d' : δ}
    (h : e.upgraded ms d = .ok d') :
    Ensures (q.Idle d) (q.upgrade e library ms) (fun _ => q.Idle d') Never := by
  obtain ⟨d₁, hprepare, h⟩ := bind_eq_ok_iff.1 h
  obtain ⟨version, hversion, h⟩ := bind_eq_ok_iff.1 h
  have hprepare := hq.ensures_use_idle htrouble (x := ())
    ((Connection.ensures_change_idle hprepare).mono_ok fun _ c hc => ⟨rfl, hc⟩)
  have hlook := hq.ensures_use_idle htrouble (Connection.ensures_look_idle hversion)
  rw [upgrade, Act.ofExcept_bind_of_eq_ok hlibrary, Act.ofExcept_bind_of_eq_ok hms]
  refine (hprepare.mono_ok fun _ s hs => hs.2).bind fun _ => hlook.bind fun v => ?_
  refine Ensures.of_and fun hv => ?_
  rw [hv]
  rcases hpending : pending version ms with _ | ⟨m, later⟩ <;> rw [hpending] at h
  · cases h
    exact hq.ensures_note_idle _
  · exact hq.ensures_applyAll_idle htrouble h

end Access

/-! ## The tables of the queue -/

namespace Tables

/-- The name of the table of the queue. -/
def queueTable : String := "search_queue"

/-- The columns of the table of the queue. -/
def queueColumns : List String := ["entry_id", "entry_type", "action", "status", "created_at"]

/-- **No table is in the way of the queue**: the one of the version has room for it, and the one of
the queue has a status unless it was upgraded before. -/
structure Sound (ts : Tables) : Prop where
  version : ∀ t, ts.find? versionTable = some t → t.columns.any (sameName "version") = true
  queue : ∀ t, (ts.version?).getD 0 < 1 → ts.find? queueTable = some t →
    t.columns.any (sameName "status") = true

/-- **The tables of the queue are up to date**: nothing is pending. -/
def Current (ts : Tables) : Prop :=
  ∃ version, engine.version ts = .ok version ∧ pending version queueMigrations = []

theorem sound_nil : Sound [] where
  version t h := by cases h
  queue t _ h := by cases h

/-! ### The statements of the queue -/

/-- The words in the characters of a text. -/
def wordsIn (cs : List Char) : List String :=
  let spread := cs.flatMap fun c => if c ∈ ['(', ')', ','] then [' ', c, ' '] else [c]
  ((Text.splitBy isGap spread).filter (!·.isEmpty)).map String.ofList

/-- The pieces of a text of statements, without the white space around them. -/
def piecesIn (cs : List Char) : List (List Char) :=
  ((Text.splitBy (· == ';') cs).map (Text.trim Text.isBlank)).filter (· ≠ [])

/-- The statement that words stand for, or the word that is in the way. -/
def ofWords (words : List String) (word : String) : Statement :=
  let at? (i : Nat) : String := (words[i]?).getD ""
  let key (i n : Nat) : List String := (List.range n).map fun k => (at? (i + k)).toUpper
  if key 0 5 = ["CREATE", "TABLE", "IF", "NOT", "EXISTS"] ∧ at? 6 = "(" then
    .about (at? 5) (.create (at? 5) (columnsFrom 0 true (words.drop 7)) true)
  else if key 0 2 = ["CREATE", "TABLE"] ∧ at? 3 = "(" then
    .about (at? 2) (.create (at? 2) (columnsFrom 0 true (words.drop 4)) false)
  else if key 0 5 = ["CREATE", "INDEX", "IF", "NOT", "EXISTS"] ∧ (at? 6).toUpper = "ON" then
    .order (at? 7) (at? 9)
  else if key 0 2 = ["DROP", "TABLE"] ∧ words.length = 3 then .about (at? 2) (.drop (at? 2))
  else if key 0 1 = ["SELECT"] ∧ words.length = 2 then .probe
  else .nonsense word

theorem ofText_ofList (cs : List Char) :
    Statement.ofText (String.ofList cs) = ofWords (wordsIn cs) (firstWord (String.ofList cs)) := by
  have hwords : wordsOf (String.ofList cs) = wordsIn cs := by
    rw [wordsOf, wordsIn, String.toList_ofList]
  rw [Statement.ofText, hwords]
  rfl

theorem statements_of_sql_eq {m : Migration} {cs : List Char} (h : m.sql = String.ofList cs) :
    m.statements = (piecesIn cs).map String.ofList := by
  rw [Migration.statements, h, Text.splitOn, String.toList_ofList, List.map_map]
  have hstrip : Text.strip ∘ String.ofList = String.ofList ∘ Text.trim Text.isBlank := by
    funext piece
    rw [Function.comp_apply, Text.strip, String.toList_ofList]
    rfl
  rw [hstrip, ← List.map_map, List.filter_map, piecesIn]
  congr 1
  refine List.filter_congr fun piece _ => ?_
  rw [Function.comp_apply, decide_eq_decide, ne_eq, ne_eq, String.ofList_eq_empty_iff]

/-- **The statements of the queue's migration** add its table and keep it ordered by status. -/
theorem queueMigrations_eq :
    ∃ m, queueMigrations = [m] ∧ m.version = 1 ∧
      (∀ s ∈ m.statements, s.toList.contains (Char.ofNat 0) = false) ∧
      m.statements.map Statement.ofText =
        [.create queueTable queueColumns true, .order queueTable "status"] := by
  set_option maxRecDepth 10000 in
  obtain ⟨m, cs, hqueue, hsql, hversion, hnull, hwords⟩ : ∃ m cs, queueMigrations = [m] ∧
      m.sql = String.ofList cs ∧ m.version = 1 ∧
      (∀ piece ∈ piecesIn cs, piece.contains (Char.ofNat 0) = false) ∧
      ((piecesIn cs).map fun piece => ofWords (wordsIn piece) (firstWord (String.ofList piece))) =
        [.create queueTable queueColumns true, .order queueTable "status"] :=
    ⟨_, _, rfl, rfl, rfl, by decide +kernel, by decide +kernel⟩
  refine ⟨m, hqueue, hversion, ?_, ?_⟩
  · rw [statements_of_sql_eq hsql]
    simpa using hnull
  · rw [statements_of_sql_eq hsql, ← hwords, List.map_map]
    refine List.map_congr_left fun piece _ => ofText_ofList piece

/-! ### Bringing tables up to date -/

theorem forVersion_of_find? {ts : Tables} {t : Table} (h : ts.find? versionTable = some t)
    (hcolumns : t.columns.any (sameName "version") = true) : ts.forVersion = .ok t := by
  simp only [forVersion, h, hcolumns, ↓reduceIte]

theorem version_of_find? {ts : Tables} {t : Table} (h : ts.find? versionTable = some t)
    (hcolumns : t.columns.any (sameName "version") = true) :
    engine.version ts = .ok (t.version.getD 0) := by
  show (do return (← ts.forVersion).version.getD 0 : Except Failure Int) = _
  rw [forVersion_of_find? h hcolumns]
  rfl

/-- The table of the queue is added, or it is there with a status. -/
theorem exists_perform_create {ts : Tables}
    (h : ∀ t, ts.find? queueTable = some t → t.columns.any (sameName "status") = true) :
    ∃ ts', ts.perform (.create queueTable queueColumns true) = .ok ts' ∧
      ts'.perform (.order queueTable "status") = .ok ts' := by
  have hreserved : isReserved queueTable = false := by decide +kernel
  rcases hfind : ts.find? queueTable with _ | t
  · have hnew : find? (ts ++ [{ name := queueTable, columns := queueColumns }]) queueTable =
        some { name := queueTable, columns := queueColumns } := by
      rw [find?_append_singleton, hfind, sameName_iff.2 rfl]
      rfl
    have hstatus : queueColumns.any (sameName "status") = true := by decide +kernel
    refine ⟨ts ++ [{ name := queueTable, columns := queueColumns }], ?_, ?_⟩
    · simp only [perform, hreserved, hfind, Bool.false_eq_true, ↓reduceIte]
    · simp only [perform, hnew, hstatus, ↓reduceIte]
  · refine ⟨ts, ?_, ?_⟩
    · simp only [perform, hreserved, hfind, Bool.false_eq_true, ↓reduceIte]
    · simp only [perform, hfind, h t hfind, ↓reduceIte]

/-- Sound tables with a record of the version. -/
theorem Sound.exists_prepare {ts : Tables} (h : ts.Sound) :
    ∃ ts' t, ts.prepare = .ok ts' ∧ ts'.Sound ∧ ts'.find? versionTable = some t := by
  rcases hfind : ts.find? versionTable with _ | t
  · have hfresh := find?_append_freshVersionTable hfind
    have hother : find? (ts ++ [freshVersionTable]) queueTable = ts.find? queueTable := by
      rw [find?_append_singleton, show sameName freshVersionTable.name queueTable = false by
        decide +kernel]
      exact Option.or_none
    refine ⟨_, _, prepare_of_find?_eq_none hfind, ⟨?_, ?_⟩, hfresh⟩
    · rintro t ht
      cases hfresh.symm.trans ht
      decide +kernel
    · intro t _ ht
      refine h.queue t ?_ (hother ▸ ht)
      rw [version?, hfind]
      decide
  · exact ⟨ts, t, prepare_of_find? hfind, h, hfind⟩

/-- Statements without a null character do what they stand for. -/
theorem run_eq_perform {statements : List String}
    (h : ∀ s ∈ statements, s.toList.contains (Char.ofNat 0) = false) (ts : Tables) :
    engine.run statements ts = (statements.map Statement.ofText).foldlM perform ts := by
  induction statements generalizing ts with
  | nil => rfl
  | cons s statements ih =>
    obtain ⟨hs, hrest⟩ := List.forall_mem_cons.1 h
    have hexecute : execute s ts = ts.perform (.ofText s) := by
      rw [execute, hs]
      rfl
    rw [List.map_cons, List.foldlM_cons, ← hexecute, Engine.run, List.foldlM_cons]
    exact bind_congr fun ts' => ih hrest ts'

/-- **Sound tables can be brought up to date.** At the version of the queue or beyond it there is
nothing to do, and before it the migration of the queue is all that there is to do. -/
theorem Sound.exists_upgraded {ts : Tables} (h : ts.Sound) :
    ∃ ts', engine.upgraded queueMigrations ts = .ok ts' ∧ Current ts' := by
  obtain ⟨ts₁, t, hprepare, h₁, ht⟩ := h.exists_prepare
  have hversion := version_of_find? ht (h₁.version t ht)
  obtain ⟨m, hqueue, hm, hnull, hstatements⟩ := queueMigrations_eq
  have hupgraded : engine.upgraded queueMigrations ts =
      engine.appliedAll (pending (t.version.getD 0) queueMigrations) ts₁ := by
    show (ts.prepare >>= fun ts => engine.version ts >>= fun v =>
      engine.appliedAll (pending v queueMigrations) ts) = _
    rw [hprepare]
    show (engine.version ts₁ >>= fun v => engine.appliedAll (pending v queueMigrations) ts₁) = _
    rw [hversion]
    rfl
  rw [hupgraded]
  by_cases hv : t.version.getD 0 < 1
  · have hpending : pending (t.version.getD 0) queueMigrations = [m] := by
      rw [hqueue, pending, List.filter_cons, hm, decide_eq_true hv]
      rfl
    obtain ⟨ts₂, hcreate, horder⟩ := exists_perform_create fun t' ht' => by
      refine h₁.queue t' ?_ ht'
      rwa [version?, ht]
    have hrun : engine.run m.statements ts₁ = .ok ts₂ := by
      rw [run_eq_perform hnull, hstatements]
      show (ts₁.perform _ >>= fun ts => ts.perform _ >>= pure) = _
      rw [hcreate]
      show ts₂.perform _ >>= pure = _
      rw [horder]
      rfl
    have ht₂ : ts₂.find? versionTable = some t := by
      rw [find?_perform (by decide +kernel) hcreate, ht]
    have hrecord : engine.record m.version ts₂ = .ok (ts₂.map (recording 1)) := by
      show (discard ts₂.forVersion >>= fun _ => Except.ok _) = _
      rw [forVersion_of_find? ht₂ (h₁.version t ht), hm]
      rfl
    have hversion' := version_of_find? (find?_map_recording ht₂ 1) (h₁.version t ht)
    refine ⟨ts₂.map (recording 1), ?_, 1, hversion', ?_⟩
    · rw [hpending]
      show (engine.run m.statements ts₁ >>= engine.record m.version) >>= pure = _
      rw [hrun]
      show engine.record m.version ts₂ >>= pure = _
      rw [hrecord]
      rfl
    · rw [hqueue, pending, List.filter_cons, hm]
      rfl
  · have hpending : pending (t.version.getD 0) queueMigrations = [] := by
      rw [hqueue, pending, List.filter_cons, hm, decide_eq_false hv]
      rfl
    exact ⟨ts₁, by rw [hpending]; rfl, _, hversion, hpending⟩

end Tables

end SearchIndex.Schema
