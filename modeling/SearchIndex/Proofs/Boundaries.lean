import Mathlib.Data.List.TakeWhile
import SearchIndex.Proofs.Progress

/-!
# Where statements end

A semicolon ends a statement unless it stands in a quoted text, a quoted name or a comment, or in
the body of a trigger, which goes on to the word for its end and one more semicolon. A scanner reads
a text character by character and tells them apart. A migration does not: it takes every semicolon
for an end.

## Main definitions

* `Scanner`: how far a statement has come, and what the last characters are part of
* `Scanner.step`, `Scanner.ends`: reading a character, and whether it ends the statement
* `Scanner.cut`: the pieces between the semicolons that end statements
* `IsWhole s`: a text is a statement with nothing after it
* `Executes m statements`: a migration executes statements, and then records its version

## Main results

* `Scanner.ends_semicolon_eq_false_iff`: the semicolons that do not end a statement
* `scanned_intercalate`: whole statements that semicolons divide are what a scanner finds
* `executes_iff`: the statements a migration executes are the pieces between all semicolons
* `executes_intercalate_iff`: a migration executes whole statements exactly if no semicolon stands
  inside one
-/

namespace SearchIndex.Schema

open Act (Ensures)

/-! ## The scanner -/

/-- How far a statement has come, as its words tell. -/
inductive Phase where
  | start
  | plain
  | explain
  | create
  | trigger
  /-- After a semicolon in the body of a trigger. -/
  | pause
  /-- After the word that ends the body of a trigger. -/
  | finish
deriving DecidableEq

/-- What the words and marks of a statement tell about its end. -/
inductive Token where
  | semicolon
  | explain
  | create
  | temporary
  | trigger
  | finish
  | other
deriving DecidableEq

namespace Phase

/-- How far a statement has come after a word or mark. -/
def next : Phase → Token → Phase
  | .trigger, .semicolon | .pause, .semicolon => .pause
  | _, .semicolon => .start
  | .start, .explain => .explain
  | .start, .create | .explain, .create => .create
  | .explain, .other => .explain
  | .create, .temporary => .create
  | .create, .trigger => .trigger
  | .pause, .finish => .finish
  | .trigger, _ | .pause, _ | .finish, _ => .trigger
  | _, _ => .plain

/-- A semicolon is the end of the statement. -/
def isOver (p : Phase) : Bool := p.next .semicolon = .start

end Phase

/-- What a word tells about the end of a statement. -/
def Token.ofWord (word : List Char) : Token :=
  match (String.ofList word).toLower with
  | "explain" => .explain
  | "create" => .create
  | "temp" | "temporary" => .temporary
  | "trigger" => .trigger
  | "end" => .finish
  | _ => .other

/-- What the last characters of a text are part of. -/
inductive Place where
  /-- A word, if there are any characters in it yet. -/
  | word (cs : List Char)
  | dash
  | slash
  | lineComment
  /-- A comment with a star as its last character or not. -/
  | comment (star : Bool)
  | quoted (close : Char)

/-- What the last characters are part of after one more that belongs to it, if it does. -/
def Place.extend? (c : Char) : Place → Option Place
  | .word cs => if isWordChar c then some (.word (cs ++ [c])) else none
  | .dash => if c = '-' then some .lineComment else none
  | .slash => if c = '*' then some (.comment false) else none
  | .lineComment => some (if c = '\n' then .word [] else .lineComment)
  | .comment star => some (if star && c = '/' then .word [] else .comment (c = '*'))
  | .quoted close => some (if c = close then .word [] else .quoted close)

/-- The last characters are quoted or in a comment. -/
def Place.isHidden : Place → Bool
  | .lineComment | .comment _ | .quoted _ => true
  | .word _ | .dash | .slash => false

/-- How far a statement has come, and what the last characters are part of. -/
structure Scanner where
  phase : Phase := .start
  place : Place := .word []

namespace Scanner

/-- The character that ends what a character starts to quote. -/
def closing? (c : Char) : Option Char :=
  if c = '[' then some ']' else if c ∈ "'\"`".toList then some c else none

/-- The scanner after a character that is the first of something. -/
def first (p : Phase) (c : Char) : Scanner :=
  if c = ';' then ⟨p.next .semicolon, .word []⟩
  else if isGap c then ⟨p, .word []⟩
  else if isWordChar c then ⟨p, .word [c]⟩
  else if c = '-' then ⟨p, .dash⟩
  else if c = '/' then ⟨p, .slash⟩
  else
    match closing? c with
    | some close => ⟨p.next .other, .quoted close⟩
    | none => ⟨p.next .other, .word []⟩

/-- How far the statement has come when the next thing starts. -/
def reached (s : Scanner) : Phase :=
  match s.place with
  | .word [] => s.phase
  | .word cs => s.phase.next (.ofWord cs)
  | _ => s.phase.next .other

/-- **Read a character.** -/
def step (s : Scanner) (c : Char) : Scanner :=
  match s.place.extend? c with
  | some place => { s with place := place }
  | none => first s.reached c

/-- **The character ends the statement**: it is a semicolon, not quoted and not in a comment. -/
def ends (s : Scanner) (c : Char) : Bool :=
  c = ';' && (s.place.extend? c).isNone && s.reached.isOver

/-- **A semicolon that does not end a statement** is quoted, in a comment, or in the body of a
trigger. -/
theorem ends_semicolon_eq_false_iff {s : Scanner} :
    s.ends ';' = false ↔ s.place.isHidden = true ∨ s.reached = .trigger ∨ s.reached = .pause := by
  have hplace : (s.place.extend? ';').isNone = !s.place.isHidden := by
    cases s.place <;> rfl
  have hphase : s.reached.isOver = false ↔ s.reached = .trigger ∨ s.reached = .pause := by
    cases s.reached <;> decide
  rw [ends, hplace, decide_eq_true rfl, Bool.true_and, Bool.and_eq_false_iff, hphase,
    Bool.not_eq_false']

/-- A new statement comes after the end of one. -/
theorem step_of_ends {s : Scanner} {c : Char} (h : s.ends c = true) : s.step c = {} := by
  simp only [ends, Bool.and_eq_true, decide_eq_true_eq, Option.isNone_iff_eq_none] at h
  obtain ⟨⟨rfl, hplace⟩, hover⟩ := h
  rw [step, hplace]
  show first s.reached ';' = {}
  rw [first, if_pos rfl, of_decide_eq_true hover]

/-- **The pieces of a text** between the semicolons that end statements. -/
def cut : Scanner → List Char → List (List Char)
  | _, [] => [[]]
  | s, c :: cs =>
    if s.ends c then [] :: cut (s.step c) cs
    else
      match cut (s.step c) cs with
      | [] => [[c]]
      | piece :: pieces => (c :: piece) :: pieces

/-- A text goes on to the end of the statement, and a semicolon after it ends it. -/
def closes : Scanner → List Char → Bool
  | s, [] => s.ends ';'
  | s, c :: cs => !s.ends c && closes (s.step c) cs

theorem cut_of_closes {s : Scanner} {cs : List Char} (h : s.closes cs = true) :
    s.cut cs = [cs] := by
  induction cs generalizing s with
  | nil => rfl
  | cons c cs ih =>
    obtain ⟨hc, hcs⟩ := Bool.and_eq_true_iff.1 h
    rw [cut, ih hcs, if_neg (by simpa using hc)]

/-- The piece before a semicolon that ends a statement, and the pieces after it. -/
theorem cut_append_of_closes {s : Scanner} {cs : List Char} (h : s.closes cs = true)
    (rest : List Char) : s.cut (cs ++ ';' :: rest) = cs :: cut {} rest := by
  induction cs generalizing s with
  | nil =>
    have hends : s.ends ';' = true := h
    rw [List.nil_append, cut, if_pos hends, step_of_ends hends]
  | cons c cs ih =>
    obtain ⟨hc, hcs⟩ := Bool.and_eq_true_iff.1 h
    rw [List.cons_append, cut, ih hcs, if_neg (by simpa using hc)]

end Scanner

/-! ## Whole statements -/

/-- **A text is a statement with nothing after it**: it has no end inside, and a semicolon after it
ends it. -/
def IsWhole (s : String) : Prop := Scanner.closes {} s.toList = true

instance (s : String) : Decidable (IsWhole s) := inferInstanceAs (Decidable (_ = true))

/-- The pieces of a text that a scanner finds. -/
def scannedPieces (sql : String) : List String := (Scanner.cut {} sql.toList).map String.ofList

/-- **The statements that a scanner finds in a text**, without the white space around them. -/
def scanned (sql : String) : List String := ((scannedPieces sql).map Text.strip).filter (· ≠ "")

theorem scannedPieces_intercalate {ss : List String} (hne : ss ≠ []) (h : ∀ s ∈ ss, IsWhole s) :
    scannedPieces ((String.singleton ';').intercalate ss) = ss := by
  rw [scannedPieces]
  induction ss with
  | nil => contradiction
  | cons s ss ih =>
    obtain ⟨hs, hrest⟩ := List.forall_mem_cons.1 h
    cases ss with
    | nil =>
      rw [String.intercalate_singleton, Scanner.cut_of_closes hs]
      simp only [List.map_cons, List.map_nil, String.ofList_toList]
    | cons next ss =>
      have htext : ((String.singleton ';').intercalate (s :: next :: ss)).toList =
          s.toList ++ ';' :: ((String.singleton ';').intercalate (next :: ss)).toList := by
        rw [String.intercalate_cons_cons]
        simp only [String.toList_append, String.toList_singleton, List.append_assoc,
          List.singleton_append]
      rw [htext, Scanner.cut_append_of_closes hs, List.map_cons, String.ofList_toList,
        ih (List.cons_ne_nil _ _) hrest]

section Intercalate

variable {ss : List String} (hblank : ∀ s ∈ ss, Text.strip s ≠ "")

include hblank

theorem filter_map_strip : (ss.map Text.strip).filter (· ≠ "") = ss.map Text.strip := by
  refine List.filter_eq_self.2 ?_
  simpa using hblank

/-- **Whole statements that semicolons divide** are what a scanner finds. -/
theorem scanned_intercalate (h : ∀ s ∈ ss, IsWhole s) :
    scanned ((String.singleton ';').intercalate ss) = ss.map Text.strip := by
  rw [scanned]
  by_cases hne : ss = []
  · subst hne
    decide
  · rw [scannedPieces_intercalate hne h, filter_map_strip hblank]

end Intercalate

/-! ## What migrations execute -/

/-- **A migration executes statements**: each once and in order, and then it records its version. -/
def Executes (m : Migration) (statements : List String) : Prop :=
  ∀ (δ : Type) (e : Engine δ), apply e m = transaction e statements m.version

/-- A database that is a record of the statements it was given. -/
def tape : Engine (List String) where
  execute statement d := .ok (d ++ [statement])
  prepare d := .ok d
  version _ := .ok 0
  record _ d := .ok d

theorem run_tape (statements d : List String) : tape.run statements d = .ok (d ++ statements) := by
  induction statements generalizing d with
  | nil => simp [Engine.run]; rfl
  | cons s statements ih =>
    refine Engine.run_cons_eq_ok_iff.2 ⟨d ++ [s], rfl, ?_⟩
    rw [ih, List.append_assoc, List.singleton_append]

/-- What is recorded of a transaction. -/
theorem content_transaction_tape (statements : List String) (version : Int) :
    ((transaction tape statements version).attempt { content := [] }).2.content = statements := by
  have hrun : tape.run statements [] >>= tape.record version = .ok statements := by
    rw [run_tape]
    rfl
  have hout := ensures_transaction_idle hrun { content := [] } ⟨fun _ => rfl, rfl, rfl⟩
  rcases h : (transaction tape statements version).attempt { content := [] } with ⟨_ | _, c⟩ <;>
    rw [h] at hout
  · exact hout.elim
  · exact hout.2.2

/-- **A migration executes the pieces between all semicolons** that are not blank. -/
theorem executes_iff {m : Migration} {statements : List String} :
    Executes m statements ↔ m.statements = statements := by
  constructor
  · intro h
    rw [← content_transaction_tape m.statements m.version, ← apply_eq_transaction, h,
      content_transaction_tape]
  · rintro rfl δ e
    exact apply_eq_transaction e m

theorem mem_strip_iff {s : String} {c : Char} (h : Text.isBlank c = false) :
    c ∈ (Text.strip s).toList ↔ c ∈ s.toList := by
  have hdrop (cs : List Char) : c ∈ cs.dropWhile Text.isBlank ↔ c ∈ cs := by
    constructor
    · exact fun hc => (List.dropWhile_sublist _).mem hc
    · intro hc
      rw [← List.takeWhile_append_dropWhile (p := Text.isBlank) (l := cs)] at hc
      refine (List.mem_append.1 hc).resolve_left fun hc => ?_
      rw [List.mem_takeWhile_imp hc] at h
      cases h
  rw [Text.strip, String.toList_ofList, Text.trim, Text.trimEnd, Text.trimStart, List.mem_reverse,
    hdrop, List.mem_reverse, hdrop]

/-- No statement of a migration has a semicolon inside. -/
theorem Migration.not_mem_of_mem_statements {m : Migration} {s : String} (h : s ∈ m.statements) :
    ';' ∉ s.toList := by
  obtain ⟨piece, hpiece, rfl⟩ := List.mem_map.1 (List.mem_filter.1 h).1
  obtain ⟨cs, hcs, rfl⟩ := List.mem_map.1 hpiece
  rw [mem_strip_iff (by decide), String.toList_ofList]
  exact fun hmem => absurd (Text.not_mem_of_mem_splitBy hcs _ hmem) (by simp)

/-- **A migration executes whole statements exactly if no semicolon stands inside one**, whether it
is quoted, in a comment or in the body of a trigger; a scanner finds them in any case. The white
space that is taken off a statement has no semicolon. -/
theorem executes_intercalate_iff {ss : List String} (h : ∀ s ∈ ss, IsWhole s)
    (hblank : ∀ s ∈ ss, Text.strip s ≠ "") (version : Int) (description : String) :
    scanned ((String.singleton ';').intercalate ss) = ss.map Text.strip ∧
      (Executes ⟨version, description, (String.singleton ';').intercalate ss⟩
        (ss.map Text.strip) ↔ ∀ s ∈ ss, ';' ∉ s.toList) := by
  refine ⟨scanned_intercalate hblank h, ?_⟩
  rw [executes_iff]
  constructor
  · intro hstatements s hs
    have hmem : Text.strip s ∈ ss.map Text.strip := List.mem_map_of_mem hs
    rw [← hstatements] at hmem
    rw [← mem_strip_iff (by decide)]
    exact Migration.not_mem_of_mem_statements hmem
  · intro hunbroken
    let script : Script := ⟨description, ss, hunbroken⟩
    exact (script.statements_migration version).trans (filter_map_strip hblank)

/-- A table, and a trigger whose body has statements of its own. -/
def tableAndTrigger : List String :=
  ["CREATE TABLE a (id INTEGER)",
    "CREATE TRIGGER t AFTER INSERT ON a BEGIN DELETE FROM a; SELECT 1; END"]

/-- **A trigger is not executed as a whole.** -/
theorem not_executes_trigger :
    scanned ((String.singleton ';').intercalate tableAndTrigger) = tableAndTrigger ∧
      ¬ Executes ⟨1, "", (String.singleton ';').intercalate tableAndTrigger⟩ tableAndTrigger := by
  have hstrip : tableAndTrigger.map Text.strip = tableAndTrigger := by decide +kernel
  have hwhole : ∀ s ∈ tableAndTrigger, IsWhole s := by decide +kernel
  have hblank : ∀ s ∈ tableAndTrigger, Text.strip s ≠ "" := by decide +kernel
  obtain ⟨hscanned, hiff⟩ := executes_intercalate_iff hwhole hblank 1 ""
  rw [hstrip] at hscanned hiff
  refine ⟨hscanned, fun h => ?_⟩
  exact absurd (hiff.1 h) (by decide +kernel)

/-- A table, and a comment that has another one. -/
def tableWithComment : String :=
  "CREATE TABLE a (id INTEGER) -- not yet; CREATE TABLE b (id INTEGER)\n"

/-- **What stands in a comment is executed**: one statement for one table makes two tables. -/
theorem not_executes_comment :
    IsWhole tableWithComment ∧ ¬ Executes ⟨1, "tables", tableWithComment⟩
      [Text.strip tableWithComment] := by
  refine ⟨by decide +kernel, fun h => ?_⟩
  have hstatements := executes_iff.1 h
  exact absurd hstatements (by decide +kernel)

end SearchIndex.Schema
