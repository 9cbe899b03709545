import Mathlib.Data.List.Infix
import SearchIndex.Proofs.Reader

/-!
# What a leaf encloses

A leaf is written between parentheses, and what it was given stands inside: scanned character by
character, a written leaf closes its first parenthesis with its last character. Quotes keep every
field, value and bound that they are put around. The field of a range has no quotes around it, so
the parentheses of its name count, and a range is enclosed exactly if they are nested.

## Main definitions

* `Escaping`: where a backslash escapes
* `Scan`, `Scan.run`: how far a scan of a text is
* `Enclosed escaping cs`: a text closes what it opens with its last character, and not before
* `Neutral escaping cs`: a text changes nothing in a scan that is inside parentheses
* `Nested cs`: the parentheses of a text are nested
* `Expression.IsLeaf`: the leaves that are not raw, with the attributes they can be given

## Main results

* `neutral_quoted`, `neutral_numeral`: what is escaped and quoted is neutral, and so are numbers
* `enclosed_text_iff`: when a text between parentheses is enclosed
* `Expression.enclosed_render_iff`: when a leaf is enclosed
* `Expression.sibling_of_field`: the field of a range can add a node beside it
-/

namespace SearchIndex.Query

/-- Where a backslash escapes the character after it. -/
inductive Escaping where
  | everywhere
  | inLiterals
deriving DecidableEq, Repr

/-- How far a scan of a text is: how many parentheses are open outside of literals, whether it is
inside a literal, and whether the next character is escaped. -/
structure Scan where
  depth : Int := 0
  literal : Bool := false
  escaped : Bool := false
deriving DecidableEq, Repr

namespace Scan

/-- The scan after one more character. -/
def next (escaping : Escaping) (s : Scan) (c : Char) : Scan :=
  if s.escaped then { s with escaped := false }
  else if c = '\\' ∧ (s.literal ∨ escaping = .everywhere) then { s with escaped := true }
  else if c = '\'' then { s with literal := !s.literal }
  else if s.literal then s
  else if c = '(' then { s with depth := s.depth + 1 }
  else if c = ')' then { s with depth := s.depth - 1 }
  else s

/-- The scan after a text. -/
def run (escaping : Escaping) (s : Scan) (cs : List Char) : Scan := cs.foldl (next escaping) s

/-- Some parenthesis is open after every character of a text. -/
def StaysOpen (escaping : Escaping) : Scan → List Char → Prop
  | _, [] => True
  | s, c :: cs => 0 < (s.next escaping c).depth ∧ StaysOpen escaping (s.next escaping c) cs

variable {escaping : Escaping} {s : Scan} {cs ds : List Char}

@[simp] theorem run_nil : s.run escaping [] = s := rfl

@[simp] theorem run_cons (c : Char) :
    s.run escaping (c :: cs) = (s.next escaping c).run escaping cs := rfl

@[simp] theorem run_append :
    s.run escaping (cs ++ ds) = (s.run escaping cs).run escaping ds := List.foldl_append

theorem staysOpen_append :
    s.StaysOpen escaping (cs ++ ds) ↔
      s.StaysOpen escaping cs ∧ (s.run escaping cs).StaysOpen escaping ds := by
  induction cs generalizing s with
  | nil => simp [StaysOpen]
  | cons c cs ih => simp [StaysOpen, ih, and_assoc]

/-- Some parenthesis is open after every beginning of the text. -/
theorem staysOpen_iff :
    s.StaysOpen escaping cs ↔
      ∀ front, front <+: cs → front ≠ [] → 0 < (s.run escaping front).depth := by
  induction cs generalizing s with
  | nil => simp [StaysOpen, List.prefix_nil]
  | cons c cs ih =>
    rw [StaysOpen, ih]
    constructor
    · rintro ⟨hc, hcs⟩ front hp hne
      obtain ⟨front, rfl, hfront⟩ := (List.prefix_cons_iff.1 hp).resolve_left hne
      rcases front with _ | ⟨d, front⟩
      · exact hc
      · exact hcs _ hfront (List.cons_ne_nil _ _)
    · intro h
      refine ⟨h [c] ⟨cs, rfl⟩ (List.cons_ne_nil _ _), fun front hp _ => ?_⟩
      exact h (c :: front) (List.cons_prefix_cons.2 ⟨rfl, hp⟩) (List.cons_ne_nil _ _)

end Scan

/-- **A text closes what it opens with its last character, and not before**: a parenthesis is open
after every character before the last one, none is open after it, and no literal is. -/
structure Enclosed (escaping : Escaping) (cs : List Char) : Prop where
  inside : ∀ front, front <+: cs → front ≠ [] → front ≠ cs →
    0 < (Scan.run escaping {} front).depth
  closed : (Scan.run escaping {} cs).depth = 0
  ended : (Scan.run escaping {} cs).literal = false

instance (escaping : Escaping) (cs : List Char) : Decidable (Enclosed escaping cs) :=
  decidable_of_iff
    ((∀ front ∈ cs.inits, front ≠ [] → front ≠ cs → 0 < (Scan.run escaping {} front).depth) ∧
      (Scan.run escaping {} cs).depth = 0 ∧ (Scan.run escaping {} cs).literal = false)
    ⟨fun h => ⟨fun front hp => h.1 front ((List.mem_inits _ _).2 hp), h.2.1, h.2.2⟩,
      fun h => ⟨fun front hp => h.inside front ((List.mem_inits _ _).1 hp), h.closed, h.ended⟩⟩

/-- A scan outside of literals with some parentheses open. -/
def within (depth : Int) : Scan := { depth := depth }

/-- **When a text between parentheses is enclosed.** -/
theorem enclosed_text_iff {escaping : Escaping} {body : List Char} :
    Enclosed escaping ('(' :: (body ++ [')'])) ↔
      (within 1).StaysOpen escaping body ∧
        ((within 1).run escaping (body ++ [')'])).depth = 0 ∧
        ((within 1).run escaping (body ++ [')'])).literal = false := by
  have hrun (cs : List Char) :
      Scan.run escaping {} ('(' :: cs) = (within 1).run escaping cs := rfl
  rw [Scan.staysOpen_iff]
  constructor
  · rintro ⟨hin, hclosed, hended⟩
    refine ⟨fun front hp _ => ?_, hclosed, hended⟩
    refine hin ('(' :: front) ?_ (List.cons_ne_nil _ _) fun he => ?_
    · exact List.cons_prefix_cons.2 ⟨rfl, hp.trans (List.prefix_append _ _)⟩
    · have hlen := hp.length_le
      have := congrArg List.length (List.cons.inj he).2
      simp only [List.length_append, List.length_singleton] at this
      omega
  · rintro ⟨hin, hclosed, hended⟩
    refine ⟨fun front hp hne hcs => ?_, hclosed, hended⟩
    obtain ⟨front, rfl, hfront⟩ := (List.prefix_cons_iff.1 hp).resolve_left hne
    rcases front with _ | ⟨c, front⟩
    · exact Int.zero_lt_one
    · rw [hrun]
      refine hin _ ?_ (List.cons_ne_nil _ _)
      exact (List.prefix_concat_iff.1 hfront).resolve_left fun he => hcs (by rw [he])

/-! ## Neutral texts -/

/-- **A text changes nothing in a scan inside parentheses**, nor closes any of them. -/
def Neutral (escaping : Escaping) (cs : List Char) : Prop :=
  ∀ depth, 0 < depth → (within depth).StaysOpen escaping cs ∧
    (within depth).run escaping cs = within depth

section Neutral

variable {escaping : Escaping} {cs ds : List Char}

theorem neutral_nil : Neutral escaping [] := fun _ _ => ⟨trivial, rfl⟩

theorem Neutral.append (hc : Neutral escaping cs) (hd : Neutral escaping ds) :
    Neutral escaping (cs ++ ds) := by
  intro depth h
  obtain ⟨hopen, hrun⟩ := hc depth h
  rw [Scan.staysOpen_append, Scan.run_append, hrun]
  exact ⟨⟨hopen, (hd depth h).1⟩, (hd depth h).2⟩

/-- The characters that a scan looks at. -/
def turns : List Char := ['\\', '\'', '(', ')']

/-- A scan looks at nothing in a text. -/
def Inert (cs : List Char) : Prop := ∀ c ∈ cs, c ∉ turns

instance : DecidablePred Inert := fun cs => List.decidableBAll _ cs

theorem next_of_not_mem_turns {s : Scan} {c : Char} (hs : s.escaped = false) (h : c ∉ turns) :
    s.next escaping c = s := by
  simp only [turns, List.mem_cons, List.not_mem_nil, or_false, not_or] at h
  simp [Scan.next, hs, h]

/-- **A text that a scan looks at nothing in is neutral.** -/
theorem Inert.neutral (h : Inert cs) : Neutral escaping cs := by
  intro depth hd
  induction cs with
  | nil => exact ⟨trivial, rfl⟩
  | cons c cs ih =>
    obtain ⟨hc, hcs⟩ := List.forall_mem_cons.1 h
    rw [Scan.StaysOpen, Scan.run_cons, next_of_not_mem_turns rfl hc]
    exact ⟨⟨hd, (ih hcs).1⟩, (ih hcs).2⟩

/-- **Numbers are neutral.** -/
theorem neutral_numeral (h : Numeral cs) : Neutral escaping cs := by
  refine Inert.neutral fun c hc ht => ?_
  have hturns : ∀ m ∈ turns, isNumeral m = false := by simp [turns, isNumeral]
  exact h.not_mem (hturns c ht) hc

/-- Inside a literal what is escaped changes nothing. -/
theorem run_escapeChars (escaping : Escaping) {depth : Int} (h : 0 < depth) (cs : List Char) :
    Scan.StaysOpen escaping ⟨depth, true, false⟩ (escapeChars cs) ∧
      Scan.run escaping ⟨depth, true, false⟩ (escapeChars cs) = ⟨depth, true, false⟩ := by
  induction cs with
  | nil => exact ⟨trivial, rfl⟩
  | cons c cs ih =>
    rw [escapeChars_cons, Scan.staysOpen_append, Scan.run_append]
    have hchar : Scan.StaysOpen escaping ⟨depth, true, false⟩ (escapeChar c) ∧
        Scan.run escaping ⟨depth, true, false⟩ (escapeChar c) = ⟨depth, true, false⟩ := by
      by_cases hc : c = '\\' ∨ c = '\''
      · rw [escapeChar, if_pos hc]
        simp [Scan.StaysOpen, Scan.next, h]
      · rw [escapeChar, if_neg hc]
        rw [not_or] at hc
        simp [Scan.StaysOpen, Scan.next, hc.1, hc.2, h]
    rw [hchar.2]
    exact ⟨⟨hchar.1, ih.1⟩, ih.2⟩

/-- **What is escaped and quoted is neutral.** -/
theorem neutral_quoted (escaping : Escaping) (cs : List Char) :
    Neutral escaping ('\'' :: (escapeChars cs ++ ['\''])) := by
  intro depth h
  have hopen : (within depth).next escaping '\'' = ⟨depth, true, false⟩ := by
    simp [Scan.next, within]
  have hclose : Scan.next escaping ⟨depth, true, false⟩ '\'' = within depth := by
    simp [Scan.next, within]
  obtain ⟨hstays, hrun⟩ := run_escapeChars escaping h cs
  rw [Scan.StaysOpen, Scan.run_cons, hopen, Scan.staysOpen_append, Scan.run_append, hrun]
  simp only [Scan.StaysOpen, Scan.run_cons, Scan.run_nil, hclose, and_true]
  exact ⟨h, hstays, h⟩

end Neutral

/-! ## Nested parentheses -/

/-- How many parentheses a text opens more than it closes. -/
def balance (cs : List Char) : Int := cs.count '(' - cs.count ')'

/-- **The parentheses of a text are nested**: each one that closes has one that opens before it, and
all are closed. -/
structure Nested (cs : List Char) : Prop where
  inside : ∀ front, front <+: cs → 0 ≤ balance front
  closed : balance cs = 0

instance (cs : List Char) : Decidable (Nested cs) :=
  decidable_of_iff ((∀ front ∈ cs.inits, 0 ≤ balance front) ∧ balance cs = 0)
    ⟨fun h => ⟨fun front hp => h.1 front ((List.mem_inits _ _).2 hp), h.2⟩,
      fun h => ⟨fun front hp => h.inside front ((List.mem_inits _ _).1 hp), h.closed⟩⟩

section Nested

variable {escaping : Escaping} {cs : List Char} {depth : Int}

theorem balance_cons (c : Char) (cs : List Char) :
    balance (c :: cs) = balance [c] + balance cs := by
  simp only [balance, List.count_cons, List.count_nil]
  omega

/-- An escaped character counts as the character itself, where its backslash escapes. -/
theorem run_escapeChar (depth : Int) {c : Char} (hc : escaping = .everywhere ∨ c ≠ '\'') :
    (within depth).run escaping (escapeChar c) = within (depth + balance [c]) ∧
      (0 < depth → ((within depth).StaysOpen escaping (escapeChar c) ↔
        0 < depth + balance [c])) := by
  by_cases hm : c = '\\' ∨ c = '\''
  · have hb : balance [c] = 0 := by rcases hm with rfl | rfl <;> rfl
    have hnext : ((within depth).next escaping '\\').depth = depth ∧
        ((within depth).next escaping '\\').next escaping c = within depth := by
      rcases hm with rfl | rfl
      · cases escaping <;> simp [Scan.next, within]
      · obtain rfl := hc.resolve_right fun h => h rfl
        simp [Scan.next, within]
    rw [escapeChar, if_pos hm, hb, Int.add_zero]
    simp only [Scan.run_cons, Scan.run_nil, Scan.StaysOpen, hnext, and_true]
    exact ⟨trivial, fun _ => and_self_iff⟩
  · have hnext : (within depth).next escaping c = within (depth + balance [c]) := by
      rw [not_or] at hm
      by_cases ho : c = '('
      · subst ho
        simp [Scan.next, within, balance]
      · by_cases hp : c = ')'
        · subst hp
          simp [Scan.next, within, balance, Int.sub_eq_add_neg]
        · simp [Scan.next, within, balance, hm, ho, hp]
    rw [escapeChar, if_neg hm]
    simp only [Scan.run_cons, Scan.run_nil, Scan.StaysOpen, hnext, and_true]
    exact ⟨trivial, fun _ => Iff.rfl⟩

theorem run_field (hcs : escaping = .everywhere ∨ '\'' ∉ cs) :
    (within depth).run escaping (escapeChars cs) = within (depth + balance cs) := by
  induction cs generalizing depth with
  | nil => simp [balance, escapeChars, Text.replaceChar]
  | cons c cs ih =>
    rw [List.mem_cons, not_or] at hcs
    have hc := run_escapeChar depth (hcs.imp_right fun h => Ne.symm h.1)
    rw [escapeChars_cons, Scan.run_append, hc.1, ih (hcs.imp_right And.right), balance_cons c cs,
      Int.add_assoc]

/-- **The field of a range stays inside** as far as its parentheses say. -/
theorem staysOpen_field (hcs : escaping = .everywhere ∨ '\'' ∉ cs) (h : 0 < depth) :
    (within depth).StaysOpen escaping (escapeChars cs) ↔
      ∀ front, front <+: cs → 0 < depth + balance front := by
  induction cs generalizing depth with
  | nil => simp [balance, escapeChars, Text.replaceChar, Scan.StaysOpen, List.prefix_nil, h]
  | cons c cs ih =>
    rw [List.mem_cons, not_or] at hcs
    have hc := run_escapeChar depth (hcs.imp_right fun h => Ne.symm h.1)
    rw [escapeChars_cons, Scan.staysOpen_append, hc.1, hc.2 h]
    constructor
    · rintro ⟨hfirst, hrest⟩ front hp
      rcases List.prefix_cons_iff.1 hp with rfl | ⟨front, rfl, hfront⟩
      · simpa [balance] using h
      · rw [balance_cons, ← Int.add_assoc]
        exact (ih (hcs.imp_right And.right) hfirst).1 hrest front hfront
    · intro hall
      have hfirst : 0 < depth + balance [c] := hall [c] ⟨cs, rfl⟩
      refine ⟨hfirst, (ih (hcs.imp_right And.right) hfirst).2 fun front hfront => ?_⟩
      rw [Int.add_assoc, ← balance_cons]
      exact hall _ (List.cons_prefix_cons.2 ⟨rfl, hfront⟩)

end Nested

/-! ## The parts of a leaf -/

open Expression

section Parts

variable {escaping : Escaping} {v : Value} {name : String}

theorem neutral_attributeChars (hname : Numeral name.toList) (given : Option String) :
    Neutral escaping (attributeChars name given) := by
  cases given with
  | none => exact neutral_nil
  | some s =>
    have hequals : Neutral escaping ['='] := Inert.neutral (by decide)
    have hblank : Neutral escaping [' '] := Inert.neutral (by decide)
    have h := ((neutral_numeral hname).append hequals).append
      ((neutral_quoted escaping s.toList).append hblank)
    simpa [attributeChars] using h

theorem neutral_boundText (hv : IsScalar v) : Neutral escaping (boundText v).toList := by
  rcases hv with ⟨s, rfl⟩ | hn
  · simpa [boundText] using neutral_quoted escaping s.toList
  · rw [(boundText_of_number hn).1]
    exact neutral_numeral (numeral_scalarText hn)

theorem neutral_lowerSide (hv : v = .null ∨ IsScalar v) :
    Neutral escaping (lowerSide v).toList := by
  rcases hv with rfl | hv
  · exact Inert.neutral (by decide)
  · have hmark : Neutral escaping ['['] := Inert.neutral (by decide)
    have h := hmark.append (neutral_boundText hv)
    simpa [lowerSide, isNothing_of_isScalar hv] using h

theorem neutral_upperSide (hv : v = .null ∨ IsScalar v) :
    Neutral escaping (upperSide v).toList := by
  rcases hv with rfl | hv
  · exact Inert.neutral (by decide)
  · have hmark : Neutral escaping [']'] := Inert.neutral (by decide)
    have h := (neutral_boundText hv).append hmark
    simpa [upperSide, isNothing_of_isScalar hv] using h

/-- The value of a leaf with the quotes around it. -/
theorem neutral_value (hv : v = .null ∨ IsScalar v) :
    Neutral escaping ('\'' :: ((scalarText (escape v)).toList ++ ['\''])) := by
  rcases hv with rfl | hv
  · exact neutral_quoted escaping "None".toList
  · rw [toList_scalarText_escape hv]
    exact neutral_quoted escaping _

end Parts

/-! ## Leaves -/

/-- **The leaves that are not raw**, with the attributes they can be given: a text as field, a text
or a number as value and as bounds, numbers as boost and distance, and anything not given. -/
structure Expression.IsLeaf (e : Expression) : Prop where
  kind : e.kind.isComposite = false ∧ e.kind ≠ .raw
  children : e.children = []
  field : e.field = .null ∨ ∃ s, e.field = .text s
  value : e.value = .null ∨ IsScalar e.value
  boost : e.boost = .null ∨ e.boost.number?.isSome
  distance : e.distance = .null ∨ e.distance.number?.isSome
  lower : e.lower = .null ∨ IsScalar e.lower
  upper : e.upper = .null ∨ IsScalar e.upper

namespace Expression

section Leaves

variable {escaping : Escaping} {kind : Kind} {field value boost distance lower upper : Value}
  {children : List (Option Expression)}

/-- A body that is neutral is enclosed by parentheses around it. -/
theorem enclosed_of_neutral {body : List Char} (h : Neutral escaping body) :
    Enclosed escaping ('(' :: (body ++ [')'])) := by
  obtain ⟨hopen, hrun⟩ := h 1 Int.zero_lt_one
  rw [enclosed_text_iff, Scan.run_append, hrun]
  exact ⟨hopen, rfl, rfl⟩

theorem enclosed_everything :
    Enclosed escaping
      (text ⟨.everything, field, value, boost, distance, lower, upper, children⟩).toList := by
  rw [toList_text_everything]
  have h : Neutral escaping "matchall".toList := Inert.neutral (by decide)
  simpa using enclosed_of_neutral h

theorem enclosed_asking (hk : kind.asks = true) (hf : field = .null ∨ ∃ s, field = .text s)
    (hd : distance = .null ∨ distance.number?.isSome) (hb : boost = .null ∨ boost.number?.isSome)
    (hv : value = .null ∨ IsScalar value) :
    Enclosed escaping
      (text ⟨kind, field, value, boost, distance, lower, upper, children⟩).toList := by
  rw [toList_text_leaf hk, toList_attributeText_escape hf, toList_attributeText hd,
    toList_attributeText hb]
  have hkind : Neutral escaping kind.name.toList :=
    Inert.neutral (by cases kind <;> decide)
  have hblank : Neutral escaping [' '] := Inert.neutral (by decide)
  have hattribute (name : String) (hname : Numeral name.toList) (v : Value) :
      Neutral escaping (attributeChars name (attribute? v)) := neutral_attributeChars hname _
  have h := (hkind.append hblank).append ((hattribute "field" (by decide) field).append
    ((hattribute "distance" (by decide) distance).append
      ((hattribute "boost" (by decide) boost).append (neutral_value hv))))
  simpa using enclosed_of_neutral h

/-- **When a range is enclosed.** -/
theorem enclosed_range_iff (hf : field = .null ∨ ∃ s, field = .text s)
    (hl : lower = .null ∨ IsScalar lower) (hu : upper = .null ∨ IsScalar upper)
    (hq : escaping = .everywhere ∨ '\'' ∉ field.plain.toList) :
    Enclosed escaping
        (text ⟨.range, field, value, boost, distance, lower, upper, children⟩).toList ↔
      Nested field.plain.toList := by
  have hfield : (escape field).plain.toList = escapeChars field.plain.toList := by
    rcases hf with rfl | ⟨s, rfl⟩
    · rfl
    · exact toList_escapeText s
  have hname : Neutral escaping "range field=".toList := Inert.neutral (by decide)
  have hblank : Neutral escaping [' '] := Inert.neutral (by decide)
  have hcomma : Neutral escaping [','] := Inert.neutral (by decide)
  have hsides :=
    hblank.append ((neutral_lowerSide hl).append (hcomma.append (neutral_upperSide hu)))
  have htext : (text ⟨.range, field, value, boost, distance, lower, upper, children⟩).toList =
      '(' :: (("range field=".toList ++ (escapeChars field.plain.toList ++ ([' '] ++
        ((lowerSide lower).toList ++ ([','] ++ (upperSide upper).toList))))) ++ [')']) := by
    rw [toList_text_range, hfield]
    simp [Kind.name]
  obtain ⟨hopen, hrun⟩ := hname 1 Int.zero_lt_one
  rw [htext, enclosed_text_iff, Scan.staysOpen_append, Scan.staysOpen_append,
    Scan.run_append, Scan.run_append, Scan.run_append, hrun, run_field hq,
    staysOpen_field hq Int.zero_lt_one]
  constructor
  · rintro ⟨⟨-, hin, -⟩, hclosed, -⟩
    have hpositive : 0 < 1 + balance field.plain.toList := hin _ (List.prefix_refl _)
    rw [(hsides _ hpositive).2] at hclosed
    refine ⟨fun front hp => ?_, ?_⟩
    · have := hin front hp
      omega
    · simp only [Scan.run_cons, Scan.run_nil, Scan.next, within] at hclosed
      simp at hclosed
      omega
  · rintro ⟨hin, hclosed⟩
    obtain ⟨hstays, hsame⟩ := hsides 1 Int.zero_lt_one
    rw [hclosed, Int.add_zero, hsame]
    refine ⟨⟨hopen, fun front hp => ?_, hstays⟩, rfl, rfl⟩
    have := hin front hp
    omega

end Leaves

/-- **When a leaf is enclosed**: always if it is no range, and exactly if the parentheses of its
field are nested if it is one. Where a backslash escapes in literals only, this is said of a range
whose field has no quote. -/
theorem enclosed_render_iff (escaping : Escaping) {e : Expression} (he : e.IsLeaf) :
    ∃ s, e.render = .ok s ∧ (e.kind ≠ .range → Enclosed escaping s.toList) ∧
      (e.kind = .range → escaping = .everywhere ∨ '\'' ∉ e.field.plain.toList →
        (Enclosed escaping s.toList ↔ Nested e.field.plain.toList)) := by
  obtain ⟨⟨hcomposite, hraw⟩, hchildren, hf, hv, hb, hd, hl, hu⟩ := he
  obtain ⟨kind, field, value, boost, distance, lower, upper, children⟩ := e
  obtain rfl : children = [] := hchildren
  refine ⟨_, render_eq_ok_iff.2 ⟨rfl, rfl⟩, fun hk => ?_, fun hk hq => ?_⟩
  · cases kind with
    | and | or | not => cases hcomposite
    | raw => exact absurd rfl hraw
    | range => exact absurd rfl hk
    | everything => exact enclosed_everything
    | term | phrase | leading | near => exact enclosed_asking rfl hf hd hb hv
  · obtain rfl : kind = .range := hk
    exact enclosed_range_iff hf hl hu hq

/-- Quotes keep parentheses in, and a field with nested parentheses needs none. -/
theorem enclosed_render_quotes :
    let near : Expression :=
      { kind := .near, field := .text "a'b", value := .text "it's) (", distance := .int 3 }
    let range : Expression :=
      { kind := .range, field := .text "max(a)", lower := .text "x')", upper := .int 4 }
    (near.IsLeaf ∧ ∃ s, near.render = .ok s ∧ Enclosed .inLiterals s.toList) ∧
      (range.IsLeaf ∧ ∃ s, range.render = .ok s ∧ Enclosed .everywhere s.toList) := by
  intro near range
  have hnear : near.IsLeaf :=
    ⟨⟨rfl, by decide⟩, rfl, .inr ⟨_, rfl⟩, .inr (.inl ⟨_, rfl⟩), .inl rfl, .inr rfl, .inl rfl,
      .inl rfl⟩
  have hrange : range.IsLeaf :=
    ⟨⟨rfl, by decide⟩, rfl, .inr ⟨_, rfl⟩, .inl rfl, .inl rfl, .inl rfl, .inr (.inl ⟨_, rfl⟩),
      .inr (.inr rfl)⟩
  obtain ⟨s, hs, hquoted, -⟩ := enclosed_render_iff .inLiterals hnear
  obtain ⟨t, ht, -, hnested⟩ := enclosed_render_iff .everywhere hrange
  refine ⟨⟨hnear, s, hs, hquoted (by decide)⟩, hrange, t, ht, ?_⟩
  exact (hnested rfl (.inl rfl)).2 (by decide)

/-- **The field of a range can add a node beside it**: one range is written as two are. -/
theorem sibling_of_field :
    let range (field : String) (lower upper : Int) : Expression :=
      { kind := .range, field := .text field, lower := .int lower, upper := .int upper }
    let e := range "a [1,2])(range field=b" 3 4
    e.check = .ok e ∧ e.IsLeaf ∧ e.render = .ok ((range "a" 1 2).text ++ (range "b" 3 4).text) ∧
      ∀ escaping, ¬ Enclosed escaping e.text.toList := by
  intro range e
  refine ⟨rfl, ?_, ?_, ?_⟩
  · exact ⟨⟨rfl, by decide⟩, rfl, .inr ⟨_, rfl⟩, .inl rfl, .inl rfl, .inl rfl, .inr (.inr rfl),
      .inr (.inr rfl)⟩
  · exact render_eq_ok_iff.2 ⟨rfl, by decide +kernel⟩
  · intro escaping
    cases escaping <;> decide +kernel

end Expression

end SearchIndex.Query
