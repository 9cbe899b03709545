import SearchIndex.Query.Escape

/-!
# Literals

What is escaped and put between quotes is read back, whatever stands after the closing quote. The
texts of numbers and truth values need no quotes: they hold nothing that a reader could stop at.

## Main definitions

* `escapeChar c`: a character as it stands between single quotes
* `readLiteral cs`: the literal that ends at the first quote without a backslash, and what follows
* `unescapeChars cs`: a text without the backslashes that escape
* `Bare cs`: nothing in a text ends a literal or a bound
* `Numeral cs`: a text of letters, digits and signs

## Main results

* `escapeChars_eq_flatMap`: a text is escaped one character after the other
* `escapeText_eq_intercalate`: a text is escaped by two replacements
* `readLiteral_escapeChars`: what is escaped is read back
* `escape_in_one_pass`: escaping is one pass, and reading undoes it
* `numeral_plain`, `numeral_scalarText`: the texts of numbers are numerals
* `bare_plain`, `bare_scalarText`: the texts of numbers are bare
-/

namespace SearchIndex.Query

/-- A character as it stands between single quotes. -/
def escapeChar (c : Char) : List Char := if c = '\\' ∨ c = '\'' then ['\\', c] else [c]

/-- **A text is escaped one character after the other.** -/
theorem escapeChars_eq_flatMap (cs : List Char) : escapeChars cs = cs.flatMap escapeChar := by
  induction cs with
  | nil => rfl
  | cons c cs ih =>
    simp only [escapeChars, Text.replaceChar] at ih
    simp only [escapeChars, Text.replaceChar, List.flatMap_cons, List.flatMap_append, ih]
    congr 1
    by_cases hb : c = '\\'
    · subst hb
      rfl
    · by_cases hq : c = '\''
      · subst hq
        rfl
      · simp [escapeChar, hb, hq]

theorem escapeChars_cons (c : Char) (cs : List Char) :
    escapeChars (c :: cs) = escapeChar c ++ escapeChars cs := by
  rw [escapeChars_eq_flatMap, escapeChars_eq_flatMap, List.flatMap_cons]

theorem escapeChars_append (cs ds : List Char) :
    escapeChars (cs ++ ds) = escapeChars cs ++ escapeChars ds := by
  rw [escapeChars_eq_flatMap, escapeChars_eq_flatMap, escapeChars_eq_flatMap, List.flatMap_append]

@[simp] theorem toList_escapeText (s : String) : (escapeText s).toList = escapeChars s.toList :=
  String.toList_ofList

/-- **A text is escaped by two replacements**, of all its backslashes and then of all its quotes. -/
theorem escapeText_eq_intercalate (s : String) :
    escapeText s = "\\'".intercalate (Text.splitOn '\''
      ("\\\\".intercalate (Text.splitOn '\\' s))) := by
  have hbackslashes := Text.replaceChar_eq_intercalate '\\' "\\\\" s
  have hquotes := Text.replaceChar_eq_intercalate '\'' "\\'"
    ("\\\\".intercalate (Text.splitOn '\\' s))
  rw [← hbackslashes] at hquotes
  rw [← String.toList_inj, toList_escapeText, ← hquotes]
  rfl

theorem escapeChars_eq_nil_iff {cs : List Char} : escapeChars cs = [] ↔ cs = [] := by
  cases cs with
  | nil => exact ⟨fun _ => rfl, fun _ => rfl⟩
  | cons c cs =>
    rw [escapeChars_cons, escapeChar]
    split <;> simp

theorem escapeText_ne_empty_iff {s : String} : escapeText s ≠ "" ↔ s ≠ "" := by
  rw [ne_eq, ne_eq, ← String.toList_eq_nil_iff, ← String.toList_eq_nil_iff, toList_escapeText,
    escapeChars_eq_nil_iff]

/-- Without backslashes and quotes there is nothing to escape. -/
theorem escapeChars_eq_self {cs : List Char} (h : ∀ c ∈ cs, c ≠ '\\' ∧ c ≠ '\'') :
    escapeChars cs = cs := by
  induction cs with
  | nil => rfl
  | cons c cs ih =>
    obtain ⟨hc, hcs⟩ := List.forall_mem_cons.1 h
    rw [escapeChars_cons, ih hcs, escapeChar, if_neg (by simp [hc])]
    rfl

/-! ## Reading literals -/

/-- The literal that ends at the first quote without a backslash before it, and what follows. -/
def readLiteral : List Char → Option (List Char × List Char)
  | [] => none
  | '\'' :: rest => some ([], rest)
  | '\\' :: c :: cs => (readLiteral cs).map fun (literal, rest) => (c :: literal, rest)
  | c :: cs => (readLiteral cs).map fun (literal, rest) => (c :: literal, rest)

theorem readLiteral_escapeChar_append (c : Char) (cs : List Char) :
    readLiteral (escapeChar c ++ cs) =
      (readLiteral cs).map fun (literal, rest) => (c :: literal, rest) := by
  by_cases h : c = '\\' ∨ c = '\''
  · rw [escapeChar, if_pos h]
    rfl
  · rw [escapeChar, if_neg h]
    rw [not_or] at h
    simp [readLiteral, h.1, h.2]

/-- **What is escaped is read back**, up to the quote that closes it. -/
theorem readLiteral_escapeChars (cs rest : List Char) :
    readLiteral (escapeChars cs ++ '\'' :: rest) = some (cs, rest) := by
  induction cs with
  | nil => rfl
  | cons c cs ih =>
    rw [escapeChars_cons, List.append_assoc, readLiteral_escapeChar_append, ih]
    rfl

/-- **Escaping is one pass over a text.** Replacing all backslashes and then all quotes puts a
backslash before each of them and leaves the other characters; it does so to the parts of a text one
after the other. Up to the quote that closes it, what is escaped is read back, and what follows is
left as it is. -/
theorem escape_in_one_pass (s t : String) :
    escape (.text s) = .text (escapeText s) ∧
      escapeText s = "\\'".intercalate (Text.splitOn '\''
        ("\\\\".intercalate (Text.splitOn '\\' s))) ∧
      escapeText s = String.ofList (s.toList.flatMap fun c =>
        if c = '\\' ∨ c = '\'' then ['\\', c] else [c]) ∧
      escapeText (s ++ t) = escapeText s ++ escapeText t ∧
      readLiteral (escapeText s ++ "'" ++ t).toList = some (s.toList, t.toList) := by
  refine ⟨rfl, escapeText_eq_intercalate s, ?_, ?_, ?_⟩
  · rw [escapeText, escapeChars_eq_flatMap]
    rfl
  · rw [← String.toList_inj, String.toList_append, toList_escapeText, toList_escapeText,
      toList_escapeText, String.toList_append, escapeChars_append]
  · rw [String.toList_append, String.toList_append, toList_escapeText, List.append_assoc]
    exact readLiteral_escapeChars s.toList t.toList

/-- A text without the backslashes that escape. -/
def unescapeChars : List Char → List Char
  | [] => []
  | '\\' :: c :: cs => c :: unescapeChars cs
  | c :: cs => c :: unescapeChars cs

theorem unescapeChars_escapeChars (cs : List Char) : unescapeChars (escapeChars cs) = cs := by
  induction cs with
  | nil => rfl
  | cons c cs ih =>
    rw [escapeChars_cons]
    by_cases h : c = '\\' ∨ c = '\''
    · rw [escapeChar, if_pos h]
      exact congrArg (c :: ·) ih
    · rw [escapeChar, if_neg h]
      rw [not_or] at h
      simp [unescapeChars, h.1, ih]

/-- A text without the backslashes that escape. -/
def unescapeText (s : String) : String := String.ofList (unescapeChars s.toList)

theorem unescapeText_escapeText (s : String) : unescapeText (escapeText s) = s := by
  rw [unescapeText, toList_escapeText, unescapeChars_escapeChars, String.ofList_toList]

/-! ## Bare texts -/

/-- The characters at which a literal or a bound could end, or that a literal changes. -/
def marks : List Char := ['\'', '\\', ',', ']', '\x7d']

/-- Nothing in a text ends a literal or a bound. -/
def Bare (cs : List Char) : Prop := ∀ c ∈ cs, c ∉ marks

namespace Bare

variable {cs : List Char}

theorem not_mem {m : Char} (hc : Bare cs) (hm : m ∈ marks) : m ∉ cs := fun h => hc m h hm

/-- A bare text does not start with a mark. -/
theorem append_cons_ne {m mark : Char} {rest tail : List Char} (hc : Bare cs) (hm : m ∈ marks)
    (hne : mark ≠ m) : cs ++ mark :: rest ≠ m :: tail := by
  intro h
  rcases cs with _ | ⟨c, cs⟩
  · exact hne (List.cons.inj h).1
  · obtain rfl : c = m := (List.cons.inj h).1
    exact hc c (List.mem_cons_self ..) hm

/-- Escaping leaves a bare text. -/
theorem escapeChars_eq (hc : Bare cs) : escapeChars cs = cs := by
  apply escapeChars_eq_self
  intro c h
  constructor
  · rintro rfl
    exact hc _ h (by decide)
  · rintro rfl
    exact hc _ h (by decide)

end Bare

/-- A letter, a digit or a sign of a number. -/
def isNumeral (c : Char) : Bool := c.isAlphanum || c = '+' || c = '-' || c = '.'

/-- **A text of letters, digits and signs**, as numbers have. -/
def Numeral (cs : List Char) : Prop := ∀ c ∈ cs, isNumeral c = true

instance : DecidablePred Numeral := fun cs => List.decidableBAll _ cs

namespace Numeral

variable {cs ds : List Char}

theorem append (hc : Numeral cs) (hd : Numeral ds) : Numeral (cs ++ ds) := by
  intro c h
  rcases List.mem_append.1 h with h | h
  · exact hc c h
  · exact hd c h

theorem cons {c : Char} (h : isNumeral c = true) (hc : Numeral cs) : Numeral (c :: cs) :=
  List.forall_mem_cons.2 ⟨h, hc⟩

theorem subset (hc : Numeral cs) (h : ds ⊆ cs) : Numeral ds := fun c hd => hc c (h hd)

theorem of_isDigit (h : ∀ c ∈ cs, c.isDigit = true) : Numeral cs := fun c hc => by
  simp [isNumeral, Char.isAlphanum, h c hc]

theorem replicate_zero (n : Nat) : Numeral (List.replicate n '0') :=
  of_isDigit fun c h => by rw [List.eq_of_mem_replicate h]; rfl

/-- Characters that are no numerals are not there. -/
theorem not_mem {m : Char} (hc : Numeral cs) (hm : isNumeral m = false) : m ∉ cs := fun h => by
  rw [hc m h] at hm
  cases hm

theorem bare (hc : Numeral cs) : Bare cs := by
  intro m h hm
  have hmarks : ∀ m ∈ marks, isNumeral m = false := by simp [marks, isNumeral]
  exact hc.not_mem (hmarks m hm) h

end Numeral

/-! ## The texts of numbers -/

section Numbers

open Decimal

theorem numeral_digitChars (n : Nat) : Numeral (digitChars n) :=
  .of_isDigit fun _ h => Nat.isDigit_of_mem_toDigits (by decide) (by decide) h

theorem numeral_padLeft {digits : List Char} (width : Nat) (h : Numeral digits) :
    Numeral (padLeft width digits) :=
  (Numeral.replicate_zero _).append h

theorem numeral_positional {digits : List Char} (exponent : Int) (h : Numeral digits) :
    Numeral (positional digits exponent) := by
  unfold positional
  split
  · exact (h.append (.replicate_zero _)).append (by decide)
  · have hp := numeral_padLeft ((-exponent).toNat + 1) h
    refine (hp.subset (List.take_subset _ _)).append ?_
    exact .cons (by decide) (hp.subset (List.drop_subset _ _))

theorem numeral_scientific {digits : List Char} (leading : Int) (h : Numeral digits) :
    Numeral (scientific digits leading) := by
  unfold scientific
  have hp := numeral_padLeft 2 (numeral_digitChars leading.natAbs)
  refine ((h.subset (List.take_subset _ _)).append ?_).append ?_
  · split
    · exact fun _ hc => (List.not_mem_nil hc).elim
    · exact .cons (by decide) (h.subset (List.drop_subset _ _))
  · refine .cons (by decide) (.cons ?_ hp)
    split <;> decide

theorem numeral_scaledText (s : Scaled) : Numeral s.text := by
  unfold Scaled.text
  generalize (if s.digits = 10 then (1, s.exponent + 1) else (s.digits, s.exponent)) = p
  obtain ⟨digits, exponent⟩ := p
  dsimp only
  split
  · exact numeral_positional _ (numeral_digitChars _)
  · exact numeral_scientific _ (numeral_digitChars _)

theorem numeral_intText (n : Int) : Numeral (intText n).toList := by
  unfold intText natText
  split
  · simp only [String.toList_append, String.toList_ofList]
    exact .cons (by decide) (numeral_digitChars _)
  · rw [String.toList_ofList]
    exact numeral_digitChars _

theorem numeral_floatText (x : Float) : Numeral (floatText x).toList := by
  unfold floatText
  split
  · decide
  · split <;> decide
  · rw [signedText, String.toList_ofList]
    refine Numeral.append ?_ (numeral_scaledText _)
    split <;> decide

theorem numeral_numberText (n : Number) : Numeral n.text.toList := by
  cases n with
  | int n => exact numeral_intText n
  | float x => exact numeral_floatText x
  | flag b => cases b <;> decide

variable {v : Value}

/-- **The text of a number is a numeral.** -/
theorem numeral_plain (hv : v.number?.isSome) : Numeral v.plain.toList := by
  cases v with
  | bool b => exact numeral_numberText (.flag b)
  | int n => exact numeral_numberText (.int n)
  | float x => exact numeral_numberText (.float x)
  | null | text | list | map => cases hv

/-- **The text of a number in a query is a numeral.** -/
theorem numeral_scalarText (hv : v.number?.isSome) : Numeral (scalarText v).toList := by
  cases v with
  | bool b => cases b <;> decide
  | int n => exact numeral_numberText (.int n)
  | float x => exact numeral_numberText (.float x)
  | null | text | list | map => cases hv

theorem bare_plain (hv : v.number?.isSome) : Bare v.plain.toList := (numeral_plain hv).bare

theorem bare_scalarText (hv : v.number?.isSome) : Bare (scalarText v).toList :=
  (numeral_scalarText hv).bare

end Numbers

end SearchIndex.Query
