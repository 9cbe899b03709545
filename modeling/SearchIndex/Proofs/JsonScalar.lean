import Mathlib.Data.List.Basic
import SearchIndex.Json.Reader
import SearchIndex.Json.Writer

/-!
# Strings and integers in JSON

What is written as a string is read back, whatever it holds and whatever stands after the closing
quote, and so is an integer before something that does not go on with a number, unless it has more
digits than the reader takes.

## Main definitions

* `NoNumber rest`: nothing at the start of a text goes on with a number

## Main results

* `readText_escaped`: a string is read back
* `readPlain_intText`: an integer is read back
-/

namespace SearchIndex.Json

/-! ## Strings -/

theorem hexValue?_hexDigit (n : Nat) : hexValue? (Text.hexDigit n) = some (n % 16) := by
  have hall : ∀ m < 16, hexValue? (Text.hexDigit m) = some m := by decide
  have hmod : Text.hexDigit n = Text.hexDigit (n % 16) := by simp [Text.hexDigit]
  rw [hmod]
  exact hall _ (Nat.mod_lt _ (by decide))

theorem readUnit?_hexChars {n : Nat} (h : n < 0x10000) (cs : List Char) :
    readUnit? (Text.hexChars 4 n ++ cs) = some (n, cs) := by
  simp only [Text.hexChars, List.nil_append, List.cons_append, readUnit?, hexValue?_hexDigit,
    Option.bind_eq_bind, Option.bind_some, Option.pure_def, Option.some.injEq, Prod.mk.injEq,
    and_true]
  omega

theorem lowHalf?_unitEscape {n : Nat} (h : n < 0x400) (cs : List Char) :
    lowHalf? (unitEscape (0xdc00 + n) ++ cs) = some (0xdc00 + n, cs) := by
  simp only [unitEscape, List.cons_append, lowHalf?]
  rw [readUnit?_hexChars (by omega)]
  simp only [Option.filter, Bool.decide_and, Bool.and_eq_true, decide_eq_true_eq, ite_eq_left_iff,
    reduceCtorEq, imp_false, not_not]
  omega

/-- What is read with a character before it. -/
def after (c : Char) (r : Except Fault (List Char × List Char)) :
    Except Fault (List Char × List Char) := r.map fun (tail, rest) => (c :: tail, rest)

section Strings

variable (opening fuel : Nat) (cs : List Char)

/-- A high half and a low half are read as the character that they stand for. -/
theorem readString_pair {high low : Nat} (hh : high < 0x400) (hl : low < 0x400) :
    readString opening (fuel + 1)
        (unitEscape (0xd800 + high) ++ (unitEscape (0xdc00 + low) ++ cs)) =
      after (Char.ofNat (0x10000 + high * 0x400 + low)) (readString opening fuel cs) := by
  generalize hx : 0xd800 + high = x
  generalize hy : unitEscape (0xdc00 + low) ++ cs = rest
  simp only [unitEscape, List.cons_append, readString]
  rw [readUnit?_hexChars (by omega)]
  dsimp only
  rw [if_pos (by omega), ← hy, lowHalf?_unitEscape hl]
  have hx' : x - 0xd800 = high := by omega
  have hy' : 0xdc00 + low - 0xdc00 = low := Nat.add_sub_cancel_left ..
  dsimp only
  rw [hx', hy']
  rfl

/-- No character is a half of a pair, so its escapes are read as the character. -/
theorem readString_unitEscapes (c : Char) :
    readString opening (fuel + 1) (unitEscapes c ++ cs) = after c (readString opening fuel cs) := by
  have hvalid : c.toNat < 0xd800 ∨ 0xdfff < c.toNat ∧ c.toNat < 0x110000 := c.valid
  unfold unitEscapes
  split
  · next hsmall =>
    simp only [unitEscape, List.cons_append, readString, readUnit?_hexChars hsmall]
    rw [if_neg (by omega), if_neg (by omega), Char.ofNat_toNat]
    rfl
  · next hlarge =>
    generalize ho : c.toNat - 0x10000 = offset
    have hc : 0x10000 + offset / 0x400 * 0x400 + offset % 0x400 = c.toNat := by omega
    rw [List.append_assoc, readString_pair _ _ _ (by omega) (Nat.mod_lt _ (by decide)), hc,
      Char.ofNat_toNat]

/-- **Whatever a character is written as is read as that character.** -/
theorem readString_escapedChar (ascii : Bool) (c : Char) :
    readString opening (fuel + 1) (escapedChar ascii c ++ cs) =
      after c (readString opening fuel cs) := by
  unfold escapedChar
  split
  · next h => rcases h with rfl | rfl <;> rfl
  split
  · next h =>
    subst h
    rfl
  split
  · next h =>
    subst h
    rfl
  split
  · next h =>
    subst h
    rfl
  split
  · next h =>
    rw [← Char.ofNat_toNat c, h]
    rfl
  split
  · next h =>
    rw [← Char.ofNat_toNat c, h]
    rfl
  split
  · exact readString_unitEscapes opening fuel cs c
  · next hq _ _ _ _ _ hu =>
    rw [not_or] at hq hu
    simp only [List.cons_append, List.nil_append]
    rw [readString]
    split
    all_goals simp_all
    rfl

end Strings

theorem readString_escaped (ascii : Bool) (opening : Nat) (cs rest : List Char) {fuel : Nat}
    (h : cs.length < fuel) :
    readString opening fuel (cs.flatMap (escapedChar ascii) ++ '"' :: rest) = .ok (cs, rest) := by
  induction cs generalizing fuel with
  | nil =>
    obtain ⟨fuel, rfl⟩ := Nat.exists_eq_succ_of_ne_zero (Nat.ne_zero_of_lt h)
    rfl
  | cons c cs ih =>
    obtain ⟨fuel, rfl⟩ := Nat.exists_eq_succ_of_ne_zero (Nat.ne_zero_of_lt h)
    rw [List.flatMap_cons, List.append_assoc, readString_escapedChar,
      ih (Nat.lt_of_succ_lt_succ h)]
    rfl

theorem length_le_length_escaped (ascii : Bool) (cs : List Char) :
    cs.length ≤ (cs.flatMap (escapedChar ascii)).length := by
  induction cs with
  | nil => exact Nat.le_refl _
  | cons c cs ih =>
    have := escapedChar_length_pos ascii c
    rw [List.flatMap_cons, List.length_append, List.length_cons]
    omega

/-- **A string is read back**, whatever stands after its closing quote. -/
theorem readText_escaped (ascii : Bool) (s : String) (rest : List Char) :
    readText (s.toList.flatMap (escapedChar ascii) ++ '"' :: rest) = .ok (s, rest) := by
  have hlen := length_le_length_escaped ascii s.toList
  rw [readText, readString_escaped]
  · simp [bind, Except.bind, pure, Except.pure]
  · simp only [List.length_append]
    omega

/-! ## Integers -/

open Decimal

/-- Nothing at the start of a text goes on with a number. -/
def NoNumber (rest : List Char) : Prop :=
  ∀ c tail, rest = c :: tail → c.isDigit = false ∧ c ≠ '.' ∧ c ≠ 'e' ∧ c ≠ 'E'

theorem noNumber_nil : NoNumber [] := fun _ _ h => nomatch h

theorem noNumber_cons {c : Char} {rest : List Char}
    (h : c.isDigit = false ∧ c ≠ '.' ∧ c ≠ 'e' ∧ c ≠ 'E') : NoNumber (c :: rest) := by
  rintro _ _ ⟨⟩
  exact h

theorem natOfDigits_digitChars (n : Nat) : natOfDigits (digitChars n) = n :=
  Nat.ofDigitChars_ten_toDigits

theorem isDigit_of_mem_digitChars {n : Nat} {c : Char} (h : c ∈ digitChars n) : c.isDigit = true :=
  Nat.isDigit_of_mem_toDigits (by decide) (by decide) h

theorem leadingDigits_append {ds rest : List Char} (hd : ∀ c ∈ ds, c.isDigit = true)
    (hr : NoNumber rest) : leadingDigits (ds ++ rest) = ds := by
  rw [leadingDigits, List.takeWhile_append_of_pos hd]
  cases rest with
  | nil => simp
  | cons c rest => simp [(hr c rest rfl).1]

/-- Only zero is written with a zero at its start. -/
theorem digitChars_eq_zero_cons {n : Nat} {ds : List Char} (h : digitChars n = '0' :: ds) :
    ds = [] := by
  induction n using Nat.strongRecOn generalizing ds with
  | ind n ih =>
    rw [digitChars, Nat.toDigits_eq_if (by decide)] at h
    split at h
    · exact (List.cons.inj h).2.symm
    · next hn =>
      have hlt : n / 10 < n := Nat.div_lt_self (by omega) (by decide)
      rcases hq : digitChars (n / 10) with _ | ⟨d, ds'⟩
      · exact absurd hq Nat.toDigits_ne_nil
      · rw [digitChars] at hq
        rw [hq, List.cons_append] at h
        obtain ⟨rfl, -⟩ := List.cons.inj h
        obtain rfl := ih _ hlt hq
        have hz : n / 10 = 0 := by
          rw [← natOfDigits_digitChars (n / 10), digitChars, hq]
          rfl
        omega

theorem readFraction?_eq_none {rest : List Char} (hr : NoNumber rest) :
    readFraction? rest = none := by
  cases rest with
  | nil => rfl
  | cons c rest =>
    rw [readFraction?.eq_def]
    split
    · next h => exact absurd (List.cons.inj h).1 (hr c rest rfl).2.1
    · rfl

theorem readExponent?_eq_none {rest : List Char} (hr : NoNumber rest) :
    readExponent? rest = none := by
  cases rest with
  | nil => rfl
  | cons c rest =>
    obtain ⟨-, -, he, hE⟩ := hr c rest rfl
    simp [readExponent?, he, hE]

theorem readNumber?_digitChars (negative : Bool) (n : Nat) {rest : List Char} (hr : NoNumber rest) :
    readNumber? negative (digitChars n ++ rest) =
      some (integerOf negative (digitChars n), rest) := by
  rcases hd : digitChars n with _ | ⟨d, ds⟩
  · exact absurd hd Nat.toDigits_ne_nil
  · by_cases hz : d = '0'
    · subst hz
      obtain rfl := digitChars_eq_zero_cons hd
      simp [readNumber?, readFraction?_eq_none hr, readExponent?_eq_none hr]
    · have hdigits := leadingDigits_append (fun c => isDigit_of_mem_digitChars (n := n)) hr
      rw [hd, List.cons_append] at hdigits
      simp [readNumber?, hz, hdigits, readFraction?_eq_none hr, readExponent?_eq_none hr]

theorem integerOf_digitChars (n : Int) :
    integerOf (decide (n < 0)) (digitChars n.natAbs) = .int n := by
  rw [integerOf, natOfDigits_digitChars]
  congr 1
  split
  · next h =>
    rw [Int.ofNat_natAbs_of_nonpos (Int.le_of_lt (of_decide_eq_true h)), Int.neg_neg]
  · next h =>
    exact Int.natAbs_of_nonneg (Int.not_lt.1 fun hlt => h (decide_eq_true hlt))

/-- **An integer is read back**, however large it is. -/
theorem readPlain_intText (n : Int) {rest : List Char} (hr : NoNumber rest) :
    readPlain ((intText n).toList ++ rest) = .ok (.int n, rest) := by
  have hnumber := readNumber?_digitChars (decide (n < 0)) n.natAbs hr
  rw [integerOf_digitChars] at hnumber
  rcases hd : digitChars n.natAbs with _ | ⟨d, ds⟩
  · exact absurd hd Nat.toDigits_ne_nil
  have hdigit : d.isDigit = true := isDigit_of_mem_digitChars (n := n.natAbs) (by simp [hd])
  have hne : ∀ c : Char, c.isDigit = false → c ≠ d := by
    rintro c hc rfl
    exact Bool.false_ne_true (hc.symm.trans hdigit)
  rw [hd, List.cons_append] at hnumber
  by_cases h : n < 0
  · have ht : (intText n).toList ++ rest = '-' :: d :: (ds ++ rest) := by
      simp [intText, h, natText, hd]
    simp only [h, decide_true] at hnumber
    rw [ht]
    simp [readPlain, hne 'I' (by decide), hnumber]
  · have ht : (intText n).toList ++ rest = d :: (ds ++ rest) := by
      simp [intText, h, natText, hd]
    simp only [h, decide_false] at hnumber
    rw [ht]
    simp [readPlain, hne 'n' (by decide), hne 't' (by decide), hne 'f' (by decide),
      hne 'N' (by decide), hne 'I' (by decide), hne '-' (by decide), (hne '-' (by decide)).symm,
      hnumber]

end SearchIndex.Json
