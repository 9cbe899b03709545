import Mathlib.Algebra.Order.Ring.Nat
import Mathlib.Tactic.Ring
import SearchIndex.Number.Basic

/-!
# Rounded quotients

The double nearest to a quotient has 53 binary digits, so a quotient of two natural numbers is
rounded to a multiple of a unit that its size tells. From there it is known when the integer above
the rounded quotient is the one above the quotient itself.

## Main definitions

* `Binary64.IsDouble n`: a double is the natural number
* `Number.SurvivesRounding num den`: rounding a quotient does not change the integer above it

## Main results

* `Binary64.roundDiv_eq`, `Binary64.le_roundDiv_iff`, `Binary64.lt_roundDiv_iff`: the natural number
  nearest to a quotient
* `Binary64.inUnits_bounds`, `Binary64.lastPlace_eq`, `Binary64.nearest_eq`: the double nearest to a
  quotient that is at least one
* `Number.ceilQuotient_iff`: the quotients with the same integer above them, rounded or not
* `Number.survivesRounding_of_le`: all quotients of numbers up to 2 ^ 53 are among them
-/

namespace SearchIndex

/-! ## Powers of two -/

theorem twoTo_add (m n : Nat) : twoTo (m + n) = twoTo m * twoTo n := Nat.pow_add 2 m n

theorem twoTo_le_twoTo {m n : Nat} (h : m ≤ n) : twoTo m ≤ twoTo n :=
  Nat.pow_le_pow_right Nat.two_pos h

theorem twoTo_lt_twoTo {m n : Nat} (h : m < n) : twoTo m < twoTo n :=
  Nat.pow_lt_pow_right Nat.one_lt_two h

theorem lt_mul_twoTo {m n : Nat} (hm : 0 < m) (hn : 0 < n) : m < m * twoTo n :=
  Nat.lt_mul_iff_one_lt_right hm |>.2 (Nat.one_lt_two_pow hn.ne')

theorem lt_of_twoTo_lt_twoTo {m n : Nat} (h : twoTo m < twoTo n) : m < n :=
  Nat.lt_of_not_le fun hle => Nat.not_lt_of_le (twoTo_le_twoTo hle) h

namespace Binary64

/-! ## The natural number nearest to a quotient -/

/-- A quotient is rounded up from above half a unit on, and to an even number at half a unit. -/
theorem roundDiv_eq (num den : Nat) :
    roundDiv num den = num / den +
      if den < 2 * (num % den) ∨ (2 * (num % den) = den ∧ num / den % 2 = 1) then 1 else 0 := by
  simp only [roundDiv]
  grind

theorem roundDiv_le {num den m : Nat} (h : num < m * den) : roundDiv num den ≤ m := by
  have hdiv : num / den < m := Nat.div_lt_of_lt_mul (by rwa [Nat.mul_comm])
  rw [roundDiv_eq]
  split <;> omega

theorem roundDiv_le_of_le {num den m : Nat} (hden : 0 < den) (h : num ≤ m * den) :
    roundDiv num den ≤ m := by
  obtain hlt | rfl := Nat.lt_or_eq_of_le h
  · exact roundDiv_le hlt
  · exact Nat.le_of_eq (roundDiv_mul_self m hden)

/-- What rounds to an even number or above it is at least half a unit below that number. Only a
quotient right below it can be rounded up to it, and that is odd. -/
theorem le_roundDiv_iff {num den m : Nat} (hden : 0 < den) (heven : m % 2 = 0) (h : num < m * den) :
    m ≤ roundDiv num den ↔ m * den * 2 ≤ 2 * num + den := by
  have hnum : den * (num / den) + num % den = num := Nat.div_add_mod num den
  have hrest : num % den < den := Nat.mod_lt num hden
  have hdiv : num / den < m := Nat.div_lt_of_lt_mul (by rwa [Nat.mul_comm])
  rw [roundDiv_eq]
  obtain rfl | hlow : num / den + 1 = m ∨ num / den + 2 ≤ m := by omega
  · have hm : (num / den + 1) * den = den * (num / den) + den := by
      rw [Nat.succ_mul, Nat.mul_comm]
    split <;> omega
  · have hm : den * (num / den) + 2 * den ≤ m * den := by
      rw [Nat.mul_comm den, ← Nat.add_mul]
      exact Nat.mul_le_mul_right den hlow
    split <;> omega

/-- What is at most half a unit above a number rounds to it, an odd number at half a unit apart. -/
theorem lt_roundDiv_iff {den m rest : Nat} (hden : 0 < den) :
    m < roundDiv (m * den + rest) den ↔ den < 2 * rest ∨ (2 * rest = den ∧ m % 2 = 1) := by
  have hdiv : (m * den + rest) / den = m + rest / den := by
    rw [Nat.add_comm, Nat.add_mul_div_right _ _ hden, Nat.add_comm]
  have hmod : (m * den + rest) % den = rest % den := by
    rw [Nat.add_comm, Nat.add_mul_mod_self_right]
  rw [roundDiv_eq, hdiv, hmod]
  obtain hlow | hhigh := Nat.lt_or_ge rest den
  · rw [Nat.div_eq_of_lt hlow, Nat.mod_eq_of_lt hlow]
    split <;> omega
  · have hunit : 0 < rest / den := Nat.div_pos hhigh hden
    omega

/-- What is less than half a unit away from a number rounds to it. -/
theorem roundDiv_eq_of_near {num den m : Nat} (hlow : 2 * (m * den) < 2 * num + den)
    (hhigh : 2 * num < 2 * (m * den) + den) : roundDiv num den = m := by
  have hden : 0 < den := by omega
  obtain habove | hbelow := Nat.lt_or_ge num (m * den)
  · obtain ⟨m, rfl⟩ : ∃ less, m = less + 1 :=
      Nat.exists_eq_add_one.2 (Nat.pos_of_ne_zero fun h => by simp [h] at habove)
    refine Nat.le_antisymm (roundDiv_le habove) ?_
    rw [Nat.add_one_mul m] at hlow
    obtain ⟨rest, rfl⟩ : ∃ rest, num = m * den + rest := Nat.exists_eq_add_of_le (by omega)
    exact (lt_roundDiv_iff hden).2 (.inl (by omega))
  · obtain ⟨rest, rfl⟩ : ∃ rest, num = m * den + rest := Nat.exists_eq_add_of_le hbelow
    refine Nat.le_antisymm (Nat.not_lt.1 fun h => ?_) ?_
    · have hrest := (lt_roundDiv_iff hden).1 h
      omega
    · rw [roundDiv_eq, Nat.add_comm (m * den), Nat.add_mul_div_right _ _ hden]
      exact (Nat.le_add_left m _).trans (Nat.le_add_right _ _)

/-! ## The double nearest to a quotient -/

theorem inUnits_natCast (num den units : Nat) :
    inUnits num den (units : Int) = (num, den * twoTo units) := by
  simp [inUnits]

theorem inUnits_neg (num den places : Nat) :
    inUnits num den (-(places : Int)) = (num * twoTo places, den) := by
  cases places with
  | zero => simp [inUnits, twoTo]
  | succ places =>
    have hsign : ¬(0 : Int) ≤ -((places + 1 : Nat) : Int) := by omega
    simp only [inUnits, hsign, if_false, Int.neg_neg, Int.toNat_natCast]

/-- The leading digit of a quotient of at least one. -/
theorem log2_div_bounds {num den : Nat} (hden : 0 < den) (h : den ≤ num) :
    twoTo (num / den).log2 * den ≤ num ∧ num < twoTo ((num / den).log2 + 1) * den :=
  ⟨(Nat.le_div_iff_mul_le hden).1 (Nat.log2_self_le (Nat.div_pos h hden).ne'),
    (Nat.div_lt_iff_lt_mul hden).1 Nat.lt_log2_self⟩

/-- A quotient of at least one takes `places + 1` binary digits in units of the place that far below
its leading digit. -/
theorem inUnits_bounds {num den places above below : Nat} (hden : 0 < den) (h : den ≤ num)
    (hunits : inUnits num den (((num / den).log2 : Int) - places) = (above, below)) :
    0 < below ∧ twoTo places * below ≤ above ∧ above < twoTo (places + 1) * below := by
  obtain ⟨hlow, hhigh⟩ := log2_div_bounds hden h
  generalize (num / den).log2 = log at *
  by_cases hlarge : places ≤ log
  · obtain ⟨more, rfl⟩ : ∃ more, log = places + more := ⟨log - places, by omega⟩
    have hexponent : (((places + more : Nat) : Int) - places).toNat = more := by omega
    have hsign : (0 : Int) ≤ ((places + more : Nat) : Int) - places := by omega
    simp only [inUnits, hsign, if_true, hexponent, Prod.mk.injEq] at hunits
    obtain ⟨rfl, rfl⟩ := hunits
    rw [twoTo_add, Nat.mul_assoc] at hlow
    rw [Nat.add_right_comm, twoTo_add, Nat.mul_assoc] at hhigh
    rw [Nat.mul_comm den]
    exact ⟨Nat.mul_pos (twoTo_pos _) hden, hlow, hhigh⟩
  · obtain ⟨more, rfl⟩ : ∃ more, places = log + more := ⟨places - log, by omega⟩
    have hexponent : (-((log : Int) - (log + more : Nat))).toNat = more := by omega
    have hsign : ¬(0 : Int) ≤ (log : Int) - (log + more : Nat) := by omega
    simp only [inUnits, hsign, if_false, hexponent, Prod.mk.injEq] at hunits
    obtain ⟨rfl, rfl⟩ := hunits
    rw [Nat.add_right_comm, twoTo_add, twoTo_add _ more, Nat.mul_right_comm,
      Nat.mul_right_comm _ _ den]
    exact ⟨hden, Nat.mul_le_mul_right _ hlow, Nat.mul_lt_mul_of_pos_right hhigh (twoTo_pos _)⟩

/-- **The last place of the doubles around a quotient of at least one** is 52 places below its
leading digit. The logarithm of a quotient is the difference of the logarithms, or one less. -/
theorem lastPlace_eq {num den : Nat} (hden : 0 < den) (h : den ≤ num) :
    lastPlace num den = ((num / den).log2 : Int) - 52 := by
  obtain ⟨hlow, hhigh⟩ := log2_div_bounds hden h
  have hnum : num ≠ 0 := (Nat.lt_of_lt_of_le hden h).ne'
  have hupper : (num / den).log2 + den.log2 < num.log2 + 1 := by
    refine lt_of_twoTo_lt_twoTo (lt_of_le_of_lt ?_ (Nat.lt_log2_self (n := num)))
    rw [twoTo_add]
    exact le_trans (Nat.mul_le_mul_left _ (Nat.log2_self_le hden.ne')) hlow
  have hlower : num.log2 < (num / den).log2 + 1 + (den.log2 + 1) := by
    refine lt_of_twoTo_lt_twoTo (lt_of_le_of_lt (Nat.log2_self_le hnum) ?_)
    rw [twoTo_add]
    exact lt_of_lt_of_le hhigh (Nat.mul_le_mul_left _ (Nat.le_of_lt Nat.lt_log2_self))
  obtain hlog | hlog : (num.log2 : Int) - den.log2 - 53 = ((num / den).log2 : Int) - (53 : Nat) ∨
      (num.log2 : Int) - den.log2 - 53 = ((num / den).log2 : Int) - (52 : Nat) := by omega
  · rcases hunits : inUnits num den (((num / den).log2 : Int) - (53 : Nat)) with ⟨above, below⟩
    obtain ⟨-, hlow, -⟩ := inUnits_bounds hden h hunits
    simp only [lastPlace, hlog, hunits, hlow, if_true]
    omega
  · rcases hunits : inUnits num den (((num / den).log2 : Int) - (52 : Nat)) with ⟨above, below⟩
    obtain ⟨-, -, hhigh⟩ := inUnits_bounds hden h hunits
    simp only [lastPlace, hlog, hunits, Nat.not_le.2 hhigh, if_false]
    omega

/-- **The double nearest to a quotient of at least one.** -/
theorem nearest_eq {num den above below : Nat} (hden : 0 < den) (h : den ≤ num)
    (hunits : inUnits num den (((num / den).log2 : Int) - 52) = (above, below)) :
    nearest num den =
      if 1024 ≤ (num / den).log2 ∨ ((num / den).log2 = 1023 ∧ twoTo 53 ≤ roundDiv above below)
      then none else some ⟨roundDiv above below, ((num / den).log2 : Int) - 52⟩ := by
  have hnum : num ≠ 0 := (Nat.lt_of_lt_of_le hden h).ne'
  have hlarge : 971 < ((num / den).log2 : Int) - 52 ↔ 1024 ≤ (num / den).log2 := by omega
  have hlast : ((num / den).log2 : Int) - 52 = 971 ↔ (num / den).log2 = 1023 := by omega
  simp only [nearest, hnum, if_false, lastPlace_eq hden h, hunits, hlarge, hlast]

/-- A double is the natural number: it is in their range, and has at most 53 digits before zeros
begin. -/
def IsDouble (n : Nat) : Prop := n < twoTo 1024 ∧ twoTo (n.log2 - 52) ∣ n

instance (n : Nat) : Decidable (IsDouble n) := inferInstanceAs (Decidable (_ ∧ _))

theorem isDouble_twoTo {n : Nat} (h : n < 1024) : IsDouble (twoTo n) := by
  have hlog : (twoTo n).log2 = n := Nat.log2_two_pow
  refine ⟨twoTo_lt_twoTo h, ?_⟩
  rw [hlog]
  exact Nat.pow_dvd_pow 2 (Nat.sub_le n 52)

/-- A number has the digits of the one before it, or begins new ones. -/
theorem log2_succ {n : Nat} (h : n ≠ 0) :
    (n + 1).log2 = n.log2 ∨ n + 1 = twoTo (n.log2 + 1) := by
  have hhigh : n < twoTo (n.log2 + 1) := Nat.lt_log2_self
  refine (Nat.lt_or_eq_of_le hhigh).imp_left fun hlt => ?_
  exact (Nat.log2_eq_iff n.succ_ne_zero).2 ⟨(Nat.log2_self_le h).trans n.le_succ, hlt⟩

/-- Whether a number is a double can be told by the units of the number before it. -/
theorem isDouble_succ_iff {n : Nat} (h : n ≠ 0) :
    IsDouble (n + 1) ↔ n + 1 < twoTo 1024 ∧ twoTo (n.log2 - 52) ∣ n + 1 := by
  rw [IsDouble]
  obtain hlog | hnew := log2_succ h
  · rw [hlog]
  · have hlog : (n + 1).log2 = n.log2 + 1 := by rw [hnew]; exact Nat.log2_two_pow
    rw [hlog, hnew]
    exact and_congr_right fun _ =>
      iff_of_true (Nat.pow_dvd_pow 2 (by omega)) (Nat.pow_dvd_pow 2 (by omega))

/-! ## The integer above a magnitude -/

theorem ceil_of_units (mantissa units : Nat) :
    Signed.ceil ⟨false, mantissa, units⟩ = (mantissa * twoTo units : Nat) := by
  simp [Signed.ceil, Magnitude.ratio]

theorem ceil_of_places (mantissa places : Nat) :
    Signed.ceil ⟨false, mantissa, -(places : Int)⟩ =
      ((mantissa + (twoTo places - 1)) / twoTo places : Nat) := by
  have hunit : 0 < twoTo places := twoTo_pos places
  cases places with
  | zero => simp [Signed.ceil, Magnitude.ratio, twoTo]
  | succ places =>
    have hsign : ¬(0 : Int) ≤ -((places + 1 : Nat) : Int) := by omega
    simp only [Signed.ceil, Magnitude.ratio, hsign, if_false, Int.neg_neg, Int.toNat_natCast,
      Bool.false_eq_true, Nat.add_sub_assoc hunit]

/-- The number of units that a number of parts begins. -/
theorem ceilDiv_eq_iff {parts unit n : Nat} (hunit : 0 < unit) :
    (parts + (unit - 1)) / unit = n + 1 ↔ n * unit < parts ∧ parts ≤ (n + 1) * unit := by
  rw [Nat.div_eq_iff hunit, Nat.add_one_mul]
  omega

theorem ceil_le_one {mantissa places : Nat} (h : mantissa ≤ twoTo places) :
    Signed.ceil ⟨false, mantissa, -(places : Int)⟩ ≤ 1 := by
  have hunit : 0 < twoTo places := twoTo_pos places
  have htwo : (mantissa + (twoTo places - 1)) / twoTo places < 2 :=
    Nat.div_lt_of_lt_mul (by omega)
  rw [ceil_of_places]
  omega

end Binary64

namespace Number

open Binary64

variable {num den : Nat}

/-! ## The integer above a rounded quotient -/

theorem ceilQuotient_natCast (hden : 0 < den) :
    ceilQuotient num den =
      match nearest num den with
      | some size => .ok (Signed.ceil ⟨false, size⟩)
      | none => .error .quotientTooLarge := by
  have hzero : (den : Int) ≠ 0 := by omega
  have hnum : decide ((num : Int) < 0) = false := decide_eq_false (by omega)
  have hsign : decide ((den : Int) < 0) = false := decide_eq_false (by omega)
  simp only [ceilQuotient, intQuotient, hzero, if_false, Int.natAbs_natCast, hnum, hsign]
  cases nearest num den <;> simp [Except.map]

/-- The integer above a rounded fraction is at most one. The last place of the doubles around a
fraction is far behind the point. -/
theorem ceilQuotient_of_fraction (h : num < den) :
    ∃ n : Int, ceilQuotient num den = .ok n ∧ n ≤ 1 := by
  have hden : 0 < den := Nat.zero_lt_of_lt h
  suffices hfraction : ∃ mantissa places : Nat,
      nearest num den = some ⟨mantissa, -(places : Int)⟩ ∧ mantissa ≤ twoTo places by
    obtain ⟨mantissa, places, hnearest, hmantissa⟩ := hfraction
    rw [ceilQuotient_natCast hden, hnearest]
    exact ⟨_, rfl, ceil_le_one hmantissa⟩
  by_cases hnum : num = 0
  · exact ⟨0, 1074, by simp [nearest, hnum], Nat.zero_le _⟩
  have hlog : num.log2 ≤ den.log2 :=
    (Nat.le_log2 hden.ne').2 ((Nat.log2_self_le hnum).trans (Nat.le_of_lt h))
  obtain ⟨places, hplaces⟩ : ∃ places : Nat, lastPlace num den = -(places : Int) := by
    refine ⟨(-lastPlace num den).toNat, ?_⟩
    simp only [lastPlace]
    split <;> omega
  have hrange : ¬(971 < -(places : Int) ∨ (-(places : Int) = 971 ∧
      twoTo 53 ≤ roundDiv (num * twoTo places) den)) := by omega
  refine ⟨roundDiv (num * twoTo places) den, places, ?_, roundDiv_le ?_⟩
  · simp only [nearest, hnum, if_false, hplaces, inUnits_neg, hrange]
  · rw [Nat.mul_comm]
    exact Nat.mul_lt_mul_of_pos_left h (twoTo_pos places)

/-- The integer above a rounded quotient of few digits. -/
theorem ceilQuotient_of_few (hden : 0 < den) (h : den ≤ num) (hfew : num / den < twoTo 53) :
    ceilQuotient num den =
      let places := 52 - (num / den).log2
      .ok ((roundDiv (num * twoTo places) den + (twoTo places - 1)) / twoTo places : Nat) := by
  have hlog : (num / den).log2 < 53 :=
    (Nat.log2_lt (Nat.div_pos h hden).ne').2 hfew
  obtain ⟨places, hplaces⟩ : ∃ places, places = 52 - (num / den).log2 := ⟨_, rfl⟩
  have hexponent : ((num / den).log2 : Int) - 52 = -(places : Int) := by omega
  have hnearest := nearest_eq hden h (hexponent ▸ inUnits_neg num den places)
  rw [if_neg (by omega), hexponent] at hnearest
  rw [ceilQuotient_natCast hden, hnearest, ← hplaces]
  exact congrArg Except.ok (ceil_of_places _ _)

/-- The integer above a rounded quotient of many digits. -/
theorem ceilQuotient_of_many (hden : 0 < den) (hmany : twoTo 53 ≤ num / den) :
    ceilQuotient num den =
      let log := (num / den).log2
      let mantissa := roundDiv num (den * twoTo (log - 52))
      if 1024 ≤ log ∨ (log = 1023 ∧ twoTo 53 ≤ mantissa) then .error .quotientTooLarge
      else .ok (mantissa * twoTo (log - 52) : Nat) := by
  have hquotient : num / den ≠ 0 := (Nat.lt_of_lt_of_le (twoTo_pos 53) hmany).ne'
  have h : den ≤ num := Nat.not_lt.1 fun hlt => hquotient (Nat.div_eq_of_lt hlt)
  have hlog : 53 ≤ (num / den).log2 := (Nat.le_log2 hquotient).2 hmany
  have hexponent : ((num / den).log2 : Int) - 52 = ((num / den).log2 - 52 : Nat) := by omega
  have hnearest := nearest_eq hden h (hexponent ▸ inUnits_natCast num den _)
  rw [ceilQuotient_natCast hden, hnearest, hexponent]
  dsimp only
  split_ifs
  · rfl
  · exact congrArg Except.ok (ceil_of_units _ _)

/-- **A quotient of few digits is rounded up** from above half a unit of its last place on, and from
half a unit if that is even. Half a unit is even unless the unit is one. -/
theorem ceilQuotient_of_few_iff {whole rest : Nat} (hrest : 0 < rest) (hle : rest ≤ den)
    (hone : den ≤ whole * den + rest) (hfew : (whole * den + rest) / den < twoTo 53) :
    ceilQuotient (whole * den + rest : Nat) den = .ok (whole + 1 : Nat) ↔
      den < rest * twoTo (53 - whole.log2) ∨
        (rest * twoTo (53 - whole.log2) = den ∧ whole.log2 = 52 ∧ whole % 2 = 1) := by
  have hden : 0 < den := Nat.lt_of_lt_of_le hrest hle
  have hlow : whole ≤ (whole * den + rest) / den :=
    (Nat.le_div_iff_mul_le hden).2 (Nat.le_add_right _ _)
  have hlog : whole.log2 < 53 := by
    by_cases hzero : whole = 0
    · simp [hzero]
    · exact (Nat.log2_lt hzero).2 (Nat.lt_of_le_of_lt hlow hfew)
  have hnext (unit : Nat) : roundDiv ((whole * den + rest) * unit) den ≤ (whole + 1) * unit := by
    refine roundDiv_le_of_le hden ?_
    rw [Nat.mul_right_comm, Nat.add_one_mul whole den]
    exact Nat.mul_le_mul_right unit (Nat.add_le_add_left hle _)
  rw [ceilQuotient_of_few hden hone hfew]
  simp only [Except.ok.injEq, Int.natCast_inj]
  rw [ceilDiv_eq_iff (twoTo_pos _), and_iff_left (hnext _), Nat.add_mul, Nat.mul_right_comm,
    lt_roundDiv_iff hden]
  obtain rfl | hlt := Nat.eq_or_lt_of_le hle
  · have hleft := Nat.le_mul_of_pos_right rest
      (twoTo_pos (52 - ((whole * rest + rest) / rest).log2))
    exact iff_of_true (.inl (by omega)) (.inl (lt_mul_twoTo hrest (by omega)))
  · have hquotient : (whole * den + rest) / den = whole := by
      rw [Nat.add_comm, Nat.add_mul_div_right _ _ hden, Nat.div_eq_of_lt hlt, Nat.zero_add]
    obtain ⟨places, hplaces⟩ : ∃ places, places = 52 - whole.log2 := ⟨_, rfl⟩
    have hunit : twoTo (53 - whole.log2) = 2 * twoTo places := by
      rw [show 53 - whole.log2 = places + 1 by omega, twoTo_succ, Nat.mul_comm]
    rw [hquotient, ← hplaces, hunit, Nat.mul_left_comm]
    cases places with
    | zero =>
      simp only [show twoTo 0 = 1 from rfl, Nat.mul_one]
      omega
    | succ places =>
      have heven : whole * twoTo (places + 1) % 2 = 0 := by
        rw [twoTo_succ, ← Nat.mul_assoc]
        exact Nat.mul_mod_left _ 2
      omega

/-- An integer above a quotient by less than one is its whole part or the next one. -/
theorem eq_div_or_eq_succ {above : Nat} (hlow : num ≤ above * den)
    (hhigh : above * den < num + den) : above = num / den ∨ above = num / den + 1 := by
  have hden : 0 < den := by omega
  have hle : num / den ≤ above := Nat.div_le_of_le_mul (by rwa [Nat.mul_comm])
  have hnext : above ≤ num / den + 1 := by
    refine Nat.le_of_lt_succ (Nat.lt_of_mul_lt_mul_right (hhigh.trans_le ?_) (a := den))
    have := Nat.lt_div_mul_add hden (a := num)
    rw [Nat.succ_mul, Nat.add_one_mul]
    omega
  omega

/-- A quotient less than one below a multiple of a unit of at least two is rounded to it. -/
theorem roundDiv_unit_eq {mantissa places : Nat} (hplaces : 1 ≤ places)
    (hlow : num ≤ twoTo places * mantissa * den)
    (hhigh : twoTo places * mantissa * den < num + den) :
    roundDiv num (den * twoTo places) = mantissa := by
  have htwo : den * 2 ≤ den * twoTo places :=
    Nat.mul_le_mul_left den (twoTo_le_twoTo hplaces)
  have hproduct : twoTo places * mantissa * den = mantissa * (den * twoTo places) := by ring
  exact roundDiv_eq_of_near (by omega) (by omega)

/-- What is rounded to a double is less than the first number that none comes near. Rounding decides
only for numbers that have as many digits as the largest double. -/
theorem rounded_lt {quotient mantissa places : Nat} (hquotient : quotient < twoTo (places + 53))
    (hnext : mantissa * twoTo places ≤ quotient + 1)
    (hover : ¬ (1024 ≤ places + 52 ∨ (places + 52 = 1023 ∧ twoTo 53 ≤ mantissa))) :
    mantissa * twoTo places < twoTo 1024 := by
  obtain hfew | rfl : places < 971 ∨ places = 971 := by omega
  · have hsmall : twoTo (places + 53) ≤ twoTo 1023 := twoTo_le_twoTo (by omega)
    have hgap : twoTo 1024 = twoTo 1023 * 2 := twoTo_succ 1023
    have hpositive : 0 < twoTo 1023 := twoTo_pos 1023
    omega
  · rw [show twoTo 1024 = twoTo 53 * twoTo 971 by rw [← twoTo_add]]
    exact Nat.mul_lt_mul_of_pos_right (by omega) (twoTo_pos 971)

/-- A multiple of a last place in the range of doubles is not rounded out of it. -/
theorem not_over_of_lt {quotient mantissa places : Nat} (hself : twoTo (places + 52) ≤ quotient)
    (hle : quotient ≤ twoTo places * mantissa) (hrange : twoTo places * mantissa < twoTo 1024) :
    ¬ (1024 ≤ places + 52 ∨ (places + 52 = 1023 ∧ twoTo 53 ≤ mantissa)) := by
  rintro (hover | ⟨hover, hmantissa⟩)
  · have := twoTo_le_twoTo hover
    omega
  · obtain rfl : places = 971 := by omega
    rw [show twoTo 1024 = twoTo 971 * twoTo 53 by rw [← twoTo_add]] at hrange
    exact Nat.not_le.2 hrange (Nat.mul_le_mul_left _ hmantissa)

/-- **A quotient of many digits is rounded to the integer above it** exactly if that is a double. -/
theorem ceilQuotient_of_many_iff {above : Nat} (hlow : num ≤ above * den)
    (hhigh : above * den < num + den) (hmany : twoTo 53 ≤ num / den) :
    ceilQuotient num den = .ok (above : Nat) ↔ IsDouble above := by
  have hden : 0 < den := by omega
  have hquotient : num / den ≠ 0 := (Nat.lt_of_lt_of_le (twoTo_pos 53) hmany).ne'
  have habove := eq_div_or_eq_succ hlow hhigh
  have hself : twoTo (num / den).log2 ≤ num / den := Nat.log2_self_le hquotient
  have hself' : num / den < twoTo ((num / den).log2 + 1) := Nat.lt_log2_self
  have hlog : 53 ≤ (num / den).log2 := (Nat.le_log2 hquotient).2 hmany
  have hdouble : IsDouble above ↔ above < twoTo 1024 ∧ twoTo ((num / den).log2 - 52) ∣ above := by
    obtain rfl | rfl := habove
    · rfl
    · exact isDouble_succ_iff hquotient
  rw [hdouble, ceilQuotient_of_many hden hmany]
  dsimp only
  generalize num / den = quotient at *
  obtain ⟨places, hplaces⟩ : ∃ places, quotient.log2 = places + 52 := ⟨quotient.log2 - 52, by omega⟩
  rw [hplaces] at hself hself'
  rw [hplaces, Nat.add_sub_cancel]
  constructor
  · intro h
    split_ifs at h with hover
    obtain rfl : roundDiv num (den * twoTo places) * twoTo places = above :=
      Int.natCast_inj.1 (Except.ok.inj h)
    exact ⟨rounded_lt hself' (by omega) hover, Nat.dvd_mul_left _ _⟩
  · rintro ⟨hrange, mantissa, rfl⟩
    rw [roundDiv_unit_eq (by omega) hlow hhigh, if_neg (not_over_of_lt hself (by omega) hrange),
      Nat.mul_comm]

/-- **Rounding a quotient does not change the integer above it**, from one on. A quotient of at most
53 digits before its point lies above the last whole number before it by more than half a unit of
its last place, or by half a unit and is rounded up; above there, the integer is a double. -/
def SurvivesRounding (num den : Nat) : Prop :=
  let whole := (num - 1) / den
  let rest := num - whole * den
  whole = 0 ∨
    (whole < twoTo 53 ∧ (den < rest * twoTo (53 - whole.log2) ∨
      (rest * twoTo (53 - whole.log2) = den ∧ whole.log2 = 52 ∧ whole % 2 = 1))) ∨
    (twoTo 53 ≤ whole ∧ IsDouble (whole + 1))

instance (num den : Nat) : Decidable (SurvivesRounding num den) :=
  inferInstanceAs (Decidable (_ ∨ _ ∧ _ ∨ _ ∧ _))

theorem map_max_eq_ok_iff {e : Except Fault Int} {n : Nat} (h : n ≠ 0) :
    e.map (max 1) = .ok (n + 1 : Nat) ↔ e = .ok (n + 1 : Nat) := by
  cases e with
  | error => simp [Except.map]
  | ok value =>
    simp only [Except.map, Except.ok.injEq]
    omega

/-- What a number is beyond the last multiple of another one before it. -/
theorem exists_rest (hden : 0 < den) (hnum : 0 < num) :
    ∃ rest, 0 < rest ∧ rest ≤ den ∧ num = (num - 1) / den * den + rest := by
  refine ⟨(num - 1) % den + 1, Nat.succ_pos _, Nat.mod_lt _ hden, ?_⟩
  have hdiv := Nat.div_add_mod' (num - 1) den
  omega

/-- Where a quotient first has many digits, it is a whole number. -/
theorem eq_twoTo_of_lt {whole rest : Nat} (hden : 0 < den) (hle : rest ≤ den)
    (hmany : twoTo 53 ≤ (whole * den + rest) / den) (hlt : whole < twoTo 53) :
    whole + 1 = twoTo 53 ∧ rest = den := by
  have hmultiple := (Nat.le_div_iff_mul_le hden).1 hmany
  have hdigits : twoTo 53 * den ≤ (whole + 1) * den := by
    rw [Nat.add_one_mul]
    exact hmultiple.trans (Nat.add_le_add_left hle _)
  have hnext : whole + 1 = twoTo 53 :=
    Nat.le_antisymm hlt (Nat.le_of_mul_le_mul_right hdigits hden)
  rw [← hnext, Nat.add_one_mul] at hmultiple
  exact ⟨hnext, by omega⟩

/-- **The integer above a rounded quotient**, from one on, is the one above the quotient exactly if
it survives rounding. -/
theorem ceilQuotient_iff (hden : 0 < den) :
    (ceilQuotient num den).map (max 1) = .ok ((num - 1) / den + 1 : Nat) ↔
      SurvivesRounding num den := by
  obtain hfraction | hone := Nat.lt_or_ge num den
  · have hwhole : (num - 1) / den = 0 := Nat.div_eq_of_lt (by omega)
    obtain ⟨n, hn, hle⟩ := ceilQuotient_of_fraction hfraction
    rw [hwhole, hn]
    refine iff_of_true ?_ (.inl hwhole)
    simp [Except.map, Int.max_eq_left hle]
  obtain ⟨rest, hrest, hle, hnum⟩ := exists_rest hden (Nat.lt_of_lt_of_le hden hone)
  simp only [SurvivesRounding]
  generalize (num - 1) / den = whole at *
  subst hnum
  rw [Nat.add_sub_cancel_left]
  obtain hfew | hmany := Nat.lt_or_ge ((whole * den + rest) / den) (twoTo 53)
  · have hiff := ceilQuotient_of_few_iff hrest hle hone hfew
    have hbefore : whole ≤ (whole * den + rest) / den :=
      (Nat.le_div_iff_mul_le hden).2 (Nat.le_add_right _ _)
    by_cases hwhole : whole = 0
    · subst hwhole
      obtain rfl : rest = den := by omega
      rw [hiff.2 (.inl (lt_mul_twoTo hden (by decide)))]
      exact iff_of_true rfl (.inl rfl)
    · have hlt : whole < twoTo 53 := Nat.lt_of_le_of_lt hbefore hfew
      rw [map_max_eq_ok_iff hwhole, hiff]
      simp only [hwhole, hlt, Nat.not_le.2 hlt, false_or, true_and, false_and, or_false]
  · have hiff : ceilQuotient (whole * den + rest : Nat) den = .ok (whole + 1 : Nat) ↔
        IsDouble (whole + 1) := by
      refine ceilQuotient_of_many_iff ?_ ?_ hmany <;> rw [Nat.add_one_mul] <;> omega
    have hwhole : whole ≠ 0 := by
      rintro rfl
      have htwo : 2 * den ≤ 0 * den + rest :=
        (Nat.le_div_iff_mul_le hden).1 (Nat.le_trans (by decide) hmany)
      omega
    rw [map_max_eq_ok_iff hwhole, hiff]
    obtain hlt | hge := Nat.lt_or_ge whole (twoTo 53)
    · obtain ⟨hnext, rfl⟩ := eq_twoTo_of_lt hden hle hmany hlt
      have hlog : whole.log2 < 53 := (Nat.log2_lt hwhole).2 hlt
      refine iff_of_true ?_ (.inr (.inl ⟨hlt, .inl (lt_mul_twoTo hden (by omega))⟩))
      rw [hnext]
      exact isDouble_twoTo (by decide)
    · simp only [hwhole, Nat.not_lt.2 hge, hge, false_or, true_and, false_and]

/-- Up to 2 ^ 53 every quotient survives. -/
theorem survivesRounding_of_le (hden : 0 < den) (h : num ≤ twoTo 53) :
    SurvivesRounding num den := by
  obtain rfl | hnum := num.eq_zero_or_pos
  · exact .inl (Nat.zero_div den)
  obtain ⟨rest, hrest, -, hnum⟩ := exists_rest hden hnum
  simp only [SurvivesRounding]
  generalize (num - 1) / den = whole at *
  subst hnum
  rw [Nat.add_sub_cancel_left]
  by_cases hwhole : whole = 0
  · exact .inl hwhole
  have hself : twoTo whole.log2 ≤ whole := Nat.log2_self_le hwhole
  have hproduct : whole * den < twoTo 53 := by omega
  have hlt : whole < twoTo 53 :=
    Nat.lt_of_le_of_lt (Nat.le_mul_of_pos_right whole hden) hproduct
  have hlog : whole.log2 < 53 := (Nat.log2_lt hwhole).2 hlt
  refine .inr (.inl ⟨hlt, .inl (Nat.lt_of_lt_of_le ?_ (Nat.le_mul_of_pos_left _ hrest))⟩)
  refine Nat.lt_of_mul_lt_mul_left (a := twoTo whole.log2) ?_
  rw [← twoTo_add, Nat.add_sub_cancel' (Nat.le_of_lt hlog)]
  exact Nat.lt_of_le_of_lt (Nat.mul_le_mul_right den hself) hproduct

end Number

end SearchIndex
