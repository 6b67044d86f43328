/-
This file shows how a whole number of any size is rounded when it is read into the binary64 format,
and which integer of 64 bits is made of it again.
-/

import Mathlib
import TypedClient.Number.Decimal

namespace TypedClient

namespace Binary64

theorem unitsOfOne_eq : ∃ bits, unitsOfOne = 2 ^ bits := by
  unfold unitsOfOne
  generalize 1074 = bits
  exact ⟨bits, rfl⟩

/-- The first whole number that is too large for a finite number. -/
def wholeLimit : Nat := 2 ^ 1024

theorem unitLimit_eq_mul : unitLimit = wholeLimit * unitsOfOne := by
  unfold unitLimit wholeLimit unitsOfOne
  generalize 1074 = low, 1024 = high
  exact Nat.pow_add 2 high low

/-- Numbers of fewer than 1024 bits are finite. -/
theorem two_pow_lt_wholeLimit {bits : Nat} (short : bits < 1024) : 2 ^ bits < wholeLimit := by
  unfold wholeLimit
  generalize 1024 = high at short
  exact Nat.pow_lt_pow_right (by decide) short

-- The powers are too large to be computed.
attribute [local irreducible] unitsOfOne unitLimit wholeLimit

theorem unitsOfOne_pos : 0 < unitsOfOne := by
  obtain ⟨bits, one⟩ := unitsOfOne_eq
  rw [one]
  exact Nat.two_pow_pos bits

/-- Numbers of 54 bits are finite in units too. -/
theorem le_unitLimit : 2 ^ 53 * unitsOfOne ≤ unitLimit := by
  rw [unitLimit_eq_mul]
  exact Nat.mul_le_mul_right _ (two_pow_lt_wholeLimit (by decide)).le

/-- Neighbouring numbers differ. -/
theorem spacing_pos (units : Nat) : 0 < spacing units :=
  Nat.two_pow_pos _

theorem nearestQuotient_of_dvd {numerator denominator : Nat} (positive : 0 < denominator)
    (whole : denominator ∣ numerator) :
    nearestQuotient numerator denominator * denominator = numerator := by
  have noRest : numerator % denominator = 0 := Nat.mod_eq_zero_of_dvd whole
  have kept : nearestQuotient numerator denominator = numerator / denominator := by
    simp [nearestQuotient, noRest, positive.ne]
  rw [kept, Nat.div_mul_cancel whole]

/-- The nearest whole number is not less than the quotient rounded down. -/
theorem div_le_nearestQuotient (numerator denominator : Nat) :
    numerator / denominator ≤ nearestQuotient numerator denominator := by
  simp only [nearestQuotient]
  split <;> omega

/-- A common factor does not change which whole number is nearest to a quotient. -/
theorem nearestQuotient_mul_right (numerator denominator : Nat) {factor : Nat}
    (positive : 0 < factor) :
    nearestQuotient (numerator * factor) (denominator * factor) =
      nearestQuotient numerator denominator := by
  have above : 2 * (numerator % denominator * factor) > denominator * factor ↔
      2 * (numerator % denominator) > denominator := by
    rw [← Nat.mul_assoc]
    exact Nat.mul_lt_mul_right positive
  have tie : 2 * (numerator % denominator * factor) = denominator * factor ↔
      2 * (numerator % denominator) = denominator := by
    rw [← Nat.mul_assoc]
    exact Nat.mul_left_inj positive.ne'
  simp only [nearestQuotient, Nat.mul_div_mul_right _ _ positive, Nat.mul_mod_mul_right, above,
    Bool.or_eq_true, decide_eq_true_eq, Bool.and_eq_true, beq_iff_eq, tie]

/-- Between numbers of 53 bits lie no other whole numbers. -/
theorem spacing_of_small {value : Nat} (small : value < 2 ^ 53) : spacing value = 1 := by
  have short : value.log2 < 53 := by
    rcases Nat.eq_zero_or_pos value with rfl | positive
    · decide
    · exact (Nat.log2_lt positive.ne').mpr small
  rw [spacing, Nat.sub_eq_zero_of_le (by omega), Nat.pow_eq, Nat.pow_zero]

/-- A number is less than 2 to the power 53 distances between its neighbours. -/
theorem lt_mul_spacing (value : Nat) : value < 2 ^ 53 * spacing value := by
  rw [spacing, Nat.pow_eq, ← Nat.pow_add]
  exact Nat.lt_log2_self.trans_le (Nat.pow_le_pow_right (by decide) (by omega))

/-- A larger number has its neighbours at the same distance as a count of units. -/
theorem spacing_mul_unitsOfOne {value : Nat} (large : 2 ^ 53 ≤ value) :
    spacing (value * unitsOfOne) = spacing value * unitsOfOne := by
  obtain ⟨bits, one⟩ := unitsOfOne_eq
  have nonzero : value ≠ 0 := (Nat.two_pow_pos _ |>.trans_le large).ne'
  have long : 53 ≤ value.log2 := (Nat.le_log2 nonzero).mpr large
  have longer : (value * 2 ^ bits).log2 = value.log2 + bits := by
    have least : 2 ^ (value.log2 + bits) ≤ value * 2 ^ bits := by
      rw [Nat.pow_add]
      exact Nat.mul_le_mul_right _ (Nat.log2_self_le nonzero)
    have greatest : value * 2 ^ bits < 2 ^ (value.log2 + 1 + bits) := by
      rw [Nat.pow_add]
      exact Nat.mul_lt_mul_of_pos_right Nat.lt_log2_self (Nat.two_pow_pos bits)
    have some : value * 2 ^ bits ≠ 0 := (Nat.two_pow_pos _ |>.trans_le least).ne'
    have lower := (Nat.le_log2 some).mpr least
    have upper := (Nat.log2_lt some).mpr greatest
    omega
  rw [spacing, spacing, one, longer, Nat.pow_eq, Nat.pow_eq, ← Nat.pow_add]
  congr 1
  omega

/-- A whole number of 53 bits is a number of the format. -/
theorem ofQuotient_of_small {value : Nat} (small : value < 2 ^ 53) :
    ofQuotient false value 1 = .finite false (value * unitsOfOne) := by
  obtain ⟨bits, one⟩ := unitsOfOne_eq
  have bounded : value * unitsOfOne < 2 ^ 53 * unitsOfOne :=
    Nat.mul_lt_mul_of_pos_right small unitsOfOne_pos
  have finite : value * unitsOfOne < unitLimit := by
    exact bounded.trans_le le_unitLimit
  have fine : spacing (value * unitsOfOne) ∣ unitsOfOne := by
    have highest : (value * unitsOfOne).log2 < 53 + bits := by
      rcases Nat.eq_zero_or_pos (value * unitsOfOne) with zero | positive
      · simp [zero]
      · rw [Nat.log2_lt positive.ne', Nat.pow_add, ← one]
        exact bounded
    rw [one] at highest ⊢
    exact Nat.pow_dvd_pow 2 (by omega)
  have same := nearestQuotient_of_dvd (spacing_pos _) (fine.mul_left value)
  simp only [ofQuotient, Nat.div_one, Nat.one_mul, same, finite, if_true]

/-- A whole number rounded to its first 53 bits; a tie goes to the even neighbour. -/
def rounded (value : Nat) : Nat :=
  nearestQuotient value (spacing value) * spacing value

theorem rounded_of_small {value : Nat} (small : value < 2 ^ 53) : rounded value = value := by
  rw [rounded, spacing_of_small small]
  exact nearestQuotient_of_dvd (by decide) (one_dvd value)

/-- A whole number is not rounded exactly if it is a multiple of the distance between its
neighbours. -/
theorem rounded_eq_self_iff {value : Nat} : rounded value = value ↔ spacing value ∣ value := by
  constructor
  · intro same
    have multiple : spacing value ∣ rounded value := Nat.dvd_mul_left _ _
    rwa [same] at multiple
  · exact nearestQuotient_of_dvd (spacing_pos value)

/-- A whole number is short if it has at most 53 bits in front of its last zeros. -/
def IsShort (value : Nat) : Prop :=
  ∃ significand < 2 ^ 53, ∃ zeros, value = significand * 2 ^ zeros

/-- A whole number is not rounded exactly if it is short. -/
theorem rounded_eq_self_iff_isShort {value : Nat} : rounded value = value ↔ IsShort value := by
  rw [rounded_eq_self_iff]
  constructor
  · rintro ⟨significand, whole⟩
    have small : spacing value * significand < spacing value * 2 ^ 53 := by
      rw [← whole, Nat.mul_comm]
      exact lt_mul_spacing value
    refine ⟨significand, lt_of_mul_lt_mul_left' small, value.log2 - 52, ?_⟩
    rwa [Nat.mul_comm]
  · rintro ⟨significand, small, zeros, same⟩
    have few : value.log2 < 53 + zeros := by
      rcases Nat.eq_zero_or_pos value with zero | positive
      · rw [zero, Nat.log2_zero]
        omega
      · rw [Nat.log2_lt positive.ne', same, Nat.pow_add]
        exact Nat.mul_lt_mul_of_pos_right small (Nat.two_pow_pos zeros)
    calc spacing value ∣ 2 ^ zeros := Nat.pow_dvd_pow 2 (by omega)
      _ ∣ value := same ▸ Nat.dvd_mul_left _ _

/-- A whole number is read as itself, rounded, or as infinite. -/
theorem ofQuotient_eq_rounded (value : Nat) :
    ofQuotient false value 1 =
      if rounded value < wholeLimit then .finite false (rounded value * unitsOfOne)
      else .infinite false := by
  rcases Nat.lt_or_ge value (2 ^ 53) with small | large
  · have finite : value < wholeLimit := small.trans (two_pow_lt_wholeLimit (by decide))
    rw [rounded_of_small small, ofQuotient_of_small small, if_pos finite]
  · have units : nearestQuotient (value * unitsOfOne) (spacing (value * unitsOfOne)) *
        spacing (value * unitsOfOne) = rounded value * unitsOfOne := by
      rw [spacing_mul_unitsOfOne large, nearestQuotient_mul_right _ _ unitsOfOne_pos, rounded,
        Nat.mul_assoc]
    simp only [ofQuotient, Nat.div_one, Nat.one_mul, units, unitLimit_eq_mul,
      Nat.mul_lt_mul_right unitsOfOne_pos]

/-- The first bit of a number is a whole count of the distances between its neighbours. -/
theorem two_pow_log2_eq {value : Nat} (large : 2 ^ 53 ≤ value) :
    2 ^ value.log2 = 2 ^ 52 * spacing value := by
  have nonzero : value ≠ 0 := (Nat.two_pow_pos _ |>.trans_le large).ne'
  have long : 53 ≤ value.log2 := (Nat.le_log2 nonzero).mpr large
  rw [spacing, Nat.pow_eq, ← Nat.pow_add]
  congr 1
  omega

/-- Rounding does not take a number below a power of two. -/
theorem two_pow_le_rounded {value bits : Nat} (large : 2 ^ bits ≤ value) :
    2 ^ bits ≤ rounded value := by
  rcases Nat.lt_or_ge value (2 ^ 53) with small | longer
  · rwa [rounded_of_small small]
  · have nonzero : value ≠ 0 := (Nat.two_pow_pos _ |>.trans_le large).ne'
    have reached : 2 ^ 52 ≤ nearestQuotient value (spacing value) := by
      refine le_trans ?_ (div_le_nearestQuotient _ _)
      rw [Nat.le_div_iff_mul_le (spacing_pos value), ← two_pow_log2_eq longer]
      exact Nat.log2_self_le nonzero
    calc 2 ^ bits ≤ 2 ^ value.log2 :=
          Nat.pow_le_pow_right (by decide) ((Nat.le_log2 nonzero).mpr large)
      _ = 2 ^ 52 * spacing value := two_pow_log2_eq longer
      _ ≤ rounded value := Nat.mul_le_mul_right _ reached

/-- Rounding does not take a number beyond a power of two. -/
theorem rounded_le_two_pow {value bits : Nat} (small : value < 2 ^ bits) :
    rounded value ≤ 2 ^ bits := by
  rcases Nat.lt_or_ge value (2 ^ 53) with smaller | large
  · rw [rounded_of_small smaller]
    exact small.le
  · have nonzero : value ≠ 0 := (Nat.two_pow_pos _ |>.trans_le large).ne'
    have next : 2 ^ (value.log2 + 1) = 2 ^ 53 * spacing value := by
      rw [Nat.pow_succ, two_pow_log2_eq large]
      ring
    have quotient : value / spacing value < 2 ^ 53 :=
      (Nat.div_lt_iff_lt_mul (spacing_pos value)).mpr (lt_mul_spacing value)
    have reached : nearestQuotient value (spacing value) ≤ 2 ^ 53 := by
      rw [nearestQuotient]
      split <;> omega
    calc rounded value ≤ 2 ^ 53 * spacing value := Nat.mul_le_mul_right _ reached
      _ = 2 ^ (value.log2 + 1) := next.symm
      _ ≤ 2 ^ bits := Nat.pow_le_pow_right (by decide) ((Nat.log2_lt nonzero).mpr small)

/-- The nearest whole number stays below an even limit up to half a unit below it. -/
theorem nearestQuotient_lt_iff {numerator half limit : Nat} (positive : 0 < half)
    (even : limit % 2 = 0) (below : numerator < limit * (2 * half)) :
    nearestQuotient numerator (2 * half) < limit ↔ numerator < limit * (2 * half) - half := by
  have parts : 2 * half * (numerator / (2 * half)) + numerator % (2 * half) = numerator :=
    Nat.div_add_mod _ _
  have rest : numerator % (2 * half) < 2 * half := Nat.mod_lt _ (by omega)
  have quotient : numerator / (2 * half) < limit :=
    (Nat.div_lt_iff_lt_mul (by omega)).mpr below
  rw [nearestQuotient]
  generalize numerator / (2 * half) = whole at *
  generalize numerator % (2 * half) = part at *
  rcases Nat.lt_or_ge (whole + 1) limit with inner | last
  · have room : 2 * half * (whole + 2) ≤ limit * (2 * half) := by
      rw [Nat.mul_comm limit]
      exact Nat.mul_le_mul_left _ inner
    rw [Nat.mul_add] at room
    constructor
    · intro _
      omega
    · intro _
      split <;> omega
  · have top : limit = whole + 1 := by omega
    subst top
    have odd : whole % 2 = 1 := by omega
    have product : (whole + 1) * (2 * half) = 2 * half * whole + 2 * half := by ring
    simp only [product, odd, beq_self_eq_true, Bool.and_true, Bool.or_eq_true, decide_eq_true_eq,
      beq_iff_eq]
    constructor
    · intro kept
      split at kept <;> omega
    · intro _
      split <;> omega

/-- Rounding takes a number to a power of two, or beyond, from half a distance below it on. -/
theorem rounded_lt_iff {value bits : Nat} (wide : 54 ≤ bits) :
    rounded value < 2 ^ bits ↔ value < 2 ^ bits - 2 ^ (bits - 54) := by
  obtain ⟨more, rfl⟩ := Nat.exists_eq_add_of_le wide
  have whole : 2 ^ (54 + more) = 2 ^ 53 * (2 * 2 ^ more) := by ring
  rw [Nat.add_sub_cancel_left, whole]
  have half : 0 < 2 ^ more := Nat.two_pow_pos more
  have first : 2 ^ (53 + more) = 2 ^ 52 * (2 * 2 ^ more) := by ring
  rcases Nat.lt_or_ge value (2 ^ 52 * (2 * 2 ^ more)) with lower | upper
  · have kept := rounded_le_two_pow (first ▸ lower)
    rw [first] at kept
    omega
  · rcases Nat.lt_or_ge value (2 ^ 53 * (2 * 2 ^ more)) with inside | beyond
    · have nonzero : value ≠ 0 := by omega
      have least := (Nat.le_log2 nonzero).mpr (first ▸ upper)
      have greatest := (Nat.log2_lt nonzero).mpr (whole ▸ inside)
      have distance : spacing value = 2 * 2 ^ more := by
        rw [spacing, Nat.pow_eq, ← Nat.pow_succ']
        congr 1
        omega
      rw [rounded, distance, Nat.mul_lt_mul_right (by omega)]
      exact nearestQuotient_lt_iff half (by decide) inside
    · have kept := two_pow_le_rounded (whole ▸ beyond)
      rw [whole] at kept
      omega

/-- The least whole number that is read as infinite. -/
def leastInfinite : Nat := wholeLimit - 2 ^ 970

/-- A number is rounded to a finite one below the least infinite number. -/
theorem rounded_lt_wholeLimit_iff {value : Nat} :
    rounded value < wholeLimit ↔ value < leastInfinite := by
  have distance : 970 = 1024 - 54 := rfl
  rw [leastInfinite, wholeLimit, distance]
  generalize wide : 1024 = bits
  exact rounded_lt_iff (wide ▸ by decide)

/-- A number with many decimal digits is infinite. -/
theorem leastInfinite_le_ten_pow {length : Nat} (long : 400 ≤ length) :
    leastInfinite ≤ 10 ^ length := by
  have enough : 1024 ≤ 3 * length := by omega
  have limit : wholeLimit ≤ 2 ^ (3 * length) := by
    rw [wholeLimit]
    generalize 1024 = bits at enough
    exact Nat.pow_le_pow_right (by decide) enough
  calc leastInfinite ≤ wholeLimit := Nat.sub_le _ _
    _ ≤ 2 ^ (3 * length) := limit
    _ = 8 ^ length := Nat.pow_mul 2 3 length
    _ ≤ 10 ^ length := Nat.pow_le_pow_left (by decide) length

theorem ofQuotient_whole (value : Nat) :
    ofQuotient false value 1 =
      if value < leastInfinite then .finite false (rounded value * unitsOfOne)
      else .infinite false := by
  simp only [ofQuotient_eq_rounded, rounded_lt_wholeLimit_iff]

/-- A whole number is made an integer of 64 bits that is as close as possible. -/
theorem integer_of_whole (value : Nat) :
    (finite false (value * unitsOfOne)).isWhole = true ∧
      (finite false (value * unitsOfOne)).toClampedInt = min greatestInt64 value := by
  have truncated : (finite false (value * unitsOfOne)).truncate = value := by
    have nonzero : (unitsOfOne : Int) ≠ 0 := Int.natCast_ne_zero.mpr unitsOfOne_pos.ne'
    simp only [truncate, Nat.cast_mul, Bool.false_eq_true, if_false]
    exact Int.mul_ediv_cancel _ nonzero
  constructor
  · simp [isWhole]
  · rw [toClampedInt, truncated, leastInt64, greatestInt64]
    omega

/-- The integer of 64 bits that is made of a whole number in the format: the number rounded, or the
greatest integer where that is too large. There is none for a number that is read as infinite. -/
def nearestInteger? (value : Nat) : Option Int :=
  if value < leastInfinite then some (min greatestInt64 (rounded value)) else none

/-- An integer of 64 bits that is not negative stays what it is exactly if it is short or the
greatest one. -/
theorem nearestInteger?_eq_some_iff {value : Nat} (inRange : (value : Int) ≤ greatestInt64) :
    nearestInteger? value = some (value : Int) ↔ value = 2 ^ 63 - 1 ∨ IsShort value := by
  rw [greatestInt64] at inRange
  have kept : rounded value ≤ 2 ^ 63 := rounded_le_two_pow (by omega)
  have finite : value < leastInfinite := by
    rw [← rounded_lt_wholeLimit_iff]
    exact kept.trans_lt (two_pow_lt_wholeLimit (by decide))
  rw [nearestInteger?, if_pos finite, Option.some_inj, ← rounded_eq_self_iff_isShort,
    greatestInt64]
  constructor
  · intro same
    omega
  · rintro (rfl | same)
    · decide
    · omega

/-- A number of 53 bits stays what it is. -/
theorem nearestInteger?_of_small {value : Nat} (small : value < 2 ^ 53) :
    nearestInteger? value = some (value : Int) := by
  have finite : value < leastInfinite := by
    rw [← rounded_lt_wholeLimit_iff, rounded_of_small small]
    exact small.trans (two_pow_lt_wholeLimit (by decide))
  have inRange : (value : Int) ≤ greatestInt64 := by
    rw [greatestInt64]
    omega
  rw [nearestInteger?, if_pos finite, rounded_of_small small, min_eq_right inRange]

/-- A whole number in the format is made an integer. -/
theorem integer_ofQuotient (value : Nat) :
    (if (ofQuotient false value 1).isWhole then some (ofQuotient false value 1).toClampedInt
      else none) = nearestInteger? value := by
  rw [ofQuotient_whole, nearestInteger?]
  split
  · obtain ⟨whole, integer⟩ := integer_of_whole (rounded value)
    rw [whole, integer, if_pos rfl]
  · rfl

end Binary64

/-- Further digits do not make the value of the digits before them smaller. -/
theorem le_foldl_digits (digits : List Char) (value : Nat) :
    10 ^ digits.length * value ≤
      digits.foldl (fun value digit => 10 * value + (digit.toNat - '0'.toNat)) value := by
  induction digits generalizing value with
  | nil => simp
  | cons digit rest inductionHypothesis =>
      rw [List.foldl_cons]
      refine le_trans ?_ (inductionHypothesis _)
      rw [List.length_cons, Nat.pow_succ, Nat.mul_assoc]
      exact Nat.mul_le_mul_left _ (Nat.le_add_right _ _)

/-- The zeros in front of a number do not count. -/
theorem digitsValue_dropWhile (digits : List Char) :
    digitsValue (digits.dropWhile (· == '0')) = digitsValue digits := by
  induction digits with
  | nil => rfl
  | cons digit rest inductionHypothesis =>
      by_cases zero : digit = '0'
      · subst zero
        rw [List.dropWhile_cons_of_pos (by rfl), inductionHypothesis]
        rfl
      · rw [List.dropWhile_cons_of_neg (by simpa using zero)]

/-- A row of digits has a large value if there are many digits behind its zeros in front. -/
theorem ten_pow_le_digitsValue {digits : List Char} {length : Nat}
    (decimal : ∀ c ∈ digits, c.isDigit = true)
    (long : length < (digits.dropWhile (· == '0')).length) : 10 ^ length ≤ digitsValue digits := by
  rw [← digitsValue_dropWhile]
  cases significant : digits.dropWhile (· == '0') with
  | nil =>
      rw [significant] at long
      contradiction
  | cons digit rest =>
      have nonzero := List.head?_dropWhile_not (· == '0') digits
      rw [significant] at nonzero long
      have member : digit ∈ digits :=
        (List.dropWhile_sublist _).mem (significant ▸ List.mem_cons_self)
      have positive : 1 ≤ 10 * 0 + (digit.toNat - '0'.toNat) := by
        have lower := (Char.isDigit_iff_toNat.mp (decimal digit member)).1
        have different : digit.toNat ≠ '0'.toNat := by
          simpa [← Char.toNat_inj] using nonzero
        have zero : '0'.toNat = 48 := rfl
        omega
      calc 10 ^ length ≤ 10 ^ rest.length * 1 := by
            rw [Nat.mul_one]
            exact Nat.pow_le_pow_right (by decide) (Nat.le_of_lt_succ long)
        _ ≤ 10 ^ rest.length * (10 * 0 + (digit.toNat - '0'.toNat)) :=
            Nat.mul_le_mul_left _ positive
        _ ≤ digitsValue (digit :: rest) := le_foldl_digits rest _

/-- A row of digits is read as the whole number that it stands for. -/
theorem Binary64.ofDecimal_eq_ofQuotient {digits : List Char}
    (decimal : ∀ c ∈ digits, c.isDigit = true) :
    ofDecimal false digits 0 = ofQuotient false (digitsValue digits) 1 := by
  simp only [ofDecimal, digitsValue_dropWhile]
  split
  case isTrue none =>
    have zero : digitsValue digits = 0 := by
      simp only [Bool.or_eq_true, beq_iff_eq, decide_eq_true_eq] at none
      omega
    rw [zero, ofQuotient_of_small (by decide), Nat.zero_mul]
  case isFalse some =>
    split
    case isTrue long =>
      have large : leastInfinite ≤ digitsValue digits :=
        (leastInfinite_le_ten_pow le_rfl).trans (ten_pow_le_digitsValue decimal (by omega))
      rw [ofQuotient_whole, if_neg (Nat.not_lt.mpr large)]
    case isFalse short =>
      have power : Nat.pow 10 (0 : Int).toNat = 1 := rfl
      rw [if_pos (by decide), power, Nat.mul_one]

end TypedClient
