/-
This file shows that whole numbers in decimal are compared exactly with numbers of 53 bits, although
they are read into the binary64 format, and which integers are read from literals.
-/

import TypedClient.Literal.Basic
import TypedClient.Proofs.RoundedIntegers

namespace TypedClient

namespace Binary64

-- The powers are too large to be computed.
attribute [local irreducible] unitsOfOne unitLimit

/-- A whole number of more than 53 bits does not fall below them when it is rounded. -/
theorem place_ofQuotient_of_large {value : Nat} (large : 2 ^ 53 ≤ value) :
    ∃ place, (ofQuotient false value 1).place? = some place ∧
      ((2 ^ 53 * unitsOfOne : Nat) : Int) ≤ place := by
  have kept : 2 ^ 53 * unitsOfOne ≤ rounded value * unitsOfOne :=
    Nat.mul_le_mul_right _ (two_pow_le_rounded large)
  rw [ofQuotient_eq_rounded]
  split
  case isTrue => exact ⟨_, rfl, Int.ofNat_le.mpr kept⟩
  case isFalse =>
    exact ⟨_, rfl, Int.ofNat_le.mpr le_unitLimit⟩

/-- An integer that is not negative is read as a whole number. -/
theorem ofInt_natCast (value : Nat) : ofInt value = ofQuotient false value 1 := by
  have natural : decide ((value : Int) < 0) = false := by simp
  rw [ofInt, natural, Int.natAbs_natCast]

/-- An integer of 53 bits is a number of the format. -/
theorem ofInt_of_small {value : Nat} (small : value < 2 ^ 53) :
    ofInt value = .finite false (value * unitsOfOne) := by
  rw [ofInt_natCast, ofQuotient_of_small small]

/-- A number beyond 53 bits is not less than one of 53 bits. -/
theorem not_less_of_large {number : Binary64} {place : Int} {bound : Nat}
    (found : number.place? = some place) (large : ((2 ^ 53 * unitsOfOne : Nat) : Int) ≤ place)
    (small : bound < 2 ^ 53) : number.less (ofInt bound) = false := by
  have above : ((bound * unitsOfOne : Nat) : Int) ≤ place :=
    le_trans (Int.ofNat_le.mpr (Nat.mul_le_mul_right unitsOfOne small.le)) large
  have limit : (ofInt bound).place? = some ((bound * unitsOfOne : Nat) : Int) := by
    rw [ofInt_of_small small]
    rfl
  rw [less, found, limit]
  exact decide_eq_false (not_lt.mpr above)

/-- A rounded whole number is less than a number of 53 bits exactly if it was before. -/
theorem ofQuotient_less_iff {value bound : Nat} (small : bound < 2 ^ 53) :
    (ofQuotient false value 1).less (ofInt bound) = true ↔ value < bound := by
  rcases Nat.lt_or_ge value (2 ^ 53) with fits | large
  · rw [ofInt_of_small small, ofQuotient_of_small fits]
    simp only [less, place?, Bool.false_eq_true, if_false, decide_eq_true_eq, Nat.cast_lt]
    exact Nat.mul_lt_mul_right unitsOfOne_pos
  · obtain ⟨place, found, beyond⟩ := place_ofQuotient_of_large large
    rw [not_less_of_large found beyond small]
    simpa using small.le.trans large

theorem ofDecimal_less_iff {digits : List Char} (decimal : ∀ c ∈ digits, c.isDigit = true)
    {bound : Nat} (small : bound < 2 ^ 53) :
    (ofDecimal false digits 0).less (ofInt bound) = true ↔ digitsValue digits < bound := by
  rw [ofDecimal_eq_ofQuotient decimal, ofQuotient_less_iff small]

end Binary64

namespace Text

theorem cutFirst?_eq_none_of_not_mem {c : Char} {word cs : List Char} (absent : c ∉ cs) :
    cutFirst? (c :: word) cs = none := by
  induction cs with
  | nil => rfl
  | cons first rest inductionHypothesis =>
      obtain ⟨other, further⟩ := not_or.mp (List.mem_cons.not.mp absent)
      simp [cutFirst?, dropStart?, other, inductionHypothesis further]

theorem dropEndWhile_cons_of_kept {test : Char → Bool} {c : Char} (kept : test c = false)
    (rest : List Char) : dropEndWhile test (c :: rest) = c :: dropEndWhile test rest := by
  simp only [dropEndWhile, List.reverse_cons, List.dropWhile_append]
  split
  case isTrue none => simp [List.isEmpty_iff.mp none, kept]
  case isFalse some => simp

theorem dropEndWhile_append_of_kept {test : Char → Bool} {front : List Char}
    (kept : ∀ c ∈ front, test c = false) (rest : List Char) :
    dropEndWhile test (front ++ rest) = front ++ dropEndWhile test rest := by
  induction front with
  | nil => rfl
  | cons c front inductionHypothesis =>
      obtain ⟨first, others⟩ := List.forall_mem_cons.mp kept
      rw [List.cons_append, dropEndWhile_cons_of_kept first, inductionHypothesis others,
        List.cons_append]

theorem trim_append_of_unblank {front : List Char} (some : front ≠ [])
    (unblank : ∀ c ∈ front, isBlank c = false) (rest : List Char) :
    trim (front ++ rest) = front ++ trimEnd rest := by
  have start : trimStart (front ++ rest) = front ++ rest := by
    obtain ⟨c, others, rfl⟩ := List.exists_cons_of_ne_nil some
    exact List.dropWhile_cons_of_neg (by simp [unblank c List.mem_cons_self])
  rw [trim, start, trimEnd, dropEndWhile_append_of_kept unblank, trimEnd]

theorem trim_of_unblank {cs : List Char} (unblank : ∀ c ∈ cs, isBlank c = false) :
    trim cs = cs := by
  cases cs with
  | nil => rfl
  | cons c rest =>
      have kept := trim_append_of_unblank (List.cons_ne_nil c rest) unblank []
      simpa [trimEnd, dropEndWhile] using kept

end Text

namespace Literal

open Text

theorem holds_of_isDigit {holds : Char → Prop}
    (each : ∀ code < 58, 48 ≤ code → holds (Char.ofNat code)) :
    ∀ c : Char, c.isDigit = true → holds c := by
  intro c digit
  obtain ⟨lower, upper⟩ := Char.isDigit_iff_toNat.mp digit
  have known := each c.toNat (Nat.lt_succ_of_le upper) lower
  rwa [Char.ofNat_toNat] at known

theorem trim_of_digits {digits : List Char} (decimal : ∀ c ∈ digits, c.isDigit = true) :
    trim digits = digits := by
  have unblank : ∀ c : Char, c.isDigit = true → isBlank c = false := holds_of_isDigit (by decide)
  exact trim_of_unblank fun c member => unblank c (decimal c member)

/-- A row of digits is no word and has no sign. -/
theorem read?_of_digits {digits : List Char} (decimal : ∀ c ∈ digits, c.isDigit = true) :
    Binary64.read? digits = Binary64.readUnsigned? false digits := by
  have noWord (word : List Char) (letters : word.any Char.isAlpha = true) :
      digits.map Char.toLower ≠ word := by
    intro same
    obtain ⟨letter, member, alpha⟩ := List.any_eq_true.mp letters
    obtain ⟨c, inDigits, lower⟩ := List.mem_map.mp (same ▸ member)
    rw [← lower, Char.isAlpha_toLower_eq_isAlpha] at alpha
    have digit : ∀ c : Char, c.isDigit = true → c.isAlpha = false := holds_of_isDigit (by decide)
    rw [digit c (decimal c inDigits)] at alpha
    contradiction
  rw [Binary64.read?]
  case x_1 =>
    rintro rest rfl
    exact absurd (decimal '-' List.mem_cons_self) (by decide)
  case x_2 =>
    rintro rest rfl
    exact absurd (decimal '+' List.mem_cons_self) (by decide)
  simp [noWord]

theorem read?_eq_ofDecimal {digits : List Char} (some : digits ≠ [])
    (decimal : ∀ c ∈ digits, c.isDigit = true) :
    Binary64.read? digits = Option.some (Binary64.ofDecimal false digits 0) := by
  have whole : digits.takeWhile Char.isDigit = digits := List.takeWhile_eq_self_iff.mpr decimal
  have ends : digits.dropWhile Char.isDigit = [] := List.dropWhile_eq_nil_iff.mpr decimal
  rw [read?_of_digits decimal]
  simp [Binary64.readUnsigned?, whole, ends, some, Binary64.readExponent?]

/-- A number that starts with a digit and has no mark of a base is read without its suffix. -/
theorem unsignedNumber?_of_digits {digits suffix : List Char} (some : digits ≠ [])
    (decimal : ∀ c ∈ digits, c.isDigit = true) (ends : ∀ c ∈ suffix, isNumberSuffix c = true) :
    unsignedNumber? (digits ++ suffix) = Option.some (Binary64.ofDecimal false digits 0) := by
  have plain : ∀ c : Char, c.isDigit = true → isNumberSuffix c = false :=
    holds_of_isDigit (by decide)
  have bare : dropEndWhile isNumberSuffix (digits ++ suffix) = digits := by
    have gone : dropEndWhile isNumberSuffix suffix = [] := by
      simpa [dropEndWhile, List.dropWhile_eq_nil_iff] using ends
    rw [dropEndWhile_append_of_kept fun c member => plain c (decimal c member), gone,
      List.append_nil]
  have unmarked (mark : Char) (noDigit : mark.isDigit = false)
      (noSuffix : isNumberSuffix mark = false) : mark ∉ digits ++ suffix := by
    intro member
    rcases List.mem_append.mp member with inDigits | inSuffix
    · simp [decimal mark inDigits] at noDigit
    · simp [ends mark inSuffix] at noSuffix
  rw [unsignedNumber?.eq_def]
  split
  case h_1 rest same => exact absurd (same ▸ by simp) (unmarked 'x' (by decide) (by decide))
  case h_2 rest same => exact absurd (same ▸ by simp) (unmarked 'X' (by decide) (by decide))
  rw [bare, read?_eq_ofDecimal some decimal]

/-- Digits remain when the separators between them are left out. -/
theorem isDigit_of_mem_filter {digits : List Char}
    (decimal : ∀ c ∈ digits, c.isDigit = true ∨ c = '_') :
    ∀ c ∈ digits.filter (· != '_'), c.isDigit = true := by
  intro c member
  obtain ⟨inDigits, other⟩ := List.mem_filter.mp member
  exact (decimal c inDigits).resolve_right (by simpa using other)

/-- A decimal literal may have separators between its digits and a suffix behind them. -/
theorem numberChars?_of_literal {digits suffix : List Char} (some : digits.filter (· != '_') ≠ [])
    (decimal : ∀ c ∈ digits, c.isDigit = true ∨ c = '_')
    (ends : ∀ c ∈ suffix, isNumberSuffix c = true) :
    numberChars? (digits ++ suffix) =
      Option.some (Binary64.ofDecimal false (digits.filter (· != '_')) 0) := by
  have unblankDigit : ∀ c : Char, c.isDigit = true → isBlank c = false :=
    holds_of_isDigit (by decide)
  have letters : ∀ c ∈ "mMdDfFuUlL".toList, isBlank c = false ∧ (c != '_') = true := by
    simp [isBlank]
  have tail : ∀ c ∈ suffix, isBlank c = false ∧ (c != '_') = true := fun c member =>
    letters c (List.contains_iff_mem.mp (ends c member))
  have unblank : ∀ c ∈ digits ++ suffix, isBlank c = false := by
    intro c member
    rcases List.mem_append.mp member with inDigits | inSuffix
    · rcases decimal c inDigits with digit | rfl
      · exact unblankDigit c digit
      · rfl
    · exact (tail c inSuffix).1
  have joined : (digits ++ suffix).filter (· != '_') = digits.filter (· != '_') ++ suffix := by
    rw [List.filter_append, List.filter_eq_self.mpr fun c member => (tail c member).2]
  have onlyDigits := isDigit_of_mem_filter decimal
  rw [numberChars?, trim_of_unblank unblank, joined]
  split
  case h_1 rest same =>
    obtain ⟨digit, others, split⟩ := List.exists_cons_of_ne_nil some
    rw [split, List.cons_append] at same
    obtain ⟨rfl, -⟩ := List.cons.inj same
    exact absurd (onlyDigits '-' (split ▸ List.mem_cons_self)) (by decide)
  exact unsignedNumber?_of_digits some onlyDigits ends

theorem numberChars?_of_digits {digits : List Char} (some : digits ≠ [])
    (decimal : ∀ c ∈ digits, c.isDigit = true) :
    numberChars? digits = Option.some (Binary64.ofDecimal false digits 0) := by
  have separators : ∀ c : Char, c.isDigit = true → (c != '_') = true :=
    holds_of_isDigit (by decide)
  have joined : digits.filter (· != '_') = digits :=
    List.filter_eq_self.mpr fun c member => separators c (decimal c member)
  have read := @numberChars?_of_literal digits [] (joined.symm ▸ some)
    (fun c member => .inl (decimal c member)) nofun
  rwa [List.append_nil, joined] at read

/-- A text without a shift is read as the integer that its number stands for. -/
theorem integerChars?_of_uncut {text : List Char} (uncut : cutFirst? "<<".toList text = none) :
    integerChars? text = (numberChars? text).bind fun number =>
      if number.isWhole then some number.toClampedInt else none := by
  rw [integerChars?, integerWithin?, uncut]
  rfl

/-- An integer literal is read as an integer as close to its value as possible. -/
theorem integerChars?_of_literal {digits suffix : List Char}
    (some : digits.filter (· != '_') ≠ []) (decimal : ∀ c ∈ digits, c.isDigit = true ∨ c = '_')
    (ends : ∀ c ∈ suffix, isIntegerSuffix c = true) :
    integerChars? (digits ++ suffix) =
      Binary64.nearestInteger? (digitsValue (digits.filter (· != '_'))) := by
  have letters : ∀ c ∈ "uUlL".toList, isNumberSuffix c = true ∧ '<' ≠ c := by
    simp [isNumberSuffix]
  have tail : ∀ c ∈ suffix, isNumberSuffix c = true ∧ '<' ≠ c := fun c member =>
    letters c (List.contains_iff_mem.mp (ends c member))
  have unshifted : '<' ∉ digits ++ suffix := by
    intro member
    rcases List.mem_append.mp member with inDigits | inSuffix
    · exact absurd (decimal '<' inDigits) (by decide)
    · exact (tail '<' inSuffix).2 rfl
  have uncut : cutFirst? "<<".toList (digits ++ suffix) = none :=
    cutFirst?_eq_none_of_not_mem unshifted
  have read := numberChars?_of_literal some decimal fun c member => (tail c member).1
  rw [Binary64.ofDecimal_eq_ofQuotient (isDigit_of_mem_filter decimal)] at read
  rw [integerChars?_of_uncut uncut, read, Option.bind_some]
  exact Binary64.integer_ofQuotient _

end Literal

end TypedClient
