/-
This file defines the decimal, hexadecimal and binary spellings of a whole number, and shows which
integer is read from each of them.
-/

import TypedClient.Proofs.IntegerTokens

namespace TypedClient

open Text Literal

/-- A character stands for a digit, in lower or upper case. -/
def StandsFor (c : Char) (digit : Nat) : Prop :=
  c = digit.digitChar ∨ c = digit.digitChar.toUpper

/-- Digits that spell a number to a base, with separators behind any of them. -/
inductive IsNumeral (base : Nat) : Nat → List Char → Prop
  | first {c : Char} {digit : Nat} (stands : StandsFor c digit) (small : digit < base) :
      IsNumeral base digit [c]
  | next {front : List Char} {value digit : Nat} {c : Char} (others : IsNumeral base value front)
      (stands : StandsFor c digit) (small : digit < base) :
      IsNumeral base (base * value + digit) (front ++ [c])
  | separator {front : List Char} {value : Nat} (others : IsNumeral base value front) :
      IsNumeral base value (front ++ ['_'])

/-- A form in which whole numbers are spelled. -/
inductive IntegerForm
  | decimal | hexadecimal | binary
  deriving DecidableEq, Repr

/-- A spelling of a whole number. Behind the mark of a base there may be separators too. -/
inductive IntegerForm.IsSpelled : IntegerForm → Nat → List Char → Prop
  | decimal {value : Nat} {digits : List Char} (numeral : IsNumeral 10 value digits) :
      IsSpelled .decimal value digits
  | hexadecimal {value : Nat} {mark : Char} {gap digits : List Char}
      (marks : mark = 'x' ∨ mark = 'X') (separators : ∀ c ∈ gap, c = '_')
      (numeral : IsNumeral 16 value digits) :
      IsSpelled .hexadecimal value ('0' :: mark :: (gap ++ digits))
  | binary {value : Nat} {mark : Char} {gap digits : List Char}
      (marks : mark = 'b' ∨ mark = 'B') (separators : ∀ c ∈ gap, c = '_')
      (numeral : IsNumeral 2 value digits) :
      IsSpelled .binary value ('0' :: mark :: (gap ++ digits))

/-- Every whole number can be spelled to a base. -/
theorem isNumeral_toDigits {base : Nat} (several : 1 < base) (value : Nat) :
    IsNumeral base value (Nat.toDigits base value) := by
  induction value using Nat.strongRecOn with
  | ind value inductionHypothesis =>
      rw [Nat.toDigits_eq_if several]
      split
      case isTrue small => exact .first (.inl rfl) small
      case isFalse large =>
        have shorter : value / base < value :=
          Nat.div_lt_self (by omega) several
        have numeral := (inductionHypothesis _ shorter).next (.inl rfl)
          (Nat.mod_lt value (Nat.zero_lt_of_lt several))
        rwa [Nat.div_add_mod] at numeral

theorem StandsFor.holds (property : Nat → Char → Prop) {base digit : Nat} {c : Char}
    (stands : StandsFor c digit) (small : digit < base)
    (each : ∀ digit < base, property digit digit.digitChar ∧
      property digit digit.digitChar.toUpper) : property digit c := by
  rcases stands with rfl | rfl
  · exact (each digit small).1
  · exact (each digit small).2

namespace IsNumeral

variable {base value : Nat} {digits : List Char}

theorem digit_or_separator (numeral : IsNumeral base value digits) :
    ∀ c ∈ digits, (∃ digit < base, StandsFor c digit) ∨ c = '_' := by
  induction numeral with
  | first stands small => simpa using .inl ⟨_, small, stands⟩
  | next _ stands small inductionHypothesis =>
      exact List.forall_mem_append.mpr
        ⟨inductionHypothesis, by simpa using .inl ⟨_, small, stands⟩⟩
  | separator _ inductionHypothesis =>
      exact List.forall_mem_append.mpr ⟨inductionHypothesis, by simp⟩

theorem exists_first (numeral : IsNumeral base value digits) :
    ∃ first rest, digits = first :: rest ∧ ∃ digit < base, StandsFor first digit := by
  induction numeral with
  | first stands small => exact ⟨_, [], rfl, _, small, stands⟩
  | next _ _ _ inductionHypothesis | separator _ inductionHypothesis =>
      obtain ⟨first, rest, rfl, begins⟩ := inductionHypothesis
      exact ⟨first, _, List.cons_append, begins⟩

/-- A numeral without its separators is read as the number that it spells. -/
theorem numberTo?_eq (numeral : IsNumeral base value digits) (known : base ≤ 16) :
    numberTo? base (digits.filter (· != '_')) = some value := by
  have reads {c : Char} {digit : Nat} (stands : StandsFor c digit) (small : digit < base) :
      hexValue? c = some digit ∧ (c != '_') = true :=
    stands.holds (fun digit c => hexValue? c = some digit ∧ (c != '_') = true)
      (small.trans_le known) (by decide)
  induction numeral with
  | first stands small =>
      obtain ⟨read, kept⟩ := reads stands small
      simp [numberTo?, kept, read, small]
  | next _ stands small inductionHypothesis =>
      obtain ⟨read, kept⟩ := reads stands small
      obtain ⟨values, found, counted⟩ := Option.bind_eq_some_iff.mp inductionHypothesis
      simp only [Option.ite_none_right_eq_some, Option.some.injEq] at counted
      obtain ⟨inBase, rfl⟩ := counted
      simpa [numberTo?, kept, found, read, small, List.filter_append, List.mapM_append]
        using inBase
  | separator _ inductionHypothesis =>
      simpa [List.filter_append] using inductionHypothesis

/-- A decimal numeral without its separators has the value that it spells. -/
theorem digitsValue_eq (numeral : IsNumeral 10 value digits) :
    digitsValue (digits.filter (· != '_')) = value := by
  have reads {c : Char} {digit : Nat} (stands : StandsFor c digit) (small : digit < 10) :
      c.toNat - '0'.toNat = digit ∧ (c != '_') = true :=
    stands.holds (fun digit c => c.toNat - '0'.toNat = digit ∧ (c != '_') = true)
      small (by decide)
  induction numeral with
  | first stands small =>
      obtain ⟨read, kept⟩ := reads stands small
      rw [List.filter_singleton, kept, cond_true, digitsValue, List.foldl_cons, List.foldl_nil,
        read, Nat.mul_zero, Nat.zero_add]
  | next _ stands small inductionHypothesis =>
      obtain ⟨read, kept⟩ := reads stands small
      rw [List.filter_append, List.filter_singleton, kept, cond_true, digitsValue,
        List.foldl_append, ← digitsValue, inductionHypothesis, List.foldl_cons, List.foldl_nil,
        read]
  | separator _ inductionHypothesis =>
      simpa [List.filter_append] using inductionHypothesis

end IsNumeral

/-- A numeral to a base is read as the integer that it spells, if that is one of 64 bits. -/
theorem IsNumeral.integerIn?_eq {base value : Nat} {digits : List Char}
    (numeral : IsNumeral base value digits) (known : base ≤ 16) :
    integerIn? base (digits.filter (· != '_')) = inInt64? value := by
  obtain ⟨first, rest, rfl, digit, small, stands⟩ := numeral.exists_first
  obtain ⟨kept, noMinus, noPlus⟩ : (first != '_') = true ∧ first ≠ '-' ∧ first ≠ '+' :=
    stands.holds (fun _ c => (c != '_') = true ∧ c ≠ '-' ∧ c ≠ '+')
      (small.trans_le known) (by decide)
  have starts : (first :: rest).filter (· != '_') = first :: rest.filter (· != '_') :=
    List.filter_cons_of_pos kept
  have read := numeral.numberTo?_eq known
  rw [starts] at read ⊢
  rw [integerIn?.eq_def]
  split
  case h_1 same => exact absurd (List.cons.inj same).1 noMinus
  case h_2 same => exact absurd (List.cons.inj same).1 noPlus
  rw [naturalIn?, List.isEmpty_cons, if_neg Bool.false_ne_true, read, Option.bind_some]

namespace Constant

/-- A text that is a single word with a digit in front has the value that is read from the word. -/
theorem evaluate?_of_word {first : Char} {rest : List Char} (begins : first.isDigit = true)
    (word : ∀ c ∈ rest, (isPlain c || c == '_') = true) (lookup : String → Option Int) :
    evaluate? lookup (String.ofList (first :: rest)) = integerToken? (first :: rest) := by
  have whole : rest.takeWhile (fun c => isPlain c || c == '_') = rest :=
    List.takeWhile_eq_self_iff.mpr word
  have ends : rest.dropWhile (fun c => isPlain c || c == '_') = [] :=
    List.dropWhile_eq_nil_iff.mpr word
  have single (value : Int) : ofTokens? [.number value] = some (.number value) := rfl
  rw [evaluate?, ofChars?, String.toList_ofList, List.length_cons, tokensWithin?,
    if_neg (by simp [isSpace_of_isDigit first begins]), if_pos begins, whole, ends]
  cases integerToken? (first :: rest) with
  | none => rfl
  | some value => simp [tokensWithin?, single, value?]

end Constant

theorem filter_separators {gap : List Char} (separators : ∀ c ∈ gap, c = '_')
    (digits : List Char) : (gap ++ digits).filter (· != '_') = digits.filter (· != '_') := by
  have none : gap.filter (· != '_') = [] :=
    List.filter_eq_nil_iff.mpr fun c member => by simp [separators c member]
  rw [List.filter_append, none, List.nil_append]

/-- A hexadecimal spelling is read as the number in the format that is nearest to its value, if
that is an integer of 64 bits. -/
theorem numberChars?_of_hexadecimal {value : Nat} {mark : Char} {gap digits : List Char}
    (marks : mark = 'x' ∨ mark = 'X') (separators : ∀ c ∈ gap, c = '_')
    (numeral : IsNumeral 16 value digits) :
    numberChars? ('0' :: mark :: (gap ++ digits)) = (inInt64? value).map Binary64.ofInt := by
  have bare {c : Char} {digit : Nat} (stands : StandsFor c digit) (small : digit < 16) :
      isBlank c = false ∧ isIntegerSuffix c = false :=
    stands.holds (fun _ c => isBlank c = false ∧ isIntegerSuffix c = false) small
      (by decide)
  have unblank : ∀ c ∈ '0' :: mark :: (gap ++ digits), isBlank c = false := by
    refine List.forall_mem_cons.mpr ⟨rfl, List.forall_mem_cons.mpr ⟨?_, ?_⟩⟩
    · rcases marks with rfl | rfl <;> rfl
    · refine List.forall_mem_append.mpr ⟨fun c member => separators c member ▸ rfl, ?_⟩
      intro c member
      rcases numeral.digit_or_separator c member with ⟨digit, small, stands⟩ | rfl
      · exact (bare stands small).1
      · rfl
  have noSuffix : ∀ c ∈ digits.filter (· != '_'), isIntegerSuffix c = false := by
    intro c member
    obtain ⟨inDigits, other⟩ := List.mem_filter.mp member
    rcases numeral.digit_or_separator c inDigits with ⟨digit, small, stands⟩ | rfl
    · exact (bare stands small).2
    · contradiction
  have complete : dropEndWhile isIntegerSuffix (digits.filter (· != '_')) =
      digits.filter (· != '_') := by
    simpa [dropEndWhile] using dropEndWhile_append_of_kept noSuffix []
  rw [numberChars?, trim_of_unblank unblank]
  rcases marks with rfl | rfl <;>
    simp [filter_separators separators, unsignedNumber?, unsignedNumber?.hexadecimal, complete,
      numeral.integerIn?_eq]

namespace IntegerForm

/-- The integer that is read from a spelling of a whole number. -/
def integer? : IntegerForm → Nat → Option Int
  | decimal, value => Binary64.nearestInteger? value
  | hexadecimal, value => (inInt64? value).bind fun _ => Binary64.nearestInteger? value
  | binary, value => inInt64? value

/-- A spelling starts with a digit and goes on with letters, digits and separators. -/
theorem IsSpelled.exists_word {form : IntegerForm} {value : Nat} {text : List Char}
    (spelled : form.IsSpelled value text) :
    ∃ first rest, text = first :: rest ∧ first.isDigit = true ∧
      ∀ c ∈ rest, (Constant.isPlain c || c == '_') = true := by
  have plain {base value : Nat} {digits : List Char} (numeral : IsNumeral base value digits)
      (known : base ≤ 16) : ∀ c ∈ digits, (Constant.isPlain c || c == '_') = true := by
    intro c member
    rcases numeral.digit_or_separator c member with ⟨digit, small, stands⟩ | rfl
    · exact stands.holds (fun _ c => (Constant.isPlain c || c == '_') = true)
        (small.trans_le known) (by decide)
    · rfl
  have marked {mark : Char} {gap digits : List Char} (letter : Constant.isPlain mark = true)
      (separators : ∀ c ∈ gap, c = '_')
      (behind : ∀ c ∈ digits, (Constant.isPlain c || c == '_') = true) :
      ∀ c ∈ mark :: (gap ++ digits), (Constant.isPlain c || c == '_') = true :=
    List.forall_mem_cons.mpr ⟨by rw [letter, Bool.true_or],
      List.forall_mem_append.mpr ⟨fun c member => by simp [separators c member], behind⟩⟩
  cases spelled with
  | decimal numeral =>
      obtain ⟨first, rest, rfl, digit, small, stands⟩ := numeral.exists_first
      exact ⟨first, rest, rfl,
        stands.holds (fun _ c => c.isDigit = true) small (by decide),
        fun c member => plain numeral (by decide) c (List.mem_cons_of_mem _ member)⟩
  | hexadecimal marks separators numeral =>
      refine ⟨'0', _, rfl, rfl, marked ?_ separators (plain numeral le_rfl)⟩
      rcases marks with rfl | rfl <;> rfl
  | binary marks separators numeral =>
      refine ⟨'0', _, rfl, rfl, marked ?_ separators (plain numeral (by decide))⟩
      rcases marks with rfl | rfl <;> rfl

/-- The integer that is read from a spelling depends only on its form and value. -/
theorem IsSpelled.integerToken?_eq {form : IntegerForm} {value : Nat} {text : List Char}
    (spelled : form.IsSpelled value text) :
    Constant.integerToken? text = form.integer? value := by
  cases spelled with
  | decimal numeral =>
      obtain ⟨first, rest, rfl, digit, small, stands⟩ := numeral.exists_first
      have isDigit {c : Char} {digit : Nat} (stands : StandsFor c digit) (small : digit < 10) :
          c.isDigit = true :=
        stands.holds (fun _ c => c.isDigit = true) small (by decide)
      have continues : ∀ c ∈ rest, c.isDigit = true ∨ c = '_' := fun c member =>
        (numeral.digit_or_separator c (List.mem_cons_of_mem _ member)).imp_left
          fun ⟨_, small, stands⟩ => isDigit stands small
      have read := Constant.integerToken?_of_literal (isDigit stands small) continues
        (List.forall_mem_nil _)
      rwa [List.append_nil, numeral.digitsValue_eq] at read
  | @hexadecimal value mark gap digits marks separators numeral =>
      have uncut : cutFirst? "<<".toList ('0' :: mark :: (gap ++ digits)) = none := by
        obtain ⟨first, rest, same, begins, word⟩ :=
          (IsSpelled.hexadecimal marks separators numeral).exists_word
        rw [same]
        refine cutFirst?_eq_none_of_not_mem fun member => ?_
        rcases List.mem_cons.mp member with rfl | inRest
        · exact absurd begins (by decide)
        · exact absurd (word '<' inRest) (by decide)
      have unbinary : Constant.integerToken? ('0' :: mark :: (gap ++ digits)) =
          integerChars? ('0' :: mark :: (gap ++ digits)) := by
        rcases marks with rfl | rfl <;> rfl
      rw [unbinary, integerChars?_of_uncut uncut,
        numberChars?_of_hexadecimal marks separators numeral, integer?, inInt64?]
      split
      · rw [Option.map_some, Option.bind_some, Option.bind_some, Binary64.ofInt_natCast]
        exact Binary64.integer_ofQuotient value
      · rfl
  | binary marks separators numeral =>
      rcases marks with rfl | rfl <;>
        simp [Constant.integerToken?, filter_separators separators, numeral.integerIn?_eq, integer?]

/-- A spelling of a whole number is an expression with the integer that is read from it. -/
theorem IsSpelled.evaluate?_eq {form : IntegerForm} {value : Nat} {text : List Char}
    (spelled : form.IsSpelled value text) (lookup : String → Option Int) :
    Constant.evaluate? lookup (String.ofList text) = form.integer? value := by
  obtain ⟨first, rest, rfl, begins, word⟩ := spelled.exists_word
  rw [Constant.evaluate?_of_word begins word, spelled.integerToken?_eq]

/-- A spelling of an integer of 64 bits has the value that it spells exactly if it is binary, or the
value is short or the greatest one. A spelling of a larger number has no value, unless it is decimal
and the number is below the least infinite one. -/
theorem spelled_value_kept_iff {form : IntegerForm} {value : Nat} {text : List Char}
    (spelled : form.IsSpelled value text) (lookup : String → Option Int) :
    ((value : Int) ≤ greatestInt64 →
      (Constant.evaluate? lookup (String.ofList text) = some (value : Int) ↔
        form = .binary ∨ value = 2 ^ 63 - 1 ∨ Binary64.IsShort value)) ∧
    (greatestInt64 < (value : Int) →
      (Constant.evaluate? lookup (String.ofList text) = none ↔
        (form = .decimal → Binary64.leastInfinite ≤ value))) := by
  rw [spelled.evaluate?_eq]
  constructor
  · intro inRange
    have fits : inInt64? value = some (value : Int) := by
      simp [inInt64?, leastInt64, inRange]
    have nearest := Binary64.nearestInteger?_eq_some_iff inRange
    cases form with
    | decimal => simpa [integer?] using nearest
    | hexadecimal => simpa [integer?, fits] using nearest
    | binary => simp [integer?, fits]
  · intro beyond
    have outside : inInt64? value = none := by
      simp [inInt64?, not_le.mpr beyond]
    cases form with
    | decimal => simp [integer?, Binary64.nearestInteger?]
    | hexadecimal | binary => simp [integer?, outside]

/-- A hexadecimal spelling with a separator has the value that it spells, and the first integer that
is too large has one too in its decimal spelling. -/
theorem evaluate?_of_small_and_large :
    Constant.evaluate? (fun _ => none) "0xF_F" = some 255 ∧
      Constant.evaluate? (fun _ => none) "9223372036854775808" ≠ none := by
  have first : IsNumeral 16 15 ['F'] := .first (.inr rfl) (by decide)
  have numeral : IsNumeral 16 (16 * 15 + 15) "F_F".toList :=
    first.separator.next (.inr rfl) (by decide)
  have short : hexadecimal.IsSpelled 255 "0xF_F".toList :=
    .hexadecimal (.inl rfl) (List.forall_mem_nil _) numeral
  have large : decimal.IsSpelled (2 ^ 63) "9223372036854775808".toList :=
    .decimal (isNumeral_toDigits (by decide) _)
  constructor
  · exact ((spelled_value_kept_iff short _).1 (by decide)).mpr
      (.inr (.inr ⟨255, by decide, 0, rfl⟩))
  · intro none
    have infinite := ((spelled_value_kept_iff large _).2 (by decide)).mp none rfl
    have finite : 2 ^ 63 < Binary64.leastInfinite := by
      rw [← Binary64.rounded_lt_wholeLimit_iff]
      exact (@Binary64.rounded_le_two_pow _ 64 (by decide)).trans_lt
        (Binary64.two_pow_lt_wholeLimit (by decide))
    omega

/-- The decimal spelling of the first number that is not short has the value of its neighbour. -/
theorem evaluate?_of_rounded_neighbour :
    decimal.IsSpelled 9007199254740993 "9007199254740993".toList ∧
      Constant.evaluate? (fun _ => none) "9007199254740993" = some 9007199254740992 := by
  have spelled : decimal.IsSpelled 9007199254740993 "9007199254740993".toList :=
    .decimal (isNumeral_toDigits (by decide) _)
  exact ⟨spelled, (spelled.evaluate?_eq _).trans (by decide +kernel)⟩

end IntegerForm

end TypedClient
