/-
This file shows that a text in single quotes is one complete literal: it stands on one line, only
its last quote ends it, and it is read as the text, whatever code follows.
-/

import TypedClient.Proofs.ScriptLiterals

namespace TypedClient.Script

open Text

section Definitions

/-- Reads the code behind an opening single quote up to the quote that closes it: the code units of
the literal, and the code behind it. -/
def untilQuote? : List Char → Option (List Nat × List Char)
  | [] => none
  | c :: rest =>
    if c == '\'' then some ([], rest)
    else if c == '\\' then
      match _escaped : escape? rest with
      | none => none
      | some (units, behind) => (untilQuote? behind).map fun found => (units ++ found.1, found.2)
    else if c == '\n' || c == '\r' then none
    else (untilQuote? rest).map fun found => (codeUnits c.toNat ++ found.1, found.2)
termination_by code => code.length
decreasing_by
  · obtain ⟨used, rfl, -⟩ := exists_used_of_escape? _escaped
    simp only [List.length_append, List.length_cons]
    omega
  · simp

/-- The code units of the literal in single quotes that some code begins with, and the code behind
it. -/
def literal? : List Char → Option (List Nat × List Char)
  | '\'' :: rest => untilQuote? rest
  | _ => none

/-- Whether the character behind some code is escaped: a backslash escapes it, unless the backslash
is escaped itself. -/
def escapesNext (code : List Char) : Bool :=
  code.foldl (fun escaped c => c == '\\' && !escaped) false

/-- Code is one complete literal in single quotes: it stands on one line, and of all quotes behind
the first only the last is not escaped. -/
structure IsComplete (code : List Char) : Prop where
  enclosed : ∃ inside, code = '\'' :: (inside ++ ['\''])
  unbroken : '\n' ∉ code ∧ '\r' ∉ code
  closes : ∀ front behind, code = '\'' :: (front ++ '\'' :: behind) →
    (escapesNext front = true ↔ behind ≠ [])

/-- Code is a complete literal for a text: it is read as the text in front of whatever code, and it
stands for no other text. -/
structure IsLiteralOf (code text : String) : Prop where
  complete : IsComplete code.toList
  read : ∀ behind, literal? (code.toList ++ behind) = some (textUnits text.toList, behind)
  exact : ∀ scope (other : String),
    evaluate? scope code = some (textUnits other.toList) ↔ other = text

end Definitions

section Units

theorem codeUnits_append_ne_nil (c : Char) (rest : List Nat) : codeUnits c.toNat ++ rest ≠ [] := by
  have positive := (length_codeUnits c.toNat).1
  exact List.append_ne_nil_of_left_ne_nil (List.ne_nil_of_length_pos positive) rest

/-- The code point that some code units begin with. -/
def firstCode : List Nat → Nat
  | high :: low :: _ =>
    if 0xd800 ≤ high ∧ high < 0xdc00 then 0x10000 + (high - 0xd800) * 0x400 + (low - 0xdc00)
    else high
  | [unit] => unit
  | [] => 0

/-- A character is found at the beginning of its code units. -/
theorem firstCode_codeUnits (c : Char) (rest : List Nat) :
    firstCode (codeUnits c.toNat ++ rest) = c.toNat := by
  have valid : c.toNat < 0xd800 ∨ 0xdfff < c.toNat ∧ c.toNat < 0x110000 := c.valid
  unfold codeUnits
  split
  case isTrue =>
    cases rest with
    | nil => rfl
    | cons low others =>
        have single : ¬(0xd800 ≤ c.toNat ∧ c.toNat < 0xdc00) := by omega
        simp [firstCode, single]
  case isFalse =>
    have pair : 0xd800 ≤ 0xd800 + (c.toNat - 0x10000) / 0x400 ∧
        0xd800 + (c.toNat - 0x10000) / 0x400 < 0xdc00 := by omega
    rw [List.cons_append, List.cons_append, firstCode, if_pos pair]
    omega

/-- Texts with the same code units are the same. -/
theorem textUnits_injective : Function.Injective textUnits := by
  intro first second same
  induction first generalizing second with
  | nil =>
      cases second with
      | nil => rfl
      | cons d rest => exact absurd same (codeUnits_append_ne_nil d _).symm
  | cons c first inductionHypothesis =>
      cases second with
      | nil => exact absurd same (codeUnits_append_ne_nil c _)
      | cons d second =>
          rw [textUnits_cons, textUnits_cons] at same
          have code : c.toNat = d.toNat := by
            rw [← firstCode_codeUnits c, same, firstCode_codeUnits]
          obtain rfl := Char.toNat_inj.mp code
          rw [inductionHypothesis (List.append_cancel_left same)]

end Units

section Quotes

theorem toList_quote (text : String) :
    (Name.quote text).toList = '\'' :: (text.toList.flatMap Name.quoteChar ++ ['\'']) :=
  String.toList_ofList

theorem quoteChar_cases (c : Char) :
    (Name.quoteChar c = [c] ∧ c ∉ ['\\', '\'', '\n', '\r']) ∨
      ∃ letter, Name.quoteChar c = ['\\', letter] ∧ letter ≠ '\n' ∧ letter ≠ '\r' ∧
        ∀ behind, escape? (letter :: behind) = some (codeUnits c.toNat, behind) := by
  by_cases special : c ∈ ['\\', '\'', '\n', '\r']
  · simp only [List.mem_cons, List.not_mem_nil, or_false] at special
    rcases special with rfl | rfl | rfl | rfl
    · exact .inr ⟨'\\', rfl, by decide, by decide, fun _ => rfl⟩
    · exact .inr ⟨'\'', rfl, by decide, by decide, fun _ => rfl⟩
    · exact .inr ⟨'n', rfl, by decide, by decide, fun _ => rfl⟩
    · exact .inr ⟨'r', rfl, by decide, by decide, fun _ => rfl⟩
  · refine .inl ⟨?_, special⟩
    simp only [List.mem_cons, List.not_mem_nil, or_false, not_or] at special
    simp [Name.quoteChar, special]

theorem untilQuote?_escape {code behind : List Char} {units : List Nat}
    (read : escape? code = some (units, behind)) :
    untilQuote? ('\\' :: code) =
      (untilQuote? behind).map fun found => (units ++ found.1, found.2) := by
  rw [untilQuote?]
  split
  · contradiction
  · simp only [beq_self_eq_true, if_true]
    split <;> simp_all

theorem untilQuote?_quoteChar (c : Char) (behind : List Char) :
    untilQuote? (Name.quoteChar c ++ behind) =
      (untilQuote? behind).map fun found => (codeUnits c.toNat ++ found.1, found.2) := by
  rcases quoteChar_cases c with ⟨plain, ordinary⟩ | ⟨letter, escaped, -, -, read⟩
  · simp only [List.mem_cons, List.not_mem_nil, or_false, not_or] at ordinary
    rw [plain, List.singleton_append, untilQuote?]
    simp [ordinary]
  · rw [escaped]
    exact untilQuote?_escape (read behind)

theorem untilQuote?_quoted (cs behind : List Char) :
    untilQuote? (cs.flatMap Name.quoteChar ++ '\'' :: behind) = some (textUnits cs, behind) := by
  induction cs with
  | nil => simp [untilQuote?]
  | cons c rest inductionHypothesis =>
      rw [List.flatMap_cons, List.append_assoc, untilQuote?_quoteChar, inductionHypothesis]
      rfl

/-- Behind a literal there is less code. -/
theorem length_lt_of_untilQuote? {code behind : List Char} {units : List Nat}
    (read : untilQuote? code = some (units, behind)) : behind.length < code.length := by
  fun_induction untilQuote? code generalizing units behind with
  | case1 | case3 | case5 => contradiction
  | case2 c rest closing =>
      obtain ⟨rfl, rfl⟩ := Prod.mk.inj (Option.some.inj read)
      exact Nat.lt_succ_self _
  | case4 c rest noQuote slash first following escape inductionHypothesis =>
      obtain ⟨used, rfl, -⟩ := exists_used_of_escape? escape
      obtain ⟨⟨others, last⟩, found, same⟩ := Option.map_eq_some_iff.mp read
      obtain ⟨rfl, rfl⟩ := Prod.mk.inj same
      have shorter := inductionHypothesis found
      simp only [List.length_cons, List.length_append]
      omega
  | case6 c rest noQuote noSlash unbroken inductionHypothesis =>
      obtain ⟨⟨others, last⟩, found, same⟩ := Option.map_eq_some_iff.mp read
      obtain ⟨rfl, rfl⟩ := Prod.mk.inj same
      exact Nat.lt_succ_of_lt (inductionHypothesis found)

/-- A literal that ends with the code is read in as many steps as the code has characters. -/
theorem quotedWithin?_of_untilQuote? {code : List Char} {units : List Nat} {steps : Nat}
    (enough : code.length ≤ steps) (read : untilQuote? code = some (units, [])) :
    quotedWithin? steps code = some units := by
  fun_induction untilQuote? code generalizing units steps with
  | case1 | case3 | case5 => contradiction
  | case2 c rest closing =>
      obtain ⟨steps, rfl⟩ := Nat.exists_eq_add_of_le' (Nat.le_of_add_left_le enough)
      obtain ⟨rfl, rfl⟩ := Prod.mk.inj (Option.some.inj read)
      simp [quotedWithin?, closing]
  | case4 c rest noQuote slash first behind escape inductionHypothesis =>
      obtain ⟨steps, rfl⟩ := Nat.exists_eq_add_of_le' (Nat.le_of_add_left_le enough)
      obtain ⟨used, rfl, -⟩ := exists_used_of_escape? escape
      rw [List.length_cons, List.length_append] at enough
      obtain ⟨⟨others, last⟩, found, same⟩ := Option.map_eq_some_iff.mp read
      obtain ⟨rfl, rfl⟩ := Prod.mk.inj same
      have behindRead : quotedWithin? steps behind = some others :=
        inductionHypothesis (by omega) found
      simp [quotedWithin?, noQuote, slash, escape, behindRead]
  | case6 c rest noQuote noSlash unbroken inductionHypothesis =>
      obtain ⟨steps, rfl⟩ := Nat.exists_eq_add_of_le' (Nat.le_of_add_left_le enough)
      obtain ⟨⟨others, last⟩, found, same⟩ := Option.map_eq_some_iff.mp read
      obtain ⟨rfl, rfl⟩ := Prod.mk.inj same
      have restRead : quotedWithin? steps rest = some others :=
        inductionHypothesis (Nat.le_of_succ_le_succ enough) found
      simp [quotedWithin?, noQuote, noSlash, unbroken, restRead]

theorem evaluate?_quote (scope : String → Option String) (text : String) :
    evaluate? scope (Name.quote text) = some (textUnits text.toList) := by
  rw [evaluate?, toList_quote]
  exact quotedWithin?_of_untilQuote? (Nat.le_refl _) (untilQuote?_quoted text.toList [])

end Quotes

section Completeness

theorem escapesNext_cons {c : Char} (other : c ≠ '\\') (front : List Char) :
    escapesNext (c :: front) = escapesNext front := by
  simp [escapesNext, beq_false_of_ne other]

theorem escapesNext_pair (c : Char) (front : List Char) :
    escapesNext ('\\' :: c :: front) = escapesNext front := by
  simp [escapesNext]

/-- Behind quoted characters only the last quote is not escaped. -/
theorem escapesNext_iff_of_quoted {cs front behind : List Char}
    (split : cs.flatMap Name.quoteChar ++ ['\''] = front ++ '\'' :: behind) :
    escapesNext front = true ↔ behind ≠ [] := by
  induction cs generalizing front with
  | nil =>
      cases front with
      | nil => simp_all [escapesNext]
      | cons d front => simp at split
  | cons c rest inductionHypothesis =>
      rw [List.flatMap_cons, List.append_assoc] at split
      rcases quoteChar_cases c with ⟨plain, ordinary⟩ | ⟨letter, escaped, -⟩
      · simp only [List.mem_cons, List.not_mem_nil, or_false, not_or] at ordinary
        rw [plain] at split
        cases front with
        | nil => exact absurd (List.cons.inj split).1 ordinary.2.1
        | cons d front =>
            obtain ⟨rfl, later⟩ := List.cons.inj split
            rw [escapesNext_cons ordinary.1]
            exact inductionHypothesis later
      · -- The quote is the escaped letter itself, or it stands behind the pair.
        rw [escaped] at split
        match front with
        | [] => exact absurd (List.cons.inj split).1 (by decide)
        | [d] =>
            obtain ⟨rfl, quote⟩ := List.cons.inj split
            obtain ⟨rfl, rfl⟩ := List.cons.inj quote
            simp [escapesNext]
        | d :: e :: front =>
            obtain ⟨rfl, later⟩ := List.cons.inj split
            obtain ⟨rfl, last⟩ := List.cons.inj later
            rw [escapesNext_pair]
            exact inductionHypothesis last

theorem unbroken_quoteChar (c : Char) : ∀ d ∈ Name.quoteChar c, d ≠ '\n' ∧ d ≠ '\r' := by
  rcases quoteChar_cases c with ⟨plain, ordinary⟩ | ⟨letter, escaped, noFeed, noReturn, -⟩
  · simp only [List.mem_cons, List.not_mem_nil, or_false, not_or] at ordinary
    simp [plain, ordinary]
  · simp [escaped, noFeed, noReturn]

theorem isComplete_quote (text : String) : IsComplete (Name.quote text).toList := by
  rw [toList_quote]
  refine ⟨⟨_, rfl⟩, ?unbroken, ?closes⟩
  case unbroken =>
    have inside : ∀ d ∈ text.toList.flatMap Name.quoteChar, d ≠ '\n' ∧ d ≠ '\r' := by
      intro d member
      obtain ⟨c, -, found⟩ := List.mem_flatMap.mp member
      exact unbroken_quoteChar c d found
    constructor
    · simpa using fun member => (inside '\n' member).1 rfl
    · simpa using fun member => (inside '\r' member).2 rfl
  case closes =>
    intro front behind split
    exact escapesNext_iff_of_quoted (List.cons.inj split).2

theorem isLiteralOf_quote (text : String) : IsLiteralOf (Name.quote text) text where
  complete := isComplete_quote text
  read behind := by
    rw [toList_quote, List.cons_append, List.append_assoc]
    exact untilQuote?_quoted text.toList behind
  exact scope other := by
    rw [evaluate?_quote, Option.some.injEq, textUnits_injective.eq_iff, String.toList_inj,
      eq_comm]

example : literal? ((Name.quote "it's").toList ++ ", id".toList) =
    some (textUnits "it's".toList, ", id".toList) := by cbv

end Completeness

end TypedClient.Script
