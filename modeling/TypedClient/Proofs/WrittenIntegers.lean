/-
This file shows what the value of a written integer expression is: that of the expression in
two's-complement arithmetic of 64 bits, unless the text has a character that is not legible.
-/

import TypedClient.Proofs.IntegerTokens

namespace TypedClient

/-- A text is legible if all of its characters are. -/
def Constant.IsLegible (text : String) : Prop :=
  ∀ c ∈ text.toList, Legible c

instance (text : String) : Decidable (Constant.IsLegible text) :=
  List.decidableBAll _ text.toList

namespace IntegerTree

/-- A text is a printing of an expression if it spells the units of one. -/
def IsWritten (tree : IntegerTree) (text : String) : Prop :=
  ∃ tokens, IsPrinted 1 tree tokens ∧ Constant.Spells tokens text.toList

/-- A legible printing is read as the expression, and any other not at all. -/
theorem IsWritten.ofChars? {tree : IntegerTree} {text : String} (written : tree.IsWritten text) :
    Constant.ofChars? text.toList =
      if Constant.IsLegible text then some tree.constant else none := by
  obtain ⟨tokens, printed, spells⟩ := written
  rw [Constant.ofChars?]
  split
  case isTrue legible =>
    rw [spells.isCutInto printed.apart legible _ le_rfl]
    exact printed.ofTokens?
  case isFalse illegible =>
    cases cut : Constant.tokensWithin? text.toList.length text.toList with
    | none => rfl
    | some others => exact absurd (Constant.legible_of_tokensWithin? cut) illegible

/-- The value of a printing is the value of the expression, if all characters are legible. It has
none exactly if a name in it is unknown, a shift amount is outside 0 to 63, or an exact sum,
difference, product or negation needs more than 64 bits. -/
theorem evaluate?_of_isWritten {tree : IntegerTree} {text : String}
    (lookup : String → Option (BitVec 64)) (written : tree.IsWritten text) :
    (Constant.evaluate? (fun name => (lookup name).map BitVec.toInt) text =
      if Constant.IsLegible text then (tree.value? lookup).map BitVec.toInt else none) ∧
    (tree.value? lookup = none ↔ ∃ part ∈ tree.parts, IsFault lookup part) := by
  refine ⟨?_, tree.value?_eq_none_iff⟩
  rw [Constant.evaluate?, written.ofChars?]
  split
  case isTrue legible => exact tree.value?_constant
  case isFalse illegible => rfl

theorem isSpelled_name {first : Char} {others : List Char}
    (letters : ∀ c ∈ first :: others, Text.isLetter c = true) :
    (Constant.Token.name (String.ofList (first :: others))).IsSpelled (first :: others) := by
  obtain ⟨begins, continues⟩ := List.forall_mem_cons.mp letters
  refine .name (.inl ?_) fun c member => .inl ?_
  · rw [Source.Lexeme.startsName, begins, Bool.or_true]
  · rw [Source.Lexeme.continuesName, Text.isLetterOrNumeral, continues c member, Bool.true_or,
      Bool.or_true]

/-- A shift of a cast name and a literal are combined. -/
theorem evaluate?_of_shifted_cast :
    let tree := binary .bitOr (binary .shiftLeft (cast "int" (name "Read")) (literal 1)) (literal 2)
    let lookup := fun name => if name = "Read" then some 1#64 else none
    tree.IsWritten "(int)Read << 1 | 2" ∧
      Constant.evaluate? (fun name => (lookup name).map BitVec.toInt) "(int)Read << 1 | 2" =
        some 2 ∧
      ¬ ∃ part ∈ tree.parts, IsFault lookup part := by
  intro tree lookup
  have written : tree.IsWritten "(int)Read << 1 | 2" := by
    have read : IsPrinted 7 (cast "int" (name "Read")) _ := .cast "int" (.name _) (.name "Read")
    have shifted : IsPrinted 4 (binary .shiftLeft (cast "int" (name "Read")) (literal 1)) _ :=
      .binary .shiftLeft (read.mono (by decide)) ((IsPrinted.literal 1).mono (by decide))
    have printed : IsPrinted 1 tree _ :=
      .binary .bitOr (shifted.mono (by decide)) ((IsPrinted.literal 2).mono (by decide))
    refine ⟨_, printed, ?_⟩
    have type : (Constant.Token.name "int").IsSpelled ['i', 'n', 't'] :=
      isSpelled_name (by simp [Text.isLetter])
    have named : (Constant.Token.name "Read").IsSpelled ['R', 'e', 'a', 'd'] :=
      isSpelled_name (by simp [Text.isLetter])
    have one : (Constant.Token.number (1 : Fin (2 ^ 53))).IsSpelled ['1'] :=
      @Constant.Token.IsSpelled.number '1' [] [] rfl (by simp) (by simp) (by decide)
    have two : (Constant.Token.number (2 : Fin (2 ^ 53))).IsSpelled ['2'] :=
      @Constant.Token.IsSpelled.number '2' [] [] rfl (by simp) (by simp) (by decide)
    have gapless : ∀ c ∈ ([] : List Char), Text.isBlank c = true := by simp
    have blank : ∀ c ∈ [' '], Text.isBlank c = true := by simp [Text.isBlank]
    have spells : Constant.Spells _ _ :=
      .unit gapless .opening <| .unit gapless type <| .unit gapless .closing <|
      .unit gapless named <| .unit blank (.operator .shiftLeft) <| .unit blank one <|
      .unit blank (.operator .bitOr) <| .unit blank two <| .nothing gapless
    exact spells
  obtain ⟨value, faults⟩ := evaluate?_of_isWritten lookup written
  refine ⟨written, value.trans (by decide), faults.not.mp (by decide)⟩

/-- Names of letters beyond ASCII are names, but a constant is not read beyond ASCII. -/
theorem evaluate?_of_umlaut :
    let tree := binary .bitOr (name "Länge") (literal 2)
    let lookup := fun name => if name = "Länge" then some 1#64 else none
    tree.IsWritten "Länge | 2" ∧ tree.value? lookup = some 3#64 ∧
      Constant.evaluate? (fun name => (lookup name).map BitVec.toInt) "Länge | 2" = none := by
  intro tree lookup
  have named : (Constant.Token.name "Länge").IsSpelled ['L', 'ä', 'n', 'g', 'e'] :=
    isSpelled_name (fun c member => by
      fin_cases member <;> decide)
  have two : (Constant.Token.number (2 : Fin (2 ^ 53))).IsSpelled ['2'] :=
    @Constant.Token.IsSpelled.number '2' [] [] rfl (by simp) (by simp) (by decide)
  have gapless : ∀ c ∈ ([] : List Char), Text.isBlank c = true := by simp
  have blank : ∀ c ∈ [' '], Text.isBlank c = true := by simp [Text.isBlank]
  have spells : Constant.Spells _ _ :=
    .unit gapless named <| .unit blank (.operator .bitOr) <| .unit blank two <| .nothing gapless
  have printed : IsPrinted 1 tree _ :=
    .binary .bitOr ((IsPrinted.name "Länge").mono (by decide))
      ((IsPrinted.literal 2).mono (by decide))
  exact ⟨⟨_, printed, spells⟩, by decide, by decide⟩

end IntegerTree

end TypedClient
