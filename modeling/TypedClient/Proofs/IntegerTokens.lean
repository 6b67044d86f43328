/-
This file defines how the lexical units of integer expressions are spelled, with blanks in front of
them and behind the last, and shows which texts are cut into the units that they spell.
-/

import TypedClient.Proofs.CamelCase
import TypedClient.Proofs.IntegerPhrases
import TypedClient.Proofs.WholeNumbers
import TypedClient.Source.Lexeme

namespace TypedClient

open Text Literal

/-- The characters of an operator. -/
def ConstantOperator.symbol : ConstantOperator → List Char
  | bitOr => ['|']
  | bitXor => ['^']
  | bitAnd => ['&']
  | shiftLeft => ['<', '<']
  | shiftRight => ['>', '>']
  | add => ['+']
  | subtract => ['-']
  | multiply => ['*']

namespace Constant

/-- A spelling of a unit. Literals are decimal, with any separators behind the first digit and any
suffixes; names are those of the source language, with points and at signs between their parts. -/
inductive Token.IsSpelled : Token → List Char → Prop
  | number {first : Char} {digits suffix : List Char} (begins : first.isDigit = true)
      (continues : ∀ c ∈ digits, c.isDigit = true ∨ c = '_')
      (ends : ∀ c ∈ suffix, isIntegerSuffix c = true)
      (small : digitsValue ((first :: digits).filter (· != '_')) < 2 ^ 53) :
      IsSpelled (.number (digitsValue ((first :: digits).filter (· != '_'))))
        (first :: digits ++ suffix)
  | name {first : Char} {others : List Char}
      (begins : Source.Lexeme.startsName first = true ∨ first = '@')
      (continues : ∀ c ∈ others, Source.Lexeme.continuesName c = true ∨ c = '.' ∨ c = '@') :
      IsSpelled (.name (String.ofList (first :: others))) (first :: others)
  | operator (operator : ConstantOperator) : IsSpelled (.operator operator) operator.symbol
  | tilde : IsSpelled .tilde ['~']
  | opening : IsSpelled .opening ['(']
  | closing : IsSpelled .closing [')']

/-- A text that spells units one after the other, with any blanks around them. -/
inductive Spells : List Token → List Char → Prop
  | nothing {gap : List Char} (blank : ∀ c ∈ gap, isBlank c = true) : Spells [] gap
  | unit {gap spelling rest : List Char} {token : Token} {tokens : List Token}
      (blank : ∀ c ∈ gap, isBlank c = true) (spelled : token.IsSpelled spelling)
      (others : Spells tokens rest) : Spells (token :: tokens) (gap ++ (spelling ++ rest))

/-- A character is legible if it is ASCII and no vertical tab. -/
def Legible (c : Char) : Prop :=
  c.toNat < 0x80 ∧ c ≠ '\x0b'

instance (c : Char) : Decidable (Legible c) :=
  inferInstanceAs (Decidable (_ ∧ _))

theorem holds_of_legible {holds : Char → Prop}
    (each : ∀ code < 0x80, Legible (Char.ofNat code) → holds (Char.ofNat code)) :
    ∀ c, Legible c → holds c := by
  intro c legible
  have known := each c.toNat legible.1
  rw [Char.ofNat_toNat] at known
  exact known legible

theorem isSpace_of_isBlank : ∀ c, Legible c → isBlank c = true → isSpace c = true :=
  holds_of_legible (by decide)

theorem continuesName_of_isBlank :
    ∀ c, Legible c → isBlank c = true → continuesName c = false :=
  holds_of_legible (by decide)

theorem isSpace_of_isDigit : ∀ c : Char, c.isDigit = true → isSpace c = false :=
  holds_of_isDigit (by decide)

/-- A text is cut into units if it is with every bound that its length allows. -/
def IsCutInto (cs : List Char) (tokens : List Token) : Prop :=
  ∀ steps, cs.length ≤ steps → tokensWithin? steps cs = some tokens

/-- Blanks in front are passed over. -/
theorem IsCutInto.gap {gap rest : List Char} {tokens : List Token}
    (blank : ∀ c ∈ gap, isSpace c = true) (others : IsCutInto rest tokens) :
    IsCutInto (gap ++ rest) tokens := by
  induction gap with
  | nil => exact others
  | cons c gap inductionHypothesis =>
      obtain ⟨first, further⟩ := List.forall_mem_cons.mp blank
      intro steps enough
      cases steps with
      | zero => simp at enough
      | succ steps =>
          rw [List.cons_append, tokensWithin?, if_pos first]
          exact inductionHypothesis further steps (Nat.le_of_succ_le_succ enough)

/-- Tells whether a unit is spelled with letters or digits. -/
def Token.isWord : Token → Bool
  | .number _ | .name _ => true
  | _ => false

/-- An operator or bracket is cut off. -/
theorem IsCutInto.symbol {spelling rest : List Char} {token : Token} {tokens : List Token}
    (spelled : token.IsSpelled spelling) (symbol : token.isWord = false)
    (others : IsCutInto rest tokens) : IsCutInto (spelling ++ rest) (token :: tokens) := by
  have cut {first : Char} {behind : List Char} (noSpace : isSpace first = false)
      (noDigit : first.isDigit = false)
      (noName : (first.isAlpha || first == '_' || first == '@') = false)
      (reads : symbol? (first :: behind) = some (token, rest))
      (shorter : rest.length ≤ behind.length) : IsCutInto (first :: behind) (token :: tokens) := by
    intro steps enough
    cases steps with
    | zero => simp at enough
    | succ steps =>
        have further := others steps (shorter.trans (Nat.le_of_succ_le_succ enough))
        simp [tokensWithin?, noSpace, noDigit, noName, reads, further]
  cases spelled with
  | number | name => contradiction
  | tilde | opening | closing => exact cut rfl rfl rfl rfl le_rfl
  | operator operator =>
      cases operator with
      | shiftLeft | shiftRight => exact cut rfl rfl rfl rfl (Nat.le_succ _)
      | _ => exact cut rfl rfl rfl rfl le_rfl

/-- A decimal literal is read as an integer as close to its value as possible. -/
theorem integerToken?_of_literal {first : Char} {digits suffix : List Char}
    (begins : first.isDigit = true) (continues : ∀ c ∈ digits, c.isDigit = true ∨ c = '_')
    (ends : ∀ c ∈ suffix, isIntegerSuffix c = true) :
    integerToken? (first :: digits ++ suffix) =
      Binary64.nearestInteger? (digitsValue ((first :: digits).filter (· != '_'))) := by
  have separators : ∀ c : Char, c.isDigit = true → (c != '_') = true :=
    holds_of_isDigit (by decide)
  have some : (first :: digits).filter (· != '_') ≠ [] := by
    simp [separators first begins]
  have decimal : ∀ c ∈ first :: digits, c.isDigit = true ∨ c = '_' :=
    List.forall_mem_cons.mpr ⟨.inl begins, continues⟩
  have unmarked (mark : Char) (noDigit : mark.isDigit = false) (noSeparator : mark ≠ '_')
      (noSuffix : isIntegerSuffix mark = false) : mark ∉ first :: digits ++ suffix := by
    intro member
    rcases List.mem_append.mp member with inDigits | inSuffix
    · rcases decimal mark inDigits with digit | separator
      · simp [digit] at noDigit
      · exact noSeparator separator
    · simp [ends mark inSuffix] at noSuffix
  rw [integerToken?.eq_def]
  split
  case h_1 bits same =>
    exact absurd (same ▸ by simp) (unmarked 'b' (by decide) (by decide) (by decide))
  case h_2 bits same =>
    exact absurd (same ▸ by simp) (unmarked 'B' (by decide) (by decide) (by decide))
  exact integerChars?_of_literal some decimal ends

theorem takeWhile_dropWhile_of_stops {test : Char → Bool} {word rest : List Char}
    (continues : ∀ c ∈ word, test c = true) (stops : ∀ c ∈ rest.head?, test c = false) :
    (word ++ rest).takeWhile test = word ∧ (word ++ rest).dropWhile test = rest := by
  rw [List.takeWhile_append_of_pos continues, List.dropWhile_append_of_pos continues]
  cases rest with
  | nil => simp
  | cons c rest => simp [stops c rfl]

/-- A literal is cut off. -/
theorem IsCutInto.number {spelling rest : List Char} {value : Int} {tokens : List Token}
    (spelled : (Token.number value).IsSpelled spelling)
    (stops : ∀ c ∈ rest.head?, continuesName c = false) (others : IsCutInto rest tokens) :
    IsCutInto (spelling ++ rest) (.number value :: tokens) := by
  cases spelled with
  | @number first digits suffix begins continues ends small =>
      have letters : ∀ c ∈ "uUlL".toList, (isPlain c || c == '_') = true := by
        simp [isPlain]
      have plain : ∀ c ∈ digits ++ suffix, (isPlain c || c == '_') = true := by
        intro c member
        rcases List.mem_append.mp member with inDigits | inSuffix
        · rcases continues c inDigits with digit | rfl
          · simp [isPlain, digit]
          · rfl
        · exact letters c (List.contains_iff_mem.mp (ends c inSuffix))
      have behind : ∀ c ∈ rest.head?, (isPlain c || c == '_') = false := by
        intro c member
        have stop := stops c member
        simp only [continuesName, Bool.or_eq_false_iff] at stop ⊢
        exact stop.1.1
      obtain ⟨word, remainder⟩ := takeWhile_dropWhile_of_stops plain behind
      have read := integerToken?_of_literal begins continues ends
      rw [Binary64.nearestInteger?_of_small small] at read
      intro steps enough
      cases steps with
      | zero => simp at enough
      | succ steps =>
          have further := others steps (by simp at enough; omega)
          rw [List.cons_append, List.cons_append, tokensWithin?,
            if_neg (by simp [isSpace_of_isDigit first begins]), if_pos begins, word, remainder,
            ← List.cons_append, read, further]
          rfl

/-- A name of legible characters is cut off. -/
theorem IsCutInto.name {spelling rest : List Char} {text : String} {tokens : List Token}
    (spelled : (Token.name text).IsSpelled spelling) (legible : ∀ c ∈ spelling, Legible c)
    (stops : ∀ c ∈ rest.head?, continuesName c = false) (others : IsCutInto rest tokens) :
    IsCutInto (spelling ++ rest) (.name text :: tokens) := by
  cases spelled with
  | @name first behind begins continues =>
      obtain ⟨legibleFirst, legibleBehind⟩ := List.forall_mem_cons.mp legible
      have starts : ∀ c, Legible c → Source.Lexeme.startsName c = true ∨ c = '@' →
          isSpace c = false ∧ c.isDigit = false ∧ (c.isAlpha || c == '_' || c == '@') = true :=
        holds_of_legible (by decide)
      have goesOn : ∀ c, Legible c → Source.Lexeme.continuesName c = true ∨ c = '.' ∨ c = '@' →
          continuesName c = true :=
        holds_of_legible (by decide)
      obtain ⟨noSpace, noDigit, letter⟩ := starts first legibleFirst begins
      obtain ⟨word, remainder⟩ := takeWhile_dropWhile_of_stops
        (fun c member => goesOn c (legibleBehind c member) (continues c member)) stops
      intro steps enough
      cases steps with
      | zero => simp at enough
      | succ steps =>
          have further := others steps (by simp at enough; omega)
          rw [List.cons_append, tokensWithin?, if_neg (by simp [noSpace]),
            if_neg (by simp [noDigit]), if_pos letter, word, remainder, further]
          rfl

/-- Two units that stand side by side are not both spelled with letters or digits. -/
def Token.Apart (first second : Token) : Prop :=
  first.isWord = false ∨ second.isWord = false

/-- Units that are no words do not continue a word in front of them. -/
theorem Spells.stops {tokens : List Token} {text : List Char} (spells : Spells tokens text)
    (legible : ∀ c ∈ text, Legible c) (symbol : ∀ token ∈ tokens.head?, token.isWord = false) :
    ∀ c ∈ text.head?, continuesName c = false := by
  have first {gap rest : List Char} (blank : ∀ c ∈ gap, isBlank c = true)
      (legibleGap : ∀ c ∈ gap, Legible c) (behind : ∀ c ∈ rest.head?, continuesName c = false) :
      ∀ c ∈ (gap ++ rest).head?, continuesName c = false := by
    cases gap with
    | nil => exact behind
    | cons c gap =>
        rintro _ ⟨⟩
        exact continuesName_of_isBlank c (legibleGap c List.mem_cons_self)
          (blank c List.mem_cons_self)
  cases spells with
  | nothing blank =>
      have stop := @first _ [] blank legible (by simp)
      rwa [List.append_nil] at stop
  | @unit gap spelling rest token tokens blank spelled others =>
      refine first blank (fun c member => legible c (List.mem_append_left _ member)) ?_
      have noWord := symbol token rfl
      cases spelled with
      | number | name => contradiction
      | tilde | opening | closing => rintro _ ⟨⟩; rfl
      | operator operator => cases operator <;> (rintro _ ⟨⟩; rfl)

/-- A legible text is cut into the units that it spells, if no two words touch. -/
theorem Spells.isCutInto {tokens : List Token} {text : List Char} (spells : Spells tokens text)
    (apart : tokens.IsChain Token.Apart) (legible : ∀ c ∈ text, Legible c) :
    IsCutInto text tokens := by
  induction spells with
  | @nothing gap blank =>
      have ends : IsCutInto [] [] := fun steps _ => by cases steps <;> rfl
      have spaces : ∀ c ∈ gap, isSpace c = true := fun c member =>
        isSpace_of_isBlank c (legible c member) (blank c member)
      have cut := ends.gap spaces
      rwa [List.append_nil] at cut
  | @unit gap spelling rest token tokens blank spelled others inductionHypothesis =>
      obtain ⟨legibleGap, legibleUnits⟩ := List.forall_mem_append.mp legible
      obtain ⟨legibleSpelling, legibleRest⟩ := List.forall_mem_append.mp legibleUnits
      have spaces : ∀ c ∈ gap, isSpace c = true := fun c member =>
        isSpace_of_isBlank c (legibleGap c member) (blank c member)
      obtain ⟨next, chain⟩ := List.isChain_cons.mp apart
      have further := inductionHypothesis chain legibleRest
      have stops (word : token.isWord = true) : ∀ c ∈ rest.head?, continuesName c = false :=
        others.stops legibleRest fun second member =>
          (next second member).resolve_left (by simp [word])
      refine IsCutInto.gap spaces ?_
      cases token with
      | number value => exact further.number spelled (stops rfl)
      | name text => exact further.name spelled legibleSpelling (stops rfl)
      | operator | tilde | opening | closing => exact further.symbol spelled rfl

/-- A blank that is passed over is legible. -/
theorem legible_of_isSpace {c : Char} (space : isSpace c = true) : Legible c := by
  simp only [isSpace, Bool.or_eq_true, beq_iff_eq] at space
  rcases space with (((rfl | rfl) | rfl) | rfl) | rfl <;> decide

theorem legible_of_continuesName {c : Char} (continues : continuesName c = true) : Legible c := by
  constructor
  · simp only [continuesName, isPlain, Bool.or_eq_true, beq_iff_eq] at continues
    rcases continues with (((alpha | digit) | rfl) | rfl) | rfl
    · simp [Char.isAlpha, Char.isUpper, Char.isLower, UInt32.le_iff_toNat_le] at alpha
      omega
    · exact (Char.isDigit_iff_toNat.mp digit).2.trans_lt (by decide)
    all_goals decide
  · rintro rfl
    exact absurd continues (by decide)

theorem legible_of_symbol? {cs rest : List Char} {token : Token}
    (reads : symbol? cs = some (token, rest)) (legible : ∀ c ∈ rest, Legible c) :
    ∀ c ∈ cs, Legible c := by
  have further {c : Char} {behind : List Char} (first : Legible c)
      (others : ∀ d ∈ behind, Legible d) : ∀ d ∈ c :: behind, Legible d :=
    List.forall_mem_cons.mpr ⟨first, others⟩
  rw [symbol?.eq_def] at reads
  split at reads <;> cases reads
  case h_1 | h_2 => exact further (by decide) (further (by decide) legible)
  all_goals exact further (by decide) legible

/-- A text that is cut into units is legible. -/
theorem legible_of_tokensWithin? {steps : Nat} {cs : List Char} {tokens : List Token}
    (cut : tokensWithin? steps cs = some tokens) : ∀ c ∈ cs, Legible c := by
  -- A word is legible as long as its characters may stand in names.
  have word {test : Char → Bool} {behind : List Char}
      (names : ∀ c, test c = true → continuesName c = true)
      (legible : ∀ c ∈ behind.dropWhile test, Legible c) : ∀ c ∈ behind, Legible c := by
    rw [← List.takeWhile_append_dropWhile (p := test) (l := behind)]
    refine List.forall_mem_append.mpr ⟨fun c member => ?_, legible⟩
    exact legible_of_continuesName (names c (List.mem_takeWhile_imp member))
  induction steps, cs using tokensWithin?.induct generalizing tokens with
  | case1 => simp
  | case2 => simp [tokensWithin?] at cut
  | case3 steps c rest space inductionHypothesis =>
      rw [tokensWithin?, if_pos space] at cut
      exact List.forall_mem_cons.mpr ⟨legible_of_isSpace space, inductionHypothesis cut⟩
  | case4 steps c rest noSpace digit inductionHypothesis =>
      rw [tokensWithin?, if_neg noSpace, if_pos digit] at cut
      obtain ⟨value, -, behind⟩ := Option.bind_eq_some_iff.mp cut
      obtain ⟨others, further, -⟩ := Option.bind_eq_some_iff.mp behind
      refine List.forall_mem_cons.mpr
        ⟨legible_of_continuesName (by simp [continuesName, isPlain, digit]),
          word (fun d plain => ?_) (inductionHypothesis further)⟩
      rw [continuesName, plain, Bool.true_or, Bool.true_or]
  | case5 steps c rest noSpace noDigit letter inductionHypothesis =>
      rw [tokensWithin?, if_neg noSpace, if_neg noDigit, if_pos letter] at cut
      obtain ⟨others, further, -⟩ := Option.bind_eq_some_iff.mp cut
      refine List.forall_mem_cons.mpr
        ⟨legible_of_continuesName ?_, word (fun _ => id) (inductionHypothesis further)⟩
      simp only [Bool.or_eq_true] at letter
      rcases letter with (alpha | underscore) | sign
      · simp [continuesName, isPlain, alpha]
      · simp [continuesName, underscore]
      · simp [continuesName, sign]
  | case6 steps c rest noSpace noDigit noLetter inductionHypothesis =>
      rw [tokensWithin?, if_neg noSpace, if_neg noDigit, if_neg noLetter] at cut
      obtain ⟨⟨token, behind⟩, reads, found⟩ := Option.bind_eq_some_iff.mp cut
      obtain ⟨others, further, -⟩ := Option.bind_eq_some_iff.mp found
      exact legible_of_symbol? reads (inductionHypothesis behind further)

end Constant

/-- In a printing no two words touch. -/
theorem IntegerTree.IsPrinted.apart {level : Nat} {tree : IntegerTree}
    {tokens : List Constant.Token} (printed : IsPrinted level tree tokens) :
    tokens.IsChain Constant.Token.Apart := by
  have symbol {token : Constant.Token} {rest : List Constant.Token} (noWord : token.isWord = false)
      (chain : rest.IsChain Constant.Token.Apart) :
      (token :: rest).IsChain Constant.Token.Apart :=
    List.isChain_cons.mpr ⟨fun _ _ => .inl noWord, chain⟩
  have between {token : Constant.Token} {front rest : List Constant.Token}
      (noWord : token.isWord = false) (before : front.IsChain Constant.Token.Apart)
      (behind : rest.IsChain Constant.Token.Apart) :
      (front ++ token :: rest).IsChain Constant.Token.Apart := by
    refine List.isChain_append.mpr ⟨before, symbol noWord behind, ?_⟩
    rintro first _ _ ⟨⟩
    exact .inr noWord
  induction printed with
  | literal _ | name _ => exact .singleton _
  | negate _ inductionHypothesis
  | plus _ inductionHypothesis
  | complement _ inductionHypothesis => exact symbol rfl inductionHypothesis
  | cast type _ _ inductionHypothesis =>
      have named := @between .closing [.name type] _ rfl (.singleton _) inductionHypothesis
      exact symbol rfl named
  | binary operator _ _ leftHypothesis rightHypothesis =>
      exact between rfl leftHypothesis rightHypothesis
  | brackets _ inductionHypothesis => exact symbol rfl (between rfl inductionHypothesis .nil)
  | looser _ inductionHypothesis => exact inductionHypothesis

end TypedClient
