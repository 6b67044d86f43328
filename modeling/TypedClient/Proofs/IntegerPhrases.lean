/-
This file defines how integer expressions are printed as lexical units, with any brackets that the
precedence of the operators requires and any that it does not, and shows that every printing is
read as the expression.
-/

import TypedClient.Proofs.IntegerTrees

namespace TypedClient

/-- The level of precedence of the operator: conjunctions are printed as operands of disjunctions
without brackets, shifts as operands of conjunctions, and so on. -/
def ConstantOperator.precedence : ConstantOperator → Nat
  | bitOr => 1
  | bitXor => 2
  | bitAnd => 3
  | shiftLeft | shiftRight => 4
  | add | subtract => 5
  | multiply => 6

theorem ConstantOperator.precedence_le (operator : ConstantOperator) : operator.precedence ≤ 6 := by
  cases operator <;> decide

@[simp]
theorem ConstantOperator.strength_eq (operator : ConstantOperator) :
    operator.strength = operator.precedence := by
  cases operator <;> rfl

open Constant

/-- A unit begins the operand of a cast if no binary operator could continue with it. -/
inductive Constant.Token.BeginsCastOperand : Token → Prop
  | number (value : Int) : BeginsCastOperand (.number value)
  | name (text : String) : BeginsCastOperand (.name text)
  | opening : BeginsCastOperand .opening
  | tilde : BeginsCastOperand .tilde

/-- A printing of an expression: `IsPrinted level tree tokens` holds if the operators that stand
outside brackets have at least the given level of precedence. Those of one level are grouped from
the left, and operands have a level above that of all operators. -/
inductive IntegerTree.IsPrinted : Nat → IntegerTree → List Token → Prop
  | literal (value : Fin (2 ^ 53)) : IsPrinted 7 (literal value) [.number value]
  | name (text : String) : IsPrinted 7 (name text) [.name text]
  | negate {operand tokens} (printed : IsPrinted 7 operand tokens) :
      IsPrinted 7 (negate operand) (.operator .subtract :: tokens)
  | plus {operand tokens} (printed : IsPrinted 7 operand tokens) :
      IsPrinted 7 (plus operand) (.operator .add :: tokens)
  | complement {operand tokens} (printed : IsPrinted 7 operand tokens) :
      IsPrinted 7 (complement operand) (.tilde :: tokens)
  | cast (type : String) {operand first tokens} (begins : first.BeginsCastOperand)
      (printed : IsPrinted 7 operand (first :: tokens)) :
      IsPrinted 7 (cast type operand) (.opening :: .name type :: .closing :: first :: tokens)
  | binary (operator : ConstantOperator) {left right leftTokens rightTokens}
      (leftPrinted : IsPrinted operator.precedence left leftTokens)
      (rightPrinted : IsPrinted (operator.precedence + 1) right rightTokens) :
      IsPrinted operator.precedence (binary operator left right)
        (leftTokens ++ .operator operator :: rightTokens)
  | brackets {tree tokens} (printed : IsPrinted 1 tree tokens) :
      IsPrinted 7 tree (.opening :: tokens ++ [.closing])
  | looser {level tree tokens} (printed : IsPrinted (level + 1) tree tokens) :
      IsPrinted level tree tokens

/-- A printing whose operators bind strongly enough is one of every lower level. -/
theorem IntegerTree.IsPrinted.mono {lower level : Nat} {tree : IntegerTree} {tokens : List Token}
    (less : lower ≤ level) (printed : IsPrinted level tree tokens) :
    IsPrinted lower tree tokens := by
  induction less with
  | refl => exact printed
  | step _ inductionHypothesis => exact inductionHypothesis printed.looser

/-- The units that may stand behind an expression of a level: none, a closing bracket, or an
operator that does not bind more strongly. -/
inductive Constant.Follows (level : Nat) : List Token → Prop
  | nothing : Follows level []
  | closing (rest : List Token) : Follows level (.closing :: rest)
  | operator (operator : ConstantOperator) (weak : operator.precedence ≤ level)
      (rest : List Token) : Follows level (.operator operator :: rest)

namespace Constant

/-- What follows an expression follows one that binds more strongly. -/
theorem Follows.mono {level higher : Nat} {rest : List Token} (follows : Follows level rest)
    (less : level ≤ higher) : Follows higher rest := by
  cases follows with
  | nothing => exact .nothing
  | closing rest => exact .closing rest
  | operator operator weak rest => exact .operator operator (weak.trans less) rest

/-- What is read with some number of steps is read with one more. -/
theorem reads_succ (steps : Nat) :
    (∀ tokens parsed, operand? steps tokens = some parsed →
      operand? (steps + 1) tokens = some parsed) ∧
    (∀ least tokens parsed, expression? steps least tokens = some parsed →
      expression? (steps + 1) least tokens = some parsed) ∧
    (∀ least left tokens parsed, continue? steps least left tokens = some parsed →
      continue? (steps + 1) least left tokens = some parsed) := by
  -- The three readers call each other with one step less, so the induction is for all of them.
  induction steps with
  | zero => simp [operand?, expression?, continue?]
  | succ steps inductionHypothesis =>
      obtain ⟨operands, expressions, continuations⟩ := inductionHypothesis
      refine ⟨?operand, ?expression, ?continuation⟩
      case operand =>
        intro tokens parsed read
        rw [operand?.eq_def] at read ⊢
        dsimp only at read ⊢
        split at read
        case h_1 => exact read
        case h_2 => exact read
        case h_3 =>
          obtain ⟨inner, found, same⟩ := Option.map_eq_some_iff.mp read
          exact Option.map_eq_some_iff.mpr ⟨inner, operands _ _ found, same⟩
        case h_4 => exact operands _ _ read
        case h_5 =>
          obtain ⟨inner, found, same⟩ := Option.map_eq_some_iff.mp read
          exact Option.map_eq_some_iff.mpr ⟨inner, operands _ _ found, same⟩
        case h_6 rest =>
          split at read
          case isTrue isCast => exact (if_pos isCast).trans (operands _ _ read)
          case isFalse noCast =>
            rw [if_neg noCast]
            split at read
            case h_1 found =>
              rw [expressions _ _ _ found]
              exact read
            case h_2 => contradiction
        case h_7 => contradiction
      case expression =>
        intro least tokens parsed read
        rw [expression?] at read ⊢
        obtain ⟨operand, found, continued⟩ := Option.bind_eq_some_iff.mp read
        exact Option.bind_eq_some_iff.mpr
          ⟨operand, operands _ _ found, continuations _ _ _ _ continued⟩
      case continuation =>
        intro least left tokens parsed read
        rw [continue?.eq_def] at read ⊢
        dsimp only at read ⊢
        split at read
        case h_1 =>
          split at read
          case isTrue weak => rwa [if_pos weak]
          case isFalse strong =>
            rw [if_neg strong]
            obtain ⟨right, found, continued⟩ := Option.bind_eq_some_iff.mp read
            exact Option.bind_eq_some_iff.mpr
              ⟨right, expressions _ _ _ found, continuations _ _ _ _ continued⟩
        case h_2 other => exact read

/-- The operators behind an operand are read with any larger number of steps. -/
theorem continue?_mono {steps more least : Nat} {left : Constant} {tokens : List Token}
    {parsed : Constant × List Token} (less : steps ≤ more)
    (read : continue? steps least left tokens = some parsed) :
    continue? more least left tokens = some parsed := by
  induction less with
  | refl => exact read
  | step _ inductionHypothesis => exact (reads_succ _).2.2 _ _ _ _ inductionHypothesis

/-- Reading stops in front of what follows an expression of a lower level. -/
theorem continue?_of_follows {level least : Nat} {rest : List Token} (steps : Nat)
    (left : Constant) (follows : Follows level rest) (lower : level < least) :
    continue? (steps + 1) least left rest = some (left, rest) := by
  cases follows with
  | nothing => rfl
  | closing rest => rfl
  | operator operator weak rest => simp [continue?, weak.trans_lt lower]

/-- The units behind a bracket are no cast if they begin with something else than a name. -/
theorem isCast_of_no_name {tokens : List Token}
    (other : ∀ text rest, tokens ≠ .name text :: rest) : isCast tokens = false := by
  rw [isCast.eq_def]
  split <;> first | rfl | exact absurd rfl (other _ _)

end Constant

namespace IntegerTree

/-- Units are an operand if they are read as one in front of all that may follow. -/
def ReadsAsOperand (tree : IntegerTree) (tokens : List Token) : Prop :=
  ∀ steps rest, 2 * tokens.length ≤ steps → Follows 6 rest →
    operand? steps (tokens ++ rest) = some (tree.constant, rest)

/-- Units are an expression of a level if reading goes on behind them with the expression as the
left operand. -/
def ReadsFrom (level : Nat) (tree : IntegerTree) (tokens : List Token) : Prop :=
  ∀ steps least rest parsed, least ≤ level → Follows level rest →
    continue? steps least tree.constant rest = some parsed →
    expression? (steps + 2 * tokens.length) least (tokens ++ rest) = some parsed

/-- An operand is an expression of every level. -/
theorem ReadsAsOperand.readsFrom {tree : IntegerTree} {tokens : List Token}
    (operand : ReadsAsOperand tree tokens) (some : 0 < tokens.length) (level : Nat) :
    ReadsFrom level tree tokens := by
  intro steps least rest parsed _ follows continued
  cases steps with
  | zero => simp [continue?] at continued
  | succ steps =>
      have weak : Follows 6 rest := by
        cases follows with
        | nothing => exact .nothing
        | closing rest => exact .closing rest
        | operator operator _ rest => exact .operator operator operator.precedence_le rest
      have enough : steps + 1 + 2 * tokens.length = steps + 2 * tokens.length + 1 := by omega
      rw [enough, expression?, operand _ rest (Nat.le_add_left _ _) weak]
      exact continue?_mono (by omega) continued

theorem ReadsFrom.binary {operator : ConstantOperator} {left right : IntegerTree}
    {leftTokens rightTokens : List Token}
    (leftReads : ReadsFrom operator.precedence left leftTokens)
    (rightReads : ReadsFrom (operator.precedence + 1) right rightTokens) :
    ReadsFrom operator.precedence (binary operator left right)
      (leftTokens ++ .operator operator :: rightTokens) := by
  intro steps least rest parsed low follows continued
  have rightRead := rightReads (steps + 1) _ rest (right.constant, rest) le_rfl
    (follows.mono (Nat.le_succ _))
    (continue?_of_follows _ right.constant follows (Nat.lt_succ_self _))
  have behindLeft : continue? (steps + 1 + 2 * rightTokens.length + 1) least left.constant
      (.operator operator :: (rightTokens ++ rest)) = some parsed := by
    rw [continue?, operator.strength_eq, if_neg (Nat.not_lt.mpr low), rightRead]
    exact continue?_mono (by omega) continued
  have leftRead := leftReads _ least _ parsed low (.operator operator le_rfl _) behindLeft
  have enough : steps + 2 * (leftTokens ++ .operator operator :: rightTokens).length =
      steps + 1 + 2 * rightTokens.length + 1 + 2 * leftTokens.length := by
    simp only [List.length_append, List.length_cons]
    omega
  rw [enough, List.append_assoc, List.cons_append]
  exact leftRead

/-- An expression has units. -/
theorem IsPrinted.length_pos {level : Nat} {tree : IntegerTree} {tokens : List Token}
    (printed : IsPrinted level tree tokens) : 0 < tokens.length := by
  induction printed with
  | looser _ inductionHypothesis => exact inductionHypothesis
  | _ => simp

/-- A name in front is all of the expression or stands in front of an operator. -/
theorem IsPrinted.behind_name {level : Nat} {tree : IntegerTree} {tokens : List Token}
    (printed : IsPrinted level tree tokens) :
    ∀ text rest, tokens = .name text :: rest →
      rest = [] ∨ ∃ operator others, rest = .operator operator :: others := by
  induction printed with
  | name text => simp
  | @binary operator left right leftTokens rightTokens leftPrinted _ leftHypothesis _ =>
      intro text rest same
      cases leftTokens with
      | nil => exact absurd leftPrinted.length_pos (by simp)
      | cons first others =>
          obtain ⟨rfl, rfl⟩ := List.cons.inj same
          rcases leftHypothesis text others rfl with rfl | ⟨second, more, rfl⟩
          · exact .inr ⟨operator, _, rfl⟩
          · exact .inr ⟨second, _, rfl⟩
  | looser _ inductionHypothesis => exact inductionHypothesis
  | _ => simp

/-- An expression in brackets is not taken for a cast. -/
theorem IsPrinted.isCast_eq_false {level : Nat} {tree : IntegerTree} {tokens rest : List Token}
    (printed : IsPrinted level tree tokens) (follows : Follows 6 rest) :
    isCast (tokens ++ .closing :: rest) = false := by
  by_cases named : ∃ text others, tokens = .name text :: others
  · obtain ⟨text, others, rfl⟩ := named
    rcases printed.behind_name text others rfl with rfl | ⟨operator, more, rfl⟩
    · cases follows <;> rfl
    · rfl
  · refine isCast_of_no_name fun text others same => ?_
    cases tokens with
    | nil => exact absurd printed.length_pos (by simp)
    | cons first more =>
        obtain ⟨rfl, -⟩ := List.cons.inj same
        exact named ⟨text, more, rfl⟩

/-- The units of a printing are read as the expression. -/
theorem IsPrinted.reads {level : Nat} {tree : IntegerTree} {tokens : List Token}
    (printed : IsPrinted level tree tokens) :
    (6 < level → ReadsAsOperand tree tokens) ∧ ReadsFrom level tree tokens := by
  -- All printings but operations and looser ones are operands.
  have whole {level : Nat} {tree : IntegerTree} {tokens : List Token}
      (some : 0 < tokens.length) (operand : ReadsAsOperand tree tokens) :
      (6 < level → ReadsAsOperand tree tokens) ∧ ReadsFrom level tree tokens :=
    ⟨fun _ => operand, operand.readsFrom some level⟩
  induction printed with
  | literal _ | name _ =>
      refine whole Nat.one_pos fun steps rest enough follows => ?_
      obtain ⟨steps, rfl⟩ := Nat.exists_eq_add_of_le' enough
      rfl
  | negate _ inductionHypothesis
  | plus _ inductionHypothesis
  | complement _ inductionHypothesis =>
      refine whole (Nat.succ_pos _) fun steps rest enough follows => ?_
      cases steps with
      | zero => simp at enough
      | succ steps =>
          have operand := inductionHypothesis.1 (by decide) steps rest
            (by rw [List.length_cons] at enough; omega) follows
          simp [operand?, operand, constant]
  | cast type begins printed inductionHypothesis =>
      refine whole (Nat.succ_pos _) fun steps rest enough follows => ?_
      cases steps with
      | zero => simp at enough
      | succ steps =>
          have operand := inductionHypothesis.1 (by decide) steps rest
            (by simp only [List.length_cons] at enough ⊢; omega) follows
          cases begins <;> simpa [operand?, isCast, constant] using operand
  | binary operator leftPrinted rightPrinted leftHypothesis rightHypothesis =>
      exact ⟨fun above => absurd operator.precedence_le (by omega),
        leftHypothesis.2.binary rightHypothesis.2⟩
  | @brackets tree tokens printed inductionHypothesis =>
      refine whole (Nat.succ_pos _) fun steps rest enough follows => ?_
      simp only [List.cons_append, List.length_cons, List.length_append, List.length_nil] at enough
      obtain ⟨steps, rfl⟩ := Nat.exists_eq_add_of_le' (show 2 * tokens.length + 2 ≤ steps by omega)
      have inside := inductionHypothesis.2 (steps + 1) 1 (.closing :: rest)
        (tree.constant, .closing :: rest) le_rfl (.closing rest) rfl
      have enough : steps + (2 * tokens.length + 2) = steps + 1 + 2 * tokens.length + 1 := by omega
      have noCast := printed.isCast_eq_false follows
      rw [enough, List.append_assoc, List.cons_append, List.cons_append, List.nil_append, operand?]
      simp [noCast, inside]
  | looser printed inductionHypothesis =>
      refine ⟨fun above => inductionHypothesis.1 (by omega), ?_⟩
      intro steps least rest parsed low follows continued
      exact inductionHypothesis.2 steps least rest parsed (by omega) (follows.mono (by omega))
        continued

/-- Every printing of an expression is read as the expression. -/
theorem IsPrinted.ofTokens? {tree : IntegerTree} {tokens : List Token}
    (printed : IsPrinted 1 tree tokens) : Constant.ofTokens? tokens = some tree.constant := by
  have read := printed.reads.2 (2 * tokens.length + 4) 1 [] (tree.constant, []) le_rfl .nothing rfl
  have enough : 4 * tokens.length + 4 = 2 * tokens.length + 4 + 2 * tokens.length := by omega
  rw [List.append_nil] at read
  rw [Constant.ofTokens?, enough, read]

end IntegerTree

end TypedClient
