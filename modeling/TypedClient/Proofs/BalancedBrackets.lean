/-
This file shows what is left of a text that is cut at its first bracket without a partner: all of a
text whose brackets match, and otherwise what stands in front of that bracket, whether it closes
nothing or is never closed.
-/

import Mathlib.Data.List.TakeWhile
import TypedClient.SourceType.Brackets

namespace TypedClient

namespace Text

theorem exists_blanks_behind_trimEnd (cs : List Char) :
    ∃ blanks, cs = trimEnd cs ++ blanks ∧ ∀ c ∈ blanks, isBlank c = true := by
  refine ⟨(cs.reverse.takeWhile isBlank).reverse, ?_, ?_⟩
  · rw [trimEnd, dropEndWhile, ← List.reverse_append, List.takeWhile_append_dropWhile,
      List.reverse_reverse]
  · intro c member
    exact List.mem_takeWhile_imp (List.mem_reverse.mp member)

end Text

namespace Brackets

open Text

/-- Tells whether a character opens or closes a bracket. -/
def isBracket (c : Char) : Bool :=
  opens c || closes c

theorem of_closes {c : Char} (closed : closes c = true) : opens c = false ∧ isBlank c = false := by
  simp only [closes, Bool.or_eq_true, beq_iff_eq] at closed
  rcases closed with ((rfl | rfl) | rfl) | rfl <;> decide

theorem not_closes_of_opens {c : Char} (opened : opens c = true) : closes c ≠ true := by
  intro closed
  rw [(of_closes closed).1] at opened
  contradiction

/-- A text in which each bracket that opens is closed, and each one that closes was opened. Any
closing bracket closes any opening one. -/
inductive Balanced : List Char → Prop
  | nil : Balanced []
  | plain {c : Char} {rest : List Char} (unopened : opens c = false) (unclosed : closes c = false)
      (behind : Balanced rest) : Balanced (c :: rest)
  | pair {opening closing : Char} {inside rest : List Char} (opened : opens opening = true)
      (closed : closes closing = true) (within : Balanced inside) (behind : Balanced rest) :
      Balanced (opening :: (inside ++ closing :: rest))

/-- A bracket that opens in front of a text is closed in it. -/
def ClosesIn (behind : List Char) : Prop :=
  ∃ inside closing rest, behind = inside ++ closing :: rest ∧ closes closing = true ∧
    Balanced inside

/-- A bracket that closes behind a text was opened in it. -/
def OpensIn (front : List Char) : Prop :=
  ∃ start opening inside, front = start ++ opening :: inside ∧ opens opening = true ∧
    Balanced inside

/-- A bracket has a partner in the text around it. -/
def HasPartner (front : List Char) (c : Char) (behind : List Char) : Prop :=
  opens c = true ∧ ClosesIn behind ∨ closes c = true ∧ OpensIn front

/-- A bracket between two texts is the first one without a partner. -/
structure IsFirstAlone (front : List Char) (c : Char) (behind : List Char) : Prop where
  bracket : isBracket c = true
  alone : ¬HasPartner front c behind
  first : ∀ start d between, front = start ++ d :: between → isBracket d = true →
    HasPartner start d (between ++ c :: behind)

section Partners

variable {front behind cs : List Char} {c : Char}

/-- A bracket keeps its partner in a longer text. -/
theorem HasPartner.enlarge (partner : HasPartner front c behind) (before after : List Char) :
    HasPartner (before ++ front) c (behind ++ after) := by
  rcases partner with ⟨opened, inside, closing, rest, rfl, closed, balanced⟩ |
    ⟨closed, start, opening, inside, rfl, opened, balanced⟩
  · exact .inl ⟨opened, inside, closing, rest ++ after, by simp, closed, balanced⟩
  · exact .inr ⟨closed, before ++ start, opening, inside, by simp, opened, balanced⟩

/-- Each bracket of a balanced text has a partner in it. -/
theorem Balanced.hasPartner (balanced : Balanced cs) (same : cs = front ++ c :: behind)
    (bracket : isBracket c = true) : HasPartner front c behind := by
  induction balanced generalizing front c behind with
  | nil => simp at same
  | @plain d rest unopened unclosed _ inductionHypothesis =>
      cases front with
      | nil =>
          obtain ⟨rfl, -⟩ := List.cons.inj same
          simp [isBracket, unopened, unclosed] at bracket
      | cons e front =>
          obtain ⟨rfl, split⟩ := List.cons.inj same
          simpa using (inductionHypothesis split bracket).enlarge [d] []
  | @pair opening closing inside rest opened closed within _ inInside inRest =>
      -- The bracket is one of the two partners, or it stands between or behind them.
      cases front with
      | nil =>
          obtain ⟨rfl, rfl⟩ := List.cons.inj same
          exact .inl ⟨opened, inside, closing, rest, rfl, closed, within⟩
      | cons e front =>
          obtain ⟨rfl, split⟩ := List.cons.inj same
          rcases List.append_eq_append_iff.mp split with
            ⟨further, rfl, behindInside⟩ | ⟨further, rfl, insideBehind⟩
          · cases further with
            | nil =>
                obtain ⟨rfl, -⟩ := List.cons.inj behindInside
                exact .inr ⟨closed, [], opening, inside, by simp, opened, within⟩
            | cons d further =>
                obtain ⟨rfl, rfl⟩ := List.cons.inj behindInside
                simpa using (inRest rfl bracket).enlarge (opening :: inside ++ [closing]) []
          · cases further with
            | nil =>
                obtain ⟨rfl, -⟩ := List.cons.inj insideBehind
                rw [List.append_nil] at within
                exact .inr ⟨closed, [], opening, front, rfl, opened, within⟩
            | cons d further =>
                obtain ⟨rfl, rfl⟩ := List.cons.inj insideBehind
                simpa using (inInside rfl bracket).enlarge [opening] (closing :: rest)

/-- A balanced text leaves no bracket open for one that closes behind it. -/
theorem Balanced.not_opensIn {cs : List Char} (balanced : Balanced cs) : ¬OpensIn cs := by
  rintro ⟨start, opening, inside, rfl, opened, within⟩
  have bracket : isBracket opening = true := by simp [isBracket, opened]
  rcases balanced.hasPartner rfl bracket with ⟨-, closer⟩ | ⟨closed, -⟩
  · obtain ⟨deeper, closing, rest, rfl, closed, balanced⟩ := closer
    -- The closing bracket stands in a balanced text itself, so it is opened in a shorter one.
    rcases within.hasPartner rfl (by simp [isBracket, closed]) with ⟨opened, -⟩ | ⟨-, opener⟩
    · exact not_closes_of_opens opened closed
    · exact balanced.not_opensIn opener
  · exact not_closes_of_opens opened closed
termination_by cs.length
decreasing_by
  subst_vars
  simp only [List.length_append, List.length_cons]
  omega

theorem ClosesIn.of_plain (unopened : opens c = false) (unclosed : closes c = false)
    (closer : ClosesIn behind) : ClosesIn (c :: behind) := by
  obtain ⟨inside, closing, rest, rfl, closed, balanced⟩ := closer
  exact ⟨c :: inside, closing, rest, rfl, closed, .plain unopened unclosed balanced⟩

theorem ClosesIn.of_pair {opening closing : Char} {inside : List Char}
    (opened : opens opening = true) (closed : closes closing = true) (within : Balanced inside)
    (closer : ClosesIn behind) : ClosesIn (opening :: (inside ++ closing :: behind)) := by
  obtain ⟨further, last, rest, rfl, lastClosed, balanced⟩ := closer
  exact ⟨opening :: (inside ++ closing :: further), last, rest, by simp, lastClosed,
    .pair opened closed within balanced⟩

end Partners

section Cut

variable {front behind cs : List Char} {c : Char}

/-- A bracket behind a balanced text has no partner: it closes, or nothing closes it. -/
def IsLoose (c : Char) (behind : List Char) : Prop :=
  closes c = true ∨ opens c = true ∧ ¬ClosesIn behind

/-- Every text is balanced, or it is so up to a bracket without a partner. -/
theorem balanced_or_exists_loose (cs : List Char) :
    Balanced cs ∨ ∃ front c behind, cs = front ++ c :: behind ∧ Balanced front ∧
      IsLoose c behind := by
  match cs with
  | [] => exact .inl .nil
  | c :: rest =>
      by_cases opened : opens c = true
      · by_cases closer : ClosesIn rest
        · obtain ⟨inside, closing, rest, rfl, closed, within⟩ := closer
          rcases balanced_or_exists_loose rest with balanced |
            ⟨front, d, behind, rfl, balanced, loose⟩
          · exact .inl (.pair opened closed within balanced)
          · exact .inr ⟨c :: (inside ++ closing :: front), d, behind, by simp,
              .pair opened closed within balanced, loose⟩
        · exact .inr ⟨[], c, rest, rfl, .nil, .inr ⟨opened, closer⟩⟩
      · by_cases closed : closes c = true
        · exact .inr ⟨[], c, rest, rfl, .nil, .inl closed⟩
        · rw [Bool.not_eq_true] at opened closed
          rcases balanced_or_exists_loose rest with balanced |
            ⟨front, d, behind, rfl, balanced, loose⟩
          · exact .inl (.plain opened closed balanced)
          · exact .inr ⟨c :: front, d, behind, rfl, .plain opened closed balanced, loose⟩
termination_by cs.length
decreasing_by
  all_goals
    subst_vars
    simp only [List.length_append, List.length_cons]
    omega

theorem IsLoose.not_hasPartner (loose : IsLoose c behind) (balanced : Balanced front) :
    ¬HasPartner front c behind := by
  rintro (⟨opened, closer⟩ | ⟨-, opener⟩)
  · rcases loose with closed | ⟨-, unclosed⟩
    · exact not_closes_of_opens opened closed
    · exact unclosed closer
  · exact balanced.not_opensIn opener

theorem IsLoose.isFirstAlone (loose : IsLoose c behind) (balanced : Balanced front) :
    IsFirstAlone front c behind where
  bracket := by
    rcases loose with closed | ⟨opened, -⟩
    · simp [isBracket, closed]
    · simp [isBracket, opened]
  alone := loose.not_hasPartner balanced
  first := by
    rintro start d between rfl bracket
    simpa using (balanced.hasPartner rfl bracket).enlarge [] (c :: behind)

theorem IsFirstAlone.not_balanced (alone : IsFirstAlone front c behind) :
    ¬Balanced (front ++ c :: behind) := by
  intro balanced
  exact alone.alone (balanced.hasPartner rfl alone.bracket)

/-- A balanced text stays balanced without the blanks at its end. -/
theorem Balanced.trimEnd (balanced : Balanced cs) : Balanced (trimEnd cs) := by
  obtain ⟨blanks, whole, blank⟩ := exists_blanks_behind_trimEnd cs
  rcases balanced_or_exists_loose (Text.trimEnd cs) with known |
    ⟨front, c, behind, same, before, loose⟩
  · exact known
  -- The bracket has a partner in the whole text, and this partner is no blank.
  have bracket := (loose.isFirstAlone before).bracket
  have split : cs = front ++ c :: (behind ++ blanks) := by
    rw [whole, same]
    simp
  have partner := balanced.hasPartner split bracket
  refine absurd ?_ (loose.not_hasPartner before)
  rcases partner with ⟨opened, inside, closing, rest, further, closed, within⟩ | opener
  · rcases List.append_eq_append_iff.mp further with
      ⟨middle, rfl, inBlanks⟩ | ⟨middle, rfl, inBehind⟩
    · have blank := blank closing (by simp [inBlanks])
      simp [(of_closes closed).2] at blank
    · cases middle with
      | nil =>
          have first : closing :: rest = blanks := by simpa using inBehind
          have blank := blank closing (first ▸ List.mem_cons_self)
          simp [(of_closes closed).2] at blank
      | cons d middle =>
          obtain ⟨rfl, rfl⟩ := List.cons.inj inBehind
          exact .inl ⟨opened, inside, closing, middle, rfl, closed, within⟩
  · exact .inr opener

end Cut

section Scan

variable {front behind cs : List Char} {c : Char}

theorem firstUnmatched?_of_opens (opened : opens c = true) (stack : List Nat) (place : Nat) :
    firstUnmatched? stack place (c :: behind) =
      firstUnmatched? (place :: stack) (place + 1) behind := by
  rw [firstUnmatched?.eq_def]
  exact if_pos opened

theorem firstUnmatched?_of_closes (closed : closes c = true) (stack : List Nat) (place : Nat) :
    firstUnmatched? stack place (c :: behind) =
      match stack with
      | [] => some place
      | _ :: outer => firstUnmatched? outer (place + 1) behind := by
  have unopened := (of_closes closed).1
  cases stack <;> simp [firstUnmatched?, unopened, closed]

theorem firstUnmatched?_of_plain (unopened : opens c = false) (unclosed : closes c = false)
    (stack : List Nat) (place : Nat) :
    firstUnmatched? stack place (c :: behind) = firstUnmatched? stack (place + 1) behind := by
  rw [firstUnmatched?.eq_def]
  simp only [unopened, unclosed, Bool.false_eq_true, ↓reduceIte]

/-- The brackets of a balanced text leave the stack as it was. -/
theorem Balanced.firstUnmatched?_append (balanced : Balanced cs) (stack : List Nat) (place : Nat)
    (behind : List Char) :
    firstUnmatched? stack place (cs ++ behind) =
      firstUnmatched? stack (place + cs.length) behind := by
  induction balanced generalizing stack place behind with
  | nil => rfl
  | @plain c rest notOpening notClosing _ inductionHypothesis =>
      rw [List.cons_append, firstUnmatched?_of_plain notOpening notClosing, inductionHypothesis,
        List.length_cons, Nat.add_assoc, Nat.add_comm 1]
  | @pair opening closing inside rest opened closed _ _ within after =>
      have length : (opening :: (inside ++ closing :: rest)).length =
          1 + inside.length + 1 + rest.length := by
        simp only [List.length_cons, List.length_append]
        omega
      -- The place of the opening bracket is on the stack until its partner is read.
      rw [List.cons_append, List.append_assoc, List.cons_append, firstUnmatched?_of_opens opened,
        within, firstUnmatched?_of_closes closed]
      simp only [after, length, ← Nat.add_assoc]

/-- A bracket that is not closed is not taken off the stack. So the outermost one is found. -/
theorem firstUnmatched?_of_not_closesIn {behind : List Char} (unclosed : ¬ClosesIn behind)
    (innermost : Nat) (outer : List Nat) (place : Nat) :
    firstUnmatched? (innermost :: outer) place behind = (innermost :: outer).getLast? := by
  match behind with
  | [] => rfl
  | c :: rest =>
      by_cases opened : opens c = true
      · by_cases closer : ClosesIn rest
        -- A pair of brackets is passed as a whole; otherwise one more bracket stays open.
        · obtain ⟨inside, closing, rest, rfl, closed, within⟩ := closer
          have later : ¬ClosesIn rest := fun closer =>
            unclosed (closer.of_pair opened closed within)
          have pair : Balanced (c :: (inside ++ [closing])) := .pair opened closed within .nil
          have passed := pair.firstUnmatched?_append (innermost :: outer) place rest
          rw [List.cons_append, List.append_assoc, List.singleton_append] at passed
          rw [passed]
          exact firstUnmatched?_of_not_closesIn later innermost outer _
        · rw [firstUnmatched?_of_opens opened,
            firstUnmatched?_of_not_closesIn closer place (innermost :: outer) (place + 1)]
          exact List.getLast?_cons_cons
      · by_cases closed : closes c = true
        · exact absurd ⟨[], c, rest, rfl, closed, .nil⟩ unclosed
        · rw [Bool.not_eq_true] at opened closed
          rw [firstUnmatched?_of_plain opened closed]
          have later : ¬ClosesIn rest := fun closer => unclosed (closer.of_plain opened closed)
          exact firstUnmatched?_of_not_closesIn later innermost outer (place + 1)
termination_by behind.length
decreasing_by
  all_goals
    subst_vars
    simp only [List.length_append, List.length_cons]
    omega

/-- Nothing is cut off from a balanced text. -/
theorem Balanced.balancedStart (balanced : Balanced cs) : balancedStart cs = cs := by
  have matched := balanced.firstUnmatched?_append [] 0 []
  rw [List.append_nil] at matched
  simp [Brackets.balancedStart, matched, firstUnmatched?]

/-- Behind a balanced text a loose bracket is cut off, with all that follows and the blanks in
front. -/
theorem IsLoose.balancedStart (loose : IsLoose c behind) (balanced : Balanced front) :
    balancedStart (front ++ c :: behind) = trimEnd front := by
  have found : firstUnmatched? [] 0 (front ++ c :: behind) = some front.length := by
    rw [balanced.firstUnmatched?_append, Nat.zero_add]
    rcases loose with closed | ⟨opened, unclosed⟩
    · rw [firstUnmatched?_of_closes closed]
    · rw [firstUnmatched?_of_opens opened]
      exact firstUnmatched?_of_not_closesIn unclosed _ [] _
  rw [Brackets.balancedStart, found]
  simp

/-- What is left of a text begins it and is balanced. It is all of the text exactly if the text is
balanced, and otherwise what stands in front of the first bracket without a partner, apart from the
blanks there. So nothing more is cut off a second time. -/
theorem balancedStart_exact (cs : List Char) :
    balancedStart cs <+: cs ∧ Balanced (balancedStart cs) ∧
      (balancedStart cs = cs ↔ Balanced cs) ∧
      (Balanced cs ∨ ∃ front c behind, cs = front ++ c :: behind ∧ IsFirstAlone front c behind ∧
        balancedStart cs = trimEnd front) ∧
      balancedStart (balancedStart cs) = balancedStart cs := by
  rcases balanced_or_exists_loose cs with balanced | ⟨front, c, behind, rfl, balanced, loose⟩
  · have whole := balanced.balancedStart
    rw [whole]
    exact ⟨List.prefix_rfl, balanced, iff_of_true rfl balanced, .inl balanced, whole⟩
  · have cut := loose.balancedStart balanced
    have alone := loose.isFirstAlone balanced
    have left := balanced.trimEnd
    obtain ⟨blanks, same, -⟩ := exists_blanks_behind_trimEnd front
    rw [cut]
    refine ⟨⟨blanks ++ c :: behind, ?_⟩, left, iff_of_false ?_ alone.not_balanced,
      .inr ⟨front, c, behind, rfl, alone, rfl⟩, left.balancedStart⟩
    · rw [← List.append_assoc, ← same]
    · intro whole
      exact alone.not_balanced (whole ▸ left)

end Scan

end Brackets

end TypedClient
