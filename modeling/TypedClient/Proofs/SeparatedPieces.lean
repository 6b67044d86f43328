/-
This file says what commas outside of brackets cut a text into, which texts are recovered from the
text that commas join them to, and that only the commas and brackets of the texts matter there.
-/

import Mathlib.Data.List.Forall2
import TypedClient.Proofs.NestedText

namespace TypedClient.Brackets

open Text

def depthBehind (depth : Nat) (cs : List Char) : Nat :=
  cs.foldl depthAfter depth

/-- Every comma stands in a bracket. -/
def CommasEnclosed (depth : Nat) (cs : List Char) : Prop :=
  ∀ front behind, cs = front ++ ',' :: behind → depthBehind depth front ≠ 0

section Pieces

/-- A text has its commas in brackets if it begins with no comma outside of them and has its further
commas in brackets. -/
theorem commasEnclosed_cons {depth : Nat} {c : Char} {rest : List Char} :
    CommasEnclosed depth (c :: rest) ↔
      (c = ',' → depth ≠ 0) ∧ CommasEnclosed (depthAfter depth c) rest := by
  constructor
  · intro enclosed
    refine ⟨fun comma => enclosed [] rest (by simp [comma]), fun front behind same => ?_⟩
    exact enclosed (c :: front) behind (by simp [same])
  · rintro ⟨here, later⟩ front behind same
    cases front with
    | nil => exact here (List.cons.inj same).1
    | cons d front =>
        obtain ⟨rfl, others⟩ := List.cons.inj same
        exact later front behind others

@[simp]
theorem commasEnclosed_nil (depth : Nat) : CommasEnclosed depth [] := by
  intro front behind same
  simp at same

/-- Texts that commas outside of brackets separate: each has its own commas in brackets, and behind
each but the last no bracket is open. -/
inductive Separates : Nat → List (List Char) → Prop
  | last {depth : Nat} {text : List Char} (enclosed : CommasEnclosed depth text) :
      Separates depth [text]
  | cons {depth : Nat} {text : List Char} {rest : List (List Char)}
      (enclosed : CommasEnclosed depth text) (closed : depthBehind depth text = 0)
      (behind : Separates 0 rest) : Separates depth (text :: rest)

theorem separates_singleton {depth : Nat} {text : List Char} :
    Separates depth [text] ↔ CommasEnclosed depth text := by
  constructor
  · intro separates
    cases separates with
    | last enclosed => exact enclosed
    | cons enclosed _ _ => exact enclosed
  · exact .last

/-- A text in front of others must close its brackets too. -/
theorem separates_cons_cons {depth : Nat} {text next : List Char} {rest : List (List Char)} :
    Separates depth (text :: next :: rest) ↔
      CommasEnclosed depth text ∧ depthBehind depth text = 0 ∧ Separates 0 (next :: rest) := by
  constructor
  · intro separates
    cases separates with
    | cons enclosed closed behind => exact ⟨enclosed, closed, behind⟩
  · rintro ⟨enclosed, closed, behind⟩
    exact .cons enclosed closed behind

theorem Separates.consToFirst {depth : Nat} {c : Char} {texts : List (List Char)}
    (inside : c = ',' → depth ≠ 0) (separates : Separates (depthAfter depth c) texts) :
    Separates depth (consToFirst c texts) := by
  cases separates with
  | last enclosed => exact .last (commasEnclosed_cons.mpr ⟨inside, enclosed⟩)
  | cons enclosed closed behind =>
      exact .cons (commasEnclosed_cons.mpr ⟨inside, enclosed⟩) closed behind

/-- The pieces of a text are separated by commas outside of brackets. -/
theorem separates_splitOutside (depth : Nat) (cs : List Char) :
    Separates depth (splitOutside ',' depth cs) := by
  induction cs generalizing depth with
  | nil => exact .last (commasEnclosed_nil depth)
  | cons c rest inductionHypothesis =>
      rw [splitOutside]
      split
      case isTrue cut =>
        simp only [Bool.and_eq_true, beq_iff_eq] at cut
        obtain ⟨rfl, rfl⟩ := cut
        exact .cons (commasEnclosed_nil 0) rfl (inductionHypothesis 0)
      case isFalse uncut =>
        simp only [Bool.and_eq_true, beq_iff_eq, not_and'] at uncut
        exact .consToFirst uncut (inductionHypothesis _)

theorem Separates.exists_cons {depth : Nat} {texts : List (List Char)}
    (separates : Separates depth texts) : ∃ first others, texts = first :: others := by
  cases separates with
  | last _ => exact ⟨_, _, rfl⟩
  | cons _ _ _ => exact ⟨_, _, rfl⟩

/-- The pieces of a text are joined to it by commas. -/
theorem intercalate_splitOutside (depth : Nat) (cs : List Char) :
    [','].intercalate (splitOutside ',' depth cs) = cs := by
  induction cs generalizing depth with
  | nil => rfl
  | cons c rest inductionHypothesis =>
      have joined (inner : Nat) : ∃ first others, splitOutside ',' inner rest = first :: others ∧
          [','].intercalate (first :: others) = rest := by
        obtain ⟨first, others, same⟩ := (separates_splitOutside inner rest).exists_cons
        exact ⟨first, others, same, same ▸ inductionHypothesis inner⟩
      rw [splitOutside]
      split
      case isTrue cut =>
        simp only [Bool.and_eq_true, beq_iff_eq] at cut
        obtain ⟨first, others, same, whole⟩ := joined 0
        rw [same, List.intercalate_cons_cons, whole, cut.2]
        rfl
      case isFalse uncut =>
        obtain ⟨first, others, same, whole⟩ := joined (depthAfter depth c)
        rw [same, ← whole]
        cases others <;> simp [Text.consToFirst]

theorem splitOutside_append_of_enclosed {depth : Nat} {text : List Char}
    (enclosed : CommasEnclosed depth text) {behind first : List Char} {others : List (List Char)}
    (cut : splitOutside ',' (depthBehind depth text) behind = first :: others) :
    splitOutside ',' depth (text ++ behind) = (text ++ first) :: others := by
  induction text generalizing depth with
  | nil => exact cut
  | cons c rest inductionHypothesis =>
      obtain ⟨inside, later⟩ := commasEnclosed_cons.mp enclosed
      have uncut : (depth == 0 && c == ',') = false := by
        simp only [Bool.and_eq_false_imp, beq_iff_eq, beq_eq_false_iff_ne]
        exact fun zero comma => inside comma zero
      rw [List.cons_append, splitOutside, uncut, inductionHypothesis later cut]
      rfl

/-- Texts that commas outside of brackets separate come back from the text that commas join them
to. -/
theorem splitOutside_of_separates {depth : Nat} {texts : List (List Char)}
    (separates : Separates depth texts) :
    splitOutside ',' depth ([','].intercalate texts) = texts := by
  induction separates with
  | @last depth text enclosed =>
      have alone := @splitOutside_append_of_enclosed depth text enclosed [] [] [] rfl
      simpa using alone
  | @cons depth text rest enclosed closed behind inductionHypothesis =>
      obtain ⟨first, others, rfl⟩ := behind.exists_cons
      have cut : splitOutside ',' (depthBehind depth text)
          (',' :: [','].intercalate (first :: others)) = [] :: first :: others := by
        rw [closed, splitOutside, inductionHypothesis]
        rfl
      have joined := splitOutside_append_of_enclosed enclosed cut
      rw [List.intercalate_cons_cons, List.append_assoc]
      simpa using joined

end Pieces

section Marks

/-- The commas and brackets of a text. -/
def marks (cs : List Char) : List Char :=
  cs.filter fun c => opens c || closes c || c == ','

/-- The commas and brackets of a text tell the depth behind it. -/
theorem depthBehind_marks (depth : Nat) (cs : List Char) :
    depthBehind depth (marks cs) = depthBehind depth cs := by
  induction cs generalizing depth with
  | nil => rfl
  | cons c rest inductionHypothesis =>
      rw [marks, List.filter_cons]
      split
      case isTrue => exact inductionHypothesis _
      case isFalse plain =>
        simp only [Bool.or_eq_true, not_or, Bool.not_eq_true] at plain
        have level : depthAfter depth c = depth := by simp [depthAfter, plain]
        have skipped : depthBehind depth (c :: rest) = depthBehind depth rest := by
          rw [depthBehind, List.foldl_cons, level, depthBehind]
        exact (inductionHypothesis depth).trans skipped.symm

/-- The commas and brackets of a text tell whether its commas stand in brackets. -/
theorem commasEnclosed_marks (depth : Nat) (cs : List Char) :
    CommasEnclosed depth (marks cs) ↔ CommasEnclosed depth cs := by
  induction cs generalizing depth with
  | nil => rfl
  | cons c rest inductionHypothesis =>
      rw [marks, List.filter_cons]
      split
      case isTrue =>
        rw [commasEnclosed_cons, commasEnclosed_cons]
        exact and_congr_right fun _ => inductionHypothesis _
      case isFalse plain =>
        simp only [Bool.or_eq_true, not_or, Bool.not_eq_true, beq_iff_eq] at plain
        have level : depthAfter depth c = depth := by simp [depthAfter, plain]
        rw [commasEnclosed_cons, level]
        simpa [plain, marks] using inductionHypothesis depth

@[simp]
theorem marks_append (front behind : List Char) :
    marks (front ++ behind) = marks front ++ marks behind :=
  List.filter_append _ _

end Marks

section Counts

/-- A character that does not separate texts stands in them as often as in the text that they are
joined to. -/
theorem count_intercalate_of_notMem {c : Char} {separator : List Char} (absent : c ∉ separator)
    (texts : List (List Char)) :
    (separator.intercalate texts).count c = texts.flatten.count c := by
  induction texts with
  | nil => rfl
  | cons first rest inductionHypothesis =>
      cases rest with
      | nil => simp
      | cons second rest =>
          rw [List.intercalate_cons_cons, List.flatten_cons, List.count_append, List.count_append,
            List.count_append, inductionHypothesis, List.count_eq_zero.mpr absent]
          rfl

/-- The commas of a text that commas join are those of its parts and those between them. -/
theorem count_intercalate {texts : List (List Char)} (some : texts ≠ []) :
    ([','].intercalate texts).count ',' + 1 = texts.flatten.count ',' + texts.length := by
  induction texts with
  | nil => exact absurd rfl some
  | cons first rest inductionHypothesis =>
      cases rest with
      | nil => simp
      | cons second rest =>
          have later := inductionHypothesis (List.cons_ne_nil _ _)
          rw [List.intercalate_cons_cons, List.flatten_cons, List.count_append, List.count_append,
            List.count_append, List.length_cons]
          simp only [List.count_singleton_self]
          omega

/-- A text is split at a comma in one way where the number of commas in front is known. -/
theorem eq_of_append_comma {front behind first second : List Char}
    (same : front ++ ',' :: behind = first ++ ',' :: second)
    (counts : front.count ',' = first.count ',') : front = first ∧ behind = second := by
  rcases List.append_eq_append_iff.mp same with ⟨between, rfl, others⟩ | ⟨between, rfl, others⟩
  all_goals
    cases between with
    | nil => exact ⟨by simp, by simp_all⟩
    | cons c between =>
        obtain ⟨rfl, -⟩ := List.cons.inj others
        simp at counts

/-- Texts that are joined alike by commas are the same where they have as many commas each. -/
theorem eq_of_intercalate {texts others : List (List Char)}
    (counts : List.Forall₂ (fun text other => text.count ',' = other.count ',') texts others)
    (same : [','].intercalate texts = [','].intercalate others) : texts = others := by
  induction counts with
  | nil => rfl
  | @cons text other rest more here later inductionHypothesis =>
      cases later with
      | nil => simpa using same
      | cons next following =>
          rw [List.intercalate_cons_cons, List.intercalate_cons_cons] at same
          simp only [List.append_assoc, List.singleton_append] at same
          obtain ⟨rfl, behind⟩ := eq_of_append_comma same here
          rw [inductionHypothesis behind]

/-- Where each of several texts has at least the commas of another one, they have as many if there
are no more of them together. -/
theorem counts_eq_of_le {texts others : List (List Char)}
    (counts : List.Forall₂ (fun text other => other.count ',' ≤ text.count ',') texts others) :
    others.flatten.count ',' ≤ texts.flatten.count ',' ∧
      (texts.flatten.count ',' ≤ others.flatten.count ',' →
        List.Forall₂ (fun text other => text.count ',' = other.count ',') texts others) := by
  induction counts with
  | nil => exact ⟨Nat.le_refl _, fun _ => .nil⟩
  | @cons text other rest more here _ inductionHypothesis =>
      obtain ⟨fewer, equal⟩ := inductionHypothesis
      simp only [List.flatten_cons, List.count_append]
      exact ⟨by omega, fun total => .cons (by omega) (equal (by omega))⟩

end Counts

end TypedClient.Brackets
