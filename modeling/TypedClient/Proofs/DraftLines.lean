/-
This file shows which lines the steps of a draft add: they stand at the level of the draft or
deeper, and nothing that is written already changes.
-/

import TypedClient.Client.Draft

namespace TypedClient.Draft

theorem indented_zero (text : String) : indented 0 text = text := by
  by_cases empty : text = "" <;> simp [indented, empty]

/-- A line stands at a level or deeper. -/
def Deep (level : Nat) (line : String) : Prop :=
  ∃ deeper text, level ≤ deeper ∧ line = indented deeper text

theorem Deep.above {level deeper : Nat} {line : String} (deep : Deep deeper line)
    (below : level ≤ deeper) : Deep level line := by
  obtain ⟨deepest, text, further, same⟩ := deep
  exact ⟨deepest, text, Nat.le_trans below further, same⟩

/-- A draft goes on from another: its level is the same, and the lines behind are not above it. -/
structure Extends (before after : Draft) : Prop where
  level : after.level = before.level
  lines : ∃ added, after.lines = before.lines ++ added ∧ ∀ line ∈ added, Deep before.level line

namespace Extends

theorem refl (draft : Draft) : Extends draft draft where
  level := rfl
  lines := ⟨[], by simp, by simp⟩

/-- A draft that goes on twice goes on. -/
theorem trans {first second third : Draft} (start : Extends first second)
    (behind : Extends second third) : Extends first third where
  level := behind.level.trans start.level
  lines := by
    obtain ⟨added, lines, deep⟩ := start.lines
    obtain ⟨more, moreLines, moreDeep⟩ := behind.lines
    refine ⟨added ++ more, by rw [moreLines, lines, List.append_assoc], ?_⟩
    intro line member
    rcases List.mem_append.mp member with inAdded | inMore
    · exact deep line inAdded
    · exact start.level ▸ moreDeep line inMore

theorem line (draft : Draft) (text : String) : Extends draft (draft.line text) where
  level := rfl
  lines := by
    refine ⟨[indented draft.level text], rfl, ?_⟩
    intro line member
    exact ⟨draft.level, text, Nat.le_refl _, List.mem_singleton.mp member⟩

/-- Steps that go on one by one go on together. -/
theorem foldl {Element : Type} {step : Draft → Element → Draft}
    (steps : ∀ draft element, Extends draft (step draft element)) (draft : Draft)
    (elements : List Element) : Extends draft (elements.foldl step draft) := by
  induction elements generalizing draft with
  | nil => exact refl draft
  | cons element rest inductionHypothesis =>
      exact (steps draft element).trans (inductionHypothesis (step draft element))

theorem addLines (draft : Draft) (texts : List String) : Extends draft (draft.addLines texts) :=
  foldl line draft texts

theorem comment (draft : Draft) (summary : Option String) :
    Extends draft (draft.comment summary) :=
  addLines draft (commentLines summary)

/-- Behind a block the lines in it are deeper than the draft. -/
theorem dedent {before inside : Draft} {text : String}
    (inner : Extends (before.openBlock text) inside) : Extends before inside.dedent where
  level := by
    rw [Draft.dedent, inner.level]
    rfl
  lines := by
    obtain ⟨added, lines, deep⟩ := inner.lines
    refine ⟨indented before.level text :: added, ?_, ?_⟩
    · rw [Draft.dedent, lines]
      simp [openBlock, Draft.line]
    · intro line member
      rcases List.mem_cons.mp member with rfl | inAdded
      · exact ⟨before.level, text, Nat.le_refl _, rfl⟩
      · exact (deep line inAdded).above (Nat.le_succ _)

theorem block {before inside : Draft} {text : String}
    (inner : Extends (before.openBlock text) inside) (closing : String) :
    Extends before (inside.closeBlock closing) :=
  inner.dedent.trans (line _ closing)

end Extends

/-- Lines that declare something: perhaps a comment, an opening line, and lines that are deeper or
close a block. -/
def IsDeclaration (opening : String) (lines : List String) : Prop :=
  ∃ summary inner, lines = commentLines summary ++ opening :: inner ∧
    ∀ line ∈ inner, Deep 1 line ∨ line = "\x7d"

@[simp] theorem level_addLines (draft : Draft) (texts : List String) :
    (draft.addLines texts).level = draft.level :=
  (Extends.addLines draft texts).level

@[simp] theorem lines_addLines (draft : Draft) (texts : List String) :
    (draft.addLines texts).lines = draft.lines ++ texts.map (indented draft.level) := by
  induction texts generalizing draft with
  | nil => simp [addLines]
  | cons text rest inductionHypothesis =>
      change ((draft.line text).addLines rest).lines = _
      rw [inductionHypothesis]
      simp [line]

theorem lines_comment (summary : Option String) :
    (comment {} summary).lines = commentLines summary ∧ (comment {} summary).level = 0 := by
  have unindented : indented 0 = id := funext indented_zero
  simp [comment, unindented]

/-- A block at the outermost level behind a comment is a declaration. -/
theorem isDeclaration_dedent {summary : Option String} {opening : String} {inside : Draft}
    (inner : Extends ((comment {} summary).openBlock opening) inside) :
    IsDeclaration opening inside.dedent.lines := by
  obtain ⟨lines, level⟩ := lines_comment summary
  obtain ⟨added, addedLines, deep⟩ := inner.lines
  refine ⟨summary, added, ?_, ?_⟩
  · rw [dedent, addedLines]
    simp [openBlock, line, lines, level, indented_zero]
  · intro line member
    refine .inl ((deep line member).above ?_)
    simp [openBlock]

theorem isDeclaration_closeBlock {summary : Option String} {opening : String} {inside : Draft}
    (inner : Extends ((comment {} summary).openBlock opening) inside) :
    IsDeclaration opening (inside.closeBlock "\x7d").lines := by
  obtain ⟨-, level⟩ := lines_comment summary
  obtain ⟨found, added, lines, deep⟩ := isDeclaration_dedent inner
  have outermost : inside.dedent.level = 0 := inner.dedent.level.trans level
  refine ⟨found, added ++ ["\x7d"], ?_, ?_⟩
  · rw [closeBlock, line, lines, outermost, indented_zero]
    simp
  · intro line member
    rcases List.mem_append.mp member with inAdded | closing
    · exact deep line inAdded
    · exact .inr (List.mem_singleton.mp closing)

end TypedClient.Draft
