/-
This file shows that a documentation comment ends where its block ends and nowhere before, whatever
its text is: what ends a comment is broken up in the text, and nothing that is written around the
text makes up a new end.
-/

import Mathlib.Data.List.Basic
import Mathlib.Data.List.TakeWhile
import TypedClient.Proofs.DraftLines
import TypedClient.Proofs.Pieces

namespace TypedClient

namespace Text

/-- A word is not found in front exactly if the text does not begin with it. -/
theorem dropStart?_eq_none_iff {word cs : List Char} :
    dropStart? word cs = none ↔ ¬word <+: cs := by
  rw [Option.eq_none_iff_forall_ne_some]
  simp only [ne_eq, dropStart?_eq_some, ← not_exists]
  exact not_congr ⟨fun ⟨rest, same⟩ => ⟨rest, same.symm⟩, fun ⟨rest, same⟩ => ⟨rest, same.symm⟩⟩

theorem cutFirst?_eq_none_iff {word cs : List Char} : cutFirst? word cs = none ↔ ¬word <:+: cs := by
  induction cs with
  | nil =>
      rw [cutFirst?, Option.map_eq_none_iff, dropStart?_eq_none_iff, List.prefix_nil,
        List.infix_nil]
  | cons c rest inductionHypothesis =>
      rw [cutFirst?, List.infix_cons_iff, not_or, ← dropStart?_eq_none_iff]
      cases dropStart? word (c :: rest) with
      | some behind => simp
      | none => simpa using inductionHypothesis

/-- A text is cut where the word stands, and the word does not stand in front of the cut. -/
theorem cutFirst?_first {word cs front behind : List Char} (some : word ≠ [])
    (cut : cutFirst? word cs = .some (front, behind)) :
    cs = front ++ word ++ behind ∧ ¬word <:+: front := by
  induction cs generalizing front with
  | nil =>
      obtain ⟨e, expected, rfl⟩ := List.exists_cons_of_ne_nil some
      simp [cutFirst?, dropStart?] at cut
  | cons c rest inductionHypothesis =>
      rw [cutFirst?] at cut
      cases found : dropStart? word (c :: rest) with
      | some here =>
          rw [found] at cut
          obtain ⟨rfl, rfl⟩ := Prod.mk.inj (Option.some.inj cut)
          exact ⟨dropStart?_eq_some.mp found, by simpa using some⟩
      | none =>
          rw [found] at cut
          obtain ⟨⟨before, later⟩, further, same⟩ := Option.map_eq_some_iff.mp cut
          obtain ⟨rfl, rfl⟩ := Prod.mk.inj same
          obtain ⟨rfl, absent⟩ := inductionHypothesis further
          refine ⟨by simp, ?_⟩
          rw [List.infix_cons_iff, not_or]
          refine ⟨fun starts => dropStart?_eq_none_iff.mp found ?_, absent⟩
          exact starts.trans ⟨word ++ later, by simp⟩

/-- Replacing brings in no characters but those of the replacement. -/
theorem mem_replaceAll {word replacement cs : List Char} {c : Char} (some : word ≠ [])
    (member : c ∈ replaceAll word replacement cs) : c ∈ cs ∨ c ∈ replacement := by
  have steps (steps : Nat) (rest : List Char)
      (member : c ∈ replaceAll.go word replacement steps rest) : c ∈ rest ∨ c ∈ replacement := by
    induction steps generalizing rest with
    | zero => exact .inl member
    | succ steps inductionHypothesis =>
        rw [replaceAll.go] at member
        split at member
        · rename_i front behind cut
          obtain ⟨rfl, -⟩ := cutFirst?_first some cut
          simp only [List.mem_append] at member ⊢
          rcases member with (here | replaced) | later
          · exact .inl (.inl (.inl here))
          · exact .inr replaced
          · exact (inductionHypothesis behind later).imp_left .inr
        · exact .inl member
  exact steps cs.length cs member

/-- Nothing is left of a text exactly if it is blank. -/
theorem trim_eq_nil_iff {cs : List Char} : trim cs = [] ↔ ∀ c ∈ cs, isBlank c = true := by
  rw [trim, trimEnd, dropEndWhile, List.reverse_eq_nil_iff, List.dropWhile_eq_nil_iff]
  simp only [List.mem_reverse]
  constructor
  · intro blank
    -- What is left behind the first blanks does not begin with a blank.
    have nothing : cs.dropWhile isBlank = [] := by
      cases same : cs.dropWhile isBlank with
      | nil => rfl
      | cons c rest =>
          have here : isBlank c = true := blank c (by simp [trimStart, same])
          have stopped : ∀ d ∈ (cs.dropWhile isBlank).head?, isBlank d = false := head_dropWhile
          rw [same] at stopped
          exact absurd here (by simp [stopped c rfl])
    exact List.dropWhile_eq_nil_iff.mp nothing
  · intro blank c member
    exact blank c ((List.dropWhile_sublist _).mem member)

end Text

namespace Draft

open Text

/-- The end of a comment does not stand in a text. -/
def Unended (cs : List Char) : Prop :=
  ¬['*', '/'] <:+: cs

instance : DecidablePred Unended :=
  fun cs => inferInstanceAs (Decidable (¬['*', '/'] <:+: cs))

namespace Unended

variable {cs behind : List Char}

/-- Texts without the end of a comment stand behind each other if they do not make up one. -/
theorem append (first : Unended cs) (second : Unended behind)
    (apart : cs.getLast? ≠ some '*' ∨ behind.head? ≠ some '/') : Unended (cs ++ behind) := by
  rintro ⟨before, after, same⟩
  rcases List.append_eq_append_iff.mp same with ⟨rest, rfl, -⟩ | ⟨rest, inside, rfl⟩
  · exact first ⟨before, rest, rfl⟩
  · rcases List.append_eq_append_iff.mp inside with ⟨front, rfl, word⟩ | ⟨front, rfl, rfl⟩
    · -- The two characters are shared out between the texts.
      match front, word with
      | [], word => exact second ⟨[], after, by rw [word]; rfl⟩
      | [_], word =>
          obtain ⟨rfl, rfl⟩ := List.cons.inj word
          simp at apart
      | [_, _], word =>
          obtain ⟨rfl, further⟩ := List.cons.inj word
          obtain ⟨rfl, -⟩ := List.cons.inj further
          exact first ⟨before, [], by simp⟩
    · exact second ⟨front, after, rfl⟩

end Unended

/-- A text that is written in a comment does not end it. -/
theorem unended_escapeComment (cs : List Char) : Unended (escapeComment cs).toList := by
  rw [escapeComment, String.toList_ofList]
  have steps (steps : Nat) (rest : List Char) (enough : rest.length ≤ steps) :
      Unended (replaceAll.go ['*', '/'] ['*', '\\', '/'] steps rest) := by
    induction steps generalizing rest with
    | zero =>
        obtain rfl := List.length_eq_zero_iff.mp (Nat.le_zero.mp enough)
        simp [replaceAll.go, Unended]
    | succ steps inductionHypothesis =>
        rw [replaceAll.go]
        split
        case h_1 front behind cut =>
          obtain ⟨rfl, absent⟩ := cutFirst?_first (by simp) cut
          have unended : Unended front := absent
          have short : behind.length ≤ steps := by
            simp only [List.length_append, List.length_cons] at enough
            omega
          have broken : Unended ['*', '\\', '/'] := by decide
          exact (unended.append broken (.inr (by simp))).append (inductionHypothesis behind short)
            (.inl (by simp))
        case h_2 uncut => exact cutFirst?_eq_none_iff.mp uncut
  exact steps cs.length cs le_rfl

/-- A text that may stand in a comment behind every text without an end. -/
structure Inert (cs : List Char) : Prop where
  unended : Unended cs
  front : cs.head? ≠ some '/'

namespace Inert

variable {cs behind : List Char}

/-- Nothing ends no comment. -/
theorem nil : Inert [] where
  unended := by decide
  front := by simp

/-- Inert texts stand behind each other. -/
theorem append (first : Inert cs) (second : Inert behind) : Inert (cs ++ behind) where
  unended := first.unended.append second.unended (.inr second.front)
  front := by
    cases cs with
    | nil => exact second.front
    | cons c rest => exact first.front

theorem flatten {texts : List (List Char)} (inert : ∀ text ∈ texts, Inert text) :
    Inert texts.flatten := by
  induction texts with
  | nil => exact nil
  | cons first rest inductionHypothesis =>
      obtain ⟨here, later⟩ := List.forall_mem_cons.mp inert
      rw [List.flatten_cons]
      exact here.append (inductionHypothesis later)

theorem spaces (count : Nat) : Inert (List.replicate count ' ') where
  unended := by
    rintro ⟨before, after, same⟩
    have star : '*' ∈ List.replicate count ' ' := by simp [← same]
    exact absurd (List.eq_of_mem_replicate star) (by decide)
  front := by
    cases count with
    | zero => simp
    | succ count => simp [List.replicate_succ]

/-- A text without an end is inert behind a space. -/
theorem space (unended : Unended cs) : Inert (' ' :: cs) where
  unended := by
    have blank : Unended [' '] := by decide
    exact blank.append unended (.inl (by simp))
  front := by simp

end Inert

theorem toList_textOf (lines : List String) :
    (textOf lines).toList = (lines.map fun line => line.toList ++ ['\n']).flatten := by
  rw [textOf, String.toList_join]
  simp [Function.comp_def, List.flatMap_def]

/-- Inert text behind the opening of a comment does not end it, nor does a star behind it. -/
theorem Inert.unended_star {inside : List Char} (inert : Inert inside) (level : Nat) :
    Unended (List.replicate (2 * level) ' ' ++ ['/', '*', '*'] ++ inside ++ ['*']) := by
  have opening : Unended ['/', '*', '*'] := by decide
  have star : Inert ['*'] := ⟨by decide, by simp⟩
  have behind := opening.append (inert.append star).unended (.inr (inert.append star).front)
  have spaces := Inert.spaces (2 * level)
  have apart : (List.replicate (2 * level) ' ').getLast? ≠ some '*' := by
    intro last
    exact absurd (List.eq_of_mem_replicate (List.mem_of_getLast? last)) (by decide)
  simpa using spaces.unended.append behind (.inl apart)

/-- A text that ends where a comment is closed has no other end. -/
theorem eq_of_closed {front before after : List Char} (unended : Unended (front ++ ['*']))
    (same : front ++ ['*', '/'] ++ ['\n'] = before ++ ['*', '/'] ++ after) : after = ['\n'] := by
  -- Further characters behind the other end would leave it in front of the last character.
  rcases List.eq_nil_or_concat' after with rfl | ⟨further, last, rfl⟩
  · have last := congrArg List.getLast? same
    simp at last
  · rw [← List.append_assoc] at same
    obtain ⟨start, final⟩ := List.append_inj' same rfl
    rcases List.eq_nil_or_concat' further with rfl | ⟨inside, second, rfl⟩
    · exact final.symm
    · have split : front ++ ['*'] ++ ['/'] = before ++ ['*', '/'] ++ inside ++ [second] := by
        simpa using start
      exact absurd ⟨before, inside, (List.append_inj' split rfl).1.symm⟩ unended

/-- Lines at a level are one documentation comment: it opens in front, it is closed at the end of
the last line and nowhere else, and each line stands at the level. -/
structure IsComment (level : Nat) (lines : List String) : Prop where
  opened : ∃ rest, (textOf lines).toList =
    List.replicate (2 * level) ' ' ++ ['/', '*', '*'] ++ rest
  closed : ∃ front, (textOf lines).toList = front ++ ['*', '/', '\n']
  once : ∀ front behind, (textOf lines).toList = front ++ ['*', '/'] ++ behind → behind = ['\n']
  inLine : ∀ line ∈ lines, ∃ text, line = indented level text ∧ '\n' ∉ text.toList ∧
    (['/', '*', '*'] <+: text.toList ∨ [' ', '*'] <+: text.toList)

/-- A comment whose text is inert between its opening and its end is closed once. -/
theorem isComment_of_inert {level : Nat} {lines : List String} {inside : List Char}
    (inert : Inert inside) (whole : (textOf lines).toList =
      List.replicate (2 * level) ' ' ++ ['/', '*', '*'] ++ inside ++ ['*', '/', '\n'])
    (inLine : ∀ line ∈ lines, ∃ text, line = indented level text ∧ '\n' ∉ text.toList ∧
      (['/', '*', '*'] <+: text.toList ∨ [' ', '*'] <+: text.toList)) :
    IsComment level lines where
  opened := ⟨inside ++ ['*', '/', '\n'], by rw [whole, List.append_assoc]⟩
  closed := ⟨_, whole⟩
  once front behind same := by
    rw [whole] at same
    have split : List.replicate (2 * level) ' ' ++ ['/', '*', '*'] ++ inside ++ ['*', '/'] ++
        ['\n'] = front ++ ['*', '/'] ++ behind := by simpa using same
    exact eq_of_closed (inert.unended_star level) split
  inLine := inLine

/-- A line that is not empty stands behind the spaces of its level. -/
theorem toList_indented {text : String} (some : text ≠ "") (level : Nat) :
    (indented level text).toList = List.replicate (2 * level) ' ' ++ text.toList := by
  simp [indented, some]

def commentLine (text : List Char) : String :=
  if text.isEmpty then " *" else " * " ++ escapeComment text

/-- A line of a comment begins with a space and a star, and is inert. -/
theorem inert_commentLine (text : List Char) :
    [' ', '*'] <+: (commentLine text).toList ∧ Inert (commentLine text).toList := by
  rw [commentLine]
  split
  · exact ⟨by decide, by decide, by decide⟩
  · have behind := Inert.space (unended_escapeComment text)
    have front : Inert [' ', '*'] := ⟨by decide, by decide⟩
    rw [String.toList_append]
    exact ⟨⟨' ' :: (escapeComment text).toList, rfl⟩, front.append behind⟩

/-- No line breaks are written into a comment where its text has none. -/
theorem notMem_escapeComment {text : List Char} (unbroken : '\n' ∉ text) :
    '\n' ∉ (escapeComment text).toList := by
  rw [escapeComment, String.toList_ofList]
  intro member
  rcases mem_replaceAll (by simp) member with inText | replaced
  · exact unbroken inText
  · exact absurd replaced (by decide)

theorem notMem_commentLine {line : List Char} (unbroken : '\n' ∉ line) :
    '\n' ∉ (commentLine line).toList := by
  rw [commentLine]
  split
  · decide
  · simp [notMem_escapeComment unbroken]

theorem unbroken_lines (content : List Char) :
    ∀ line ∈ (splitAt '\n' content).map trim, '\n' ∉ line := by
  refine List.forall_mem_map.mpr fun piece member inside => ?_
  have uncut := uncut_of_mem_splitWhere content piece member '\n' ((trim_sublist piece).mem inside)
  simp at uncut

theorem ne_empty_of_starts {text : String} {front : List Char} (some : front ≠ [])
    (starts : front <+: text.toList) : text ≠ "" := by
  rintro rfl
  exact some (List.prefix_nil.mp starts)

/-- A text of one line stands in a comment of one line. -/
theorem isComment_single {line : List Char} (unbroken : '\n' ∉ line) (level : Nat) :
    IsComment level [indented level ("/** " ++ escapeComment line ++ " */")] := by
  have written : ("/** " ++ escapeComment line ++ " */").toList =
      ['/', '*', '*'] ++ (' ' :: ((escapeComment line).toList ++ [' ', '*', '/'])) := by
    simp
  have starts : ['/', '*', '*'] <+: ("/** " ++ escapeComment line ++ " */").toList :=
    ⟨_, written.symm⟩
  have inert : Inert (' ' :: ((escapeComment line).toList ++ [' '])) :=
    (Inert.space (unended_escapeComment line)).append (Inert.spaces 1)
  apply isComment_of_inert inert
  · rw [toList_textOf, List.map_singleton, List.flatten_singleton,
      toList_indented (ne_empty_of_starts (by simp) starts), written]
    simp
  · refine List.forall_mem_singleton.mpr ⟨_, rfl, ?_, .inl starts⟩
    rw [written]
    simp [notMem_escapeComment unbroken]

/-- A text of several lines stands in a comment with a line for each of them. -/
theorem isComment_several {lines : List (List Char)} (unbroken : ∀ line ∈ lines, '\n' ∉ line)
    (level : Nat) :
    IsComment level (("/**" :: lines.map commentLine ++ [" */"]).map (indented level)) := by
  have inLine (line : List Char) :
      (indented level (commentLine line)).toList =
        List.replicate (2 * level) ' ' ++ (commentLine line).toList :=
    toList_indented (ne_empty_of_starts (by simp) (inert_commentLine line).1) level
  have newline : Inert ['\n'] := ⟨by decide, by decide⟩
  have inert : Inert (['\n'] ++ ((lines.map fun line =>
      (indented level (commentLine line)).toList ++ ['\n']).flatten ++
        (List.replicate (2 * level) ' ' ++ [' ']))) := by
    refine newline.append (.append (.flatten ?_) ((Inert.spaces (2 * level)).append (.spaces 1)))
    refine List.forall_mem_map.mpr fun line _ => ?_
    rw [inLine]
    exact ((Inert.spaces _).append (inert_commentLine line).2).append newline
  apply isComment_of_inert inert
  · rw [toList_textOf]
    simp [toList_indented, Function.comp_def]
  · refine List.forall_mem_map.mpr fun text member => ⟨text, rfl, ?_⟩
    simp only [List.cons_append, List.mem_cons, List.mem_append, List.mem_map, List.not_mem_nil,
      or_false] at member
    rcases member with rfl | ⟨line, inLines, rfl⟩ | rfl
    · exact ⟨by decide, .inl (by decide)⟩
    · exact ⟨notMem_commentLine (unbroken line inLines), .inr (inert_commentLine line).1⟩
    · exact ⟨by decide, .inr (by decide)⟩

/-- A text with content has a comment at every level. -/
theorem isComment_commentLines {summary : Option String}
    (some : trim (summary.getD "").toList ≠ []) (level : Nat) :
    IsComment level ((commentLines summary).map (indented level)) := by
  have unbroken := unbroken_lines (trim (summary.getD "").toList)
  rw [commentLines, if_neg (by simpa using some)]
  generalize (splitAt '\n' (trim (summary.getD "").toList)).map trim = lines at unbroken
  split
  case h_1 single => exact isComment_single (unbroken single List.mem_cons_self) level
  case h_2 => exact isComment_several unbroken level

/-- What is added for a text is one documentation comment at the level of the draft, and nothing is
added for a blank text. -/
theorem comment_block (draft : Draft) (summary : Option String) :
    ∃ block, (draft.comment summary).lines = draft.lines ++ block ∧
      (draft.comment summary).text = draft.text ++ textOf block ∧
      (draft.comment summary).level = draft.level ∧
      ((∀ c ∈ (summary.getD "").toList, isBlank c = true) ∧ block = [] ∨
        (∃ c ∈ (summary.getD "").toList, isBlank c = false) ∧ IsComment draft.level block) := by
  have lines := lines_addLines draft (commentLines summary)
  refine ⟨(commentLines summary).map (indented draft.level), lines, ?_,
    level_addLines draft (commentLines summary), ?_⟩
  · rw [text, comment, lines, text]
    simp [textOf]
  · by_cases blank : trim (summary.getD "").toList = []
    · refine .inl ⟨trim_eq_nil_iff.mp blank, ?_⟩
      simp [commentLines, blank]
    · refine .inr ⟨?_, isComment_commentLines blank draft.level⟩
      simpa [trim_eq_nil_iff] using blank

end Draft

end TypedClient
