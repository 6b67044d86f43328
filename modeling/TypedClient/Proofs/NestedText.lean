/-
This file shows how type texts come apart where their brackets match: a text inside of brackets is
never cut, and texts that separators join outside of all brackets come back one by one.
-/

import TypedClient.Proofs.BalancedBrackets
import TypedClient.Proofs.Pieces
import TypedClient.SourceType.Brackets

namespace TypedClient

namespace Text

/-- The first place of a character is the one before which it does not stand. -/
theorem cutFirst?_singleton_eq_some {separator : Char} {cs front behind : List Char} :
    cutFirst? [separator] cs = some (front, behind) ↔
      cs = front ++ separator :: behind ∧ separator ∉ front := by
  induction cs generalizing front with
  | nil => simp [cutFirst?, dropStart?]
  | cons c rest inductionHypothesis =>
      by_cases here : separator = c
      · subst here
        cases front with
        | nil => simp [cutFirst?, dropStart?]
        | cons d front =>
            suffices separator = d → rest = front ++ separator :: behind →
                ¬separator = d → separator ∈ front by simpa [cutFirst?, dropStart?]
            intro same _ other
            exact absurd same other
      · cases front with
        | nil => simp [cutFirst?, dropStart?, here, Ne.symm here]
        | cons d front =>
            suffices c = d → rest = front ++ separator :: behind →
                separator ∉ front → ¬separator = d by
              simpa [cutFirst?, dropStart?, here, inductionHypothesis, and_assoc, and_left_comm]
            rintro rfl _ _
            exact here

theorem cutLast?_eq_some {separator : Char} {cs front behind : List Char} :
    cutLast? separator cs = some (front, behind) ↔
      cs = front ++ separator :: behind ∧ separator ∉ behind := by
  have turned : cutLast? separator cs = some (front, behind) ↔
      cutFirst? [separator] cs.reverse = some (behind.reverse, front.reverse) := by
    simp only [cutLast?, Option.map_eq_some_iff, Prod.exists, Prod.mk.injEq]
    constructor
    · rintro ⟨behind, front, cut, rfl, rfl⟩
      simpa using cut
    · intro cut
      exact ⟨_, _, cut, by simp, by simp⟩
  rw [turned, cutFirst?_singleton_eq_some, List.mem_reverse, List.reverse_eq_iff]
  simp

theorem dropEnd?_eq_none {expected cs : List Char} {last : Char}
    (ends : expected.getLast? = some last) (other : cs.getLast? ≠ some last) :
    dropEnd? expected cs = none := by
  refine Option.eq_none_iff_forall_not_mem.mpr fun rest member => other ?_
  rw [dropEnd?_eq_some.mp member, List.getLast?_append, ends]
  rfl

theorem getLast?_enclosed (opening closing : Char) (inside : List Char) :
    (opening :: (inside ++ [closing])).getLast? = some closing := by
  rw [← List.cons_append, List.getLast?_concat]

theorem intercalate_of_append {holds : List Char → Prop} (none : holds [])
    (append : ∀ front behind, holds front → holds behind → holds (front ++ behind))
    {separator : List Char} (between : holds separator) {texts : List (List Char)}
    (each : ∀ text ∈ texts, holds text) : holds (separator.intercalate texts) := by
  induction texts with
  | nil => exact none
  | cons first rest inductionHypothesis =>
      obtain ⟨here, later⟩ := List.forall_mem_cons.mp each
      cases rest with
      | nil => simpa using here
      | cons second rest =>
          rw [List.intercalate_cons_cons]
          exact append _ _ (append _ _ here between) (inductionHypothesis later)

/-- A piece is no longer than the text that it is joined to. -/
theorem length_le_length_intercalate {separator : List Char} {pieces : List (List Char)}
    {piece : List Char} (member : piece ∈ pieces) :
    piece.length ≤ (separator.intercalate pieces).length := by
  induction pieces with
  | nil => simp at member
  | cons first rest inductionHypothesis =>
      cases rest with
      | nil => simp_all
      | cons second rest =>
          rw [List.intercalate_cons_cons, List.length_append, List.length_append]
          rcases List.mem_cons.mp member with rfl | later
          · omega
          · have short := inductionHypothesis later
            omega

theorem dropEndWhile_of_last {test : Char → Bool} {cs : List Char}
    (kept : ∀ c ∈ cs.getLast?, test c = false) : dropEndWhile test cs = cs := by
  rw [dropEndWhile]
  cases same : cs.reverse with
  | nil => simpa using same
  | cons c rest =>
      have last : test c = false := kept c (by rw [← List.head?_reverse, same]; rfl)
      rw [List.dropWhile_cons_of_neg (by simp [last]), ← same, List.reverse_reverse]

/-- A text that is not empty and has no blank at its ends. -/
structure Tight (cs : List Char) : Prop where
  some : cs ≠ []
  front : ∀ c ∈ cs.head?, isBlank c = false
  back : ∀ c ∈ cs.getLast?, isBlank c = false

namespace Tight

variable {cs : List Char}

theorem of_unblank (some : cs ≠ []) (unblank : ∀ c ∈ cs, isBlank c = false) : Tight cs where
  some := some
  front c member := unblank c (List.mem_of_mem_head? member)
  back c member := unblank c (List.mem_of_mem_getLast? member)

theorem singleton {c : Char} (unblank : isBlank c = false) : Tight [c] :=
  .of_unblank (List.cons_ne_nil c []) (List.forall_mem_singleton.mpr unblank)

/-- A text between two tight ones does not reach the ends. -/
theorem enclose {front back : List Char} (first : Tight front) (last : Tight back)
    (middle : List Char) : Tight (front ++ (middle ++ back)) where
  some := by simp [first.some]
  front c member := first.front c (by simpa [List.head?_append, first.some] using member)
  back c member := last.back c (by simpa [List.getLast?_append, last.some] using member)

theorem trimStart_append (tight : Tight cs) (behind : List Char) :
    Text.trimStart (cs ++ behind) = cs ++ behind := by
  obtain ⟨c, rest, rfl⟩ := List.exists_cons_of_ne_nil tight.some
  exact List.dropWhile_cons_of_neg (by simp [tight.front c rfl])

theorem trimEnd (tight : Tight cs) : Text.trimEnd cs = cs :=
  dropEndWhile_of_last tight.back

theorem trim (tight : Tight cs) : Text.trim cs = cs := by
  have start := tight.trimStart_append []
  rw [List.append_nil] at start
  rw [Text.trim, start, tight.trimEnd]

theorem trim_concat (tight : Tight cs) {c : Char} (blank : isBlank c = true) :
    Text.trim (cs ++ [c]) = cs := by
  have dropped : Text.trimEnd (cs ++ [c]) = Text.trimEnd cs := by
    rw [Text.trimEnd, dropEndWhile, List.reverse_append, List.reverse_singleton,
      List.singleton_append, List.dropWhile_cons_of_pos blank, Text.trimEnd, dropEndWhile]
  rw [Text.trim, tight.trimStart_append, dropped, tight.trimEnd]

end Tight

theorem trim_cons_of_blank {c : Char} (blank : isBlank c = true) (cs : List Char) :
    trim (c :: cs) = trim cs := by
  rw [trim, trimStart, List.dropWhile_cons_of_pos blank, trim, trimStart]

end Text

namespace Brackets

open Text

/-- The brackets that belong together. -/
def partners : List (Char × Char) :=
  [('<', '>'), ('(', ')'), ('[', ']'), ('{', '}')]

theorem opens_of_partners {opening closing : Char} (partner : (opening, closing) ∈ partners) :
    opens opening = true ∧ opens closing = false ∧ closes closing = true := by
  have all : ∀ pair ∈ partners,
      opens pair.1 = true ∧ opens pair.2 = false ∧ closes pair.2 = true := by decide
  exact all (opening, closing) partner

theorem tight_of_partners {opening closing : Char} (partner : (opening, closing) ∈ partners)
    (inside : List Char) : Tight (opening :: (inside ++ [closing])) := by
  have unblank : isBlank opening = false ∧ isBlank closing = false := by
    have all : ∀ pair ∈ partners, isBlank pair.1 = false ∧ isBlank pair.2 = false := by decide
    exact all (opening, closing) partner
  have first : Tight [opening] := .singleton unblank.1
  have last : Tight [closing] := .singleton unblank.2
  exact first.enclose last inside

theorem enclosed_append (opening closing : Char) (inside rest behind : List Char) :
    opening :: (inside ++ closing :: rest) ++ behind =
      opening :: (inside ++ closing :: (rest ++ behind)) := by
  simp

/-- A text in which every bracket has its partner, and the characters outside of all brackets have
a property. -/
inductive Nested : (Char → Prop) → List Char → Prop
  | nil {outside : Char → Prop} : Nested outside []
  | plain {outside : Char → Prop} {c : Char} {rest : List Char} (unopened : opens c = false)
      (unclosed : closes c = false) (allowed : outside c) (behind : Nested outside rest) :
      Nested outside (c :: rest)
  | pair {outside : Char → Prop} {opening closing : Char} {inside rest : List Char}
      (partner : (opening, closing) ∈ partners) (within : Nested (fun _ => True) inside)
      (behind : Nested outside rest) : Nested outside (opening :: (inside ++ closing :: rest))

namespace Nested

variable {outside : Char → Prop} {cs : List Char}

/-- Characters that are no brackets make a nested text. -/
theorem of_plain (plain : ∀ c ∈ cs, opens c = false ∧ closes c = false ∧ outside c) :
    Nested outside cs := by
  induction cs with
  | nil => exact .nil
  | cons c rest inductionHypothesis =>
      obtain ⟨⟨unopened, unclosed, allowed⟩, later⟩ := List.forall_mem_cons.mp plain
      exact .plain unopened unclosed allowed (inductionHypothesis later)

/-- Nested texts stand behind each other. -/
theorem append (front : Nested outside cs) {behind : List Char} (after : Nested outside behind) :
    Nested outside (cs ++ behind) := by
  induction front with
  | nil => exact after
  | plain unopened unclosed allowed _ inductionHypothesis =>
      exact .plain unopened unclosed allowed (inductionHypothesis after)
  | pair partner within _ _ inductionHypothesis =>
      rw [enclosed_append]
      exact .pair partner within (inductionHypothesis after)

/-- A nested text stays nested where more is allowed. -/
theorem mono {wider : Char → Prop} (nested : Nested outside cs)
    (wide : ∀ c, outside c → wider c) : Nested wider cs := by
  induction nested with
  | nil => exact .nil
  | plain unopened unclosed allowed _ inductionHypothesis =>
      exact .plain unopened unclosed (wide _ allowed) (inductionHypothesis wide)
  | pair partner within _ _ inductionHypothesis =>
      exact .pair partner within (inductionHypothesis wide)

theorem anywhere (nested : Nested outside cs) : Nested (fun _ => True) cs :=
  nested.mono fun _ _ => trivial

theorem enclosed {opening closing : Char} (partner : (opening, closing) ∈ partners)
    (within : Nested outside cs) {further : Char → Prop} :
    Nested further (opening :: (cs ++ [closing])) :=
  .pair partner within.anywhere .nil

theorem brackets {opening closing : Char} (partner : (opening, closing) ∈ partners) :
    Nested outside [opening, closing] :=
  .pair partner .nil .nil

theorem intercalate {separator : List Char} (between : Nested outside separator)
    {texts : List (List Char)} (nested : ∀ text ∈ texts, Nested outside text) :
    Nested outside (separator.intercalate texts) :=
  intercalate_of_append .nil (fun _ _ front behind => front.append behind) between nested

theorem getLast_unopened (nested : Nested outside cs) :
    ∀ c ∈ cs.getLast?, opens c = false := by
  induction nested with
  | nil => simp
  | @plain _ c rest unopened _ _ _ inductionHypothesis =>
      cases rest with
      | nil => simpa using unopened
      | cons d rest => simpa using inductionHypothesis
  | @pair _ _ closing inside rest partner _ _ _ inductionHypothesis =>
      cases rest with
      | nil =>
          simpa [List.getLast?_cons, List.getLast?_append] using (opens_of_partners partner).2.1
      | cons d rest => simpa [List.getLast?_cons, List.getLast?_append] using inductionHypothesis

end Nested

section Split

variable {separator : Char} {outside : Char → Prop} {cs : List Char}

/-- A nested text joins the first piece behind it, where the separator is not outside of its
brackets or the text stands in brackets itself. -/
theorem splitOutside_append (unopened : opens separator = false) (nested : Nested outside cs)
    {depth : Nat} (apart : depth = 0 → ∀ c, outside c → c ≠ separator)
    {behind first : List Char} {others : List (List Char)}
    (cut : splitOutside separator depth behind = first :: others) :
    splitOutside separator depth (cs ++ behind) = (cs ++ first) :: others := by
  induction nested generalizing depth behind first others with
  | nil => exact cut
  | @plain outside c rest notOpening notClosing allowed _ inductionHypothesis =>
      have here : (depth == 0 && c == separator) = false := by
        cases depth with
        | zero => simpa using apart rfl c allowed
        | succ depth => rfl
      have level : depthAfter depth c = depth := by simp [depthAfter, notOpening, notClosing]
      rw [List.cons_append, splitOutside, here, level, inductionHypothesis apart cut]
      rfl
  | @pair outside opening closing inside rest partner _ _ within after =>
      obtain ⟨opened, notOpening, closed⟩ := opens_of_partners partner
      have front : opening ≠ separator := by
        rintro rfl
        exact Bool.false_ne_true (unopened.symm.trans opened)
      -- The text in the brackets is read one level deeper, with the closing bracket behind it.
      have outer : splitOutside separator (depth + 1) (closing :: (rest ++ behind)) =
          (closing :: (rest ++ first)) :: others := by
        have level : depthAfter (depth + 1) closing = depth := by
          simp [depthAfter, notOpening, closed]
        rw [splitOutside, level, after apart cut]
        rfl
      have inner := within (by simp) outer
      have level : depthAfter depth opening = depth + 1 := by simp [depthAfter, opened]
      rw [enclosed_append, splitOutside, level, inner]
      simp [front, consToFirst]

/-- A nested text is one piece. -/
theorem splitOutside_of_nested (unopened : opens separator = false)
    (nested : Nested (· ≠ separator) cs) : splitOutside separator 0 cs = [cs] := by
  have alone : splitOutside separator 0 (cs ++ []) = [cs ++ []] :=
    splitOutside_append unopened nested (fun _ _ apart => apart) rfl
  rwa [List.append_nil] at alone

/-- A nested text is the piece in front of a separator. -/
theorem splitOutside_append_cons (unopened : opens separator = false)
    (nested : Nested (· ≠ separator) cs) (behind : List Char) :
    splitOutside separator 0 (cs ++ separator :: behind) =
      cs :: splitOutside separator 0 behind := by
  have cut : splitOutside separator 0 (separator :: behind) =
      [] :: splitOutside separator 0 behind := by simp [splitOutside]
  rw [splitOutside_append unopened nested (fun _ _ apart => apart) cut, List.append_nil]

/-- Nested texts come back from the text that single separators join them to. -/
theorem splitOutside_intercalate (unopened : opens separator = false)
    {texts : List (List Char)} (some : texts ≠ [])
    (nested : ∀ text ∈ texts, Nested (· ≠ separator) text) :
    splitOutside separator 0 ([separator].intercalate texts) = texts := by
  induction texts with
  | nil => exact absurd rfl some
  | cons first rest inductionHypothesis =>
      obtain ⟨here, later⟩ := List.forall_mem_cons.mp nested
      cases rest with
      | nil => simpa using splitOutside_of_nested unopened here
      | cons second rest =>
          rw [List.intercalate_cons_cons, List.append_assoc, List.singleton_append,
            splitOutside_append_cons unopened here,
            inductionHypothesis (List.cons_ne_nil second rest) later]

theorem pieces_append_cons (unopened : opens separator = false)
    (nested : Nested (· ≠ separator) cs) (some : trim cs ≠ []) (behind : List Char) :
    pieces separator (cs ++ separator :: behind) = trim cs :: pieces separator behind := by
  simp [pieces, splitOutside_append_cons unopened nested, some]

theorem pieces_of_nested (unopened : opens separator = false)
    (nested : Nested (· ≠ separator) cs) (tight : Tight cs) : pieces separator cs = [cs] := by
  simp [pieces, splitOutside_of_nested unopened nested, tight.trim, tight.some]

theorem pieces_cons_blank (other : ' ' ≠ separator) (cs : List Char) :
    pieces separator (' ' :: cs) = pieces separator cs := by
  have level : depthAfter 0 ' ' = 0 := by decide
  simp only [pieces, splitOutside, level, beq_false_of_ne other, Bool.and_false]
  cases splitOutside separator 0 cs with
  | nil => rfl
  | cons first others => simp [consToFirst, trim_cons_of_blank (show isBlank ' ' = true by decide)]

/-- Tight nested texts come back from the text that separators and blanks join them to. -/
theorem pieces_intercalate (unopened : opens separator = false) (other : ' ' ≠ separator)
    {texts : List (List Char)} (nested : ∀ text ∈ texts, Nested (· ≠ separator) text)
    (tight : ∀ text ∈ texts, Tight text) :
    pieces separator ([separator, ' '].intercalate texts) = texts := by
  induction texts with
  | nil => rfl
  | cons first rest inductionHypothesis =>
      obtain ⟨firstNested, restNested⟩ := List.forall_mem_cons.mp nested
      obtain ⟨firstTight, restTight⟩ := List.forall_mem_cons.mp tight
      have trimmed := firstTight.trim
      cases rest with
      | nil => simpa using pieces_of_nested unopened firstNested firstTight
      | cons second rest =>
          rw [List.intercalate_cons_cons, List.append_assoc, List.cons_append, List.cons_append,
            List.nil_append,
            pieces_append_cons unopened firstNested (by rw [trimmed]; exact firstTight.some),
            trimmed, pieces_cons_blank other, inductionHypothesis restNested restTight]

end Split

/-- A text that may stand between the commas of a list. -/
structure IsArgument (cs : List Char) : Prop where
  tight : Tight cs
  nested : Nested (· ≠ ',') cs

namespace IsArgument

variable {texts : List (List Char)}

theorem nested_intercalate (all : ∀ text ∈ texts, IsArgument text) :
    Nested (fun _ => True) ([',', ' '].intercalate texts) := by
  have between : Nested (fun _ => True) [',', ' '] := .of_plain (by simp [opens, closes])
  exact between.intercalate fun text member => (all text member).nested.anywhere

/-- The arguments of a list come back. -/
theorem arguments_intercalate (all : ∀ text ∈ texts, IsArgument text) :
    arguments ([',', ' '].intercalate texts) = texts :=
  pieces_intercalate (by decide) (by decide) (fun text member => (all text member).nested)
    fun text member => (all text member).tight

end IsArgument

section Angle

variable {outside : Char → Prop} {cs : List Char}

/-- An angle bracket does not close inside of a nested text. -/
theorem closeAngle?_append (nested : Nested outside cs) (depth : Nat) (behind : List Char) :
    closeAngle? depth (cs ++ behind) =
      (closeAngle? depth behind).map fun parts => (cs ++ parts.1, parts.2) := by
  induction nested generalizing depth behind with
  | nil => simp
  | @plain outside c rest notOpening notClosing _ _ inductionHypothesis =>
      have notLeft : c ≠ '<' := by
        rintro rfl
        exact absurd notOpening (by decide)
      have notRight : c ≠ '>' := by
        rintro rfl
        exact absurd notClosing (by decide)
      simp [closeAngle?, notLeft, notRight, inductionHypothesis, Function.comp_def]
  | @pair outside opening closing inside rest partner _ _ within after =>
      -- Angle brackets change the depth twice; the others are passed like plain characters.
      have known : (opening, closing) = ('<', '>') ∨
          (opening ≠ '<' ∧ opening ≠ '>') ∧ closing ≠ '<' ∧ closing ≠ '>' := by
        have all : ∀ pair ∈ partners, pair = ('<', '>') ∨
            (pair.1 ≠ '<' ∧ pair.1 ≠ '>') ∧ pair.2 ≠ '<' ∧ pair.2 ≠ '>' := by decide
        exact all (opening, closing) partner
      rw [enclosed_append]
      rcases known with same | ⟨⟨notLeft, notRight⟩, notLeftBehind, notRightBehind⟩
      · obtain ⟨rfl, rfl⟩ := Prod.mk.inj same
        simp [closeAngle?, within, after, Function.comp_def]
      · simp [closeAngle?, notLeft, notRight, notLeftBehind, notRightBehind, within, after,
          Function.comp_def]

/-- A generic application comes apart into its base and the text of its arguments. -/
theorem application?_eq {base inside : List Char} (tight : Tight base)
    (unangled : '<' ∉ base) (nested : Nested outside inside) :
    application? (base ++ '<' :: (inside ++ ['>'])) = some (base, inside) := by
  have closed : Tight ['>'] := .singleton (by decide)
  have trimmed : trim (base ++ '<' :: (inside ++ ['>'])) = base ++ '<' :: (inside ++ ['>']) :=
    (tight.enclose closed ('<' :: inside)).trim
  have opened : cutFirst? ['<'] (base ++ '<' :: (inside ++ ['>'])) =
      some (base, inside ++ ['>']) := cutFirst?_singleton_eq_some.mpr ⟨rfl, unangled⟩
  have shut : closeAngle? 0 (inside ++ ['>']) = some (inside, []) := by
    rw [closeAngle?_append nested]
    simp [closeAngle?]
  simp [application?, trimmed, opened, shut, tight.trim]

/-- A text without angle brackets is no generic application. -/
theorem application?_eq_none (tight : Tight cs) (unangled : '<' ∉ cs) :
    application? cs = none := by
  have uncut : cutFirst? ['<'] cs = none := by
    refine Option.eq_none_iff_forall_not_mem.mpr ?_
    rintro ⟨front, behind⟩ member
    obtain ⟨rfl, -⟩ := cutFirst?_singleton_eq_some.mp member
    exact unangled (by simp)
  simp [application?, tight.trim, uncut]

end Angle

/-- The name behind all points of a qualified name is one of its parts. -/
theorem qualified_mem {parts : List (List Char)} (some : parts ≠ [])
    (nested : ∀ part ∈ parts, Nested (· ≠ '.') part) :
    (qualified (['.'].intercalate parts)).2 ∈ parts := by
  rw [qualified, splitOutside_intercalate (by decide) some nested]
  cases turned : parts.reverse with
  | nil => exact absurd (List.reverse_eq_nil_iff.mp turned) some
  | cons name qualifiers =>
      have last : name ∈ parts := List.mem_reverse.mp (turned ▸ List.mem_cons_self)
      cases qualifiers with
      | nil =>
          obtain rfl : parts = [name] := List.reverse_eq_iff.mp turned
          simp
      | cons qualifier others => exact last

section Balance

variable {outside : Char → Prop} {cs : List Char}

/-- Every bracket of a nested text has its partner. -/
theorem Nested.balanced (nested : Nested outside cs) : Balanced cs := by
  induction nested with
  | nil => exact .nil
  | plain unopened unclosed _ _ inductionHypothesis =>
      exact .plain unopened unclosed inductionHypothesis
  | pair partner _ _ within after =>
      obtain ⟨opened, -, closed⟩ := opens_of_partners partner
      exact .pair opened closed within after

/-- Nothing is cut off from a nested text. -/
theorem balancedStart_of_nested (nested : Nested outside cs) : balancedStart cs = cs :=
  nested.balanced.balancedStart

end Balance

end Brackets

end TypedClient
