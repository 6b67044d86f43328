/-
This file shows what exclusion patterns stand for. A pattern is an expression of escaped pieces with
any text between them, and a text has this form exactly if the pieces stand in it in order, with
gaps between them.
-/

import TypedClient.Project.Exclusion
import TypedClient.Proofs.CamelCase
import TypedClient.Proofs.Pieces

namespace TypedClient

namespace Pattern

open Text

section Expressions

/-- The texts that a regular expression of escaped characters and runs of any characters stands for
as a whole, where the case of letters does not count. -/
inductive Denotes : List Char → List Char → Prop
  | nil : Denotes [] []
  | escaped {mark c : Char} {rest text : List Char} (special : mark ∈ metaCharacters)
      (same : foldCase mark = foldCase c) (behind : Denotes rest text) :
      Denotes ('\\' :: mark :: rest) (c :: text)
  | run {gap rest text : List Char} (line : '\n' ∉ gap) (behind : Denotes rest text) :
      Denotes ('.' :: '*' :: rest) (gap ++ text)
  | plain {letter c : Char} {rest text : List Char} (ordinary : letter ∉ metaCharacters)
      (same : foldCase letter = foldCase c) (behind : Denotes rest text) :
      Denotes (letter :: rest) (c :: text)

/-- Nothing stands only for nothing. -/
theorem denotes_nil {text : List Char} : Denotes [] text ↔ text = [] := by
  constructor
  · intro denotes
    cases denotes
    rfl
  · rintro rfl
    exact .nil

/-- A run stands for any text within a line. -/
theorem denotes_run {rest text : List Char} :
    Denotes ('.' :: '*' :: rest) text ↔
      ∃ gap behind, text = gap ++ behind ∧ '\n' ∉ gap ∧ Denotes rest behind := by
  constructor
  · intro denotes
    cases denotes with
    | run line behind => exact ⟨_, _, rfl, line, behind⟩
    | plain ordinary => exact absurd (by decide) ordinary
  · rintro ⟨gap, behind, rfl, line, denotes⟩
    exact .run line denotes

theorem denotes_escaped {mark : Char} {rest text : List Char} :
    Denotes ('\\' :: mark :: rest) text ↔ mark ∈ metaCharacters ∧
      ∃ c behind, text = c :: behind ∧ foldCase mark = foldCase c ∧ Denotes rest behind := by
  constructor
  · intro denotes
    cases denotes with
    | escaped special same behind => exact ⟨special, _, _, rfl, same, behind⟩
    | plain ordinary => exact absurd (by decide) ordinary
  · rintro ⟨special, c, behind, rfl, same, denotes⟩
    exact .escaped special same denotes

/-- A letter that begins neither a run nor an escaped character stands for itself, unless it has a
meaning of its own. -/
theorem denotes_letter {letter : Char} {rest text : List Char}
    (noRun : ∀ behind, letter = '.' → rest = '*' :: behind → False)
    (noEscape : ∀ mark behind, letter = '\\' → rest = mark :: behind → False) :
    Denotes (letter :: rest) text ↔ letter ∉ metaCharacters ∧
      ∃ c behind, text = c :: behind ∧ foldCase letter = foldCase c ∧ Denotes rest behind := by
  constructor
  · intro denotes
    cases denotes with
    | escaped => exact absurd rfl (noEscape _ _ rfl)
    | run => exact absurd rfl (noRun _ rfl)
    | plain ordinary same behind => exact ⟨ordinary, _, _, rfl, same, behind⟩
  · rintro ⟨ordinary, c, behind, rfl, same, denotes⟩
    exact .plain ordinary same denotes

/-- Escaped or not, a character of a text stands for itself in either case. -/
theorem denotes_escape_cons {c : Char} {cs rest text : List Char} :
    Denotes (escape (c :: cs) ++ rest) text ↔
      ∃ d behind, text = d :: behind ∧ foldCase c = foldCase d ∧
        Denotes (escape cs ++ rest) behind := by
  have unfolded : escape (c :: cs) =
      (if metaCharacters.contains c then ['\\', c] else [c]) ++ escape cs := rfl
  rw [unfolded, List.append_assoc]
  by_cases special : c ∈ metaCharacters
  · rw [if_pos (List.contains_iff_mem.mpr special), List.cons_append, List.singleton_append,
      denotes_escaped, and_iff_right special]
  · have ordinary (mark : Char) (isMeta : mark ∈ metaCharacters) : c ≠ mark := fun same =>
      special (same ▸ isMeta)
    rw [if_neg (mt List.contains_iff_mem.mp special), List.singleton_append, denotes_letter,
      and_iff_right special]
    · exact fun _ same _ => ordinary '.' (by decide) same
    · exact fun _ _ same _ => ordinary '\\' (by decide) same

/-- An escaped text stands for itself in any case. -/
theorem denotes_escape {cs rest text : List Char} :
    Denotes (escape cs ++ rest) text ↔
      ∃ part behind, text = part ++ behind ∧ part.map foldCase = cs.map foldCase ∧
        Denotes rest behind := by
  induction cs generalizing text with
  | nil =>
      change Denotes rest text ↔ _
      simp
  | cons c cs inductionHypothesis =>
      rw [denotes_escape_cons]
      constructor
      · rintro ⟨d, others, rfl, same, denotes⟩
        obtain ⟨part, behind, rfl, equal, further⟩ := inductionHypothesis.mp denotes
        exact ⟨d :: part, behind, rfl, by simp [same, equal], further⟩
      · rintro ⟨part, behind, rfl, equal, further⟩
        cases part with
        | nil => simp at equal
        | cons d part =>
            obtain ⟨same, others⟩ := List.cons.inj equal
            exact ⟨d, part ++ behind, rfl, same.symm,
              inductionHypothesis.mpr ⟨part, behind, rfl, others, further⟩⟩

/-- The expression of several pieces begins with the first one. -/
theorem anyBetween_cons_cons (first second : List Char) (others : List (List Char)) :
    anyBetween (first :: second :: others) =
      escape first ++ '.' :: '*' :: anyBetween (second :: others) := by
  rw [anyBetween, List.map_cons, List.map_cons, List.intercalate_cons_cons, List.append_assoc]
  rfl

/-- The rests of a text behind its beginnings within a line. -/
theorem mem_lineRests {text rest : List Char} :
    rest ∈ lineRests text ↔ ∃ gap, text = gap ++ rest ∧ '\n' ∉ gap := by
  induction text with
  | nil =>
      rw [lineRests, List.mem_singleton]
      constructor
      · rintro rfl
        exact ⟨[], rfl, by simp⟩
      · rintro ⟨gap, same, -⟩
        exact (List.append_eq_nil_iff.mp same.symm).2
  | cons c text inductionHypothesis =>
      rw [lineRests, List.mem_cons]
      constructor
      · rintro (rfl | member)
        · exact ⟨[], rfl, by simp⟩
        · by_cases line : c = '\n'
          · simp [line] at member
          · obtain ⟨gap, rfl, unbroken⟩ := inductionHypothesis.mp (by simpa [line] using member)
            exact ⟨c :: gap, rfl, by simp [unbroken, Ne.symm line]⟩
      · rintro ⟨gap, same, unbroken⟩
        cases gap with
        | nil => exact .inl same.symm
        | cons d gap =>
            obtain ⟨rfl, behind⟩ := List.cons.inj same
            obtain ⟨line, further⟩ := not_or.mp (List.mem_cons.not.mp unbroken)
            have found := inductionHypothesis.mpr ⟨gap, behind, further⟩
            exact .inr (by simpa [Ne.symm line] using found)

theorem letterThen_iff {letter : Char} {accepts : List Char → Bool} {text : List Char} :
    letterThen letter accepts text = true ↔
      ∃ c behind, text = c :: behind ∧ foldCase letter = foldCase c ∧ accepts behind = true := by
  cases text <;> simp [letterThen]

/-- The matcher accepts what an expression stands for. -/
theorem matchesChars_iff_denotes {expression text : List Char} :
    matchesChars expression text = true ↔ Denotes expression text := by
  -- The matcher goes on behind one or two characters, so the induction is on the length.
  induction size : expression.length using Nat.strong_induction_on generalizing expression text with
  | h length inductionHypothesis =>
      have further (rest : List Char) (shorter : rest.length < length) (behind : List Char) :
          matchesChars rest behind = true ↔ Denotes rest behind :=
        inductionHypothesis rest.length shorter rfl
      subst size
      fun_cases matchesChars expression text with
      | case1 => rw [denotes_nil, List.isEmpty_iff]
      | case2 rest =>
          simp only [denotes_run, List.any_eq_true, mem_lineRests, further rest (by simp)]
          constructor
          · rintro ⟨behind, ⟨gap, same, line⟩, denotes⟩
            exact ⟨gap, behind, same, line, denotes⟩
          · rintro ⟨gap, behind, same, line, denotes⟩
            exact ⟨behind, ⟨gap, same, line⟩, denotes⟩
      | case3 mark rest =>
          rw [Bool.and_eq_true, List.contains_iff_mem, letterThen_iff, denotes_escaped]
          simp only [further rest (by simp)]
      | case4 letter rest _ noRun noEscape =>
          rw [Bool.and_eq_true, Bool.not_eq_true', ← Bool.not_eq_true, List.contains_iff_mem,
            letterThen_iff, denotes_letter noRun noEscape]
          simp only [further rest (by simp)]

end Expressions

section Decompositions

/-- Parts of a text with a gap between any two of them. -/
def interleave : List (List Char) → List (List Char) → List Char
  | part :: parts, gap :: gaps => part ++ (gap ++ interleave parts gaps)
  | parts, _ => parts.flatten

/-- An expression of pieces stands for the texts in which the pieces stand in order, with gaps
between them that each stay within a line. -/
theorem denotes_anyBetween {pieces : List (List Char)} (some : pieces ≠ []) {text : List Char} :
    Denotes (anyBetween pieces) text ↔
      ∃ parts gaps : List (List Char),
        parts.map (List.map foldCase) = pieces.map (List.map foldCase) ∧
          pieces.length = gaps.length + 1 ∧ text = interleave parts gaps ∧
          ∀ gap ∈ gaps, '\n' ∉ gap := by
  -- The last piece has no run behind it, so a list of pieces has two beginnings.
  induction pieces generalizing text with
  | nil => contradiction
  | cons first others inductionHypothesis =>
      cases others with
      | nil =>
          have alone : anyBetween [first] = escape first ++ [] := by simp [anyBetween]
          rw [alone, denotes_escape]
          constructor
          · rintro ⟨part, behind, rfl, same, nothing⟩
            rw [denotes_nil.mp nothing]
            exact ⟨[part], [], by simp [same], rfl, by simp [interleave], by simp⟩
          · rintro ⟨parts, gaps, same, count, rfl, -⟩
            obtain rfl : gaps = [] := List.length_eq_zero_iff.mp (by simpa using count.symm)
            obtain ⟨part, rfl⟩ : ∃ part, parts = [part] := by
              have length := congrArg List.length same
              exact List.length_eq_one_iff.mp (by simpa using length)
            exact ⟨part, [], by simp [interleave], by simpa using same, .nil⟩
      | cons second others =>
          have further := @inductionHypothesis (List.cons_ne_nil second others)
          rw [anyBetween_cons_cons, denotes_escape]
          simp only [denotes_run, further]
          constructor
          · rintro ⟨part, -, rfl, same, gap, -, rfl, line, parts, gaps, equal, count, rfl, lines⟩
            refine ⟨part :: parts, gap :: gaps, ?_, ?_, rfl, ?_⟩
            · rw [List.map_cons, same, equal]
              rfl
            · simpa using count
            · exact List.forall_mem_cons.mpr ⟨line, lines⟩
          · rintro ⟨parts, gaps, same, count, rfl, lines⟩
            cases parts with
            | nil => simp at same
            | cons part parts =>
                cases gaps with
                | nil => simp at count
                | cons gap gaps =>
                    obtain ⟨here, equal⟩ := List.cons.inj same
                    obtain ⟨line, within⟩ := List.forall_mem_cons.mp lines
                    exact ⟨part, _, rfl, here, gap, _, rfl, line, parts, gaps, equal,
                      by simpa using count, rfl, within⟩

theorem mem_interleave_of_part {parts gaps : List (List Char)} {part : List Char}
    (member : part ∈ parts) {c : Char} (inside : c ∈ part) : c ∈ interleave parts gaps := by
  fun_induction interleave parts gaps with
  | case1 first parts gap gaps inductionHypothesis =>
      rcases List.mem_cons.mp member with rfl | later
      · exact List.mem_append_left _ inside
      · exact List.mem_append_right _ (List.mem_append_right _ (inductionHypothesis later))
  | case2 => exact List.mem_flatten_of_mem member inside

/-- The gaps between the parts are in the text. -/
theorem mem_interleave_of_gap {parts gaps : List (List Char)} (fewer : gaps.length ≤ parts.length)
    {gap : List Char} (member : gap ∈ gaps) {c : Char} (inside : c ∈ gap) :
    c ∈ interleave parts gaps := by
  fun_induction interleave parts gaps with
  | case1 part parts first gaps inductionHypothesis =>
      refine List.mem_append_right _ ?_
      rcases List.mem_cons.mp member with rfl | later
      · exact List.mem_append_left _ inside
      · exact List.mem_append_right _ (inductionHypothesis (by simpa using fewer) later)
  | case2 parts gaps apart =>
      cases gaps with
      | nil => simp at member
      | cons first gaps =>
          cases parts with
          | nil => simp at fewer
          | cons part parts => exact absurd rfl (apart part parts first gaps rfl)

theorem map_foldCase {cs : List Char} (ascii : Ascii cs) :
    cs.map foldCase = cs.map Char.toLower :=
  List.map_congr_left fun c member => if_pos (ascii c member)

theorem map_map_foldCase {texts : List (List Char)}
    (ascii : ∀ text ∈ texts, Ascii text) :
    texts.map (List.map foldCase) = texts.map (List.map Char.toLower) :=
  List.map_congr_left fun text member => map_foldCase (ascii text member)

/-- The pieces of a pattern between its stars stand in a text in order, up to the case of ASCII
letters, with any gaps between them. -/
def Decomposes (pattern text : String) : Prop :=
  ∃ parts gaps : List (List Char),
    parts.map (List.map Char.toLower) = (splitAt '*' pattern.toList).map (List.map Char.toLower) ∧
      parts.length = gaps.length + 1 ∧ text.toList = interleave parts gaps

/-- A pattern of ASCII stands for the texts of a line of ASCII that its pieces decompose. -/
theorem holds_iff_decomposes {pattern text : String}
    (letters : Ascii pattern.toList) (ascii : Ascii text.toList) (line : '\n' ∉ text.toList) :
    holds pattern text = true ↔ Decomposes pattern text := by
  have some : splitAt '*' pattern.toList ≠ [] := splitWhere_ne_nil _
  have pieces : (splitAt '*' pattern.toList).map (List.map foldCase) =
      (splitAt '*' pattern.toList).map (List.map Char.toLower) := by
    refine map_map_foldCase fun piece member c inside => letters c ?_
    rw [← intercalate_splitAt '*' pattern.toList]
    exact mem_intercalate member inside
  have folded {parts gaps : List (List Char)} (same : text.toList = interleave parts gaps) :
      parts.map (List.map foldCase) = parts.map (List.map Char.toLower) := by
    refine map_map_foldCase fun part member c inside => ascii c ?_
    rw [same]
    exact mem_interleave_of_part member inside
  rw [holds, expression, matchesChars_iff_denotes, denotes_anyBetween some, pieces]
  constructor
  · rintro ⟨parts, gaps, equal, count, same, -⟩
    have length := congrArg List.length equal
    rw [folded same] at equal
    exact ⟨parts, gaps, equal, by simpa [count] using length, same⟩
  · rintro ⟨parts, gaps, equal, count, same⟩
    have length := congrArg List.length equal
    rw [← folded same] at equal
    refine ⟨parts, gaps, equal, by simpa [count] using length.symm, same, ?_⟩
    intro gap member broken
    refine line ?_
    rw [same]
    exact mem_interleave_of_gap (by omega) member broken

end Decompositions

end Pattern

namespace Exclusions

/-- Routes and types of ASCII in a line are excluded exactly if some pattern of ASCII for routes, or
for types, decomposes them. -/
theorem excludes_iff_decomposes {exclusions : Exclusions} {name : String}
    (patterns : ∀ pattern ∈ exclusions.endpoints ++ exclusions.types, Text.Ascii pattern.toList)
    (ascii : Text.Ascii name.toList) (line : '\n' ∉ name.toList) :
    (exclusions.excludesRoute name = true ↔
        ∃ pattern ∈ exclusions.endpoints, Pattern.Decomposes pattern name) ∧
      (exclusions.excludesType name = true ↔
        ∃ pattern ∈ exclusions.types, Pattern.Decomposes pattern name) := by
  obtain ⟨routes, types⟩ := List.forall_mem_append.mp patterns
  have some (list : List String) (letters : ∀ pattern ∈ list, Text.Ascii pattern.toList) :
      (list.any fun pattern => Pattern.holds pattern name) = true ↔
        ∃ pattern ∈ list, Pattern.Decomposes pattern name := by
    rw [List.any_eq_true]
    exact exists_congr fun pattern => and_congr_right fun member =>
      Pattern.holds_iff_decomposes (letters pattern member) ascii line
  exact ⟨some exclusions.endpoints routes, some exclusions.types types⟩

/-- Patterns whose characters would mean something else in a regular expression. -/
def shopExclusions : Exclusions where
  endpoints := ["/internal/*", "*\x7bid:regex(*)\x7d*"]
  types := ["*Internal*Dto"]

/-- A route with a constraint on its token is excluded by a pattern of three stars. -/
theorem orderRoute_decomposed :
    let route := "/Orders/\x7bID:Regex(^[0-9]+$)\x7d"
    (∀ pattern ∈ shopExclusions.endpoints ++ shopExclusions.types, Text.Ascii pattern.toList) ∧
      Text.Ascii route.toList ∧ '\n' ∉ route.toList ∧
      (shopExclusions.excludesRoute route = true ↔
        ∃ pattern ∈ shopExclusions.endpoints, Pattern.Decomposes pattern route) ∧
      shopExclusions.excludesRoute route = true ∧
      (shopExclusions.excludesType route = true ↔
        ∃ pattern ∈ shopExclusions.types, Pattern.Decomposes pattern route) ∧
      shopExclusions.excludesType route = false := by
  intro route
  have patterns : ∀ pattern ∈ shopExclusions.endpoints ++ shopExclusions.types,
      Text.Ascii pattern.toList := by decide +kernel
  have ascii : Text.Ascii route.toList := by decide +kernel
  have line : '\n' ∉ route.toList := by decide +kernel
  obtain ⟨routes, types⟩ := excludes_iff_decomposes patterns ascii line
  exact ⟨patterns, ascii, line, routes, by decide +kernel, types, by decide +kernel⟩

end Exclusions

end TypedClient
