/-
This file says which lists of strings come back from their literals in an array or collection
expression: the reader cuts the list at commas outside of brackets, and knows no quotes.
-/

import TypedClient.Proofs.SeparatedPieces
import TypedClient.Proofs.StringLiterals

namespace TypedClient.Literal

open Text Brackets

section Marks

theorem marks_quoteChar (spelling : Spelling) (c : Char) :
    marks (spelling.quoteChar c) = marks [c] := by
  cases spelling with
  | regular =>
      have plain : ∀ entry ∈ escapeLetters, marks ['\\', entry.2] = marks [entry.1] := by decide
      rcases regular_cases c with ⟨letter, special, written⟩ | ⟨-, written⟩
      · rw [written]
        exact plain (c, letter) special
      · rw [written]
  | verbatim =>
      by_cases quote : c = '"'
      · subst quote
        rfl
      · simp [Spelling.quoteChar, quote]

/-- A literal has the commas and brackets of its string. -/
theorem marks_literal (spelling : Spelling) (value : String) :
    marks (spelling.literal value) = marks value.toList := by
  have inside (cs : List Char) : marks (cs.flatMap spelling.quoteChar) = marks cs := by
    induction cs with
    | nil => rfl
    | cons c rest inductionHypothesis =>
        rw [List.flatMap_cons, marks_append, marks_quoteChar, inductionHypothesis, ← marks_append]
        rfl
  have quotes : marks (spelling.quoted value) = marks value.toList := by
    have quote : marks ['"'] = [] := rfl
    rw [Spelling.quoted, ← List.singleton_append, marks_append, marks_append, inside, quote]
    simp
  cases spelling with
  | regular => exact quotes
  | verbatim => exact quotes

end Marks

section Counts

/-- What stands between delimiters is part of the text. -/
theorem sublist_of_between? {start stop cs inside : List Char}
    (found : between? start stop cs = some inside) : inside.Sublist cs := by
  obtain ⟨rest, opened, closed⟩ := Option.bind_eq_some_iff.mp found
  rw [dropStart?_eq_some.mp opened, dropEnd?_eq_some.mp closed]
  exact (List.sublist_append_left inside stop).trans (List.sublist_append_right start _)

/-- The part behind the last point is part of the text. -/
theorem lastSegment_sublist (cs : List Char) : (lastSegment cs).Sublist cs := by
  rw [lastSegment]
  split
  case h_1 front behind cut =>
    rw [(cutLast?_eq_some.mp cut).1]
    exact (List.sublist_cons_self _ _).trans (List.sublist_append_right front _)
  case h_2 => exact .refl cs

/-- Text with single quotes is part of the text with doubled ones. -/
theorem undouble_sublist (cs : List Char) : (undouble cs).Sublist cs := by
  fun_induction undouble cs with
  | case1 rest inductionHypothesis => exact (inductionHypothesis.cons _).cons_cons _
  | case2 c rest _ inductionHypothesis => exact inductionHypothesis.cons_cons c
  | case3 => exact .slnil

/-- Unescaped text has no more of a character than the text with escapes, unless a letter may stand
for the character. -/
theorem count_unescape_le {c : Char} (mark : c ∉ ['\n', '\t', '\r', Char.ofNat 0])
    (cs : List Char) : (unescape cs).count c ≤ cs.count c := by
  fun_induction unescape cs with
  | case1 => exact Nat.le_refl _
  | case2 => exact Nat.le_refl _
  | case3 d rest meant inductionHypothesis =>
      have same : meant = c → d = c := by
        simp only [List.mem_cons, List.not_mem_nil, or_false, not_or] at mark
        intro equal
        subst equal
        simp only [meant] at mark ⊢
        split <;> simp_all
      simp only [List.count_cons, beq_iff_eq]
      split <;> simp_all <;> omega
  | case4 d rest _ _ inductionHypothesis =>
      simp only [List.count_cons]
      omega

theorem count_quoted?_le {c : Char} (mark : c ∉ ['\n', '\t', '\r', Char.ofNat 0])
    {text value : List Char} (read : quoted? text = some value) :
    value.count c ≤ text.count c := by
  rw [quoted?] at read
  split at read
  case h_1 inside found =>
    rw [← Option.some.inj read]
    exact ((trim_sublist inside).trans (sublist_of_between? found)).count_le c
  case h_2 =>
    obtain ⟨inside, found, rfl⟩ := Option.map_eq_some_iff.mp read
    exact Nat.le_trans (count_unescape_le mark inside) ((sublist_of_between? found).count_le c)

/-- The reader makes no more of a mark than there are: what it reads is a part of the text, except
for escaped letters that stand for control characters. -/
theorem count_stringChars?_le {c : Char} (mark : c ∉ ['\n', '\t', '\r', Char.ofNat 0])
    {text value : List Char} (read : stringChars? text = some value) :
    value.count c ≤ text.count c := by
  have trimmed := (trim_sublist text).count_le c
  have unmarked := (List.dropWhile_sublist (· == '$') (l := trim text)).count_le c
  rw [stringChars?] at read
  split at read
  case h_1 inside found =>
    rw [← Option.some.inj read]
    exact (((lastSegment_sublist _).trans (trim_sublist inside)).trans
      ((sublist_of_between? found).trans (trim_sublist text))).count_le c
  case h_2 =>
    split at read
    case h_1 rest same =>
      obtain ⟨inside, found, rfl⟩ := Option.map_eq_some_iff.mp read
      have part := (undouble_sublist inside).trans
        ((sublist_of_between? found).trans (List.dropWhile_sublist (· == '$')))
      have shorter := part.count_le c
      rw [same, List.count_cons] at unmarked
      omega
    case h_2 =>
      have shorter := count_quoted?_le mark read
      omega

end Counts

section Counting

theorem stringChars?_nil : stringChars? [] = none := rfl

theorem filterMap_arguments (inside : List Char) :
    (arguments inside).filterMap stringChars? =
      (splitOutside ',' 0 inside).filterMap fun piece => stringChars? (trim piece) := by
  rw [arguments, pieces, List.filterMap_filter, List.filterMap_map]
  refine List.filterMap_congr fun piece _ => ?_
  cases same : trim piece with
  | nil => simp [same, stringChars?_nil]
  | cons c rest => simp [same]

theorem count_filterMap_le {c : Char} (mark : c ∉ ['\n', '\t', '\r', Char.ofNat 0])
    (texts : List (List Char)) :
    (texts.filterMap fun piece => stringChars? (trim piece)).flatten.count c ≤
      texts.flatten.count c := by
  induction texts with
  | nil => exact Nat.le_refl _
  | cons text rest inductionHypothesis =>
      rw [List.flatten_cons, List.count_append]
      cases read : stringChars? (trim text) with
      | none => simp only [List.filterMap_cons, read]; omega
      | some value =>
          have here := count_stringChars?_le mark read
          have part := (trim_sublist text).count_le c
          simp only [List.filterMap_cons, read, List.flatten_cons, List.count_append]
          omega

end Counting

section Lists

/-- A piece of a list that holds the literal of a string, with blanks around it. -/
structure IsPadded (piece : List Char) (value : String) : Prop where
  trimmed : ∃ spelling : Spelling, trim piece = spelling.literal value
  marks : marks piece = marks value.toList

namespace IsPadded

variable {piece : List Char} {value : String}

theorem read (padded : IsPadded piece value) : stringChars? (trim piece) = some value.toList := by
  obtain ⟨spelling, same⟩ := padded.trimmed
  refine stringChars?_literal spelling value ?_
  rw [same, (tight_literal spelling value).trim]

theorem count (padded : IsPadded piece value) : piece.count ',' = value.toList.count ',' := by
  have marked (cs : List Char) : (Brackets.marks cs).count ',' = cs.count ',' :=
    List.count_filter (by decide)
  rw [← marked piece, padded.marks, marked]

/-- A literal may stand between single spaces. -/
theorem of_literal (spelling : Spelling) (value : String) {front back : List Char}
    (start : front = [] ∨ front = [' ']) (stop : back = [] ∨ back = [' ']) :
    IsPadded (front ++ spelling.literal value ++ back) value where
  trimmed := by
    have tight := tight_literal spelling value
    have space : isBlank ' ' = true := by decide
    refine ⟨spelling, ?_⟩
    rcases start with rfl | rfl <;> rcases stop with rfl | rfl
    · simpa using tight.trim
    · simpa using tight.trim_concat space
    · simpa [trim_cons_of_blank space] using tight.trim
    · simpa [trim_cons_of_blank space] using tight.trim_concat space
  marks := by
    have before : Brackets.marks front = [] := by rcases start with rfl | rfl <;> rfl
    have behind : Brackets.marks back = [] := by rcases stop with rfl | rfl <;> rfl
    rw [marks_append, marks_append, marks_literal, before, behind]
    simp

end IsPadded

variable {texts : List (List Char)} {values : List String}

theorem filterMap_of_padded (padded : List.Forall₂ IsPadded texts values) :
    (texts.filterMap fun piece => stringChars? (trim piece)) = values.map String.toList := by
  induction padded with
  | nil => rfl
  | cons here _ inductionHypothesis => simp [here.read, inductionHypothesis]

theorem count_of_padded (padded : List.Forall₂ IsPadded texts values) :
    texts.flatten.count ',' = (values.map String.toList).flatten.count ',' := by
  induction padded with
  | nil => rfl
  | cons here _ inductionHypothesis => simp [here.count, inductionHypothesis]

/-- Where pieces give as many strings as they are, each gives the string at its place, and has at
least the commas of the literal there. -/
theorem counts_of_filterMap {pieces : List (List Char)}
    (padded : List.Forall₂ IsPadded texts values)
    (read : (pieces.filterMap fun piece => stringChars? (trim piece)) = values.map String.toList)
    (length : pieces.length = texts.length) :
    List.Forall₂ (fun piece text => text.count ',' ≤ piece.count ',') pieces texts := by
  induction padded generalizing pieces with
  | nil => rw [List.length_eq_zero_iff.mp length]; exact .nil
  | @cons text value rest more here later inductionHypothesis =>
      cases pieces with
      | nil => contradiction
      | cons piece others =>
          cases found : stringChars? (trim piece) with
          | none =>
              -- The other pieces would be too few.
              have few := List.length_filterMap_le (fun piece => stringChars? (trim piece)) others
              simp only [List.filterMap_cons, found] at read
              have equal := later.length_eq
              rw [read] at few
              simp only [List.length_map, List.length_cons] at few length
              omega
          | some string =>
              simp only [List.filterMap_cons, found, List.map_cons] at read
              obtain ⟨rfl, following⟩ := List.cons.inj read
              have fewer := @count_stringChars?_le ',' (by decide) _ _ found
              have part := (trim_sublist piece).count_le ','
              refine .cons ?_ (inductionHypothesis following (by simpa using length))
              rw [here.count]
              omega

/-- Strings come back from the padded literals that commas join exactly if commas outside of
brackets separate these. -/
theorem arguments_eq_iff (padded : List.Forall₂ IsPadded texts values) (some : texts ≠ []) :
    (arguments ([','].intercalate texts)).filterMap stringChars? = values.map String.toList ↔
      Separates 0 texts := by
  rw [filterMap_arguments]
  constructor
  · intro read
    have whole := intercalate_splitOutside 0 ([','].intercalate texts)
    have separates := separates_splitOutside 0 ([','].intercalate texts)
    generalize splitOutside ',' 0 ([','].intercalate texts) = pieces at read whole separates
    obtain ⟨first, others, same⟩ := separates.exists_cons
    have total := congrArg (List.count ',') whole
    have commas := count_intercalate (same ▸ List.cons_ne_nil first others : pieces ≠ [])
    have expected := count_intercalate some
    have few := List.length_filterMap_le (fun piece => stringChars? (trim piece)) pieces
    have fewer := @count_filterMap_le ',' (by decide) pieces
    rw [read] at few fewer
    rw [← count_of_padded padded] at fewer
    rw [List.length_map, ← padded.length_eq] at few
    have length : pieces.length = texts.length := by omega
    have counts := (counts_eq_of_le (counts_of_filterMap padded read length)).2 (by omega)
    rwa [eq_of_intercalate counts whole] at separates
  · intro separates
    rw [splitOutside_of_separates separates, filterMap_of_padded padded]

/-- Strings can be told apart in a list without quotes: each has its commas in brackets, and behind
each but the last no bracket is open. -/
def Separable (values : List String) : Prop :=
  (∀ value ∈ values, CommasEnclosed 0 value.toList) ∧
    ∀ value ∈ values.dropLast, depthBehind 0 value.toList = 0

/-- Commas outside of brackets separate padded literals exactly if the strings can be told apart. -/
theorem separates_iff (padded : List.Forall₂ IsPadded texts values) (some : texts ≠ []) :
    Separates 0 texts ↔ Separable values := by
  have first {text : List Char} {value : String} (here : IsPadded text value) :
      (CommasEnclosed 0 text ↔ CommasEnclosed 0 value.toList) ∧
        depthBehind 0 text = depthBehind 0 value.toList := by
    rw [← commasEnclosed_marks, ← depthBehind_marks, here.marks, commasEnclosed_marks,
      depthBehind_marks]
    exact ⟨Iff.rfl, rfl⟩
  induction padded with
  | nil => contradiction
  | @cons text value rest more here later inductionHypothesis =>
      obtain ⟨enclosed, closed⟩ := first here
      cases later with
      | nil => simp [Separable, separates_singleton, enclosed]
      | cons =>
          have tail := and_congr_right fun _ : depthBehind 0 text = 0 =>
            inductionHypothesis (List.cons_ne_nil _ _)
          refine separates_cons_cons.trans ((and_congr_right fun _ => tail).trans ?_)
          rw [enclosed, closed]
          simp only [Separable, List.forall_mem_cons, List.dropLast_cons_cons]
          tauto

/-- The literals of strings, with commas and spaces between them. -/
def literalsText (elements : List (Spelling × String)) : List Char :=
  [',', ' '].intercalate (elements.map fun element => element.1.literal element.2)

def arrayText (elements : List (Spelling × String)) : String :=
  String.ofList ("new[] \x7b ".toList ++ (literalsText elements ++ " \x7d".toList))

def collectionText (elements : List (Spelling × String)) : String :=
  String.ofList ('[' :: (literalsText elements ++ [']']))

/-- Literals with commas and spaces between them are padded literals with commas between them. -/
theorem exists_padded {elements : List (Spelling × String)} (some : elements ≠ [])
    {front back : List Char} (start : front = [] ∨ front = [' '])
    (stop : back = [] ∨ back = [' ']) :
    ∃ texts, texts ≠ [] ∧ List.Forall₂ IsPadded texts (elements.map Prod.snd) ∧
      [','].intercalate texts = front ++ literalsText elements ++ back := by
  induction elements generalizing front with
  | nil => contradiction
  | cons element rest inductionHypothesis =>
      cases rest with
      | nil =>
          refine ⟨[front ++ element.1.literal element.2 ++ back], List.cons_ne_nil _ _,
            .cons (.of_literal _ _ start stop) .nil, by simp [literalsText]⟩
      | cons next rest =>
          obtain ⟨texts, _, padded, joined⟩ :=
            inductionHypothesis (List.cons_ne_nil _ _) (.inr rfl)
          obtain ⟨text, others, rfl⟩ := List.exists_cons_of_ne_nil ‹texts ≠ []›
          have here := @IsPadded.of_literal element.1 element.2 front [] start (.inl rfl)
          refine ⟨(front ++ element.1.literal element.2 ++ []) :: text :: others,
            List.cons_ne_nil _ _, .cons here padded, ?_⟩
          rw [List.intercalate_cons_cons, joined]
          simp [literalsText]

end Lists

section Expressions

/-- The elements of a list stand before its closing bracket. -/
theorem listInside?_of_cut {text before inside : List Char} {closing : Char}
    (cut : (cutFirst? ['{'] text).or (cutFirst? ['['] text) = some (before, inside ++ [closing]))
    (closes : closesList closing = true) : listInside? text = some inside := by
  have found : (inside ++ [closing]).any closesList = true := by
    rw [List.any_append, List.any_cons, closes, Bool.true_or, Bool.or_true]
  have kept : (inside ++ [closing]).reverse.dropWhile (fun c => !closesList c) =
      closing :: inside.reverse := by
    rw [List.reverse_append, List.reverse_singleton, List.singleton_append,
      List.dropWhile_cons_of_neg (by simp [closes])]
  rw [listInside?, cut, Option.bind_eq_bind, Option.bind_some]
  simp only [found, kept, if_true, List.drop_succ_cons, List.drop_zero, List.reverse_reverse]

/-- The strings of a list without quotes in front are those of the elements between its brackets. -/
theorem strings_of_inside {text inside : List Char} (tight : Tight text)
    (unquoted : stringChars? text = none) (found : listInside? text = some inside) :
    strings (String.ofList text) =
      ((arguments inside).filterMap stringChars?).map String.ofList := by
  rw [strings, String.toList_ofList, stringListChars, tight.trim]
  simp only [unquoted, found]

theorem map_ofList_eq_iff {texts : List (List Char)} {values : List String} :
    texts.map String.ofList = values ↔ texts = values.map String.toList := by
  constructor
  · rintro rfl
    simp [List.map_map, Function.comp_def]
  · rintro rfl
    simp [List.map_map, Function.comp_def]

theorem count_literalsText (elements : List (Spelling × String)) :
    (literalsText elements).count '{' =
      ((elements.map Prod.snd).map String.toList).flatten.count '{' := by
  have marked (cs : List Char) : (marks cs).count '{' = cs.count '{' :=
    List.count_filter (by decide)
  rw [literalsText, count_intercalate_of_notMem (by decide)]
  induction elements with
  | nil => rfl
  | cons element rest inductionHypothesis =>
      simp only [List.map_cons, List.flatten_cons, List.count_append, inductionHypothesis]
      rw [← marked (element.1.literal element.2), marks_literal, marked]

/-- The strings of a list have no more opening braces than the text between its brackets. -/
theorem count_strings_le (inside : List Char) :
    ((arguments inside).filterMap stringChars?).flatten.count '{' ≤ inside.count '{' := by
  have fewer := @count_filterMap_le '{' (by decide) (splitOutside ',' 0 inside)
  have whole := @count_intercalate_of_notMem '{' [','] (by decide) (splitOutside ',' 0 inside)
  rw [intercalate_splitOutside] at whole
  rw [filterMap_arguments]
  omega

variable (elements : List (Spelling × String))

/-- An array expression gives the strings of its elements. -/
theorem strings_arrayText : strings (arrayText elements) =
    ((arguments (' ' :: (literalsText elements ++ [' ']))).filterMap stringChars?).map
      String.ofList := by
  have first : Tight ['n'] := .singleton (by decide)
  have last : Tight ['}'] := .singleton (by decide)
  have text (inside : List Char) : "new[] \x7b ".toList ++ (inside ++ " \x7d".toList) =
      ['n'] ++ ("ew[] \x7b".toList ++ ' ' :: (inside ++ [' ']) ++ ['}']) := by simp
  refine (congrArg strings (congrArg String.ofList (text (literalsText elements)))).trans ?_
  generalize literalsText elements = inside
  have tight := first.enclose last ("ew[] \x7b".toList ++ ' ' :: (inside ++ [' ']))
  refine strings_of_inside tight ?unquoted ?found
  case unquoted =>
    rw [stringChars?, tight.trim]
    rfl
  case found =>
    have cut : cutFirst? ['{']
        (['n'] ++ ("ew[] \x7b".toList ++ ' ' :: (inside ++ [' ']) ++ ['}'])) =
        some ("new[] ".toList, ' ' :: (inside ++ [' ']) ++ ['}']) :=
      cutFirst?_singleton_eq_some.mpr ⟨by simp, by decide⟩
    refine @listInside?_of_cut _ "new[] ".toList _ '}' ?_ rfl
    rw [cut, Option.some_or]

/-- A collection expression gives the strings that the reader finds in its brackets. -/
theorem strings_collectionText {inside : List Char}
    (found : listInside? ('[' :: (literalsText elements ++ [']'])) = some inside) :
    strings (collectionText elements) =
      ((arguments inside).filterMap stringChars?).map String.ofList := by
  have first : Tight ['['] := .singleton (by decide)
  have last : Tight [']'] := .singleton (by decide)
  have tight : Tight ('[' :: (literalsText elements ++ [']'])) :=
    first.enclose last (literalsText elements)
  refine strings_of_inside tight ?_ found
  rw [stringChars?, tight.trim]
  rfl

variable {elements}

/-- Without opening braces the elements of a collection expression stand in its brackets. -/
theorem listInside?_of_plain (plain : '{' ∉ literalsText elements) :
    listInside? ('[' :: (literalsText elements ++ [']'])) = some (literalsText elements) := by
  have uncut : cutFirst? ['{'] ('[' :: (literalsText elements ++ [']'])) = none := by
    refine Option.eq_none_iff_forall_not_mem.mpr fun (front, behind) member => ?_
    obtain ⟨same, -⟩ := cutFirst?_singleton_eq_some.mp member
    have inside : '{' ∈ '[' :: (literalsText elements ++ [']']) := by simp [same]
    simp [plain] at inside
  have cut : cutFirst? ['['] ('[' :: (literalsText elements ++ [']'])) =
      some ([], literalsText elements ++ [']']) :=
    cutFirst?_singleton_eq_some.mpr ⟨rfl, by simp⟩
  refine @listInside?_of_cut _ [] _ ']' ?_ rfl
  rw [uncut, cut]
  rfl

/-- A collection expression with an opening brace loses at least that brace: the reader takes it for
the opening bracket, and keeps what stands behind it. -/
theorem strings_collectionText_ne (brace : '{' ∈ literalsText elements) :
    strings (collectionText elements) ≠ elements.map Prod.snd := by
  obtain ⟨front, inside, same, absent⟩ :=
    List.eq_append_cons_of_mem (List.mem_cons_of_mem '[' brace)
  have cut : cutFirst? ['{'] ('[' :: (literalsText elements ++ [']'])) =
      some (front, inside ++ [']']) := by
    refine cutFirst?_singleton_eq_some.mpr ⟨?_, absent⟩
    rw [← List.cons_append, same]
    simp
  have found : listInside? ('[' :: (literalsText elements ++ [']'])) = some inside := by
    refine @listInside?_of_cut _ front _ ']' ?_ rfl
    rw [cut, Option.some_or]
  intro equal
  rw [strings_collectionText elements found, map_ofList_eq_iff] at equal
  have fewer := count_strings_le inside
  rw [equal, ← count_literalsText] at fewer
  have total := congrArg (List.count '{') same
  simp only [List.count_append, List.count_cons_self, List.count_cons_of_ne, ne_eq,
    Char.reduceEq, not_false_eq_true] at total
  omega

end Expressions

/-- Strings come back from the array expression of their literals exactly if they can be told apart
without quotes, and from the collection expression if in addition none of them has an opening
brace. -/
theorem strings_literals_iff (elements : List (Spelling × String)) :
    (strings (arrayText elements) = elements.map Prod.snd ↔ Separable (elements.map Prod.snd)) ∧
      (strings (collectionText elements) = elements.map Prod.snd ↔
        Separable (elements.map Prod.snd) ∧
          ∀ value ∈ elements.map Prod.snd, '{' ∉ value.toList) := by
  rcases eq_or_ne elements [] with rfl | some
  · have array : strings (arrayText []) = [] := by decide +kernel
    have collection : strings (collectionText []) = [] := by decide +kernel
    simp [array, collection, Separable]
  have read {front back inside : List Char} (start : front = [] ∨ front = [' '])
      (stop : back = [] ∨ back = [' ']) (whole : inside = front ++ literalsText elements ++ back) :
      ((arguments inside).filterMap stringChars?).map String.ofList = elements.map Prod.snd ↔
        Separable (elements.map Prod.snd) := by
    obtain ⟨texts, several, padded, joined⟩ := exists_padded some start stop
    rw [map_ofList_eq_iff, whole, ← joined, arguments_eq_iff padded several,
      separates_iff padded several]
  refine ⟨?array, ?collection⟩
  case array =>
    rw [strings_arrayText]
    exact read (.inr rfl) (.inr rfl) (by simp)
  case collection =>
    have braces : '{' ∈ literalsText elements ↔ ∃ value ∈ elements.map Prod.snd,
        '{' ∈ value.toList := by
      rw [← List.count_pos_iff, count_literalsText, List.count_pos_iff, List.mem_flatten]
      simp only [List.mem_map, exists_exists_and_eq_and]
    by_cases brace : '{' ∈ literalsText elements
    · obtain ⟨value, member, inside⟩ := braces.mp brace
      exact iff_of_false (strings_collectionText_ne brace) fun known => known.2 value member inside
    · have plain : ∀ value ∈ elements.map Prod.snd, '{' ∉ value.toList :=
        fun value member inside => brace (braces.mpr ⟨value, member, inside⟩)
      rw [strings_collectionText elements (listInside?_of_plain brace),
        read (.inl rfl) (.inl rfl) (by simp)]
      exact (and_iff_left plain).symm

/-- A comma in a string of an array expression takes the string away. -/
theorem strings_comma_lost :
    arrayText [(.regular, "a,b"), (.regular, "c")] = "new[] \x7b \"a,b\", \"c\" \x7d" ∧
      strings "new[] \x7b \"a,b\", \"c\" \x7d" = ["c"] := by
  decide +kernel

end TypedClient.Literal
