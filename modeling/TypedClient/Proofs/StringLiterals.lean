/-
This file writes strings as literals of the backend language, regular or verbatim, and shows that
the reader of literals gives the strings back.
-/

import TypedClient.Literal.Basic
import TypedClient.Proofs.NestedText

namespace TypedClient.Literal

open Text

/-- The two ways to write a string between quotes. -/
inductive Spelling
  | regular
  | verbatim
  deriving DecidableEq, Repr

/-- The letters that stand for characters behind a backslash in a regular literal. -/
def escapeLetters : List (Char × Char) :=
  [('\\', '\\'), ('"', '"'), ('\n', 'n'), ('\t', 't'), ('\r', 'r'), (Char.ofNat 0, '0')]

namespace Spelling

/-- The characters that stand for one character of a string. -/
def quoteChar : Spelling → Char → List Char
  | regular, c =>
    match escapeLetters.lookup c with
    | some letter => ['\\', letter]
    | none => [c]
  | verbatim, c => if c == '"' then ['"', '"'] else [c]

def quoted (spelling : Spelling) (value : String) : List Char :=
  '"' :: (value.toList.flatMap spelling.quoteChar ++ ['"'])

def literal (spelling : Spelling) (value : String) : List Char :=
  match spelling with
  | regular => regular.quoted value
  | verbatim => '@' :: verbatim.quoted value

end Spelling

section Regular

/-- A character of a string is special in a regular literal, or written as it is. -/
theorem regular_cases (c : Char) :
    (∃ letter, (c, letter) ∈ escapeLetters ∧ Spelling.regular.quoteChar c = ['\\', letter]) ∨
      c ∉ ['\\', '"'] ∧ Spelling.regular.quoteChar c = [c] := by
  cases found : escapeLetters.lookup c with
  | some letter =>
      obtain ⟨front, behind, same, -⟩ := List.lookup_eq_some_iff.mp found
      exact .inl ⟨letter, by simp [same], by simp [Spelling.quoteChar, found]⟩
  | none =>
      refine .inr ⟨fun member => ?_, by simp [Spelling.quoteChar, found]⟩
      have known := List.lookup_eq_none_iff.mp found
      simp only [List.mem_cons, List.not_mem_nil, or_false] at member
      rcases member with rfl | rfl <;> simp [escapeLetters] at known

/-- A letter behind a backslash stands for its character. -/
theorem unescape_letter {c letter : Char} (special : (c, letter) ∈ escapeLetters)
    (rest : List Char) : unescape ('\\' :: letter :: rest) = c :: unescape rest := by
  simp only [escapeLetters, List.mem_cons, Prod.mk.injEq, List.not_mem_nil, or_false] at special
  rcases special with ⟨rfl, rfl⟩ | ⟨rfl, rfl⟩ | ⟨rfl, rfl⟩ | ⟨rfl, rfl⟩ | ⟨rfl, rfl⟩ | ⟨rfl, rfl⟩
  all_goals rfl

/-- A character that is no backslash stands for itself. -/
theorem unescape_cons {c : Char} (plain : c ≠ '\\') (rest : List Char) :
    unescape (c :: rest) = c :: unescape rest := by
  rw [unescape.eq_def]
  split <;> simp_all

theorem unescape_regular (cs : List Char) :
    unescape (cs.flatMap Spelling.regular.quoteChar) = cs := by
  induction cs with
  | nil => rfl
  | cons c rest inductionHypothesis =>
      rw [List.flatMap_cons]
      rcases regular_cases c with ⟨letter, special, written⟩ | ⟨ordinary, written⟩
      · rw [written, List.cons_append, List.singleton_append, unescape_letter special,
          inductionHypothesis]
      · rw [written, List.singleton_append, unescape_cons fun same => ordinary (by simp [same]),
          inductionHypothesis]

end Regular

theorem undouble_verbatim (cs : List Char) :
    undouble (cs.flatMap Spelling.verbatim.quoteChar) = cs := by
  induction cs with
  | nil => rfl
  | cons c rest inductionHypothesis =>
      rw [List.flatMap_cons]
      by_cases quote : c = '"'
      · subst quote
        exact congrArg _ inductionHypothesis
      · have plain : undouble (c :: rest.flatMap Spelling.verbatim.quoteChar) =
            c :: undouble (rest.flatMap Spelling.verbatim.quoteChar) := by
          rw [undouble.eq_def]
          split <;> simp_all
        simp [Spelling.quoteChar, quote, plain, inductionHypothesis]

section Reading

theorem between?_quotes (inside : List Char) :
    between? ['"'] ['"'] ('"' :: (inside ++ ['"'])) = some inside := by
  simp [between?, dropStart?, dropEnd?_eq_some.mpr]

theorem between?_rawQuotes (value : String) :
    between? rawQuotes rawQuotes (Spelling.regular.quoted value) = none := by
  have unopened : dropStart? rawQuotes (Spelling.regular.quoted value) = none := by
    unfold Spelling.quoted
    cases value.toList with
    | nil => rfl
    | cons c rest =>
        rw [List.flatMap_cons]
        rcases regular_cases c with ⟨letter, -, written⟩ | ⟨ordinary, written⟩
        · rw [written]
          rfl
        · have other : '"' ≠ c := fun same => ordinary (by simp [← same])
          rw [written]
          simp [rawQuotes, dropStart?, other]
  rw [between?, unopened]
  rfl

theorem tight_literal (spelling : Spelling) (value : String) : Tight (spelling.literal value) := by
  have quotes : Tight (spelling.quoted value) := by
    have quote : Tight ['"'] := .singleton (by decide)
    exact quote.enclose quote _
  cases spelling with
  | regular => exact quotes
  | verbatim =>
      have sign : Tight ['@'] := .singleton (by decide)
      exact sign.enclose quotes []

/-- A literal is read as its string, whatever blanks stand around it. -/
theorem stringChars?_literal (spelling : Spelling) (value : String) {text : List Char}
    (trimmed : trim text = spelling.literal value) : stringChars? text = some value.toList := by
  have noName : between? "nameof(".toList [')'] (spelling.literal value) = none := by
    cases spelling <;> rfl
  have unmarked : (spelling.literal value).dropWhile (· == '$') = spelling.literal value := by
    cases spelling <;> rfl
  rw [stringChars?, trimmed, noName]
  simp only [unmarked]
  cases spelling with
  | regular =>
      change quoted? (Spelling.regular.quoted value) = some value.toList
      rw [quoted?, between?_rawQuotes]
      simp only [Spelling.quoted, between?_quotes, Option.map_some, unescape_regular]
  | verbatim =>
      have unmarked : (Spelling.verbatim.quoted value).dropWhile (· == '$') =
          Spelling.verbatim.quoted value := rfl
      change verbatim? (Spelling.verbatim.quoted value) = some value.toList
      rw [verbatim?, unmarked]
      simp only [Spelling.quoted, between?_quotes, Option.map_some, undouble_verbatim]

/-- Blanks around a text do not count when it is trimmed. -/
theorem trim_padded {front back : List Char} (before : ∀ c ∈ front, isBlank c = true)
    (after : ∀ c ∈ back, isBlank c = true) (cs : List Char) :
    trim (front ++ cs ++ back) = trim cs := by
  have shortened (word : List Char) : trimEnd (word ++ back) = trimEnd word := by
    have turned : ∀ c ∈ back.reverse, isBlank c = true := by simpa using after
    rw [trimEnd, dropEndWhile, List.reverse_append, List.dropWhile_append_of_pos turned, trimEnd,
      dropEndWhile]
  rw [trim, trimStart, List.append_assoc, List.dropWhile_append_of_pos before,
    List.dropWhile_append]
  split
  case isTrue nothing =>
    -- The text itself is blank, so that all of it is trimmed in front.
    have none := @List.dropWhile_append_of_pos _ isBlank back [] after
    rw [List.append_nil, List.dropWhile_nil] at none
    rw [none, trim, trimStart, List.isEmpty_iff.mp nothing]
  case isFalse => rw [shortened, trim, trimStart]

theorem stringChars?_padded {front back : List Char} (before : ∀ c ∈ front, isBlank c = true)
    (after : ∀ c ∈ back, isBlank c = true) (text : List Char) :
    stringChars? (front ++ text ++ back) = stringChars? text := by
  rw [stringChars?, trim_padded before after, stringChars?]

end Reading

section Padding

variable {front back : String}

/-- Every string comes back from its regular and from its verbatim literal, and blanks around a text
change nothing of what is read. -/
theorem string_of_literal (before : ∀ c ∈ front.toList, isBlank c = true)
    (after : ∀ c ∈ back.toList, isBlank c = true) :
    (∀ (spelling : Spelling) (value : String),
        string? (front ++ String.ofList (spelling.literal value) ++ back) = some value) ∧
      ∀ text : String, string? (front ++ text ++ back) = string? text := by
  have padded (text : String) : string? (front ++ text ++ back) = string? text := by
    rw [string?, String.toList_append, String.toList_append, stringChars?_padded before after,
      string?]
  refine ⟨?literals, padded⟩
  case literals =>
    intro spelling value
    have tight := (tight_literal spelling value).trim
    rw [padded, string?, String.toList_ofList, stringChars?_literal spelling value tight,
      Option.map_some, String.ofList_toList]

/-- A string with quotes, backslashes and a line break, also at its ends. -/
def quotedPath : String :=
  "\"C:\\new\n\\"

/-- The string comes back from both of its literals between blanks. -/
theorem quotedPath_read_back :
    (∀ c ∈ " \t".toList, isBlank c = true) ∧ (∀ c ∈ "\r\n".toList, isBlank c = true) ∧
      String.ofList (Spelling.regular.literal quotedPath) = "\"\\\"C:\\\\new\\n\\\\\"" ∧
      String.ofList (Spelling.verbatim.literal quotedPath) = "@\"\"\"C:\\new\n\\\"" ∧
      ∀ spelling : Spelling,
        string? (" \t" ++ String.ofList (spelling.literal quotedPath) ++ "\r\n") =
          some quotedPath := by
  have before : ∀ c ∈ " \t".toList, isBlank c = true := List.all_eq_true.mp rfl
  have after : ∀ c ∈ "\r\n".toList, isBlank c = true := List.all_eq_true.mp rfl
  refine ⟨before, after, by decide +kernel, by decide +kernel, ?_⟩
  intro spelling
  exact (string_of_literal before after).1 spelling quotedPath

end Padding

end TypedClient.Literal
