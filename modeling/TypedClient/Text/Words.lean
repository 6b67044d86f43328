/-
This file splits a name into words and joins the words again in the usual spellings: camel case
with a small or a capital first letter, and words joined by hyphens.
-/

import TypedClient.Text.Case
import TypedClient.Text.Letter
import TypedClient.Text.Piece


namespace TypedClient.Text

/-- What the letters of a word have shown so far. -/
inductive WordState
  /-- The word has just begun. -/
  | start
  /-- The last cased letter was small. -/
  | lower
  /-- The last cased letter was a capital. -/
  | upper
  deriving DecidableEq, Repr

def WordState.after (state : WordState) (c : Char) : WordState :=
  if isLower c then .lower else if isUpper c then .upper else state

/-- The words of a piece without separators. A word ends behind a small letter that a capital
follows, and before the last capital of a row of capitals that a small letter follows. -/
def humps : WordState → List Char → List (List Char)
  | _, [] => []
  | _, [c] => [[c]]
  | state, c :: next :: rest =>
    let following := state.after c
    if following == .lower && isUpper next then
      [c] :: humps .start (next :: rest)
    else if state == .upper && isUpper c && isLower next then
      [] :: consToFirst c (humps .start (next :: rest))
    else
      consToFirst c (humps following (next :: rest))

/-- The words of a name; everything but letters and numerals separates words. -/
def words (name : List Char) : List (List Char) :=
  ((splitWhere (fun c => !isLetterOrNumeral c) name).flatMap (humps .start)).filter
    (fun word => !word.isEmpty)

/-- A word in lower case; a capital sigma at its end takes the final form. -/
def lowerWord : List Char → List Char
  | [] => []
  | [c] => if c == 'Σ' then ['ς'] else lowerForm c
  | c :: rest => lowerForm c ++ lowerWord rest

/-- A word with a capital first letter and the rest in lower case. -/
def capitalWord : List Char → List Char
  | [] => []
  | c :: rest => upperForm c ++ lowerWord rest

/-- A name in camel case that begins with a small letter. -/
def lowerCamel (name : String) : String :=
  match words name.toList with
  | [] => ""
  | first :: rest => String.ofList (lowerWord first ++ rest.flatMap capitalWord)

/-- A name in camel case that begins with a capital letter. -/
def upperCamel (name : String) : String :=
  String.ofList ((words name.toList).flatMap capitalWord)

/-- The words of a name in lower case, joined by hyphens. -/
def hyphenated (name : String) : String :=
  String.ofList (List.intercalate ['-'] ((words name.toList).map lowerWord))

end TypedClient.Text
