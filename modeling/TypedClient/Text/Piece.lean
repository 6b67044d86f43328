/-
This file cuts texts into pieces: at a character, at a word in front or behind, and at the first
or last place where a character stands.
-/

namespace TypedClient.Text

/-- Puts a character in front of the first piece. -/
def consToFirst (c : Char) : List (List Char) → List (List Char)
  | [] => [[c]]
  | piece :: pieces => (c :: piece) :: pieces

/-- The pieces of a text between the characters that satisfy a test; there is always one more
piece than there are such characters. -/
def splitWhere (isCut : Char → Bool) : List Char → List (List Char)
  | [] => [[]]
  | c :: rest =>
    if isCut c then [] :: splitWhere isCut rest
    else consToFirst c (splitWhere isCut rest)

/-- The pieces of a text between the places where a character stands. -/
def splitAt (separator : Char) (cs : List Char) : List (List Char) :=
  splitWhere (· == separator) cs

/-- The rest of a text behind a given beginning. -/
def dropStart? : List Char → List Char → Option (List Char)
  | [], cs => some cs
  | _ :: _, [] => none
  | e :: expected, c :: cs => if e == c then dropStart? expected cs else none

/-- The rest of a text before a given end. -/
def dropEnd? (expected cs : List Char) : Option (List Char) :=
  (dropStart? expected.reverse cs.reverse).map List.reverse

/-- The parts before and behind the first place where a word stands. -/
def cutFirst? (word : List Char) : List Char → Option (List Char × List Char)
  | [] => (dropStart? word []).map ([], ·)
  | c :: rest =>
    match dropStart? word (c :: rest) with
    | some behind => some ([], behind)
    | none => (cutFirst? word rest).map fun parts => (c :: parts.1, parts.2)

/-- The parts before and behind the last place where a character stands. -/
def cutLast? (separator : Char) (cs : List Char) : Option (List Char × List Char) :=
  (cutFirst? [separator] cs.reverse).map fun parts => (parts.2.reverse, parts.1.reverse)

/-- A text in which every occurrence of a word, read from the left, gives way to another. -/
def replaceAll (word replacement : List Char) (cs : List Char) : List Char :=
  go cs.length cs
where
  /-- Replaces in at most as many steps as there are characters. -/
  go : Nat → List Char → List Char
    | 0, rest => rest
    | steps + 1, rest =>
      match cutFirst? word rest with
      | some (before, behind) => before ++ replacement ++ go steps behind
      | none => rest

/-- Tells whether a word stands in front of a text. -/
def startsWith (expected cs : List Char) : Bool :=
  (dropStart? expected cs).isSome

/-- Tells whether a word stands at the end of a text. -/
def endsWith (expected cs : List Char) : Bool :=
  (dropEnd? expected cs).isSome

/-- The text behind a given beginning. -/
def afterStart? (expected text : String) : Option String :=
  (dropStart? expected.toList text.toList).map String.ofList

def beforeEnd? (expected text : String) : Option String :=
  (dropEnd? expected.toList text.toList).map String.ofList

/-- The part behind the last place where a character stands, or all of the text. -/
def afterLast (separator : Char) (text : String) : String :=
  match cutLast? separator text.toList with
  | some (_, behind) => String.ofList behind
  | none => text

def lowerAscii (text : String) : String :=
  String.ofList (text.toList.map Char.toLower)

/-- Tells whether two texts differ at most in the case of ASCII letters. -/
def sameIgnoringCase (left right : String) : Bool :=
  lowerAscii left == lowerAscii right

end TypedClient.Text
