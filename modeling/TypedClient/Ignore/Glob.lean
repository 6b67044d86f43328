/-
This file reads glob patterns and matches them against paths. Patterns and paths are compared byte
by byte, and each byte is written as the character of its code.
-/

namespace TypedClient.Glob

/-- A part of a pattern. -/
inductive Part
  | exact (c : Char)
  /-- Any character but a slash. -/
  | anyChar
  /-- Any characters but slashes. -/
  | anyName
  /-- Nothing, or any text up to a slash. -/
  | anyStart
  /-- A slash, or any text between two slashes. -/
  | anyMiddle
  /-- A slash and any text. -/
  | anyEnd
  /-- A character within one of the ranges, or a character outside of all of them. -/
  | oneOf (isOutside : Bool) (ranges : List (Char × Char))
  /-- Any of several patterns. -/
  | choice (branches : List (List Part))
  deriving Repr, Inhabited

def bytes (text : String) : List Char :=
  text.toUTF8.toList.map fun byte => Char.ofNat byte.toNat

/-- What remains of a text after each of its beginnings without a slash. -/
def nameRests : List Char → List (List Char)
  | [] => [[]]
  | c :: rest => (c :: rest) :: (if c == '/' then [] else nameRests rest)

/-- What remains of a text behind each of its slashes. -/
def slashRests : List Char → List (List Char)
  | [] => []
  | c :: rest => if c == '/' then rest :: slashRests rest else slashRests rest

/-- What remains of a text after each of its beginnings. -/
def allRests : List Char → List (List Char)
  | [] => [[]]
  | c :: rest => (c :: rest) :: allRests rest

/-- What remains of a text behind a first character that satisfies a test. -/
def restBehind (test : Char → Bool) : List Char → List (List Char)
  | [] => []
  | c :: rest => if test c then [rest] else []

/-- Tells whether a character lies within one of some ranges. -/
def inRanges (ranges : List (Char × Char)) (c : Char) : Bool :=
  ranges.any fun range => range.1 ≤ c && c ≤ range.2

mutual

/-- What may remain of a text behind a part of a pattern. -/
def Part.rests : Part → List Char → List (List Char)
  | .exact c, text => restBehind (· == c) text
  | .anyChar, text => restBehind (· != '/') text
  | .anyName, text => nameRests text
  | .anyStart, text => text :: slashRests text
  | .anyMiddle, text => (restBehind (· == '/') text).flatMap fun rest => rest :: slashRests rest
  | .anyEnd, text => (restBehind (· == '/') text).flatMap allRests
  | .oneOf isOutside ranges, text => restBehind (fun c => inRanges ranges c != isOutside) text
  | .choice branches, text => branchRests branches text

/-- What may remain of a text behind the parts of a pattern. -/
def partRests : List Part → List Char → List (List Char)
  | [], text => [text]
  | part :: parts, text => (part.rests text).flatMap (partRests parts)

/-- What may remain of a text behind any of several patterns. -/
def branchRests : List (List Part) → List Char → List (List Char)
  | [], _ => []
  | branch :: branches, text => partRests branch text ++ branchRests branches text

end

/-- Tells whether a pattern stands for all of a text. Two stars alone stand for any text. -/
def holds : List Part → List Char → Bool
  | [.anyStart], _ => true
  | parts, text => (partRests parts text).any List.isEmpty

/-- A sign of a pattern. -/
inductive Mark
  | slash
  /-- A character that stands for itself, and not as a slash of the pattern. -/
  | exact (c : Char)
  | question
  | star
  | oneOf (isOutside : Bool) (ranges : List (Char × Char))
  | opening
  | comma
  | closing
  deriving Repr

/-- How a set of characters in brackets ends. -/
inductive CharSet
  | closed (ranges : List (Char × Char)) (rest : List Char)
  | unclosed
  /-- A range ends before it begins. -/
  | invalid
  deriving Repr

/-- Reads a set of characters up to its closing bracket. `ranges` holds what has been read, the last
range first; `isOpen` tells whether that range still lacks its end. A bracket or a hyphen in front
stands for itself. -/
def CharSet.read (isFirst isOpen : Bool) (ranges : List (Char × Char)) : List Char → CharSet
  | [] => .unclosed
  | c :: rest =>
    if c == ']' && !isFirst then
      .closed (if isOpen then ('-', '-') :: ranges else ranges) rest
    else if c == '-' && !isFirst && !isOpen then CharSet.read false true ranges rest
    else
      match isOpen, ranges with
      | true, (low, _) :: others =>
        if c < low then .invalid else CharSet.read false false ((low, c) :: others) rest
      | _, _ => CharSet.read false false ((c, c) :: ranges) rest

/-- Reads what follows an opening bracket. -/
def CharSet.ofBracket : List Char → Bool × CharSet
  | '!' :: rest => (true, CharSet.read true false [] rest)
  | '^' :: rest => (true, CharSet.read true false [] rest)
  | rest => (false, CharSet.read true false [] rest)

/-- Reads the signs of a pattern, in at most the given number of steps. A bracket that is not closed
stands for itself. -/
def marks? : Nat → List Char → Option (List Mark)
  | 0, _ => some []
  | _, [] => some []
  | _, ['\\'] => none
  | steps + 1, '\\' :: c :: rest => (marks? steps rest).map (Mark.exact c :: ·)
  | steps + 1, '[' :: rest =>
    match CharSet.ofBracket rest with
    | (isOutside, .closed ranges behind) =>
      (marks? steps behind).map (Mark.oneOf isOutside ranges :: ·)
    | (_, .unclosed) => (marks? steps rest).map (Mark.exact '[' :: ·)
    | (_, .invalid) => none
  | steps + 1, c :: rest =>
    let mark : Mark := match c with
      | '/' => .slash
      | '?' => .question
      | '*' => .star
      | '{' => .opening
      | ',' => .comma
      | '}' => .closing
      | _ => .exact c
    (marks? steps rest).map (mark :: ·)

/-- A choice that is still open: the parts in front of it and its branches so far, both with the
last one first. -/
structure Frame where
  before : List Part
  branches : List (List Part) := []

/-- The parts with a choice behind them. Branches without parts do not count. -/
def Frame.close (frame : Frame) (last : List Part) : List Part :=
  match ((last :: frame.branches).map List.reverse).filter fun branch => !branch.isEmpty with
  | [] => frame.before
  | branches => .choice branches.reverse :: frame.before

/-- Replaces the slash in front of two stars by a part for the slash and the stars. -/
def withStars (part : Part) : List Part → List Part
  | .anyStart :: parts => .anyStart :: parts
  | .anyEnd :: parts => .anyEnd :: parts
  | _ :: parts => part :: parts
  | [] => [part]

/-- Tells whether a branch or a pattern ends in front of signs. -/
def endsBranch (isInChoice : Bool) : List Mark → Bool
  | [] => true
  | .comma :: _ => isInChoice
  | .closing :: _ => isInChoice
  | _ => false

/-- The parts that signs stand for. `current` holds the parts of the branch so far, the last one
first, and `isBehindSlash` tells whether the sign in front was a slash. Two stars stand for any
directories if they make up all that is between slashes, and for two single ones otherwise. -/
def parts? (frames : List Frame) (current : List Part) (isBehindSlash : Bool) :
    List Mark → Option (List Part)
  | [] => if frames.isEmpty then some current.reverse else none
  | .star :: .star :: .slash :: rest =>
    if current.isEmpty then parts? frames [.anyStart] true rest
    else if isBehindSlash then parts? frames (withStars .anyMiddle current) true rest
    else parts? frames (.exact '/' :: .anyName :: .anyName :: current) true rest
  | .star :: .star :: rest =>
    if current.isEmpty && rest.isEmpty then parts? frames [.anyStart] false rest
    else if !current.isEmpty && isBehindSlash && endsBranch (!frames.isEmpty) rest then
      parts? frames (withStars .anyEnd current) false rest
    else parts? frames (.anyName :: .anyName :: current) false rest
  | .star :: rest => parts? frames (.anyName :: current) false rest
  | .slash :: rest => parts? frames (.exact '/' :: current) true rest
  | .exact c :: rest => parts? frames (.exact c :: current) (c == '/') rest
  | .question :: rest => parts? frames (.anyChar :: current) false rest
  | .oneOf isOutside ranges :: rest =>
    parts? frames (.oneOf isOutside ranges :: current) false rest
  | .opening :: rest => parts? (⟨current, []⟩ :: frames) [] false rest
  | .comma :: rest =>
    match frames with
    | [] => parts? [] (.exact ',' :: current) false rest
    | frame :: outer =>
      parts? (⟨frame.before, current :: frame.branches⟩ :: outer) [] false rest
  | .closing :: rest =>
    match frames with
    | [] => none
    | frame :: outer => parts? outer (frame.close current) false rest

def read? (pattern : List Char) : Option (List Part) :=
  (marks? pattern.length pattern).bind (parts? [] [] false)

end TypedClient.Glob
