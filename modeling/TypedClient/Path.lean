/-
This file takes file paths apart, joins them and orders them. A path is a text whose components
stand between slashes.
-/

import TypedClient.Text.Order
import TypedClient.Text.Piece

namespace TypedClient.Path

/-- A component of a path. -/
inductive Component
  /-- The slash in front of an absolute path. -/
  | root
  /-- The point in front of a path that stands for the current directory. -/
  | current
  /-- Two points, which stand for the directory above. -/
  | parent
  | name (text : String)
  deriving DecidableEq, Repr, Inhabited

namespace Component

/-- The kinds of components in order. -/
def rank : Component → Nat
  | root => 0
  | current => 1
  | parent => 2
  | name _ => 3

def text : Component → String
  | root => "/"
  | current => "."
  | parent => ".."
  | name own => own

/-- Tells whether one component comes before another. -/
def less (left right : Component) : Bool :=
  left.rank < right.rank || (left.rank == right.rank && decide (left.text < right.text))

end Component

/-- Tells whether a path begins at the root. -/
def isAbsolute (path : String) : Bool :=
  path.toList.head? == some '/'

/-- The components of a path. Repeated slashes count once, and a point counts only in front. -/
def components (path : String) : List Component :=
  let pieces := (Text.splitAt '/' path.toList).map String.ofList
  let inner := (pieces.filter fun piece => piece != "" && piece != ".").map fun piece =>
    if piece == ".." then Component.parent else Component.name piece
  if isAbsolute path then .root :: inner
  else if pieces.head? == some "." then .current :: inner
  else inner

/-- The order of component lists: at the first difference the lesser component comes first. -/
def lessComponents : List Component → List Component → Bool
  | [], [] => false
  | [], _ :: _ => true
  | _ :: _, [] => false
  | left :: lefts, right :: rights =>
    if left.less right then true
    else if right.less left then false
    else lessComponents lefts rights

/-- Tells whether one path comes before another, component by component, or is the same path. -/
def atMost (left right : String) : Bool :=
  !lessComponents (components right) (components left)

/-- Tells whether two texts are the same path. -/
def same (left right : String) : Bool :=
  components left == components right

/-- A path behind a base: an absolute path stands for itself, and all else follows the base and a
slash. -/
def join (base path : String) : String :=
  if isAbsolute path || base.isEmpty then path
  else if base.toList.getLast? == some '/' then base ++ path
  else base ++ "/" ++ path

/-- The pieces of a path between slashes, without those at the end that name nothing. -/
def dropNameless (pieces : List (List Char)) : List (List Char) :=
  (pieces.reverse.dropWhile fun piece => piece == [] || piece == ['.']).reverse

/-- Pieces with slashes between them. -/
def joinPieces (pieces : List (List Char)) : String :=
  String.ofList (['/'].intercalate pieces)

/-- The path without its last component. A path without components has no parent, and neither has
the root. -/
def parent? (path : String) : Option String :=
  match Text.splitAt '/' path.toList with
  | [] :: inner =>
    let named := dropNameless inner
    if named.isEmpty then none else some ("/" ++ joinPieces (dropNameless named.dropLast))
  | ['.'] :: inner =>
    let named := dropNameless inner
    if named.isEmpty then some ""
    else some (joinPieces (['.'] :: dropNameless named.dropLast))
  | pieces =>
    let named := dropNameless pieces
    if named.isEmpty then none else some (joinPieces (dropNameless named.dropLast))

/-- The part of a name behind its last point, unless that point comes first. -/
def extension? (name : String) : Option String :=
  match Text.cutLast? '.' name.toList with
  | some ([], _) => none
  | some (_, ending) => some (String.ofList ending)
  | none => none

def names (path : String) : List String :=
  (components path).map Component.text

end TypedClient.Path
