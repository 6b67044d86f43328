/-
This file arranges the records of rules of a type by the paths of their properties. A path with
points leads through nested properties.
-/

import TypedClient.Rule.Basic
import TypedClient.Text.Piece

namespace TypedClient

/-- The rules at a property and the trees below it, by name in the order of their first rules. -/
inductive RuleTree
  | node (record : Option PropertyRules) (children : List (String × RuleTree))
  deriving Repr, Inhabited

namespace RuleTree

def empty : RuleTree := node none []

def record? : RuleTree → Option PropertyRules
  | node record _ => record

/-- The trees below the property. -/
def children : RuleTree → List (String × RuleTree)
  | node _ children => children

def childNamed (name : String) : List (String × RuleTree) → RuleTree
  | [] => empty
  | (other, child) :: rest => if other == name then child else childNamed name rest

/-- Puts a tree at the place of its name, or at the end. -/
def putChild (name : String) (tree : RuleTree) : List (String × RuleTree) →
    List (String × RuleTree)
  | [] => [(name, tree)]
  | (other, child) :: rest =>
    if other == name then (other, tree) :: rest else (other, child) :: putChild name tree rest

/-- The tree with a record at the end of a path; a record that is there already gives way. -/
def insertAt (record : PropertyRules) : List String → RuleTree → RuleTree
  | [], node _ children => node (some record) children
  | name :: path, node own children =>
    node own (putChild name (insertAt record path (childNamed name children)) children)

/-- The names along the path of a record. -/
def pathOf (record : PropertyRules) : List String :=
  (Text.splitAt '.' record.property.toList).map String.ofList

/-- The tree with one more record. -/
def insert (tree : RuleTree) (record : PropertyRules) : RuleTree :=
  insertAt record (pathOf record) tree

def ofRecords (records : List PropertyRules) : RuleTree :=
  records.foldl insert empty

mutual

def paths : RuleTree → List String
  | node record children =>
    (record.map PropertyRules.property).toList ++ pathsOfAll children

/-- The properties of the records of several trees. -/
def pathsOfAll : List (String × RuleTree) → List String
  | [] => []
  | (_, child) :: rest => child.paths ++ pathsOfAll rest

end

end RuleTree

end TypedClient
