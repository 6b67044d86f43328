/-
This file reads TOML documents: their lines, and the table that all lines make up.
-/

import TypedClient.Toml.Nesting

namespace TypedClient.Toml

/-- The header in front of the entries of a table. -/
inductive Header
  | table (path : List String)
  /-- The table is a new element in an array of tables. -/
  | element (path : List String)
  deriving Repr

/-- A line of a document. -/
inductive Statement
  | entry (content : KeyedValue)
  | header (content : Header)
  deriving Repr

/-- Reads a line that is not blank. -/
def statement? : List Char → Option (Statement × List Char)
  | '[' :: '[' :: rest => do
    let (path, behind) ← key? rest
    some (.header (.element path), ← restOfLine? (← expect? ']' (← expect? ']' behind)))
  | '[' :: rest => do
    let (path, behind) ← key? rest
    some (.header (.table path), ← restOfLine? (← expect? ']' behind))
  | input => do
    let (entry, behind) ← keyed? (value? depthLimit) input
    some (.entry entry, ← restOfLine? behind)

/-- Reads the lines of a document, in at most the given number of steps. -/
def statements? : Nat → List Char → Option (List Statement)
  | 0, _ => none
  | steps + 1, input =>
    match skipLines input with
    | [] => some []
    | start => do
      let (statement, rest) ← statement? start
      some (statement :: (← statements? steps rest))

/-- A header with the entries up to the next one. -/
structure Section where
  header : Header
  entries : List KeyedValue
  deriving Repr

/-- The entries in front of the first header, and the sections. -/
def sections : List Statement → List KeyedValue × List Section
  | [] => ([], [])
  | .entry content :: rest =>
    let (entries, others) := sections rest
    (content :: entries, others)
  | .header content :: rest =>
    let (entries, others) := sections rest
    ([], ⟨content, entries⟩ :: others)

/-- Gives a table a header of its own. This is possible for a new table, and once for a table that
is named only within longer headers. -/
def openTable (key : String) (entries : List KeyedValue) (parent : Members.Formed) :
    Option Members.Formed := do
  let start ← match parent.2.lookup key with
    | none => some (TableForm.headed, [])
    | some (.table .implied members) => some (.headed, members)
    | some _ => none
  let (form, members) ← withEntries start entries
  some (parent.1, Members.set key (.table form members) parent.2)

/-- Adds an element to an array of tables. -/
def addElement (key : String) (entries : List KeyedValue) (parent : Members.Formed) :
    Option Members.Formed := do
  let elements ← match parent.2.lookup key with
    | none => some []
    | some (.tables elements) => some elements
    | some _ => none
  let element ← withEntries (.headed, []) entries
  some (parent.1, Members.set key (.tables (elements ++ [element])) parent.2)

/-- Adds a section to a document. -/
def addSection (root : Members.Formed) (part : Section) : Option Members.Formed :=
  match part.header with
  | .table path => do
    Members.changeAt .implied (openTable (← path.getLast?) part.entries) path.dropLast root
  | .element path => do
    Members.changeAt .implied (addElement (← path.getLast?) part.entries) path.dropLast root

/-- The table that the lines of a document make up. -/
def ofStatements? (statements : List Statement) : Option Members := do
  let (entries, parts) := sections statements
  let root ← withEntries (.headed, []) entries
  let (_, members) ← parts.foldlM addSection root
  some members

/-- The text without a mark of its byte order. -/
def withoutMark : List Char → List Char
  | c :: rest => if c.toNat == 0xfeff then rest else c :: rest
  | [] => []

def document? (source : String) : Option Members := do
  let input := withoutMark source.toList
  ofStatements? (← statements? (input.length + 1) input)

end TypedClient.Toml
