/-
This file reads the values of a TOML document, with arrays and tables within each other.
-/

import TypedClient.Toml.Number

namespace TypedClient.Toml

/-- Reads a value that holds no other values. -/
def scalar? (input : List Char) : Option (Value × List Char) :=
  match text? input with
  | some (chars, rest) => some (.text (String.ofList chars), rest)
  | none =>
    match moment? input with
    | some (moment, rest) => some (.moment moment, rest)
    | none =>
      match word? input with
      | some found => some found
      | none => number? input

/-- Reads the elements of an array up to the closing bracket. A comma may follow the last one. -/
def elements? (value? : List Char → Option (Value × List Char)) :
    Nat → List Char → Option (List Value × List Char)
  | 0, _ => none
  | steps + 1, input =>
    match skipLines input with
    | ']' :: rest => some ([], rest)
    | start => do
      let (element, rest) ← value? start
      match skipLines rest with
      | ',' :: behind =>
        let (others, final) ← elements? value? steps behind
        some (element :: others, final)
      | ']' :: behind => some ([element], behind)
      | _ => none

/-- A key with several parts and the value that it gets. -/
structure KeyedValue where
  /-- All parts of the key but the last. -/
  path : List String
  key : String
  value : Value
  deriving Repr

/-- Reads a key, an equals sign and a value. -/
def keyed? (value? : List Char → Option (Value × List Char)) (input : List Char) :
    Option (KeyedValue × List Char) := do
  let (parts, rest) ← key? input
  let (value, final) ← value? (skipBlanks (← expect? '=' rest))
  some (⟨parts.dropLast, ← parts.getLast?, value⟩, final)

/-- Reads the members of a table up to the closing brace. No comma may follow the last one. -/
def members? (value? : List Char → Option (Value × List Char)) :
    Nat → List Char → Option (List KeyedValue × List Char)
  | 0, _ => none
  | steps + 1, input => do
    let (entry, rest) ← keyed? value? input
    match skipBlanks rest with
    | ',' :: behind =>
      let (others, final) ← members? value? steps behind
      some (entry :: others, final)
    | '}' :: behind => some ([entry], behind)
    | _ => none

def withEntries (table : Members.Formed) (entries : List KeyedValue) : Option Members.Formed :=
  entries.foldlM (fun table entry => Members.addEntry table entry.path entry.key entry.value) table

/-- Reads a value in which arrays and tables stand within each other at most `depth` times. -/
def value? : Nat → List Char → Option (Value × List Char)
  | depth + 1, '[' :: rest =>
    (elements? (value? depth) (rest.length + 1) rest).map fun (elements, final) =>
      (.list elements, final)
  | depth + 1, '\x7b' :: rest =>
    match skipBlanks rest with
    | '}' :: behind => some (.table .closed [], behind)
    | start => do
      let (entries, final) ← members? (value? depth) (start.length + 1) start
      let (form, members) ← withEntries (.closed, []) entries
      some (.table form members, final)
  | _, input => scalar? input

/-- How deep arrays and tables may stand within each other. -/
def depthLimit : Nat := 79

end TypedClient.Toml
