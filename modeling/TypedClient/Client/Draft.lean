/-
This file builds generated text line by line with indentation.
-/

import TypedClient.Text.Blank
import TypedClient.Text.Piece

namespace TypedClient

open Text

/-- A text under construction: its lines so far and the level of the next line. -/
structure Draft where
  lines : List String := []
  level : Nat := 0
  deriving DecidableEq, Repr, Inhabited

namespace Draft

/-- A line at a level of indentation; an empty line stays empty. -/
def indented (level : Nat) (text : String) : String :=
  if text.isEmpty then "" else String.ofList (List.replicate (2 * level) ' ') ++ text

def line (draft : Draft) (text : String) : Draft :=
  { draft with lines := draft.lines ++ [indented draft.level text] }

def addLines (draft : Draft) (texts : List String) : Draft :=
  texts.foldl line draft

/-- Adds an empty line. -/
def blank (draft : Draft) : Draft :=
  { draft with lines := draft.lines ++ [""] }

/-- Adds a line and goes one level deeper. -/
def openBlock (draft : Draft) (text : String) : Draft :=
  let opened := draft.line text
  { opened with level := opened.level + 1 }

/-- Goes one level back. -/
def dedent (draft : Draft) : Draft :=
  { draft with level := draft.level - 1 }

/-- Goes one level back and adds a line. -/
def closeBlock (draft : Draft) (text : String) : Draft :=
  draft.dedent.line text

def escapeComment (text : List Char) : String :=
  String.ofList (replaceAll ['*', '/'] ['*', '\\', '/'] text)

/-- The lines of a documentation comment; a text without content has none. -/
def commentLines (summary : Option String) : List String :=
  let content := trim (summary.getD "").toList
  if content.isEmpty then []
  else match (splitAt '\n' content).map trim with
    | [single] => ["/** " ++ escapeComment single ++ " */"]
    | several =>
      "/**" :: several.map (fun text =>
        if text.isEmpty then " *" else " * " ++ escapeComment text) ++ [" */"]

/-- Adds a documentation comment. -/
def comment (draft : Draft) (summary : Option String) : Draft :=
  draft.addLines (commentLines summary)

def textOf (lines : List String) : String :=
  String.join (lines.map (· ++ "\n"))

def text (draft : Draft) : String :=
  textOf draft.lines

end Draft

end TypedClient
