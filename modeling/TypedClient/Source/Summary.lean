/-
This file reads the summary of a declaration from the comments in front of it.
-/

import TypedClient.Source.Token
import TypedClient.Text.Blank
import TypedClient.Text.Piece

namespace TypedClient.Source.Summary

open Text

def withoutTags (isInside : Bool) : List Char → List Char
  | [] => []
  | '<' :: rest => withoutTags true rest
  | c :: rest =>
    if isInside then withoutTags (c != '>') rest
    else c :: withoutTags false rest

/-- The words of a text with one blank between them. -/
def collapsed (cs : List Char) : List Char :=
  [' '].intercalate ((splitWhere isBlank cs).filter fun word => !word.isEmpty)

/-- The content of the summary element, or all of the text if it has none. -/
def element (doc : List Char) : List Char :=
  match cutFirst? "<summary>".toList doc, cutFirst? "</summary>".toList doc with
  | some (before, behind), some (all, _) =>
    if all.length > before.length then
      behind.take (all.length - before.length - "<summary>".length)
    else doc
  | _, _ => doc

def lineOf? : Gap → Option String
  | .comment text => (afterStart? "///" text).map trimmed
  | .directive => none

/-- The lines for documentation that stand directly in front of a token. -/
def lines (gaps : List Gap) : List String :=
  ((gaps.reverse.map lineOf?).takeWhile Option.isSome).reverse.filterMap id

/-- The summary in what stands in front of a token. -/
def ofGaps (gaps : List Gap) : Option String :=
  let doc := "\n".intercalate (lines gaps)
  let clean := collapsed (withoutTags false (element doc.toList))
  if clean.isEmpty then none else some (String.ofList clean)

end TypedClient.Source.Summary
