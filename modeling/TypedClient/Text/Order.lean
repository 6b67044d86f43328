/-
This file orders texts by their code points.
-/

namespace TypedClient.Text

/-- Tells whether one text comes before another or is equal to it. -/
def atMost (left right : String) : Bool :=
  !decide (right < left)

def sorted (names : List String) : List String :=
  names.mergeSort atMost

/-- Texts in order, each once. -/
def sortedNames (names : List String) : List String :=
  sorted names.eraseDups

end TypedClient.Text
