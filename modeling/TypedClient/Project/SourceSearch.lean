/-
This file finds the source files of a backend on a disk: all files with the right ending under the
given roots, except those that are hidden, ignored, or made by a build.
-/

import TypedClient.Diagnostic
import TypedClient.Disk.Access
import TypedClient.Ignore.Rule

namespace TypedClient

namespace SourceSearch

def buildDirectories : List String := ["bin", "obj"]

/-- Tells whether a name is the name of a source file. -/
def isSourceName (name : String) : Bool :=
  Path.extension? name == some "cs"

/-- Tells whether a search passes over a location. A hidden name may be kept by an ignore file. -/
def passesOver (disk : Disk) (location : Location) : Bool :=
  let name := location.getLast?.getD ""
  let isBuild := buildDirectories.contains name && disk.isDirectoryAt location
  match disk.ignoreVerdict? location with
  | some .ignored => true
  | some .kept => isBuild
  | none => isBuild || name.toList.head? == some '.'

/-- Tells whether a search that starts at a location reaches a file below it: it passes over none of
the directories in between and not over the file. -/
def reaches (disk : Disk) (start : Location) (names : List String) : Bool :=
  (List.range names.length).all fun depth =>
    !passesOver disk (start ++ names.take (depth + 1))

def filesUnder (disk : Disk) (root : String) (start : Location) : List String :=
  let found := (disk.filesUnder start).filter fun names =>
    names.getLast?.any isSourceName && reaches disk start names
  found.map fun names => names.foldl Path.join root

/-- The warning that a root does not exist. -/
def missingRoot (root : String) : Diagnostic :=
  { severity := .warning
    message := "project root does not exist"
    file := some root }

/-- The source files at or under a root. A root that does not exist is reported. -/
def filesOf (disk : Disk) (root : String) : Reported (List String) :=
  match disk.entryAt root, disk.locate root with
  | .ok .directory, .ok start => ⟨filesUnder disk root start, []⟩
  | .ok (.file _), .ok location =>
    ⟨if location.getLast?.any isSourceName then [root] else [], []⟩
  | _, _ => ⟨[], [missingRoot root]⟩

/-- The first of each group of equal paths. -/
def withoutRepeats : List String → List String
  | [] => []
  | path :: rest => path :: (withoutRepeats rest).filter fun other => !Path.same path other

/-- The source files of all roots in the order of their paths, each once. -/
def find (disk : Disk) (roots : List String) : Reported (List String) :=
  (Reported.each (filesOf disk) roots).map fun found =>
    (withoutRepeats found.flatten).mergeSort Path.atMost

end SourceSearch

end TypedClient
