/-
This file writes generated files to a disk. A delivery leaves alone what it does not own: without
cleaning, only the files that it writes change, and with it the owned files and directories go
first. A dry run tells what would happen and changes nothing.
-/

import TypedClient.Client.Artifact
import TypedClient.Disk.Access

namespace TypedClient

/-- A file to write: its path within the output directory, and its contents. -/
structure OutputFile where
  path : String
  contents : String
  deriving DecidableEq, Repr, Inhabited

def Artifact.outputFile (artifact : Artifact) : OutputFile :=
  ⟨artifact.path.text, artifact.contents⟩

/-- What happens to a file. -/
inductive WriteAction
  | created
  | updated
  | unchanged
  deriving DecidableEq, Repr, Inhabited

/-- The word for an action. -/
def WriteAction.label : WriteAction → String
  | created => "Created"
  | updated => "Updated"
  | unchanged => "Unchanged"

/-- What a delivery has done, or would do. -/
structure WriteSummary where
  files : List (String × WriteAction) := []
  /-- The owned names that have been removed. -/
  removed : List String := []
  deriving DecidableEq, Repr, Inhabited

/-- Why a delivery stops. What it has written before stays. -/
inductive WriteError
  | makeDirectory (path : String) (error : FileError)
  | write (path : String) (error : FileError)
  | remove (path : String) (error : FileError)
  deriving DecidableEq, Repr, Inhabited

/-- The text of an error. -/
def WriteError.message : WriteError → String
  | makeDirectory path error => "failed to create " ++ path ++ ": " ++ error.message
  | write path error => "failed to write " ++ path ++ ": " ++ error.message
  | remove path error => "failed to remove " ++ path ++ ": " ++ error.message

/-- Where and how files are delivered. -/
structure Delivery where
  /-- The output directory. -/
  root : String
  dryRun : Bool := false
  /-- The owned files and directories are removed first. -/
  clean : Bool := false
  deriving DecidableEq, Repr, Inhabited

namespace Delivery

/-- The names in the output directory that a delivery owns: the directories of a client and the
files beside them. -/
def ownedNames : List String :=
  ClientDirectory.all.map ClientDirectory.name ++ ["client.ts", "index.ts"]

/-- Removes those of some names in the output directory that exist. -/
def removeNames (delivery : Delivery) : List String → DiskAction WriteError (List String)
  | [] => pure []
  | name :: rest => do
    let path := Path.join delivery.root name
    if !(← get).contains path then delivery.removeNames rest
    else
      unless delivery.dryRun do (DiskAction.remove path).adaptExcept (.remove path)
      return name :: (← delivery.removeNames rest)

/-- What happens to a file. Once owned names have been removed, every file counts as created. -/
def actionFor (isCleaned : Bool) (disk : Disk) (path contents : String) : WriteAction :=
  if isCleaned then .created
  else
    match disk.read path with
    | .ok existing => if existing == contents then .unchanged else .updated
    | .error _ => .created

/-- Writes a file and the directories that it lies in. -/
def writeFile (path contents : String) : DiskAction WriteError Unit := do
  if let some parent := Path.parent? path then
    (DiskAction.makeDirectories parent).adaptExcept (.makeDirectory parent)
  (DiskAction.writeFile path (.text contents)).adaptExcept (.write path)

/-- Writes those of some files that differ from what is there. -/
def writeFiles (delivery : Delivery) (isCleaned : Bool) :
    List OutputFile → DiskAction WriteError (List (String × WriteAction))
  | [] => pure []
  | file :: rest => do
    let path := Path.join delivery.root file.path
    let action := actionFor isCleaned (← get) path file.contents
    unless action == .unchanged || delivery.dryRun do writeFile path file.contents
    return (file.path, action) :: (← delivery.writeFiles isCleaned rest)

def write (delivery : Delivery) (files : List OutputFile) : DiskAction WriteError WriteSummary := do
  let removed ← if delivery.clean then delivery.removeNames ownedNames else pure []
  return { files := ← delivery.writeFiles (!removed.isEmpty) files, removed := removed }

end Delivery

end TypedClient
