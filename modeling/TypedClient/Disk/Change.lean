/-
This file tells by which changes one disk becomes another.
-/

import TypedClient.Disk.Basic

namespace TypedClient

/-- A change of a disk. -/
inductive DiskChange
  /-- What lies at the location goes, with all that lies under it. -/
  | remove (location : Location)
  | makeDirectory (location : Location)
  | write (location : Location) (content : Content)
  deriving DecidableEq, Repr, Inhabited

namespace Disk

/-- The removal of an entry that has to go. What lies under a removed directory goes with it. -/
def removal? (after : Disk) (old : Location × Entry) : Option DiskChange :=
  let isKept : Bool := match old.2, after.get? old.1 with
    | .directory, some .directory => true
    | .file _, some (.file _) => true
    | _, _ => false
  if isKept || !after.isDirectoryAt old.1.dropLast then none else some (.remove old.1)

/-- The change that makes an entry, if it is not there yet. -/
def addition? (before : Disk) (new : Location × Entry) : Option DiskChange :=
  if before.get? new.1 == some new.2 then none
  else match new.2 with
    | .directory => some (.makeDirectory new.1)
    | .file content => some (.write new.1 content)

/-- Changes that make one disk the other: first all removals, and then what is new, each directory
before what lies in it. -/
def changes (before after : Disk) : List DiskChange :=
  let ordered := after.entries.mergeSort fun left right => left.1.length ≤ right.1.length
  before.entries.filterMap after.removal? ++ ordered.filterMap before.addition?

end Disk

end TypedClient
