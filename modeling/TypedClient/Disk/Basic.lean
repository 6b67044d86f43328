/-
This file defines disks: which files and directories there are, and what the files hold. A disk is
known by the entries at its locations, and each change says what it does to them. Links and
permissions are left out: a location is reached in one way only, and what may be changed depends on
nothing but the entries.
-/

namespace TypedClient

/-- Where something lies on a disk: the names from the root down to it. -/
abbrev Location := List String

/-- What a file holds: a text, or bytes that are no text. -/
inductive Content
  | text (value : String)
  | binary (bytes : List UInt8)
  deriving DecidableEq, Repr, Inhabited

/-- The content that consists of the given bytes. -/
def Content.ofBytes (bytes : List UInt8) : Content :=
  match String.fromUTF8? (ByteArray.mk bytes.toArray) with
  | some value => text value
  | none => binary bytes

/-- What lies at a location. -/
inductive Entry
  | directory
  | file (content : Content)
  deriving DecidableEq, Repr, Inhabited

/-- The files and directories of a disk. Each location has at most one entry. -/
structure Disk where
  entries : List (Location × Entry) := []
  /-- The directory that relative paths start from. -/
  here : Location := []
  deriving DecidableEq, Repr, Inhabited

namespace Disk

/-- The entry at a location. The root is a directory. -/
def get? (disk : Disk) (location : Location) : Option Entry :=
  if location.isEmpty then some .directory else disk.entries.lookup location

def put (disk : Disk) (location : Location) (entry : Entry) : Disk :=
  { disk with entries := (location, entry) :: disk.entries.filter fun old => old.1 != location }

/-- A disk without the entry at a location and without all that lies under it. -/
def remove (disk : Disk) (location : Location) : Disk :=
  { disk with entries := disk.entries.filter fun old => !location.isPrefixOf old.1 }

/-- A disk that holds nothing but the directory that relative paths start from. -/
def bare (here : Location) : Disk :=
  { entries := (List.range here.length).map fun depth => (here.take (depth + 1), .directory)
    here := here }

/-- Tells whether a directory lies at a location. -/
def isDirectoryAt (disk : Disk) (location : Location) : Bool :=
  disk.get? location == some .directory

def content? (disk : Disk) (location : Location) : Option Content :=
  match disk.get? location with
  | some (.file content) => some content
  | _ => none

/-- The files under a directory: the names that lead from it to each of them. -/
def filesUnder (disk : Disk) (directory : Location) : List Location :=
  disk.entries.filterMap fun (location, entry) =>
    match entry with
    | .directory => none
    | .file _ =>
      if directory.isPrefixOf location then some (location.drop directory.length) else none

/-- Keeping some keys keeps what they lead to. -/
theorem lookup_filter_of_keeps (keeps : Location → Bool) {location : Location}
    (kept : keeps location = true) (entries : List (Location × Entry)) :
    (entries.filter fun entry => keeps entry.1).lookup location = entries.lookup location := by
  induction entries with
  | nil => rfl
  | cons entry rest hypothesis =>
    obtain ⟨key, value⟩ := entry
    by_cases same : location = key
    · subst same
      simp [kept]
    · cases found : keeps key <;> simp [found, List.lookup_cons, beq_eq_false_iff_ne.2 same, hypothesis]

/-- A key that is not kept leads nowhere. -/
theorem lookup_filter_of_drops (keeps : Location → Bool) {location : Location}
    (dropped : keeps location = false) (entries : List (Location × Entry)) :
    (entries.filter fun entry => keeps entry.1).lookup location = none := by
  induction entries with
  | nil => rfl
  | cons entry rest hypothesis =>
    obtain ⟨key, value⟩ := entry
    by_cases same : location = key
    · subst same
      simp [dropped, hypothesis]
    · cases found : keeps key <;> simp [found, List.lookup_cons, beq_eq_false_iff_ne.2 same, hypothesis]

theorem get?_put_self (disk : Disk) {location : Location} (inner : location ≠ [])
    (entry : Entry) : (disk.put location entry).get? location = some entry := by
  simp [get?, put, inner]

theorem get?_put_other (disk : Disk) {location other : Location} (differs : other ≠ location)
    (entry : Entry) : (disk.put location entry).get? other = disk.get? other := by
  have kept : (other != location) = true := by simpa using differs
  simp only [get?, put, List.lookup_cons, beq_eq_false_iff_ne.2 differs]
  rw [lookup_filter_of_keeps (fun key => key != location) kept]

theorem get?_remove_under (disk : Disk) {location other : Location} (inner : other ≠ [])
    (under : location.isPrefixOf other = true) : (disk.remove location).get? other = none := by
  have dropped : (!location.isPrefixOf other) = false := by simp [under]
  simp only [get?, remove, List.isEmpty_iff, inner, if_false]
  rw [lookup_filter_of_drops (fun key => !location.isPrefixOf key) dropped]

theorem get?_remove_other (disk : Disk) {location other : Location}
    (elsewhere : location.isPrefixOf other = false) :
    (disk.remove location).get? other = disk.get? other := by
  have kept : (!location.isPrefixOf other) = true := by simp [elsewhere]
  simp only [get?, remove]
  rw [lookup_filter_of_keeps (fun key => !location.isPrefixOf key) kept]

end Disk

end TypedClient
