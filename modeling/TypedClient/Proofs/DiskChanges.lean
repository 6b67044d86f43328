/-
This file shows what actions do to a disk that end without an error: directories stay and are
added, a written file changes its own location, and all other files stay as they are.
-/

import TypedClient.Proofs.FollowedPaths

namespace TypedClient

namespace DiskAction

variable {Error OtherError Result OtherResult : Type}

/-- Actions in a row succeed if each of them does. -/
theorem bind_eq_ok {action : DiskAction Error Result} {next : Result → DiskAction Error OtherResult}
    {disk after : Disk} {result : OtherResult} :
    (action >>= next).run disk = .ok result after ↔
      ∃ first middle, action.run disk = .ok first middle ∧
        (next first).run middle = .ok result after := by
  rw [EStateM.run_bind]
  cases action.run disk with
  | ok first middle => simp
  | error error middle => simp

theorem run_get_bind {next : Disk → DiskAction Error Result} {disk : Disk} :
    (get >>= next).run disk = (next disk).run disk :=
  rfl

theorem adaptExcept_eq_ok {action : DiskAction Error Result} {adapt : Error → OtherError}
    {disk after : Disk} {result : Result} :
    (EStateM.adaptExcept adapt action).run disk = .ok result after ↔
      action.run disk = .ok result after := by
  rw [EStateM.run_adaptExcept]
  cases action.run disk <;> simp

theorem ofExcept_eq_ok {look : Except Error Result} {disk after : Disk} {result : Result} :
    (ofExcept look).run disk = .ok result after ↔ look = .ok result ∧ disk = after := by
  cases look with
  | ok found => simp [ofExcept]
  | error error =>
      simp only [reduceCtorEq, false_and, iff_false]
      exact nofun

end DiskAction

namespace Disk

/-- A change of a disk keeps all directories, and all contents but those at written locations. -/
structure Changes (written : List Location) (before after : Disk) : Prop where
  here : after.here = before.here
  directories : ∀ location, before.get? location = some .directory →
    after.get? location = some .directory
  contents : ∀ location, location ∉ written → after.content? location = before.content? location

namespace Changes

theorem refl (disk : Disk) : Changes [] disk disk :=
  ⟨rfl, fun _ => id, fun _ _ => rfl⟩

/-- Changes follow each other. -/
theorem trans {first second : List Location} {before middle after : Disk}
    (changes : Changes first before middle) (further : Changes second middle after) :
    Changes (first ++ second) before after where
  here := further.here.trans changes.here
  directories location directory :=
    further.directories location (changes.directories location directory)
  contents location unwritten := by
    rw [List.mem_append, not_or] at unwritten
    exact (further.contents location unwritten.2).trans (changes.contents location unwritten.1)

/-- More locations may be named as written. -/
theorem mono {written further : List Location} {before after : Disk}
    (changes : Changes written before after) (subset : written ⊆ further) :
    Changes further before after :=
  ⟨changes.here, changes.directories, fun location unwritten =>
    changes.contents location fun member => unwritten (subset member)⟩

/-- A path that leads somewhere still leads there. -/
theorem locate {written : List Location} {before after : Disk} {path : String}
    {location : Location} (changes : Changes written before after)
    (located : before.locate path = .ok location) : after.locate path = .ok location := by
  rw [Disk.locate] at located ⊢
  split at located
  case isTrue => contradiction
  case isFalse present =>
    rw [if_neg present, changes.here]
    obtain ⟨goal, directories⟩ := follow_eq_ok_iff.mp located
    exact follow_eq_ok_iff.mpr
      ⟨goal, fun passed member => changes.directories passed (directories passed member)⟩

theorem read {written : List Location} {before after : Disk} {path text : String}
    {location : Location} (changes : Changes written before after)
    (located : before.locate path = .ok location) (unwritten : location ∉ written)
    (known : before.read path = .ok text) : after.read path = .ok text := by
  obtain ⟨there, found, content⟩ := read_eq_ok_iff.mp known
  obtain rfl := Except.ok.inj (located.symm.trans found)
  exact read_eq_ok_iff.mpr
    ⟨location, changes.locate located, (changes.contents location unwritten).trans content⟩

end Changes

/-- A new directory changes no file. -/
theorem changes_put_directory {disk : Disk} {location : Location}
    (absent : disk.get? location = none) : Changes [] disk (disk.put location .directory) := by
  have inner : location ≠ [] := by
    rintro rfl
    simp [get?] at absent
  refine ⟨rfl, fun other directory => ?_, fun other _ => ?_⟩
  all_goals by_cases same : other = location
  · rw [same, get?_put_self disk inner]
  · rwa [get?_put_other disk same]
  · rw [content?, content?, same, get?_put_self disk inner, absent]
  · rw [content?, content?, get?_put_other disk same]

theorem changes_put_file {disk : Disk} {location : Location}
    (free : disk.get? location ≠ some .directory) (content : Content) :
    Changes [location] disk (disk.put location (.file content)) ∧
      (disk.put location (.file content)).content? location = some content := by
  have inner : location ≠ [] := by
    rintro rfl
    simp [get?] at free
  refine ⟨⟨rfl, fun other directory => ?_, fun other unwritten => ?_⟩, ?_⟩
  · have same : other ≠ location := by
      rintro rfl
      exact free directory
    rwa [get?_put_other disk same]
  · rw [content?, content?, get?_put_other disk (by simpa using unwritten)]
  · rw [content?, get?_put_self disk inner]

/-- A removal leaves what does not lie at or under its location. -/
theorem get?_remove (disk : Disk) {location : Location} (inner : location ≠ [])
    (other : Location) :
    (disk.remove location).get? other =
      if location.isPrefixOf other then none else disk.get? other := by
  split
  case isTrue under =>
    have below : other ≠ [] := by
      rintro rfl
      exact inner (List.prefix_nil.mp (List.isPrefixOf_iff_prefix.mp under))
    exact get?_remove_under disk below under
  case isFalse elsewhere => exact get?_remove_other disk (Bool.not_eq_true _ ▸ elsewhere)

/-- Where a new directory can be made there is nothing. -/
theorem get?_of_directoryLocation {disk : Disk} {path : String} {location : Location}
    (found : disk.directoryLocation path = .ok location) : disk.get? location = none := by
  rw [directoryLocation] at found
  generalize disk.locate _ = located at found
  cases located with
  | error error => contradiction
  | ok there =>
      simp only [bind, Except.bind] at found
      split at found
      case isTrue => contradiction
      case isFalse free =>
        obtain rfl := Except.ok.inj found
        simpa using free

/-- A file is written where its path leads, unless a directory lies there. -/
theorem fileLocation_eq_ok {disk : Disk} {path : String} {location : Location} :
    disk.fileLocation path = .ok location ↔
      disk.locate path = .ok location ∧ disk.get? location ≠ some .directory := by
  rw [fileLocation]
  split
  case h_1 there found =>
    by_cases directory : disk.get? there = some .directory
    · simp [isDirectoryAt, directory, found]
      rintro rfl
      exact directory
    · simp [isDirectoryAt, directory, found]
      rintro rfl
      exact directory
  case h_2 missing =>
    simp only [missing, reduceCtorEq, false_and, iff_false]
    split <;> simp
  case h_3 error failed => simp [failed]

end Disk

namespace DiskAction

open Disk

theorem writeFile_eq_ok {disk after : Disk} {path : String} {content : Content} :
    (writeFile path content).run disk = .ok () after ↔
      ∃ location, disk.locate path = .ok location ∧ disk.get? location ≠ some .directory ∧
        disk.put location (.file content) = after := by
  simp only [writeFile, run_get_bind, bind_eq_ok, ofExcept_eq_ok, fileLocation_eq_ok,
    EStateM.run_modify]
  constructor
  · rintro ⟨location, _, ⟨⟨located, free⟩, rfl⟩, ⟨⟩⟩
    exact ⟨location, located, free, rfl⟩
  · rintro ⟨location, located, free, rfl⟩
    exact ⟨location, disk, ⟨⟨located, free⟩, rfl⟩, rfl⟩

theorem changes_of_makeDirectory {disk after : Disk} {path : String}
    (made : (makeDirectory path).run disk = .ok () after) : Changes [] disk after := by
  simp only [makeDirectory, run_get_bind, bind_eq_ok, ofExcept_eq_ok, EStateM.run_modify] at made
  obtain ⟨location, _, ⟨found, rfl⟩, ⟨⟩⟩ := made
  exact changes_put_directory (get?_of_directoryLocation found)

/-- Directories are made one in the other, and change no file. -/
theorem changes_of_makeDirectories {disk after : Disk} {path : String}
    (made : (makeDirectories path).run disk = .ok () after) : Changes [] disk after := by
  rw [makeDirectories] at made
  generalize path.length + 1 = steps at made
  induction steps generalizing path disk after with
  | zero => contradiction
  | succ steps inductionHypothesis =>
      rw [makeDirectoriesFrom] at made
      split at made
      case isTrue =>
        obtain ⟨⟩ := made
        exact .refl disk
      case isFalse =>
        rw [run_get_bind] at made
        split at made
        case h_1 location found =>
          obtain ⟨⟩ := made
          exact changes_put_directory (get?_of_directoryLocation found)
        -- The parent is missing: it is made first, and may bring the directory into being.
        case h_2 =>
          obtain ⟨_, middle, above, made⟩ := bind_eq_ok.mp made
          rw [run_get_bind] at made
          have changes := inductionHypothesis above
          split at made
          case isTrue =>
            obtain ⟨⟩ := made
            exact changes
          case isFalse => exact changes.trans (changes_of_makeDirectory made)
        case h_3 =>
          rw [run_get_bind] at made
          split at made
          case isTrue =>
            obtain ⟨⟩ := made
            exact .refl disk
          case isFalse => contradiction

/-- What a path leads to is removed with all that lies under it. -/
theorem eq_remove_of_remove {disk after : Disk} {path : String}
    (removed : (DiskAction.remove path).run disk = .ok () after) :
    ∃ location, disk.locate path = .ok location ∧ after = disk.remove location := by
  simp only [remove, run_get_bind, bind_eq_ok, ofExcept_eq_ok] at removed
  obtain ⟨location, _, ⟨located, rfl⟩, done⟩ := removed
  split at done
  case isTrue => contradiction
  case isFalse =>
    obtain ⟨⟩ := done
    exact ⟨location, located, rfl⟩

end DiskAction

end TypedClient
