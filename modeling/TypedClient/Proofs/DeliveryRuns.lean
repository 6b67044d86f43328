/-
This file shows what a delivery of a generated client does to a disk: where its files lie, what a
removal of owned names and a row of writes leave behind, and what they report.
-/

import TypedClient.Project.Delivery
import TypedClient.Proofs.DiskChanges
import TypedClient.Proofs.DistinctPaths

namespace TypedClient

open Disk

namespace Package

theorem proper_of_generate {contract : Contract} {overrides : List (String × String)}
    {options : Options} {artifacts : List Artifact}
    (generated : (generate contract overrides options false).value = .ok artifacts) :
    (∀ artifact ∈ artifacts, artifact.path.Proper) ∧ (artifacts.map Artifact.path).Nodup := by
  obtain ⟨rfl, different⟩ := generate_eq_ok.mp generated
  exact ⟨fun artifact => proper_artifact, (nodup_places_iff _).mp different⟩

end Package

namespace Delivery

theorem isFileName_owned : ∀ name ∈ ownedNames, Path.IsFileName name := by
  intro name owned
  rcases List.mem_append.mp owned with directory | file
  · obtain ⟨known, -, rfl⟩ := List.mem_map.mp directory
    exact ModulePath.isFileName_directory known
  · have support {stem : String} (member : stem ∈ Package.supportStems) :
        Path.IsFileName (stem ++ ".ts") :=
      ModulePath.isFileName_file (Package.isPlain_of_mem_supportStems member)
    have client : Path.IsFileName ("client" ++ ".ts") := support (by decide)
    have index : Path.IsFileName ("index" ++ ".ts") := support (by decide)
    rcases List.mem_pair.mp file with rfl | rfl
    · exact client
    · exact index

/-- A generated file lies in an owned directory or is an owned file itself. -/
theorem owned_of_generate {contract : Contract} {overrides : List (String × String)}
    {options : Options} {artifacts : List Artifact}
    (generated : (Package.generate contract overrides options false).value = .ok artifacts) :
    ∀ artifact ∈ artifacts, ∃ name ∈ ownedNames, [name] <+: artifact.path.names := by
  intro artifact member
  obtain ⟨rfl, -⟩ := Package.generate_eq_ok.mp generated
  cases there : artifact.path.directory with
  | some found =>
      obtain ⟨directory, rfl⟩ := (Package.proper_artifact member).directory found there
      refine ⟨directory.name, ?_, by simp [ModulePath.names, there]⟩
      cases directory <;> decide
  | none =>
      have inRoot : artifact.path.stem ∈
          ModulePath.stemsIn none ((Package.artifacts _).map Artifact.path) :=
        List.mem_map_of_mem (List.mem_filter.mpr ⟨List.mem_map_of_mem member, by simp [there]⟩)
      have names : artifact.path.names = [artifact.path.stem ++ ".ts"] := by
        simp [ModulePath.names, there]
      rw [names]
      refine ⟨_, ?_, List.prefix_rfl⟩
      rcases List.mem_pair.mp ((Package.stemsIn_root _).mem_iff.mp inRoot) with stem | stem
      · rw [stem]
        decide
      · rw [stem]
        decide

variable (delivery : Delivery)

def output (here : Location) : Location :=
  goal (startOf here delivery.root) (Path.pieces delivery.root)

/-- The locations that the path of the output directory leads over. -/
def approach (here : Location) : List Location :=
  way (startOf here delivery.root) (Path.pieces delivery.root)

/-- The path of a file. -/
def pathOf (artifact : Artifact) : String :=
  Path.join delivery.root artifact.path.text

/-- The location of a file. -/
def place (here : Location) (artifact : Artifact) : Location :=
  delivery.output here ++ artifact.path.names

/-- Names behind the root lead below the output directory if there are directories on the way. -/
theorem locate_eq_ok_iff {disk : Disk} {names : List String} (nonempty : names ≠ [])
    (files : ∀ name ∈ names, Path.IsFileName name) {location : Location} :
    disk.locate (Path.join delivery.root ("/".intercalate names)) = .ok location ↔
      location = delivery.output disk.here ++ names ∧
        (∀ passed ∈ delivery.approach disk.here, disk.get? passed = some .directory) ∧
        ∀ count < names.length,
          disk.get? (delivery.output disk.here ++ names.take count) = some .directory := by
  have below : (∀ passed ∈ way (delivery.output disk.here) names,
        disk.get? passed = some .directory) ↔ ∀ count < names.length,
          disk.get? (delivery.output disk.here ++ names.take count) = some .directory := by
    simp only [mem_way_names files, forall_exists_index, and_imp]
    refine ⟨fun all count short => all _ count short rfl, ?_⟩
    rintro all _ count short rfl
    exact all count short
  rw [locate_join disk delivery.root nonempty files, follow_eq_ok_iff, goal_append_names _ _ files,
    way_append, List.forall_mem_append, ← below]
  rfl

/-- A name behind the root leads into the output directory if there are directories on the way. -/
theorem locate_name_eq_ok_iff {disk : Disk} {name : String} (file : Path.IsFileName name)
    {location : Location} :
    disk.locate (Path.join delivery.root name) = .ok location ↔
      location = delivery.output disk.here ++ [name] ∧
        (∀ passed ∈ delivery.approach disk.here, disk.get? passed = some .directory) ∧
        disk.get? (delivery.output disk.here) = some .directory := by
  have located := @locate_eq_ok_iff delivery disk [name] (List.cons_ne_nil name [])
    (List.forall_mem_singleton.mpr file) location
  simpa using located

/-- A name behind the root leads to an entry if there is one in the output directory, and
directories are on the way. -/
theorem contains_name_iff {disk : Disk} {name : String} (file : Path.IsFileName name) :
    disk.contains (Path.join delivery.root name) = true ↔
      disk.get? (delivery.output disk.here ++ [name]) ≠ none ∧
        (∀ passed ∈ delivery.approach disk.here, disk.get? passed = some .directory) ∧
        disk.get? (delivery.output disk.here) = some .directory := by
  rw [contains_iff]
  constructor
  · rintro ⟨location, located, entry⟩
    obtain ⟨rfl, reached⟩ := (delivery.locate_name_eq_ok_iff file).mp located
    exact ⟨entry, reached⟩
  · rintro ⟨entry, reached⟩
    exact ⟨_, (delivery.locate_name_eq_ok_iff file).mpr ⟨rfl, reached⟩, entry⟩

section Removal

/-- A removal of names in the output directory leaves nothing at and under them, and all else. -/
structure Removes (removed : List String) (before after : Disk) : Prop where
  here : after.here = before.here
  gone : ∀ name ∈ removed, ∀ location, delivery.output before.here ++ [name] <+: location →
    after.get? location = none
  kept : ∀ location, (∀ name ∈ removed, ¬ delivery.output before.here ++ [name] <+: location) →
    after.get? location = before.get? location

variable {delivery}

theorem removes_one (disk : Disk) (name : String) :
    delivery.Removes [name] disk (disk.remove (delivery.output disk.here ++ [name])) where
  here := rfl
  gone := by
    rintro _ (_ | ⟨_, ⟨⟩⟩) location under
    rw [get?_remove disk (by simp), if_pos (List.isPrefixOf_iff_prefix.mpr under)]
  kept location apart := by
    rw [get?_remove disk (by simp), if_neg]
    exact fun under => apart name List.mem_cons_self (List.isPrefixOf_iff_prefix.mp under)

/-- Names are removed one after the other. -/
theorem Removes.trans {first second : List String} {before middle after : Disk}
    (removes : delivery.Removes first before middle)
    (further : delivery.Removes second middle after) :
    delivery.Removes (first ++ second) before after where
  here := further.here.trans removes.here
  gone name member location under := by
    by_cases inSecond : ∃ other ∈ second, delivery.output before.here ++ [other] <+: location
    · obtain ⟨other, inSecond, covers⟩ := inSecond
      exact further.gone other inSecond location (by rwa [removes.here])
    · have inFirst : name ∈ first :=
        (List.mem_append.mp member).resolve_right fun inSecond' => inSecond ⟨name, inSecond', under⟩
      rw [further.kept location fun other member covers =>
        inSecond ⟨other, member, by rwa [removes.here] at covers⟩]
      exact removes.gone name inFirst location under
  kept location apart := by
    rw [further.kept location fun name member => by
        rw [removes.here]; exact apart name (List.mem_append_right _ member),
      removes.kept location fun name member => apart name (List.mem_append_left _ member)]

/-- A removal of several names that succeeds passes over the first name, because it leads nowhere,
or removes it. -/
theorem removeNames_cons (real : delivery.dryRun = false) {name : String}
    (file : Path.IsFileName name) {rest removed : List String} {disk after : Disk}
    (done : (delivery.removeNames (name :: rest)).run disk = .ok removed after) :
    (disk.contains (Path.join delivery.root name) = false ∧
      (delivery.removeNames rest).run disk = .ok removed after) ∨
    (disk.contains (Path.join delivery.root name) = true ∧
      ∃ further, removed = name :: further ∧
        (delivery.removeNames rest).run (disk.remove (delivery.output disk.here ++ [name])) =
          .ok further after) := by
  rw [removeNames] at done
  dsimp only at done
  rw [DiskAction.run_get_bind] at done
  split at done
  case isTrue absent => exact .inl ⟨by simpa using absent, done⟩
  case isFalse present =>
    simp only [real, Bool.false_eq_true, ↓reduceIte, DiskAction.bind_eq_ok,
      DiskAction.adaptExcept_eq_ok] at done
    obtain ⟨_, middle, first, further, last, found, result⟩ := done
    obtain ⟨location, located, rfl⟩ := DiskAction.eq_remove_of_remove first
    obtain ⟨rfl, -⟩ := (delivery.locate_name_eq_ok_iff file).mp located
    obtain ⟨⟩ := result
    exact .inr ⟨by simpa using present, further, rfl, found⟩

theorem removes_of_removeNames (real : delivery.dryRun = false) {names removed : List String}
    (files : ∀ name ∈ names, Path.IsFileName name) {disk after : Disk}
    (done : (delivery.removeNames names).run disk = .ok removed after) :
    delivery.Removes removed disk after ∧ removed ⊆ names ∧ (removed = [] → after = disk) := by
  induction names generalizing disk removed with
  | nil =>
      obtain ⟨⟩ := done
      exact ⟨⟨rfl, nofun, fun _ _ => rfl⟩, List.Subset.refl _, fun _ => rfl⟩
  | cons name rest inductionHypothesis =>
      obtain ⟨file, others⟩ := List.forall_mem_cons.mp files
      rcases removeNames_cons real file done with ⟨-, found⟩ | ⟨-, further, rfl, found⟩
      · obtain ⟨removes, subset, unchanged⟩ := inductionHypothesis others found
        exact ⟨removes, List.subset_cons_of_subset _ subset, unchanged⟩
      · obtain ⟨removes, subset, -⟩ := inductionHypothesis others found
        exact ⟨(removes_one disk name).trans removes, List.cons_subset_cons _ subset, nofun⟩

/-- Where the way to the output directory does not lead through what is removed, a removal does not
hide other names. -/
theorem contains_remove {disk : Disk} {name other : String} (file : Path.IsFileName other)
    (apart : ∀ passed ∈ delivery.approach disk.here,
      ¬ delivery.output disk.here ++ [name] <+: passed) (differs : other ≠ name) :
    (disk.remove (delivery.output disk.here ++ [name])).contains (Path.join delivery.root other) =
      disk.contains (Path.join delivery.root other) := by
  have removes := delivery.removes_one disk name
  have kept {location : Location} (outside : ¬ delivery.output disk.here ++ [name] <+: location) :
      (disk.remove (delivery.output disk.here ++ [name])).get? location = disk.get? location :=
    removes.kept location (List.forall_mem_singleton.mpr outside)
  have beside : ¬ delivery.output disk.here ++ [name] <+: delivery.output disk.here ++ [other] := by
    rw [List.prefix_append_right_inj]
    simpa using differs.symm
  have above : ¬ delivery.output disk.here ++ [name] <+: delivery.output disk.here := fun under =>
    absurd under.length_le (by simp)
  rw [Bool.eq_iff_iff, contains_name_iff _ file, contains_name_iff _ file, removes.here,
    kept beside, kept above]
  refine and_congr_right fun _ => and_congr_left fun _ => forall₂_congr fun passed member => ?_
  rw [kept (apart passed member)]

/-- Removing names reports those that lead to entries, where the way to the output directory does
not lead through them. -/
theorem removed_eq_filter (real : delivery.dryRun = false) {names removed : List String}
    (files : ∀ name ∈ names, Path.IsFileName name) (different : names.Nodup) {disk after : Disk}
    (apart : ∀ passed ∈ delivery.approach disk.here, ∀ name ∈ names,
      ¬ delivery.output disk.here ++ [name] <+: passed)
    (done : (delivery.removeNames names).run disk = .ok removed after) :
    removed = names.filter fun name => disk.contains (Path.join delivery.root name) := by
  induction names generalizing disk removed with
  | nil =>
      obtain ⟨⟩ := done
      rfl
  | cons name rest inductionHypothesis =>
      obtain ⟨file, others⟩ := List.forall_mem_cons.mp files
      obtain ⟨fresh, distinct⟩ := List.nodup_cons.mp different
      have further : ∀ passed ∈ delivery.approach disk.here, ∀ other ∈ rest,
          ¬ delivery.output disk.here ++ [other] <+: passed := fun passed onWay other member =>
        apart passed onWay other (List.mem_cons_of_mem _ member)
      rcases removeNames_cons real file done with ⟨absent, found⟩ | ⟨present, removed, rfl, found⟩
      · rw [List.filter_cons, if_neg (by simp [absent])]
        exact inductionHypothesis others distinct further found
      · rw [List.filter_cons, if_pos present]
        have same : removed = rest.filter fun other =>
            (disk.remove (delivery.output disk.here ++ [name])).contains
              (Path.join delivery.root other) :=
          inductionHypothesis others distinct further found
        refine congrArg _ (same.trans (List.filter_congr fun other member => ?_))
        exact contains_remove (others other member)
          (fun passed onWay => apart passed onWay name List.mem_cons_self)
          fun equal => fresh (equal ▸ member)

end Removal

section Writing

variable {delivery}

/-- A path of a file that leads somewhere leads to the place of the file. -/
theorem place_of_locate {disk : Disk} {artifact : Artifact} (proper : artifact.path.Proper)
    {location : Location} (located : disk.locate (delivery.pathOf artifact) = .ok location) :
    location = delivery.place disk.here artifact := by
  rw [pathOf, ModulePath.text_eq_intercalate] at located
  exact ((delivery.locate_eq_ok_iff (by simp [ModulePath.names]) proper.isFileName).mp located).1

theorem place_injective (here : Location) {first second : Artifact}
    (same : delivery.place here first = delivery.place here second) : first.path = second.path :=
  ModulePath.names_injective (List.append_cancel_left same)

/-- A file counts as unchanged only if it holds its contents. -/
theorem read_of_unchanged {isCleaned : Bool} {disk : Disk} {path contents : String}
    (unchanged : actionFor isCleaned disk path contents = .unchanged) :
    disk.read path = .ok contents := by
  rw [actionFor] at unchanged
  split at unchanged
  case isTrue => contradiction
  case isFalse =>
    split at unchanged
    case h_1 existing found =>
      split at unchanged
      case isTrue same => rw [found, beq_iff_eq.mp same]
      case isFalse => contradiction
    case h_2 => contradiction

/-- What happens to a file depends only on what is read at its path. -/
theorem actionFor_congr {disk other : Disk} {path : String}
    (same : ∀ text, disk.read path = .ok text ↔ other.read path = .ok text) (isCleaned : Bool)
    (contents : String) :
    actionFor isCleaned disk path contents = actionFor isCleaned other path contents := by
  cases isCleaned with
  | true => rfl
  | false =>
      simp only [actionFor, Bool.false_eq_true, ↓reduceIte]
      cases found : disk.read path with
      | ok text => rw [(same text).mp found]
      | error error =>
          cases there : other.read path with
          | error _ => rfl
          | ok text => exact absurd ((same text).mpr there) (by simp [found])

/-- A file that is written holds its contents, and no other file changes. -/
theorem changes_of_writeFile {artifact : Artifact} (proper : artifact.path.Proper)
    {disk after : Disk} {contents : String}
    (done : (writeFile (delivery.pathOf artifact) contents).run disk = .ok () after) :
    Changes [delivery.place disk.here artifact] disk after ∧
      after.read (delivery.pathOf artifact) = .ok contents := by
  have written {middle : Disk} (above : Changes [] disk middle)
      (put : (DiskAction.writeFile (delivery.pathOf artifact) (.text contents)).run middle =
        .ok () after) : Changes [delivery.place disk.here artifact] disk after ∧
          after.read (delivery.pathOf artifact) = .ok contents := by
    obtain ⟨location, located, free, rfl⟩ := DiskAction.writeFile_eq_ok.mp put
    obtain rfl := place_of_locate proper located
    obtain ⟨changes, content⟩ := changes_put_file free (.text contents)
    have place : delivery.place middle.here artifact = delivery.place disk.here artifact := by
      rw [above.here]
    rw [place] at changes content located ⊢
    exact ⟨above.trans changes,
      read_eq_ok_iff.mpr ⟨_, changes.locate located, content⟩⟩
  rw [writeFile] at done
  split at done
  case h_1 parent found =>
    simp only [DiskAction.bind_eq_ok, DiskAction.adaptExcept_eq_ok] at done
    obtain ⟨_, middle, made, put⟩ := done
    exact written (DiskAction.changes_of_makeDirectories made) put
  case h_2 =>
    rw [DiskAction.adaptExcept_eq_ok] at done
    exact written (.refl disk) done

/-- A row of writes that succeeds brings the first file to its contents, and reports what the disk
before it says. -/
theorem writeFiles_cons (real : delivery.dryRun = false) {artifact : Artifact}
    (proper : artifact.path.Proper) {isCleaned : Bool} {rest : List OutputFile} {disk after : Disk}
    {actions : List (String × WriteAction)}
    (done : (delivery.writeFiles isCleaned (artifact.outputFile :: rest)).run disk =
      .ok actions after) :
    ∃ middle further,
      Changes [delivery.place disk.here artifact] disk middle ∧
      middle.read (delivery.pathOf artifact) = .ok artifact.contents ∧
      (delivery.writeFiles isCleaned rest).run middle = .ok further after ∧
      actions = (artifact.path.text,
        actionFor isCleaned disk (delivery.pathOf artifact) artifact.contents) :: further := by
  rw [writeFiles] at done
  dsimp only at done
  rw [DiskAction.run_get_bind] at done
  change EStateM.run (do
    unless actionFor isCleaned disk (delivery.pathOf artifact) artifact.contents == .unchanged ||
      delivery.dryRun do writeFile (delivery.pathOf artifact) artifact.contents
    return (artifact.path.text,
      actionFor isCleaned disk (delivery.pathOf artifact) artifact.contents) ::
        (← delivery.writeFiles isCleaned rest)) disk = _ at done
  rw [real, Bool.or_false] at done
  split at done
  case isTrue unchanged =>
    obtain ⟨further, middle, found, result⟩ := DiskAction.bind_eq_ok.mp done
    obtain ⟨⟩ := result
    exact ⟨disk, further, (Changes.refl disk).mono (List.nil_subset _),
      read_of_unchanged (beq_iff_eq.mp unchanged), found, rfl⟩
  case isFalse changed =>
    simp only [DiskAction.bind_eq_ok] at done
    obtain ⟨_, middle, written, further, last, found, result⟩ := done
    obtain ⟨⟩ := result
    obtain ⟨changes, read⟩ := changes_of_writeFile proper written
    exact ⟨middle, further, changes, read, found, rfl⟩

section Row

variable {artifacts : List Artifact} (proper : ∀ artifact ∈ artifacts, artifact.path.Proper)
  (different : (artifacts.map Artifact.path).Nodup)

include proper different

/-- A row of writes brings all files to their contents, and no other file changes. -/
theorem changes_of_writeFiles (real : delivery.dryRun = false) {isCleaned : Bool}
    {disk after : Disk} {actions : List (String × WriteAction)}
    (done : (delivery.writeFiles isCleaned (artifacts.map Artifact.outputFile)).run disk =
      .ok actions after) :
    Changes (artifacts.map (delivery.place disk.here)) disk after ∧
      ∀ artifact ∈ artifacts, after.read (delivery.pathOf artifact) = .ok artifact.contents := by
  induction artifacts generalizing disk actions with
  | nil =>
      obtain ⟨⟩ := done
      exact ⟨.refl _, nofun⟩
  | cons artifact rest inductionHypothesis =>
      obtain ⟨first, others⟩ := List.forall_mem_cons.mp proper
      obtain ⟨fresh, distinct⟩ := List.nodup_cons.mp different
      obtain ⟨middle, further, changes, read, found, -⟩ := writeFiles_cons real first done
      obtain ⟨changed, written⟩ := inductionHypothesis others distinct found
      rw [changes.here] at changed
      refine ⟨changes.trans changed, List.forall_mem_cons.mpr ⟨?_, written⟩⟩
      -- The places of the later files are others, so the first file keeps its contents.
      obtain ⟨location, located, -⟩ := read_eq_ok_iff.mp read
      obtain rfl := place_of_locate first located
      refine changed.read located ?_ read
      rw [changes.here]
      intro member
      obtain ⟨other, inRest, same⟩ := List.mem_map.mp member
      exact fresh (place_injective _ same ▸ List.mem_map_of_mem inRest)

/-- A row of writes reports what the disk before it says of each file, if names have been removed
or the files that there are can be reached. -/
theorem actions_of_writeFiles (real : delivery.dryRun = false) {isCleaned : Bool}
    {disk after : Disk} {actions : List (String × WriteAction)}
    (reached : isCleaned = false → ∀ artifact ∈ artifacts,
      disk.content? (delivery.place disk.here artifact) ≠ none →
        disk.locate (delivery.pathOf artifact) = .ok (delivery.place disk.here artifact))
    (done : (delivery.writeFiles isCleaned (artifacts.map Artifact.outputFile)).run disk =
      .ok actions after) :
    actions = artifacts.map fun artifact => (artifact.path.text,
      actionFor isCleaned disk (delivery.pathOf artifact) artifact.contents) := by
  induction artifacts generalizing disk actions with
  | nil =>
      obtain ⟨⟩ := done
      rfl
  | cons artifact rest inductionHypothesis =>
      obtain ⟨first, others⟩ := List.forall_mem_cons.mp proper
      obtain ⟨fresh, distinct⟩ := List.nodup_cons.mp different
      obtain ⟨middle, further, changes, -, found, rfl⟩ := writeFiles_cons real first done
      have unwritten : ∀ other ∈ rest, delivery.place disk.here other ∉
          [delivery.place disk.here artifact] := fun other member same =>
        fresh (place_injective _ (List.mem_singleton.mp same) ▸ List.mem_map_of_mem member)
      have kept : ∀ other ∈ rest, middle.content? (delivery.place disk.here other) =
          disk.content? (delivery.place disk.here other) := fun other member =>
        changes.contents _ (unwritten other member)
      -- The first write leaves the places of the other files as they were.
      have still := inductionHypothesis others distinct (fun uncleaned other member some => by
        rw [changes.here] at some ⊢
        rw [kept other member] at some
        exact changes.locate
          (reached uncleaned other (List.mem_cons_of_mem _ member) some)) found
      rw [still, List.map_cons]
      refine congrArg _ (List.map_congr_left fun other member => congrArg _ ?_)
      cases isCleaned with
      | true => rfl
      | false =>
          refine actionFor_congr (fun text => ⟨fun read => ?_, fun read => ?_⟩) false other.contents
          · obtain ⟨location, located, content⟩ := read_eq_ok_iff.mp read
            obtain rfl := place_of_locate (others other member) located
            rw [changes.here, kept other member] at content
            exact read_eq_ok_iff.mpr ⟨_, reached rfl other (List.mem_cons_of_mem _ member)
              (by simp [content]), content⟩
          · obtain ⟨location, located, -⟩ := read_eq_ok_iff.mp read
            obtain rfl := place_of_locate (others other member) located
            exact changes.read located (unwritten other member) read

end Row

end Writing

end Delivery

end TypedClient
