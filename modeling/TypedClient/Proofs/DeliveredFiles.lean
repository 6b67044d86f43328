/-
This file shows what a delivery of a generated client leaves on a disk: the files of the client with
their contents, and all other files, those at and under removed names apart.
-/

import TypedClient.Proofs.DeliveryRuns

namespace TypedClient

open Disk

/-- A disk is grounded if all that lies on it lies in a directory. -/
def Disk.Grounded (disk : Disk) : Prop :=
  ∀ location, disk.get? location ≠ none → disk.get? location.dropLast = some .directory

theorem Disk.Grounded.above {disk : Disk} (grounded : disk.Grounded) {location : Location}
    {names : List String} (below : names ≠ []) (entry : disk.get? (location ++ names) ≠ none) :
    disk.get? location = some .directory := by
  induction names using List.reverseRecOn with
  | nil => contradiction
  | append_singleton front name inductionHypothesis =>
      have parent := grounded _ entry
      rw [← List.append_assoc, List.dropLast_concat] at parent
      by_cases none : front = []
      · rwa [none, List.append_nil] at parent
      · exact inductionHypothesis none (by simp [parent])

theorem Disk.Grounded.entry_above {disk : Disk} (grounded : disk.Grounded)
    {upper location : Location} (under : upper <+: location) (entry : disk.get? location ≠ none) :
    disk.get? upper ≠ none := by
  obtain ⟨names, rfl⟩ := under
  by_cases itself : names = []
  · rwa [itself, List.append_nil] at entry
  · simp [grounded.above itself entry]

namespace Delivery

variable {delivery : Delivery}

/-- The output directory is clear on a disk if, once it exists, its path leads to it, and the path
does not lead through what the delivery is to clean up. -/
structure Clear (delivery : Delivery) (disk : Disk) : Prop where
  reached : disk.get? (delivery.output disk.here) = some .directory →
    ∀ passed ∈ delivery.approach disk.here, disk.get? passed = some .directory
  apart : delivery.clean = true → ∀ passed ∈ delivery.approach disk.here, ∀ name ∈ ownedNames,
    ¬ delivery.output disk.here ++ [name] <+: passed

/-- A path that does not lead upward has a clear output directory. -/
theorem clear_of_downward {disk : Disk} (grounded : disk.Grounded)
    (downward : ".." ∉ Path.pieces delivery.root) : delivery.Clear disk where
  reached output passed member := by
    obtain ⟨names, below⟩ := prefix_goal_of_mem_way downward member
    have same : passed ++ names = delivery.output disk.here := below
    rw [← same] at output
    by_cases here : names = []
    · rwa [here, List.append_nil] at output
    · exact grounded.above here (by simp [output])
  apart _ passed member name _ under := by
    have above := prefix_goal_of_mem_way downward member
    exact absurd (under.trans above).length_le (by simp [output])

theorem Clear.contains_iff {disk : Disk} (clear : delivery.Clear disk) (grounded : disk.Grounded)
    {name : String} (file : Path.IsFileName name) :
    disk.contains (Path.join delivery.root name) = true ↔
      disk.get? (delivery.output disk.here ++ [name]) ≠ none := by
  rw [contains_name_iff _ file]
  refine and_iff_left_of_imp fun entry => ?_
  have directory := grounded.above (List.cons_ne_nil name []) entry
  exact ⟨clear.reached directory, directory⟩

/-- On a grounded disk with a clear output directory the path of a file leads to its place, if
anything lies there. -/
theorem Clear.locate {disk : Disk} (clear : delivery.Clear disk) (grounded : disk.Grounded)
    {artifact : Artifact} (proper : artifact.path.Proper)
    (entry : disk.get? (delivery.place disk.here artifact) ≠ none) :
    disk.locate (delivery.pathOf artifact) = .ok (delivery.place disk.here artifact) := by
  have nonempty : artifact.path.names ≠ [] := by simp [ModulePath.names]
  rw [pathOf, ModulePath.text_eq_intercalate]
  refine (delivery.locate_eq_ok_iff nonempty proper.isFileName).mpr
    ⟨rfl, clear.reached (grounded.above nonempty entry), fun count short => ?_⟩
  have split : delivery.place disk.here artifact =
      (delivery.output disk.here ++ artifact.path.names.take count) ++
        artifact.path.names.drop count := by
    rw [List.append_assoc, List.take_append_drop, place]
  rw [split] at entry
  exact grounded.above (List.drop_eq_nil_iff.not.mpr (Nat.not_le.mpr short)) entry

/-- The files that a removal leaves are those that do not lie at or under removed names. -/
theorem Removes.content?_eq_some_iff {removed : List String} {before after : Disk}
    (removes : delivery.Removes removed before after) {location : Location} {content : Content} :
    after.content? location = some content ↔
      (∀ name ∈ removed, ¬ delivery.output before.here ++ [name] <+: location) ∧
        before.content? location = some content := by
  by_cases apart : ∀ name ∈ removed, ¬ delivery.output before.here ++ [name] <+: location
  · rw [content?, content?, removes.kept location apart]
    exact (and_iff_right apart).symm
  · have under := apart
    push Not at under
    obtain ⟨name, member, covers⟩ := under
    simp [content?, removes.gone name member location covers, apart]

/-- A delivery that succeeds removes owned names, if it is to clean up, and then writes. -/
theorem write_eq_ok (real : delivery.dryRun = false) {files : List OutputFile}
    {disk after : Disk} {summary : WriteSummary}
    (done : (delivery.write files).run disk = .ok summary after) :
    ∃ middle, delivery.Removes summary.removed disk middle ∧
      summary.removed ⊆ ownedNames ∧ (summary.removed = [] → middle = disk) ∧
      (delivery.clean = false → summary.removed = []) ∧
      (delivery.clean = true →
        (delivery.removeNames ownedNames).run disk = .ok summary.removed middle) ∧
      (delivery.writeFiles (!summary.removed.isEmpty) files).run middle =
        .ok summary.files after := by
  rw [write] at done
  cases clean : delivery.clean with
  | false =>
      rw [clean, if_neg Bool.false_ne_true] at done
      obtain ⟨removed, middle, ⟨⟩, written⟩ := DiskAction.bind_eq_ok.mp done
      obtain ⟨actions, last, found, ⟨⟩⟩ := DiskAction.bind_eq_ok.mp written
      exact ⟨_, ⟨rfl, nofun, fun _ _ => rfl⟩, List.nil_subset _, fun _ => rfl, fun _ => rfl, nofun,
        found⟩
  | true =>
      rw [clean, if_pos rfl] at done
      obtain ⟨removed, middle, cleaned, written⟩ := DiskAction.bind_eq_ok.mp done
      obtain ⟨actions, last, found, ⟨⟩⟩ := DiskAction.bind_eq_ok.mp written
      obtain ⟨removes, subset, unchanged⟩ := removes_of_removeNames real isFileName_owned cleaned
      exact ⟨middle, removes, subset, unchanged, nofun, fun _ => cleaned, found⟩

/-- A row of writes leaves a first file that holds its contents as it is. -/
theorem writeFiles_of_unchanged {file path contents : String} {rest : List OutputFile}
    {disk after : Disk} {actions : List (String × WriteAction)}
    (joined : Path.join delivery.root file = path) (read : disk.read path = .ok contents)
    (further : (delivery.writeFiles false rest).run disk = .ok actions after) :
    (delivery.writeFiles false (⟨file, contents⟩ :: rest)).run disk =
      .ok ((file, .unchanged) :: actions) after := by
  have known : actionFor false disk path contents = .unchanged := by simp [actionFor, read]
  have skipped : (WriteAction.unchanged == .unchanged || delivery.dryRun) = true := rfl
  rw [writeFiles]
  dsimp only
  rw [DiskAction.run_get_bind, joined, known, if_pos skipped, EStateM.run_bind, further]
  rfl

/-- Files that hold their contents are left as they are. -/
theorem writeFiles_again {disk : Disk} {artifacts : List Artifact}
    (read : ∀ artifact ∈ artifacts, disk.read (delivery.pathOf artifact) = .ok artifact.contents) :
    (delivery.writeFiles false (artifacts.map Artifact.outputFile)).run disk =
      .ok (artifacts.map fun artifact => (artifact.path.text, .unchanged)) disk := by
  induction artifacts with
  | nil => rfl
  | cons artifact rest inductionHypothesis =>
      obtain ⟨first, others⟩ := List.forall_mem_cons.mp read
      exact writeFiles_of_unchanged rfl first (inductionHypothesis others)

/-- A delivery of files that hold their contents leaves them as they are. -/
theorem write_again (delivery : Delivery) {disk : Disk} {artifacts : List Artifact}
    (read : ∀ artifact ∈ artifacts, disk.read (delivery.pathOf artifact) = .ok artifact.contents) :
    ({ delivery with clean := false }.write (artifacts.map Artifact.outputFile)).run disk =
      .ok { files := artifacts.map fun artifact => (artifact.path.text, .unchanged) } disk := by
  have again := @writeFiles_again { delivery with clean := false } disk artifacts read
  rw [write, if_neg Bool.false_ne_true, EStateM.run_bind, EStateM.run_pure]
  dsimp only
  rw [EStateM.run_bind, List.isEmpty_nil, Bool.not_true, again]
  rfl

/-- What is there after a row of writes comes from the files, or else was there before. -/
theorem content?_of_changes {artifacts : List Artifact} {here : Location} {before after : Disk}
    (changes : Changes (artifacts.map (delivery.place here)) before after)
    (delivered : ∀ artifact ∈ artifacts,
      after.content? (delivery.place here artifact) = some (.text artifact.contents))
    (location : Location) (content : Content) :
    after.content? location = some content ↔
      (∃ artifact ∈ artifacts, delivery.place here artifact = location ∧
        .text artifact.contents = content) ∨
      ((∀ artifact ∈ artifacts, delivery.place here artifact ≠ location) ∧
        before.content? location = some content) := by
  by_cases outside : ∀ artifact ∈ artifacts, delivery.place here artifact ≠ location
  · rw [changes.contents location (by simpa using outside)]
    constructor
    · exact fun kept => .inr ⟨outside, kept⟩
    · rintro (⟨artifact, member, same, -⟩ | ⟨-, kept⟩)
      · exact absurd same (outside artifact member)
      · exact kept
  · constructor
    · intro found
      push Not at outside
      obtain ⟨artifact, member, rfl⟩ := outside
      rw [delivered artifact member] at found
      exact .inl ⟨artifact, member, rfl, Option.some.inj found⟩
    · rintro (⟨artifact, member, rfl, rfl⟩ | ⟨away, -⟩)
      · exact delivered artifact member
      · exact absurd away outside

theorem write_of_runs (clean : delivery.clean = true) {files : List OutputFile}
    {disk middle after : Disk} {removed : List String} {actions : List (String × WriteAction)}
    (cleaned : (delivery.removeNames ownedNames).run disk = .ok removed middle)
    (written : (delivery.writeFiles (!removed.isEmpty) files).run middle = .ok actions after) :
    (delivery.write files).run disk = .ok { files := actions, removed := removed } after := by
  rw [write, if_pos clean, EStateM.run_bind, cleaned]
  dsimp only
  rw [EStateM.run_bind, written]
  rfl

/-- A row of writes succeeds if the first file is written and the others succeed. -/
theorem writeFiles_of_written (real : delivery.dryRun = false) {isCleaned : Bool}
    {file path contents : String} {rest : List OutputFile} {action : WriteAction}
    {disk middle after : Disk} {actions : List (String × WriteAction)}
    (joined : Path.join delivery.root file = path) (changed : action ≠ .unchanged)
    (known : actionFor isCleaned disk path contents = action)
    (written : (writeFile path contents).run disk = .ok () middle)
    (further : (delivery.writeFiles isCleaned rest).run middle = .ok actions after) :
    (delivery.writeFiles isCleaned (⟨file, contents⟩ :: rest)).run disk =
      .ok ((file, action) :: actions) after := by
  rw [writeFiles]
  dsimp only
  rw [DiskAction.run_get_bind, joined, known, real, Bool.or_false, if_neg (by simpa using changed),
    EStateM.run_bind, written]
  dsimp only
  rw [EStateM.run_bind, further]
  rfl

end Delivery

namespace Package

/-- The files of the client for an empty contract: the module that sends requests, the outcomes and
two indexes. -/
theorem exists_bareClient :
    ∃ client index typesIndex result : Artifact,
      (generate {} [] {} false).value = .ok [client, index, typesIndex, result] ∧
        client.path = ⟨none, "client"⟩ ∧ index.path = ⟨none, "index"⟩ ∧
        typesIndex.path = ⟨some "types", "index"⟩ ∧ result.path = ⟨some "types", "result"⟩ := by
  have unordered : ((artifacts (Context.ofContract {} [] {})).map Artifact.path).Perm
      [⟨none, "client"⟩, ⟨none, "index"⟩, ⟨some "types", "index"⟩, ⟨some "types", "result"⟩] := by
    refine (paths_artifacts _).trans ?_
    decide +kernel
  have inOrder : ((artifacts (Context.ofContract {} [] {})).map Artifact.path).Pairwise
      fun left right => Path.atMost left.text right.text = true := by
    have places := artifacts_inOrder (Context.ofContract {} [] {})
    rw [List.pairwise_map] at places ⊢
    exact places.imp Path.atMost_iff.mpr
  have proper : ∀ path ∈ (artifacts (Context.ofContract {} [] {})).map Artifact.path,
      path.Proper := by
    intro path member
    obtain ⟨artifact, inFiles, rfl⟩ := List.mem_map.mp member
    exact proper_artifact inFiles
  have paths : (artifacts (Context.ofContract {} [] {})).map Artifact.path =
      [⟨none, "client"⟩, ⟨none, "index"⟩, ⟨some "types", "index"⟩, ⟨some "types", "result"⟩] := by
    refine unordered.eq_of_pairwise (fun left right inLeft inRight before behind => ?_) inOrder ?_
    · exact (proper left inLeft).eq_of_order (proper right (unordered.mem_iff.mpr inRight))
        (le_antisymm (Path.atMost_iff.mp before) (Path.atMost_iff.mp behind))
    · decide +kernel
  have distinct : ((artifacts (Context.ofContract {} [] {})).map place).Nodup := by
    rw [nodup_places_iff, paths]
    decide
  obtain ⟨client, _, first, clientPath, paths⟩ := List.map_eq_cons_iff.mp paths
  obtain ⟨index, _, rfl, indexPath, paths⟩ := List.map_eq_cons_iff.mp paths
  obtain ⟨typesIndex, _, rfl, typesIndexPath, paths⟩ := List.map_eq_cons_iff.mp paths
  obtain ⟨result, _, rfl, resultPath, paths⟩ := List.map_eq_cons_iff.mp paths
  obtain rfl := List.map_eq_nil_iff.mp paths
  exact ⟨client, index, typesIndex, result, generate_eq_ok.mpr ⟨first, first ▸ distinct⟩,
    clientPath, indexPath, typesIndexPath, resultPath⟩

end Package

namespace Delivery

deriving instance DecidableEq for EStateM.Result

/-- A disk on which relative paths start from a directory with an output directory in it. The
entries behind the directories are given. -/
def workDisk (entries : List (Location × Entry)) : Disk :=
  { entries := entries ++ [(["work", "out"], .directory), (["work"], .directory)]
    here := ["work"] }

/-- A file in the output directory. -/
def outFile (names : List String) (text : String) : Location × Entry :=
  (["work", "out"] ++ names, .file (.text text))

/-- A disk with an old client, a stale type in it, and notes that nobody owns. -/
def staleDisk : Disk :=
  workDisk [outFile ["types", "result.ts"] "old", outFile ["types", "stale.ts"] "stale",
    (["work", "out", "types"], .directory), outFile ["notes.md"] "notes"]

/-- On the stale disk all that there is lies in a directory. -/
theorem grounded_staleDisk : staleDisk.Grounded := by
  have above : ∀ entry ∈ staleDisk.entries, staleDisk.get? entry.1.dropLast = some .directory := by
    decide
  intro location entry
  cases location with
  | nil => rfl
  | cons name rest =>
      have key : staleDisk.entries.lookup (name :: rest) ≠ none := entry
      rw [Ne, List.lookup_eq_none_iff] at key
      push Not at key
      obtain ⟨found, member, same⟩ := key
      have keys : name :: rest = found.1 := by simpa using same
      exact keys ▸ above found member

/-- A cleaning delivery of the client for an empty contract to the output directory. -/
theorem clean_run (client index typesIndex result : String) :
    ∃ after, (({ root := "out", clean := true } : Delivery).write [⟨"client.ts", client⟩,
      ⟨"index.ts", index⟩, ⟨"types/index.ts", typesIndex⟩, ⟨"types/result.ts", result⟩]).run
        staleDisk = .ok
          { files := [("client.ts", .created), ("index.ts", .created),
              ("types/index.ts", .created), ("types/result.ts", .created)]
            removed := ["types"] } after := by
  let first := [outFile ["client.ts"] client, outFile ["notes.md"] "notes"]
  let second := outFile ["index.ts"] index :: first
  let third :=
    [outFile ["types", "index.ts"] typesIndex, (["work", "out", "types"], .directory)] ++ second
  let fourth := outFile ["types", "result.ts"] result :: third
  have cleaned : (({ root := "out", clean := true } : Delivery).removeNames ownedNames).run
      staleDisk = .ok ["types"] (workDisk [outFile ["notes.md"] "notes"]) := by
    decide +kernel
  have firstWritten : (writeFile "out/client.ts" client).run
      (workDisk [outFile ["notes.md"] "notes"]) = .ok () (workDisk first) := by rfl
  have secondWritten : (writeFile "out/index.ts" index).run (workDisk first) =
      .ok () (workDisk second) := by rfl
  have thirdWritten : (writeFile "out/types/index.ts" typesIndex).run (workDisk second) =
      .ok () (workDisk third) := by rfl
  have fourthWritten : (writeFile "out/types/result.ts" result).run (workDisk third) =
      .ok () (workDisk fourth) := by rfl
  exact ⟨workDisk fourth, write_of_runs rfl cleaned <|
    writeFiles_of_written rfl (by decide) (by decide) rfl firstWritten <|
    writeFiles_of_written rfl (by decide) (by decide) rfl secondWritten <|
    writeFiles_of_written rfl (by decide) (by decide) rfl thirdWritten <|
    writeFiles_of_written rfl (by decide) (by decide) rfl fourthWritten rfl⟩

/-- The same delivery along a path over a directory that does not exist yet. -/
theorem hidden_run (client index typesIndex result : String) :
    ∃ action after, action ≠ .created ∧
      (({ root := "missing/../out", clean := true } : Delivery).write [⟨"client.ts", client⟩,
        ⟨"index.ts", index⟩, ⟨"types/index.ts", typesIndex⟩, ⟨"types/result.ts", result⟩]).run
          staleDisk = .ok
            { files := [("client.ts", .created), ("index.ts", .created),
                ("types/index.ts", .created), ("types/result.ts", action)] } after ∧
      after.content? ["work", "out", "types", "stale.ts"] = some (.text "stale") := by
  let stale := [outFile ["types", "stale.ts"] "stale",
    (["work", "out", "types"], .directory), outFile ["notes.md"] "notes"]
  let first := [outFile ["client.ts"] client, (["work", "missing"], .directory)]
  let second := outFile ["index.ts"] index :: first
  let third := outFile ["types", "index.ts"] typesIndex :: second
  let old := outFile ["types", "result.ts"] "old"
  have cleaned : (({ root := "missing/../out", clean := true } : Delivery).removeNames
      ownedNames).run staleDisk = .ok [] staleDisk := by
    decide +kernel
  have firstWritten : (writeFile "missing/../out/client.ts" client).run staleDisk =
      .ok () (workDisk (first ++ old :: stale)) := by rfl
  have secondWritten : (writeFile "missing/../out/index.ts" index).run
      (workDisk (first ++ old :: stale)) = .ok () (workDisk (second ++ old :: stale)) := by rfl
  have thirdWritten : (writeFile "missing/../out/types/index.ts" typesIndex).run
      (workDisk (second ++ old :: stale)) = .ok () (workDisk (third ++ old :: stale)) := by rfl
  have fourthWritten : (writeFile "missing/../out/types/result.ts" result).run
      (workDisk (third ++ old :: stale)) =
        .ok () (workDisk (outFile ["types", "result.ts"] result :: third ++ stale)) := by rfl
  have read : (workDisk (third ++ old :: stale)).read "missing/../out/types/result.ts" =
      .ok "old" := by rfl
  let delivery : Delivery := { root := "missing/../out", clean := true }
  -- The old file has come into view by then, whatever it holds.
  have last : ∃ action after, action ≠ .created ∧
      (delivery.writeFiles false [⟨"types/result.ts", result⟩]).run
        (workDisk (third ++ old :: stale)) = .ok [("types/result.ts", action)] after ∧
      after.content? ["work", "out", "types", "stale.ts"] = some (.text "stale") := by
    by_cases same : result = "old"
    · subst same
      exact ⟨.unchanged, _, by decide, writeFiles_of_unchanged (by decide) read rfl, rfl⟩
    · have known : actionFor false (workDisk (third ++ old :: stale))
          "missing/../out/types/result.ts" result = .updated := by
        simp [actionFor, read, Ne.symm same]
      exact ⟨.updated, _, by decide,
        writeFiles_of_written rfl (by decide) (by decide) known fourthWritten rfl, rfl⟩
  obtain ⟨action, after, seen, written, kept⟩ := last
  exact ⟨action, after, seen, write_of_runs rfl cleaned <|
    writeFiles_of_written rfl (by decide) (by decide) rfl firstWritten <|
    writeFiles_of_written rfl (by decide) (by decide) rfl secondWritten <|
    writeFiles_of_written rfl (by decide) (by decide) rfl thirdWritten written, kept⟩

/-- What a delivery of files leaves on a disk. -/
structure Delivers (delivery : Delivery) (artifacts : List Artifact) (before : Disk)
    (summary : WriteSummary) (after : Disk) : Prop where
  /-- The path of each file leads to its contents. -/
  read : ∀ artifact ∈ artifacts, after.read (delivery.pathOf artifact) = .ok artifact.contents
  /-- There are the delivered files and those that were there before, except at the places of the
  delivered files and at and under the names that have been removed. -/
  content : ∀ location content, after.content? location = some content ↔
    (∃ artifact ∈ artifacts, delivery.place before.here artifact = location ∧
      .text artifact.contents = content) ∨
    ((∀ artifact ∈ artifacts, delivery.place before.here artifact ≠ location) ∧
      (∀ name ∈ summary.removed, ¬ delivery.output before.here ++ [name] <+: location) ∧
      before.content? location = some content)
  /-- Nothing is removed but owned names, and that only to clean up. -/
  removed : summary.removed ⊆ if delivery.clean then ownedNames else []
  /-- The same delivery again finds all files unchanged and changes nothing. -/
  again : ({ delivery with clean := false }.write (artifacts.map Artifact.outputFile)).run after =
    .ok { files := artifacts.map fun artifact => (artifact.path.text, .unchanged) } after

/-- What owned names lead to in the output directory is what a cleaning delivery has written. -/
structure CleansUp (delivery : Delivery) (artifacts : List Artifact) (before : Disk)
    (summary : WriteSummary) (after : Disk) : Prop where
  /-- All owned names that were there have been removed. -/
  removed : ∀ name, name ∈ summary.removed ↔
    name ∈ ownedNames ∧ before.get? (delivery.output before.here ++ [name]) ≠ none
  /-- The files at and under owned names are exactly the delivered files. -/
  content : ∀ location content,
    ((∃ name ∈ ownedNames, delivery.output before.here ++ [name] <+: location) ∧
      after.content? location = some content) ↔
    ∃ artifact ∈ artifacts, delivery.place before.here artifact = location ∧
      .text artifact.contents = content

section Generated

variable {contract : Contract} {overrides : List (String × String)} {options : Options}
  {artifacts : List Artifact}

/-- A delivery of a generated client that succeeds leaves all files with their contents and no other
change but the removal of owned names; once more it changes nothing. It cleans up where the output
directory is clear. -/
theorem write_delivers
    (generated : (Package.generate contract overrides options false).value = .ok artifacts)
    {delivery : Delivery} (real : delivery.dryRun = false) {disk after : Disk}
    {summary : WriteSummary}
    (done : (delivery.write (artifacts.map Artifact.outputFile)).run disk = .ok summary after) :
    delivery.Delivers artifacts disk summary after ∧
      (delivery.clean = true → disk.Grounded → delivery.Clear disk →
        delivery.CleansUp artifacts disk summary after) := by
  obtain ⟨proper, different⟩ := Package.proper_of_generate generated
  obtain ⟨middle, removes, owned, -, uncleaned, cleaned, written⟩ := write_eq_ok real done
  obtain ⟨changes, read⟩ := changes_of_writeFiles proper different real written
  rw [removes.here] at changes
  have here : after.here = disk.here := changes.here.trans removes.here
  have delivered : ∀ artifact ∈ artifacts,
      after.content? (delivery.place disk.here artifact) = some (.text artifact.contents) := by
    intro artifact member
    obtain ⟨location, located, content⟩ := read_eq_ok_iff.mp (read artifact member)
    obtain rfl := place_of_locate (proper artifact member) located
    rwa [here] at content
  have content := content?_of_changes changes delivered
  constructor
  · refine ⟨read, fun location found => ?_, ?_, delivery.write_again read⟩
    · rw [content, removes.content?_eq_some_iff]
    · cases clean : delivery.clean with
      | false => simp [uncleaned clean]
      | true => exact owned
  · intro clean grounded clear
    have removed : ∀ name, name ∈ summary.removed ↔
        name ∈ ownedNames ∧ disk.get? (delivery.output disk.here ++ [name]) ≠ none := by
      intro name
      rw [removed_eq_filter real isFileName_owned (by decide) (clear.apart clean) (cleaned clean),
        List.mem_filter]
      exact and_congr_right fun member => clear.contains_iff grounded (isFileName_owned name member)
    refine ⟨removed, fun location found => ⟨?_, ?_⟩⟩
    · rintro ⟨⟨name, member, under⟩, present⟩
      refine ((content location found).mp present).resolve_right ?_
      rintro ⟨-, left⟩
      obtain ⟨apart, there⟩ := removes.content?_eq_some_iff.mp left
      have entry : disk.get? location ≠ none := by
        intro none
        simp [content?, none] at there
      -- What lay under an owned name lay in a directory, so that the name has been removed.
      have covered := grounded.entry_above under entry
      exact apart name ((removed name).mpr ⟨member, covered⟩) under
    · rintro ⟨artifact, member, rfl, rfl⟩
      obtain ⟨name, isOwned, front⟩ := owned_of_generate generated artifact member
      exact ⟨⟨name, isOwned, (List.prefix_append_right_inj _).mpr front⟩,
        delivered artifact member⟩

end Generated

theorem outputFiles_of_bareClient {client index typesIndex result : Artifact}
    (clientPath : client.path = ⟨none, "client"⟩) (indexPath : index.path = ⟨none, "index"⟩)
    (typesIndexPath : typesIndex.path = ⟨some "types", "index"⟩)
    (resultPath : result.path = ⟨some "types", "result"⟩) :
    [client, index, typesIndex, result].map Artifact.outputFile =
      [⟨"client.ts", client.contents⟩, ⟨"index.ts", index.contents⟩,
        ⟨"types/index.ts", typesIndex.contents⟩, ⟨"types/result.ts", result.contents⟩] := by
  simp only [List.map_cons, List.map_nil, Artifact.outputFile, clientPath, indexPath,
    typesIndexPath, resultPath]
  rfl

/-- On the stale disk a delivery cleans up and writes the client for an empty contract. -/
theorem clean_delivers :
    ∃ artifacts summary after,
      (Package.generate {} [] {} false).value = .ok artifacts ∧
      (({ root := "out", clean := true } : Delivery).write
        (artifacts.map Artifact.outputFile)).run staleDisk = .ok summary after ∧
      ({ root := "out", clean := true } : Delivery).Delivers artifacts staleDisk summary after ∧
      ({ root := "out", clean := true } : Delivery).CleansUp artifacts staleDisk summary after := by
  obtain ⟨client, index, typesIndex, result, generated, clientPath, indexPath, typesIndexPath,
    resultPath⟩ := Package.exists_bareClient
  obtain ⟨after, done⟩ :=
    clean_run client.contents index.contents typesIndex.contents result.contents
  rw [← outputFiles_of_bareClient clientPath indexPath typesIndexPath resultPath] at done
  obtain ⟨delivers, cleansUp⟩ := write_delivers generated rfl done
  exact ⟨_, _, after, generated, done, delivers,
    cleansUp rfl grounded_staleDisk (clear_of_downward grounded_staleDisk (by decide))⟩

/-- Along a path over a directory that does not exist yet, a cleaning delivery leaves a stale type
in the output directory. -/
theorem hidden_output_stays_stale :
    ∃ artifacts summary after,
      (Package.generate {} [] {} false).value = .ok artifacts ∧ staleDisk.Grounded ∧
      (({ root := "missing/../out", clean := true } : Delivery).write
        (artifacts.map Artifact.outputFile)).run staleDisk = .ok summary after ∧
      ¬ ({ root := "missing/../out", clean := true } : Delivery).CleansUp artifacts staleDisk
        summary after := by
  obtain ⟨client, index, typesIndex, result, generated, clientPath, indexPath, typesIndexPath,
    resultPath⟩ := Package.exists_bareClient
  obtain ⟨action, after, -, done, stale⟩ :=
    hidden_run client.contents index.contents typesIndex.contents result.contents
  rw [← outputFiles_of_bareClient clientPath indexPath typesIndexPath resultPath] at done
  refine ⟨_, _, after, generated, grounded_staleDisk, done, fun cleansUp => ?_⟩
  have place : ({ root := "missing/../out", clean := true } : Delivery).output staleDisk.here =
      ["work", "out"] := by decide +kernel
  have delivered :=
    (cleansUp.content _ _).mp ⟨⟨"types", by decide, by rw [place]; decide⟩, stale⟩
  simp [Delivery.place, place, clientPath, indexPath, typesIndexPath, resultPath,
    ModulePath.names] at delivered

end Delivery

end TypedClient
