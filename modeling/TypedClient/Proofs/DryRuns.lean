/-
This file shows that a dry run changes nothing and foretells what a delivery of a generated client
reports, where the output directory is clear.
-/

import TypedClient.Proofs.DeliveredFiles

namespace TypedClient.Delivery

open Disk

variable {delivery : Delivery}

/-- A dry run reports the names that lead to entries and removes nothing. -/
theorem removeNames_of_dry (dry : delivery.dryRun = true) (names : List String) (disk : Disk) :
    (delivery.removeNames names).run disk =
      .ok (names.filter fun name => disk.contains (Path.join delivery.root name)) disk := by
  induction names with
  | nil => rfl
  | cons name rest inductionHypothesis =>
      rw [removeNames]
      dsimp only
      rw [DiskAction.run_get_bind, List.filter_cons]
      cases disk.contains (Path.join delivery.root name) with
      | false => simpa using inductionHypothesis
      | true =>
          simp only [Bool.not_true, Bool.false_eq_true, ↓reduceIte, dry]
          rw [EStateM.run_bind, inductionHypothesis]
          rfl

theorem writeFiles_of_dry (dry : delivery.dryRun = true) (isCleaned : Bool)
    (files : List OutputFile) (disk : Disk) :
    (delivery.writeFiles isCleaned files).run disk =
      .ok (files.map fun file => (file.path,
        actionFor isCleaned disk (Path.join delivery.root file.path) file.contents)) disk := by
  induction files with
  | nil => rfl
  | cons file rest inductionHypothesis =>
      rw [writeFiles]
      dsimp only
      rw [DiskAction.run_get_bind, dry, Bool.or_true, if_pos rfl, EStateM.run_bind,
        inductionHypothesis]
      rfl

/-- What a dry run reports. -/
def foretold (delivery : Delivery) (files : List OutputFile) (disk : Disk) : WriteSummary :=
  let removed := if delivery.clean then
    ownedNames.filter fun name => disk.contains (Path.join delivery.root name) else []
  { files := files.map fun file => (file.path,
      actionFor (!removed.isEmpty) disk (Path.join delivery.root file.path) file.contents)
    removed := removed }

/-- A dry run changes nothing. -/
theorem write_of_dry (dry : delivery.dryRun = true) (files : List OutputFile) (disk : Disk) :
    (delivery.write files).run disk = .ok (delivery.foretold files disk) disk := by
  rw [write, foretold]
  cases delivery.clean with
  | false =>
      rw [if_neg Bool.false_ne_true, EStateM.run_bind, EStateM.run_pure]
      dsimp only
      rw [EStateM.run_bind, writeFiles_of_dry dry]
      rfl
  | true =>
      rw [if_pos rfl, EStateM.run_bind, removeNames_of_dry dry]
      dsimp only
      rw [EStateM.run_bind, writeFiles_of_dry dry]
      rfl

/-- On a grounded disk with a clear output directory a delivery that succeeds reports what a dry run
foretells. -/
theorem eq_foretold (real : delivery.dryRun = false) {artifacts : List Artifact}
    (proper : ∀ artifact ∈ artifacts, artifact.path.Proper)
    (different : (artifacts.map Artifact.path).Nodup) {disk after : Disk}
    (grounded : disk.Grounded) (clear : delivery.Clear disk) {summary : WriteSummary}
    (done : (delivery.write (artifacts.map Artifact.outputFile)).run disk = .ok summary after) :
    summary = delivery.foretold (artifacts.map Artifact.outputFile) disk := by
  obtain ⟨middle, -, -, unchanged, uncleaned, cleaned, written⟩ := write_eq_ok real done
  have removed : summary.removed = if delivery.clean then
      ownedNames.filter fun name => disk.contains (Path.join delivery.root name) else [] := by
    cases clean : delivery.clean with
    | false => exact uncleaned clean
    | true =>
        exact removed_eq_filter real isFileName_owned (by decide) (clear.apart clean)
          (cleaned clean)
  -- Nothing has been removed where the disk is asked what happens to a file.
  have same (first : (!summary.removed.isEmpty) = false) : middle = disk :=
    unchanged (by simpa using first)
  have actions := actions_of_writeFiles proper different real (fun first artifact member some => by
    rw [same first] at some ⊢
    refine clear.locate grounded (proper artifact member) fun none => some ?_
    rw [content?, none]) written
  have files : summary.files = (artifacts.map Artifact.outputFile).map fun file => (file.path,
      actionFor (!summary.removed.isEmpty) disk (Path.join delivery.root file.path)
        file.contents) := by
    rw [actions, List.map_map]
    refine List.map_congr_left fun artifact _ => ?_
    cases first : !summary.removed.isEmpty with
    | true => rfl
    | false =>
        rw [same first]
        rfl
  rw [foretold, ← removed, ← files]

/-- A dry run of a generated client changes nothing on any disk. On a grounded disk with a clear
output directory it reports what a delivery reports that succeeds. -/
theorem dryRun_foretells {contract : Contract} {overrides : List (String × String)}
    {options : Options} {artifacts : List Artifact}
    (generated : (Package.generate contract overrides options false).value = .ok artifacts)
    (delivery : Delivery) (disk : Disk) :
    ∃ foretold,
      ({ delivery with dryRun := true }.write (artifacts.map Artifact.outputFile)).run disk =
        .ok foretold disk ∧
      (disk.Grounded → delivery.Clear disk → ∀ summary after,
        ({ delivery with dryRun := false }.write (artifacts.map Artifact.outputFile)).run disk =
          .ok summary after → summary = foretold) := by
  obtain ⟨proper, different⟩ := Package.proper_of_generate generated
  refine ⟨_, write_of_dry rfl _ _, fun grounded clear summary after done => ?_⟩
  have same : ({ delivery with dryRun := false } : Delivery).Clear disk :=
    ⟨clear.reached, clear.apart⟩
  exact eq_foretold rfl proper different grounded same done

/-- On the stale disk a dry run foretells what a cleaning delivery does. -/
theorem dryRun_foretells_clean :
    ∃ artifacts summary after,
      (Package.generate {} [] {} false).value = .ok artifacts ∧
      (({ root := "out", clean := true } : Delivery).write
        (artifacts.map Artifact.outputFile)).run staleDisk = .ok summary after ∧
      (({ root := "out", dryRun := true, clean := true } : Delivery).write
        (artifacts.map Artifact.outputFile)).run staleDisk = .ok summary staleDisk := by
  obtain ⟨client, index, typesIndex, result, generated, clientPath, indexPath, typesIndexPath,
    resultPath⟩ := Package.exists_bareClient
  obtain ⟨after, done⟩ :=
    clean_run client.contents index.contents typesIndex.contents result.contents
  rw [← outputFiles_of_bareClient clientPath indexPath typesIndexPath resultPath] at done
  obtain ⟨summary, dry, foretells⟩ :=
    dryRun_foretells generated { root := "out", clean := true } staleDisk
  have same := foretells grounded_staleDisk (clear_of_downward grounded_staleDisk (by decide)) _ _
    done
  exact ⟨_, _, after, generated, done, same ▸ dry⟩

/-- Along a path over a directory that does not exist yet, a dry run takes a file for a new one that
the delivery finds. -/
theorem dryRun_overlooks_hidden :
    ∃ artifacts foretold summary after,
      (Package.generate {} [] {} false).value = .ok artifacts ∧ staleDisk.Grounded ∧
      (({ root := "missing/../out", dryRun := true, clean := true } : Delivery).write
        (artifacts.map Artifact.outputFile)).run staleDisk = .ok foretold staleDisk ∧
      (({ root := "missing/../out", clean := true } : Delivery).write
        (artifacts.map Artifact.outputFile)).run staleDisk = .ok summary after ∧
      summary ≠ foretold := by
  obtain ⟨client, index, typesIndex, result, generated, clientPath, indexPath, typesIndexPath,
    resultPath⟩ := Package.exists_bareClient
  obtain ⟨action, after, seen, done, -⟩ :=
    hidden_run client.contents index.contents typesIndex.contents result.contents
  rw [← outputFiles_of_bareClient clientPath indexPath typesIndexPath resultPath] at done
  refine ⟨_, _, _, after, generated, grounded_staleDisk, write_of_dry rfl _ _, done, ?_⟩
  have overlooked (isCleaned : Bool) : actionFor isCleaned staleDisk
      (Path.join "missing/../out" "types/result.ts") result.contents = .created := by
    cases isCleaned <;> rfl
  intro same
  have last := congrArg (fun summary => summary.files.getLast?) same
  rw [outputFiles_of_bareClient clientPath indexPath typesIndexPath resultPath] at last
  simp only [foretold, List.map_cons, List.map_nil, overlooked, List.getLast?_cons_cons,
    List.getLast?_singleton, Option.some.injEq, Prod.mk.injEq] at last
  exact seen last.2

end TypedClient.Delivery
