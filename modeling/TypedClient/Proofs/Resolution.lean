/-
This file defines which file a relative specifier names, and shows that the specifiers of a client
name the files that they are made for.
-/

import TypedClient.Proofs.ModuleExports

namespace TypedClient

open Text

namespace Resolution

/-- The names that lead from the root to the place where components lead from a directory. -/
def follow (directory : List String) : List Path.Component → List String
  | [] => directory
  | .root :: rest => follow [] rest
  | .current :: rest => follow directory rest
  | .parent :: rest => follow directory.dropLast rest
  | .name text :: rest => follow (directory ++ [text]) rest

/-- The paths at which a specifier in a module is looked up: that of a file, and that of the index
of a directory. -/
def candidates (importer : ModulePath) (specifier : String) : List String :=
  let target := "/".intercalate
    (follow importer.directory.toList (Path.components specifier))
  [target ++ ".ts", target ++ "/index.ts"]

/-- The file that a relative specifier in a module names. -/
def resolve? (files : List Artifact) (importer : ModulePath) (specifier : String) :
    Option Artifact :=
  (candidates importer specifier).findSome? fun path =>
    files.find? fun file => file.path.text == path

/-- A file is found by the text of its path, since no other file has it. -/
theorem find_of_path {files : List Artifact} (different : (files.map Package.place).Nodup)
    {target : Artifact} (member : target ∈ files) :
    (files.find? fun file => file.path.text == target.path.text) = some target := by
  cases found : files.find? fun file => file.path.text == target.path.text with
  | none =>
      have absent := List.find?_eq_none.mp found target member
      simp at absent
  | some other =>
      have same := List.find?_some found
      rw [beq_iff_eq] at same
      refine congrArg some (List.inj_on_of_nodup_map different
        (List.mem_of_find?_eq_some found) member ?_)
      rw [Package.place, Package.place, same]

theorem resolve?_of_file {files : List Artifact} (different : (files.map Package.place).Nodup)
    {importer : ModulePath} {specifier : String} {target : Artifact} (member : target ∈ files)
    (path : target.path.text = "/".intercalate
      (follow importer.directory.toList (Path.components specifier)) ++ ".ts") :
    resolve? files importer specifier = some target := by
  have found := find_of_path different member
  rw [path] at found
  simp [resolve?, candidates, found]

theorem resolve?_of_index {files : List Artifact} (different : (files.map Package.place).Nodup)
    {importer : ModulePath} {specifier : String} {target : Artifact} (member : target ∈ files)
    (noFile : ∀ file ∈ files, file.path.text ≠ "/".intercalate
      (follow importer.directory.toList (Path.components specifier)) ++ ".ts")
    (path : target.path.text = "/".intercalate
      (follow importer.directory.toList (Path.components specifier)) ++ "/index.ts") :
    resolve? files importer specifier = some target := by
  have found := find_of_path different member
  rw [path] at found
  have notFound : (files.find? fun file => file.path.text == "/".intercalate
      (follow importer.directory.toList (Path.components specifier)) ++ ".ts") = none := by
    rw [List.find?_eq_none]
    intro file inFiles
    simpa using noFile file inFiles
  simp [resolve?, candidates, found, notFound]

/-- A stem without path characters stands for a file or directory. -/
theorem isFileName_stem {stem : String} (plain : ∀ c ∈ stem.toList, IsPlain c)
    (nonempty : stem ≠ "") : Path.IsFileName stem where
  whole := fun c member => (plain c member).1
  nonempty := nonempty
  notCurrent := by
    rintro rfl
    exact (plain '.' (by decide)).2 rfl
  notParent := by
    rintro rfl
    exact (plain '.' (by decide)).2 rfl

section Specifiers

variable {files : List Artifact} (different : (files.map Package.place).Nodup)
  {target : Artifact} (member : target ∈ files) {stem : String}

include different member

theorem resolve?_other (directory : ClientDirectory) (importer : String) {other : ClientDirectory}
    (name : Path.IsFileName stem) (path : target.path = other.path stem) :
    resolve? files (directory.path importer) (other.specifier stem) = some target := by
  refine resolve?_of_file different member ?_
  have specifier : other.specifier stem = "/".intercalate (".." :: [other.name, stem]) := by
    simp [ClientDirectory.specifier, String.append_assoc]
  have names : ∀ text ∈ [other.name, stem], Path.IsFileName text := by
    simpa using ⟨ModulePath.isFileName_directory other, name⟩
  rw [path, specifier, Path.components_parent names]
  simp [ClientDirectory.path, ModulePath.text, follow]

theorem resolve?_above (directory : ClientDirectory) (importer : String)
    (name : Path.IsFileName stem) (path : target.path = ⟨none, stem⟩) :
    resolve? files (directory.path importer) ("../" ++ stem) = some target := by
  refine resolve?_of_file different member ?_
  have specifier : "../" ++ stem = "/".intercalate (".." :: [stem]) := by
    simp
  have names : ∀ text ∈ [stem], Path.IsFileName text := by
    simpa using name
  rw [path, specifier, Path.components_parent names]
  simp [ClientDirectory.path, ModulePath.text, follow]

theorem resolve?_beside {directory : Option String} (importer : String)
    (name : Path.IsFileName stem) (path : target.path = ⟨directory, stem⟩) :
    resolve? files ⟨directory, importer⟩ ("./" ++ stem) = some target := by
  refine resolve?_of_file different member ?_
  have specifier : "./" ++ stem = "/".intercalate ("." :: [stem]) := by
    simp
  have names : ∀ text ∈ [stem], Path.IsFileName text := by
    simpa using name
  rw [path, specifier, Path.components_current names]
  cases directory <;> simp [ModulePath.text, follow]

/-- The index of a directory is named by the name of the directory from the root. -/
theorem resolve?_directory {directory : ClientDirectory} (importer : String)
    (proper : ∀ file ∈ files, file.path.Proper)
    (noFile : ∀ file ∈ files, file.path ≠ ⟨none, directory.name⟩)
    (path : target.path = directory.path "index") :
    resolve? files ⟨none, importer⟩ ("./" ++ directory.name) = some target := by
  have specifier : "./" ++ directory.name = "/".intercalate ("." :: [directory.name]) := by
    simp
  have names : ∀ text ∈ [directory.name], Path.IsFileName text := by
    simpa using ModulePath.isFileName_directory directory
  have followed : "/".intercalate (follow (none : Option String).toList
      (Path.components ("./" ++ directory.name))) = directory.name := by
    rw [specifier, Path.components_current names]
    simp [follow]
  refine resolve?_of_index different member ?_ ?_
  · intro file inFiles same
    rw [followed] at same
    refine noFile file inFiles ((proper file inFiles).eq_of_order (Package.proper_root ?_) ?_)
    · cases directory <;> simp [ClientDirectory.name, IsPlain]
    · rw [same]
      rfl
  · rw [followed, path]
    simp [ClientDirectory.path, ModulePath.text, String.append_assoc]

end Specifiers

end Resolution

end TypedClient
