/-
This file shows that the paths of generated modules can be told apart by directory and stem.
-/

import Mathlib.Data.List.Nodup
import TypedClient.Proofs.FileStem
import TypedClient.Proofs.PathNames
import TypedClient.Proofs.PathOrder

namespace TypedClient

open Text

namespace ModulePath

/-- A path that a generated module can have. -/
structure Proper (path : ModulePath) : Prop where
  directory : ∀ directory ∈ path.directory, ∃ known : ClientDirectory, directory = known.name
  stem : ∀ c ∈ path.stem.toList, IsPlain c

/-- The names of the directory and the file of a path. -/
def names (path : ModulePath) : List String :=
  path.directory.toList ++ [path.stem ++ ".ts"]

theorem text_eq_intercalate (path : ModulePath) : path.text = "/".intercalate path.names := by
  obtain ⟨_ | directory, stem⟩ := path
  · simp [text, names]
  · simp [text, names, String.append_assoc]

/-- Directory and stem follow from the names. -/
theorem names_injective : Function.Injective names := by
  rintro ⟨_ | first, stem⟩ ⟨_ | second, otherStem⟩ same
  all_goals simp_all [names]

theorem isFileName_directory (directory : ClientDirectory) : Path.IsFileName directory.name := by
  cases directory <;> constructor <;> simp [ClientDirectory.name]

/-- A stem with its extension stands for a file or directory. -/
theorem isFileName_file {stem : String} (plain : ∀ c ∈ stem.toList, IsPlain c) :
    Path.IsFileName (stem ++ ".ts") := by
  have differs {other : String} (ending : (other.toList.getLast? == some 's') = false) :
      stem ++ ".ts" ≠ other := by
    rintro rfl
    simp at ending
  have extension : ∀ c ∈ ".ts".toList, c ≠ '/' := by simp
  refine ⟨?_, differs (by decide), differs (by decide), differs (by decide)⟩
  intro c member
  rw [String.toList_append] at member
  rcases List.mem_append.mp member with inStem | inEnding
  · exact (plain c inStem).1
  · exact extension c inEnding

theorem Proper.isFileName {path : ModulePath} (proper : path.Proper) :
    ∀ name ∈ path.names, Path.IsFileName name := by
  intro name member
  rcases List.mem_append.mp member with inDirectory | file
  · obtain ⟨known, rfl⟩ := proper.directory name (Option.mem_toList.mp inDirectory)
    exact isFileName_directory known
  · rw [List.mem_singleton.mp file]
    exact isFileName_file proper.stem

theorem Proper.components {path : ModulePath} (proper : path.Proper) :
    Path.components path.text = path.names.map Path.Component.name := by
  rw [text_eq_intercalate]
  exact Path.components_intercalate proper.isFileName (by simp [names])

theorem Proper.names_text {path : ModulePath} (proper : path.Proper) :
    Path.names path.text = path.names := by
  rw [Path.names, proper.components, List.map_map]
  exact List.map_id _

/-- Proper paths in the same place are equal. -/
theorem Proper.eq_of_order {left right : ModulePath} (leftProper : left.Proper)
    (rightProper : right.Proper) (same : Path.order left.text = Path.order right.text) :
    left = right := by
  rw [Path.order, Path.order, Path.Component.key_injective.list_map.eq_iff,
    leftProper.components, rightProper.components] at same
  have injective : Function.Injective Path.Component.name := fun _ _ => Path.Component.name.inj
  exact names_injective (injective.list_map same)

def stemsIn (directory : Option String) (paths : List ModulePath) : List String :=
  (paths.filter fun path => path.directory == directory).map stem

theorem nodup_stemsIn {paths : List ModulePath} (different : paths.Nodup)
    (directory : Option String) : (stemsIn directory paths).Nodup := by
  refine List.Nodup.map_on ?_ (different.filter _)
  rintro ⟨leftDirectory, left⟩ inLeft ⟨rightDirectory, right⟩ inRight sameStem
  have leftThere := beq_iff_eq.mp (List.mem_filter.mp inLeft).2
  have rightThere := beq_iff_eq.mp (List.mem_filter.mp inRight).2
  exact congrArg₂ ModulePath.mk (leftThere.trans rightThere.symm) sameStem

theorem nodup_of_stemsIn {paths : List ModulePath}
    (different : ∀ path ∈ paths, (stemsIn path.directory paths).Nodup) : paths.Nodup := by
  rw [List.nodup_iff_sublist]
  intro path twice
  have member : path ∈ paths := twice.subset List.mem_cons_self
  have twiceThere := (twice.filter fun other => other.directory == path.directory).map stem
  simp only [List.filter_cons, beq_self_eq_true, ↓reduceIte, List.filter_nil, List.map_cons,
    List.map_nil] at twiceThere
  exact List.nodup_iff_sublist.mp (different path member) path.stem twiceThere

end ModulePath

end TypedClient
