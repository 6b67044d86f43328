/-
This file shows that a contract depends neither on the order in which its source files are given
nor on the order in which a table of types gives them back, and that a file that cannot be read
leaves nothing behind but one warning.
-/

import TypedClient.Backend.Extraction
import TypedClient.Proofs.AssembledTypes
import TypedClient.Proofs.PathOrder
import TypedClient.Proofs.Reports

namespace TypedClient

namespace Assembly

variable {files others : List FileAnalysis}

/-- The order of the files by their paths is one order, however the files are given, if no two files
have the same path. -/
theorem ordered_eq_of_perm (perm : files.Perm others)
    (distinct : (files.map fun file => Path.order file.path).Nodup) :
    ordered files = ordered others := by
  refine Text.mergeSort_eq_of_perm ?transitive ?total perm ?noTies
  case transitive =>
    intro first second third
    exact Path.atMost_trans first.path second.path third.path
  case total =>
    intro first second
    exact Path.atMost_total first.path second.path
  case noTies =>
    intro first inFirst second inSecond before behind
    have same : Path.order first.path = Path.order second.path :=
      le_antisymm (Path.atMost_iff.mp before) (Path.atMost_iff.mp behind)
    exact List.inj_on_of_nodup_map distinct inFirst inSecond same

/-- An assembled contract depends only on the files in the order of their paths. -/
theorem assemble_eq_of_ordered (same : ordered files = ordered others)
    (first second : TableOrder) : assemble files first = assemble others second := by
  unfold ordered at same
  unfold assemble
  rw [same]
  simp only [closeReferences_order _ _ _ _ first second]

end Assembly

namespace Extraction

/-- Tells whether a source file can be read. -/
def isReadable (source : SourceText) : Bool :=
  (Source.read (some source.path) source.text).toBool

/-- A file that can be read is analysed under its own path. -/
theorem analyze_of_isReadable {source : SourceText} (readable : isReadable source = true) :
    ∃ analysis, (analyze source).value = some analysis ∧ analysis.path = source.path := by
  unfold isReadable at readable
  cases read : Source.read (some source.path) source.text with
  | error failure => simp [read, Except.toBool] at readable
  | ok file => exact ⟨_, by simp [analyze, read, Reported.map]; rfl, rfl⟩

/-- A file that cannot be read adds nothing, and one warning about it is reported. -/
theorem analyze_of_unreadable {source : SourceText} (unreadable : isReadable source = false) :
    (analyze source).value = none ∧
      ∃ warning, (analyze source).diagnostics = [warning] ∧ warning.severity = .warning ∧
        warning.file = some source.path := by
  unfold isReadable at unreadable
  cases read : Source.read (some source.path) source.text with
  | error failure => simp [analyze, read, Extraction.unreadable]
  | ok file => simp [read, Except.toBool] at unreadable

/-- What the files that can be read add to the contract. -/
def analyses (sources : List SourceText) : List FileAnalysis :=
  sources.filterMap fun source => (analyze source).value

/-- The contract is assembled from what the readable files add to it. -/
theorem value_extract (sources : List SourceText) (order : Assembly.TableOrder) :
    (extract sources false order).value =
      .ok (Assembly.assemble (analyses sources) order).value := by
  simp [extract, Reported.andThen, Reported.map, Reported.value_each, analyses, List.filterMap_map]

/-- The reports about the files one by one come first, then those about the assembly. -/
theorem diagnostics_extract (sources : List SourceText) (order : Assembly.TableOrder) :
    (extract sources false order).diagnostics =
      (sources.flatMap fun source => (analyze source).diagnostics) ++
        (Assembly.assemble (analyses sources) order).diagnostics := by
  simp [extract, Reported.andThen, Reported.map, Reported.value_each, Reported.diagnostics_each,
    analyses, List.filterMap_map]

/-- Files that cannot be read add nothing. -/
theorem analyses_filter (sources : List SourceText) :
    analyses (sources.filter isReadable) = analyses sources := by
  rw [analyses, analyses, List.filterMap_filter]
  apply List.filterMap_congr
  intro source _
  cases readable : isReadable source with
  | true => rfl
  | false => exact (analyze_of_unreadable readable).1.symm

/-- The files that can be read are analysed under the paths that they have. -/
theorem paths_analyses (sources : List SourceText) :
    (analyses sources).map FileAnalysis.path =
      (sources.filter isReadable).map SourceText.path := by
  unfold analyses
  induction sources with
  | nil => rfl
  | cons source rest inductionHypothesis =>
      cases readable : isReadable source with
      | true =>
          obtain ⟨analysis, found, path⟩ := analyze_of_isReadable readable
          simp only [List.filterMap_cons, found, List.filter_cons_of_pos readable, List.map_cons,
            path, inductionHypothesis]
      | false =>
          have nothing := (analyze_of_unreadable readable).1
          have dropped : ¬isReadable source = true := by simp [readable]
          simp only [List.filterMap_cons, nothing, List.filter_cons_of_neg dropped,
            inductionHypothesis]

/-- Files with different paths are assembled in one order, however they are given. -/
theorem assemble_analyses_of_perm {sources others : List SourceText} (perm : sources.Perm others)
    (distinct : sources.Pairwise fun left right => Path.same left.path right.path = false)
    (first second : Assembly.TableOrder) :
    Assembly.assemble (analyses sources) first =
      Assembly.assemble (analyses others) second := by
  refine Assembly.assemble_eq_of_ordered ?_ first second
  have places : (analyses sources).map (fun file => Path.order file.path) =
      (sources.filter isReadable).map fun source => Path.order source.path := by
    have paths := congrArg (List.map Path.order) (paths_analyses sources)
    rwa [List.map_map, List.map_map] at paths
  have both : (analyses sources).Perm (analyses others) := by
    unfold analyses
    exact perm.filterMap _
  apply Assembly.ordered_eq_of_perm both
  rw [places, List.Nodup, List.pairwise_map]
  have kept := distinct.filter isReadable
  refine kept.imp ?_
  intro left right different same
  rw [Path.same_iff.mpr same] at different
  contradiction

/-- About each file that cannot be read there is one warning, and it is reported beside what is
reported about the readable files. -/
theorem diagnostics_extract_perm (sources : List SourceText) :
    ∃ warnings, List.Forall₂
        (fun source warning => warning.severity = .warning ∧ warning.file = some source.path)
        (sources.filter fun source => !isReadable source) warnings ∧
      ∀ first second : Assembly.TableOrder,
        (extract sources false first).diagnostics.Perm
          (warnings ++ (extract (sources.filter isReadable) false second).diagnostics) := by
  have broken (given : List SourceText) (unreadable : ∀ source ∈ given, isReadable source = false) :
      List.Forall₂ (fun source warning =>
          warning.severity = Severity.warning ∧ warning.file = some source.path) given
        (given.flatMap fun source => (analyze source).diagnostics) := by
    induction given with
    | nil => exact .nil
    | cons source rest inductionHypothesis =>
        obtain ⟨here, later⟩ := List.forall_mem_cons.mp unreadable
        obtain ⟨-, warning, reported, known⟩ := analyze_of_unreadable here
        rw [List.flatMap_cons, reported, List.singleton_append]
        exact .cons known (inductionHypothesis later)
  refine ⟨_, broken _ fun source member => by simpa using List.of_mem_filter member, ?_⟩
  intro first second
  rw [diagnostics_extract, diagnostics_extract, analyses_filter, ← List.append_assoc,
    ← List.flatMap_append, Assembly.assemble_eq_of_ordered rfl first second]
  apply List.Perm.append_right
  apply List.Perm.flatMap_right
  exact (List.perm_append_comm.trans (List.filter_append_perm isReadable sources)).symm

/-- Source files with different paths make up one contract in every order, and the same contract
without the files that cannot be read, whatever order the table of types has in each of these runs.
The reports are the same up to their order, and each file that cannot be read leaves one warning
about it and nothing else. -/
theorem extract_order_independent {sources others : List SourceText} (perm : sources.Perm others)
    (distinct : sources.Pairwise fun left right => Path.same left.path right.path = false) :
    ∃ contract warnings,
      List.Forall₂
        (fun source warning => warning.severity = .warning ∧ warning.file = some source.path)
        (sources.filter fun source => !isReadable source) warnings ∧
      ∀ first second third : Assembly.TableOrder,
        (extract sources false first).value = .ok contract ∧
        (extract others false second).value = .ok contract ∧
        (extract (sources.filter isReadable) false third).value = .ok contract ∧
        (extract sources false first).diagnostics.Perm
          (extract others false second).diagnostics ∧
        (extract sources false first).diagnostics.Perm
          (warnings ++ (extract (sources.filter isReadable) false third).diagnostics) := by
  have assembled := assemble_analyses_of_perm perm distinct
  have reordered (first second : Assembly.TableOrder) :
      Assembly.assemble (analyses sources) first = Assembly.assemble (analyses sources) second :=
    Assembly.assemble_eq_of_ordered rfl first second
  obtain ⟨warnings, known, reported⟩ := diagnostics_extract_perm sources
  refine ⟨(Assembly.assemble (analyses sources)).value, warnings, known, ?_⟩
  intro first second third
  refine ⟨?same, ?rearranged, ?readable, ?reports, reported first third⟩
  case same => rw [value_extract, reordered first .asGiven]
  case rearranged => rw [value_extract, ← assembled .asGiven second]
  case readable => rw [value_extract, analyses_filter, reordered third .asGiven]
  case reports =>
    rw [diagnostics_extract, diagnostics_extract, assembled first second]
    exact (perm.flatMap_right _).append_right _

/-- The sources of a shop. One of them cannot be read, and nothing refers to the two types of the
last one, so that the table of types gives both back. -/
def shopSources : List SourceText :=
  [⟨"Shop/Orders.cs", "public record OrderDto(int Id, Status Status);"⟩,
    ⟨"Shop/Broken.cs", "public class \x7b oops"⟩,
    ⟨"Shop/Status.cs", "public enum Status \x7b Open, Closed \x7d"⟩,
    ⟨"Shop/Storage.cs", "public record Shelf(int Id); public record Box(int Id, Shelf Shelf);"⟩]

/-- Read from the last source to the first, the shop has the same contract. -/
theorem extract_shopSources_reversed :
    shopSources.Perm shopSources.reverse ∧
      (shopSources.Pairwise fun left right => Path.same left.path right.path = false) ∧
      ∃ contract warnings,
        List.Forall₂
          (fun source warning => warning.severity = .warning ∧ warning.file = some source.path)
          (shopSources.filter fun source => !isReadable source) warnings ∧
        ∀ first second third : Assembly.TableOrder,
          (extract shopSources false first).value = .ok contract ∧
          (extract shopSources.reverse false second).value = .ok contract ∧
          (extract (shopSources.filter isReadable) false third).value = .ok contract ∧
          (extract shopSources false first).diagnostics.Perm
            (extract shopSources.reverse false second).diagnostics ∧
          (extract shopSources false first).diagnostics.Perm
            (warnings ++ (extract (shopSources.filter isReadable) false third).diagnostics) := by
  have turned : shopSources.Perm shopSources.reverse := (List.reverse_perm shopSources).symm
  have distinct : shopSources.Pairwise fun left right =>
      Path.same left.path right.path = false := by decide
  exact ⟨turned, distinct, extract_order_independent turned distinct⟩

end Extraction

end TypedClient
