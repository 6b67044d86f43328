/-
This file shows when the definition of a type names each of its properties once. The parameters in
the header of a record and the properties in its body are taken over one behind the other, so that
a parameter that the body declares again stands in the definition, and in the interface, twice.
-/

import Mathlib.Data.List.Nodup
import TypedClient.Backend.TypeDiscovery
import TypedClient.Client.Declaration
import TypedClient.Proofs.DraftLines

namespace TypedClient

namespace Declaration

/-- The lines of a property in an interface: its comment and its type. -/
def memberLines (context : Context) (property : SourceProperty) : List String :=
  (Draft.commentLines property.summary ++ [propertyLine context property]).map (Draft.indented 1)

/-- Drawing properties inside a block adds their lines. -/
theorem foldl_members (context : Context) (lines : List String)
    (properties : List SourceProperty) :
    properties.foldl (fun (draft : Draft) property =>
        (draft.comment property.summary).line (propertyLine context property)) ⟨lines, 1⟩ =
      ⟨lines ++ properties.flatMap (memberLines context), 1⟩ := by
  induction properties generalizing lines with
  | nil => simp
  | cons property rest inductionHypothesis =>
      have step : ((⟨lines, 1⟩ : Draft).comment property.summary).line
          (propertyLine context property) = ⟨lines ++ memberLines context property, 1⟩ := by
        simp [Draft.comment, Draft.line, memberLines]
      rw [List.foldl_cons, step, inductionHypothesis, List.flatMap_cons, List.append_assoc]

theorem interfaceLines_eq (context : Context) (type : SourceType) :
    interfaceLines context type =
      Draft.commentLines type.summary ++ ("export interface " ++ header type ++ " \x7b") ::
        type.properties.flatMap (memberLines context) ++ ["\x7d"] := by
  obtain ⟨lines, outermost⟩ := Draft.lines_comment type.summary
  have opened : (Draft.comment {} type.summary).openBlock
      ("export interface " ++ header type ++ " \x7b") =
        ⟨Draft.commentLines type.summary ++ ["export interface " ++ header type ++ " \x7b"], 1⟩ := by
    simp [Draft.openBlock, Draft.line, lines, outermost, Draft.indented_zero]
  rw [interfaceLines, opened, foldl_members]
  simp [Draft.closeBlock, Draft.dedent, Draft.line, Draft.indented_zero]

end Declaration

namespace TypeDiscovery

/-- The parameters in the header of a record that are part of the data. -/
def dataParameters (container : Container) : List MethodParameter :=
  container.recordParameters.filter fun parameter =>
    !Decoration.has parameter.decorations "JsonIgnore"

def dataProperties (container : Container) : List DeclaredProperty :=
  container.properties.filter fun property =>
    isDataProperty property && !Decoration.has property.decorations "JsonIgnore"

/-- The properties of a definition are those of the header, then those of the body. -/
theorem properties_eq (container : Container) :
    properties container = (dataParameters container).map positionalProperty ++
      (dataProperties container).map declaredProperty := by
  rw [properties, List.filter_append, List.filter_map, List.filter_map, List.filter_filter]
  simp only [Bool.and_comm]
  rfl

theorem names_properties (container : Container) :
    (properties container).map PropertyOf.name =
      (dataParameters container).map MethodParameter.name ++
        (dataProperties container).map DeclaredProperty.name := by
  rw [properties_eq, List.map_append, List.map_map, List.map_map]
  rfl

/-- Where neither the header of a record nor its body names a property twice, the definition of
the type names each of its properties once, exactly if the body declares no parameter of the header
again, of those that are part of the data. The interface declares the properties of the definition
one by one. -/
theorem member_names_distinct_iff {container : Container}
    (header : (container.recordParameters.map MethodParameter.name).Nodup)
    (body : (container.properties.map DeclaredProperty.name).Nodup) :
    let type := definition container
    ((type.properties.map PropertyOf.name).Nodup ↔
      ∀ parameter ∈ dataParameters container, ∀ property ∈ dataProperties container,
        parameter.name ≠ property.name) ∧
    ∀ context : Context, Declaration.interfaceLines context type =
      Draft.commentLines container.summary ++
        ("export interface " ++ Declaration.header type ++ " \x7b") ::
          type.properties.flatMap (Declaration.memberLines context) ++ ["\x7d"] := by
  intro type
  refine ⟨?_, fun context => Declaration.interfaceLines_eq context type⟩
  have names : type.properties.map PropertyOf.name =
      (dataParameters container).map MethodParameter.name ++
        (dataProperties container).map DeclaredProperty.name := names_properties container
  rw [names, List.nodup_append]
  have inHeader : ((dataParameters container).map MethodParameter.name).Nodup :=
    (List.filter_sublist.map _).nodup header
  have inBody : ((dataProperties container).map DeclaredProperty.name).Nodup :=
    (List.filter_sublist.map _).nodup body
  simp only [inHeader, inBody, true_and, List.forall_mem_map]

/-- A record with a header and a body that name different properties. -/
def orderRecord : Container where
  name := "OrderDto"
  kind := .recordKind
  recordParameters := [{ name := "Id", type := .reference "int" }]
  properties := [
    { name := "Note", type := (SourceType.reference "string").nullable, modifiers := ["public"] },
    { name := "Count", type := .reference "int", modifiers := ["public", "static"] }]

/-- The definition of the record names its properties once, and so does the interface. -/
theorem orderRecord_names_distinct :
    (orderRecord.recordParameters.map MethodParameter.name).Nodup ∧
      (orderRecord.properties.map DeclaredProperty.name).Nodup ∧
      ((definition orderRecord).properties.map PropertyOf.name).Nodup ∧
      Declaration.interfaceLines (.ofContract {} [] {}) (definition orderRecord) =
        ["export interface OrderDto \x7b", "  id: number;", "  note?: string | null;", "\x7d"] := by
  have header : (orderRecord.recordParameters.map MethodParameter.name).Nodup := by decide
  have body : (orderRecord.properties.map DeclaredProperty.name).Nodup := by decide
  obtain ⟨names, lines⟩ := member_names_distinct_iff header body
  refine ⟨header, body, names.mpr (by decide), ?_⟩
  rw [lines]
  decide +kernel

/-- A record whose body declares a parameter of its header again. -/
def noteRecord : Container where
  name := "NoteDto"
  kind := .recordKind
  recordParameters := [{ name := "Text", type := (SourceType.reference "string").nullable }]
  properties := [
    { name := "Text", type := (SourceType.reference "string").nullable, modifiers := ["public"] }]

/-- The definition of the record has the property twice, and the interface declares it twice. -/
theorem noteRecord_repeats_text :
    (noteRecord.recordParameters.map MethodParameter.name).Nodup ∧
      (noteRecord.properties.map DeclaredProperty.name).Nodup ∧
      definition noteRecord ∈ (discover { containers := [noteRecord] }).included ∧
      ¬((definition noteRecord).properties.map PropertyOf.name).Nodup ∧
      Declaration.interfaceLines (.ofContract {} [] {}) (definition noteRecord) =
        ["export interface NoteDto \x7b", "  text?: string | null;", "  text?: string | null;",
          "\x7d"] := by
  have found : (discover { containers := [noteRecord] }).included = [definition noteRecord] := by
    rfl
  refine ⟨by decide, by decide, ?_, by decide, by decide +kernel⟩
  rw [found]
  exact List.mem_singleton_self _

end TypeDiscovery

end TypedClient
