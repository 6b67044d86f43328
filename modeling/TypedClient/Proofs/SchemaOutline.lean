/-
This file shows that a schema accounts for each record of rules of its type: the record has one
entry, and the path of its property says which objects are around the entry.
-/

import TypedClient.Client.Schema
import TypedClient.Proofs.DraftLines
import TypedClient.Proofs.RuleTrees

namespace TypedClient

/-- An entry of a schema with the keys of the objects around it, from the outermost on. An object
stands without its own entries. -/
structure PlacedEntry where
  above : List String := []
  entry : SchemaEntry

def PlacedEntry.within (key : String) (placed : PlacedEntry) : PlacedEntry :=
  { placed with above := key :: placed.above }

namespace SchemaEntry

mutual

/-- The entry itself and the entries in it. -/
def outline : SchemaEntry → List PlacedEntry
  | remark subject => [{ entry := remark subject }]
  | check key type expression => [{ entry := check key type expression }]
  | object key absence entries =>
    { entry := object key absence [] } :: (outlineAll entries).map (PlacedEntry.within key)

def outlineAll : List SchemaEntry → List PlacedEntry
  | [] => []
  | entry :: rest => entry.outline ++ outlineAll rest

end

theorem outlineAll_append (before behind : List SchemaEntry) :
    outlineAll (before ++ behind) = outlineAll before ++ outlineAll behind := by
  induction before with
  | nil => rfl
  | cons entry before inductionHypothesis =>
      rw [List.cons_append, outlineAll, outlineAll, inductionHypothesis, List.append_assoc]

theorem outlineAll_of_plain {entries : List SchemaEntry}
    (plain : ∀ entry ∈ entries, entry.outline = [{ entry }]) :
    outlineAll entries = entries.map fun entry => { entry } := by
  induction entries with
  | nil => rfl
  | cons entry rest inductionHypothesis =>
      obtain ⟨here, behind⟩ := List.forall_mem_cons.mp plain
      rw [outlineAll, here, inductionHypothesis behind]
      rfl

section Lines

open Draft

mutual

/-- The lines of an entry at a level of indentation. -/
def drawn (level : Nat) : SchemaEntry → List String
  | remark subject => [indented level ("// checked on the server: " ++ subject)]
  | check key _ expression =>
    [indented level (Name.propertyKey key ++ ": " ++ expression.text ++ ",")]
  | object key absence entries =>
    indented level (Name.propertyKey key ++ ": z") :: indented (level + 1) ".object(\x7b" ::
      (drawnAll (level + 2) entries ++
        [indented (level + 1) "\x7d)", indented (level + 1) (".passthrough()" ++ absence ++ ",")])

/-- The lines of several entries at a level of indentation. -/
def drawnAll (level : Nat) : List SchemaEntry → List String
  | [] => []
  | entry :: rest => drawn level entry ++ drawnAll level rest

end

mutual

theorem draw_eq (draft : Draft) : (entry : SchemaEntry) →
    entry.draw draft = { draft with lines := draft.lines ++ drawn draft.level entry }
  | .remark subject => rfl
  | .check key type expression => rfl
  | .object key absence entries => by
    rw [draw, drawAll_eq]
    simp [drawn, openBlock, closeBlock, dedent, line]

theorem drawAll_eq (draft : Draft) : (entries : List SchemaEntry) →
    drawAll draft entries = { draft with lines := draft.lines ++ drawnAll draft.level entries }
  | [] => by
    rw [drawAll, drawnAll, List.append_nil]
  | entry :: rest => by
    rw [drawAll, draw_eq, drawAll_eq, drawnAll, List.append_assoc]

end

end Lines

end SchemaEntry

namespace Schema

open RuleTree SchemaEntry

/-- Where a path of names ends in a schema: the keys of the objects around its end, and the last
name with the type that may declare it, provided that the names before lead through objects. -/
structure Position where
  above : List String := []
  last : Option (Option SourceType × String)

/-- The position where it is in an object. -/
def Position.within (key : String) (position : Position) : Position :=
  { position with above := key :: position.above }

/-- Where a path of names ends from a type on. -/
def positionFrom (context : Context) (owner : Option SourceType) : List String → Position
  | [] => { last := none }
  | [name] => { last := some (owner, name) }
  | name :: path =>
    match objectType? context (propertyNamed? owner name) with
    | some inner =>
      (positionFrom context (some inner) path).within (keyOf (propertyNamed? owner name) name)
    | none => { last := none }

section Entries

variable (context : Context) (typeName : String)

/-- Tells whether there is an object for a place of the tree of rules that ends at a position. -/
def isObject (place : Place) (position : Position) : Bool :=
  place.isInner && position.last.any fun last =>
    (objectType? context (propertyNamed? last.1 last.2)).isSome

/-- The entries for a place of the tree of rules that ends at a position. -/
def entriesAt (place : Place) (position : Position) : List PlacedEntry :=
  let placed (entry : SchemaEntry) : PlacedEntry := { above := position.above, entry }
  match position.last with
  | none => place.record.toList.map fun record => placed (.remark record.property)
  | some (owner, name) =>
    let property := propertyNamed? owner name
    if isObject context place position then
      [placed (.object (keyOf property name) (absence property place.record) [])]
    else (ownEntries context typeName name property place.record).map placed

theorem entriesAt_within (name key : String) (place : Place) (position : Position) :
    entriesAt context typeName (place.under name) (position.within key) =
      (entriesAt context typeName place position).map (PlacedEntry.within key) := by
  obtain ⟨above, last⟩ := position
  cases last with
  | none => simp [entriesAt, Place.under, Position.within, PlacedEntry.within]
  | some last =>
      simp only [entriesAt, Place.under, Position.within]
      rw [apply_ite (List.map _), List.map_map]
      rfl

theorem outlineAll_ownEntries (name : String) (property : Option SourceProperty)
    (record : Option PropertyRules) :
    outlineAll (ownEntries context typeName name property record) =
      (ownEntries context typeName name property record).map fun entry => { entry } := by
  apply outlineAll_of_plain
  cases record with
  | none => simp [ownEntries]
  | some record =>
      intro entry member
      rcases List.mem_append.mp member with inRemarks | isCheck
      · obtain ⟨rule, _, rfl⟩ := List.mem_map.mp inRemarks
        rfl
      · obtain rfl := List.mem_singleton.mp isCheck
        rfl

/-- A path that goes on behind its first name leads through the object of that name. -/
theorem positionFrom_cons {path : List String} (goesOn : path ≠ []) (owner : Option SourceType)
    (name : String) : positionFrom context owner (name :: path) =
      match objectType? context (propertyNamed? owner name) with
      | some inner =>
        (positionFrom context (some inner) path).within (keyOf (propertyNamed? owner name) name)
      | none => { last := none } := by
  cases path with
  | nil => contradiction
  | cons second path => rfl

section Below

variable {owner : Option SourceType} {name : String}

theorem flatMap_entriesAt_object {inner : SourceType}
    (holds : objectType? context (propertyNamed? owner name) = some inner)
    (children : List (String × RuleTree)) :
    (((placesOfAll children).map (Place.under name)).flatMap fun place =>
        entriesAt context typeName place (positionFrom context owner place.path)) =
      ((placesOfAll children).flatMap fun place => entriesAt context typeName place
        (positionFrom context (some inner) place.path)).map
          (PlacedEntry.within (keyOf (propertyNamed? owner name) name)) := by
  rw [List.flatMap_map, List.map_flatMap]
  apply List.flatMap_congr
  intro place member
  have position : positionFrom context owner (place.under name).path =
      (positionFrom context (some inner) place.path).within
        (keyOf (propertyNamed? owner name) name) := by
    rw [Place.under, positionFrom_cons context (path_ne_nil member), holds]
  rw [position, entriesAt_within]

/-- Where a property holds no object, there are remarks about the records below it. -/
theorem flatMap_entriesAt_remarks
    (alone : objectType? context (propertyNamed? owner name) = none)
    (children : List (String × RuleTree)) :
    (((placesOfAll children).map (Place.under name)).flatMap fun place =>
        entriesAt context typeName place (positionFrom context owner place.path)) =
      outlineAll ((pathsOfAll children).map SchemaEntry.remark) := by
  have plain : ∀ entry ∈ (pathsOfAll children).map SchemaEntry.remark,
      entry.outline = [{ entry }] := by
    intro entry member
    obtain ⟨subject, _, rfl⟩ := List.mem_map.mp member
    rfl
  rw [outlineAll_of_plain plain, pathsOfAll_eq, List.map_map, List.map_map, List.map_filterMap,
    List.filterMap_eq_flatMap_toList, List.flatMap_map]
  apply List.flatMap_congr
  intro place member
  have position : positionFrom context owner (place.under name).path = { last := none } := by
    rw [Place.under, positionFrom_cons context (path_ne_nil member), alone]
  rw [position, entriesAt]
  change place.record.toList.map _ = _
  cases place.record <;> rfl

end Below

mutual

/-- The entries for a tree are those for its places. -/
theorem outline_entries (owner : Option SourceType) (name : String) : (tree : RuleTree) →
    (outlineAll (entries context typeName owner name tree)).Perm
      ((tree.places.map (Place.under name)).flatMap fun place =>
        entriesAt context typeName place (positionFrom context owner place.path))
  | .node record children => by
    rw [entries, places, List.map_cons, List.flatMap_cons]
    split_ifs with ends
    · obtain rfl := List.isEmpty_iff.mp ends
      rw [outlineAll_ownEntries]
      simp [placesOfAll, entriesAt, isObject, positionFrom, Place.under]
    · let here := Place.under name ⟨[], record, !children.isEmpty⟩
      cases holds : objectType? context (propertyNamed? owner name) with
      | some inner =>
          have own : entriesAt context typeName here (positionFrom context owner here.path) =
              [{ entry := .object (keyOf (propertyNamed? owner name) name)
                  (absence (propertyNamed? owner name) record) [] }] := by
            simp [here, entriesAt, isObject, Place.under, positionFrom, ends, holds]
          rw [flatMap_entriesAt_object context typeName holds, own]
          simp only [outlineAll, outline, List.append_nil, List.singleton_append]
          exact ((outline_entriesOfAll (some inner) children).map _).cons _
      | none =>
          have own : entriesAt context typeName here (positionFrom context owner here.path) =
              (ownEntries context typeName name (propertyNamed? owner name) record).map
                fun entry => { entry } := by
            simp [here, entriesAt, isObject, Place.under, positionFrom, holds]
          rw [flatMap_entriesAt_remarks context typeName holds, own, outlineAll_append,
            outlineAll_ownEntries]
          -- The remarks about what is below stand in front of the check of the property itself.
          exact List.perm_append_comm

/-- The entries for several trees are those for their places. -/
theorem outline_entriesOfAll (owner : Option SourceType) :
    (children : List (String × RuleTree)) →
    (outlineAll (entriesOfAll context typeName owner children)).Perm
      ((placesOfAll children).flatMap fun place =>
        entriesAt context typeName place (positionFrom context owner place.path))
  | [] => by
    rw [entriesOfAll, placesOfAll]
    exact .refl _
  | (name, tree) :: rest => by
    rw [entriesOfAll, placesOfAll, outlineAll_append, List.flatMap_append]
    exact (outline_entries owner name tree).append (outline_entriesOfAll owner rest)

end

/-- Where the path of a property ends in the schema. -/
def positionOf (path : List String) : Position :=
  positionFrom context (context.contract.typeNamed? typeName) path

/-- The place of a record in the tree of rules. -/
def placeOfRecord (record : PropertyRules) : Place :=
  placeOf (context.contract.rulesFor typeName) record

/-- The rules of a record that have no fixed shape. -/
def extrasOf (record : PropertyRules) : List Rule :=
  (context.contract.extraRulesFor typeName).filter fun rule => rule.property == record.property

/-- The entry of a record, where its path ends: an object if other paths go on through the object
that the property holds, else a check. Where its own path does not lead through objects there is a
remark with the path. -/
def recordEntry (record : PropertyRules) : PlacedEntry :=
  let position := positionOf context typeName (pathOf record)
  { above := position.above
    entry :=
      match position.last with
      | none => .remark record.property
      | some (owner, name) =>
        let property := propertyNamed? owner name
        if isObject context (placeOfRecord context typeName record) position then
          .object (keyOf property name) (absence property (some record)) []
        else
          .check (keyOf property name) (property.map fun found => context.map found.type)
            (PropertyCheck.expression (property.map fun found => context.map found.type) property
              record (extrasOf context typeName record)) }

/-- The remarks about checks of the backend that stand beside the check of a record. -/
def recordRemarks (record : PropertyRules) : List PlacedEntry :=
  let position := positionOf context typeName (pathOf record)
  if position.last.isNone || isObject context (placeOfRecord context typeName record) position then
    []
  else ((extrasOf context typeName record).filter fun rule => rule.kind == .custom).map fun rule =>
    { above := position.above, entry := .remark (rule.value.text?.getD "custom") }

/-- The object for a path on the way to records that leads through objects. -/
def wayObject? (way : List String) : Option PlacedEntry :=
  let position := positionOf context typeName way
  position.last.bind fun last =>
    let property := propertyNamed? last.1 last.2
    (objectType? context property).map fun _ =>
      { above := position.above
        entry := .object (keyOf property last.2) (absence property none) [] }

theorem entriesAt_placeOf (record : PropertyRules) :
    (entriesAt context typeName (placeOfRecord context typeName record)
      (positionOf context typeName (pathOf record))).Perm
        (recordEntry context typeName record :: recordRemarks context typeName record) := by
  unfold entriesAt recordEntry recordRemarks isObject
  dsimp only
  obtain ⟨above, last⟩ := positionOf context typeName (pathOf record)
  cases last with
  | none => exact .refl _
  | some last =>
      simp only [Option.isNone_some, Bool.false_or, Option.any_some]
      split_ifs with inner
      · exact .refl _
      · rw [placeOfRecord, placeOf, ownEntries, List.map_append, List.map_map]
        exact List.perm_append_comm

theorem entriesAt_openPlace (way : List String) :
    entriesAt context typeName (openPlace way) (positionOf context typeName way) =
      (wayObject? context typeName way).toList := by
  unfold entriesAt wayObject?
  dsimp only
  obtain ⟨above, last⟩ := positionOf context typeName way
  cases last with
  | none => rfl
  | some last =>
      cases holds : objectType? context (propertyNamed? last.1 last.2) <;>
        simp [isObject, openPlace, holds, ownEntries]

theorem lines_eq : lines context typeName =
    ["export const " ++ Name.schema typeName ++ " = z", "  .object(\x7b"] ++
      drawnAll 2 (entriesFor context typeName) ++ ["  \x7d)", "  .passthrough();"] := by
  rw [lines, drawAll_eq]
  simp [Draft.openBlock, Draft.closeBlock, Draft.dedent, Draft.line, Draft.indented]

/-- The entries of a schema are those of the records, the remarks beside them and the objects on the
way to them. -/
theorem entriesFor_perm
    (distinct : ((context.contract.rulesFor typeName).map PropertyRules.property).Nodup) :
    (outlineAll (entriesFor context typeName)).Perm
      ((context.contract.rulesFor typeName).map (recordEntry context typeName) ++
        (context.contract.rulesFor typeName).flatMap (recordRemarks context typeName) ++
        (openWays (context.contract.rulesFor typeName)).filterMap
          (wayObject? context typeName)) := by
  refine (outline_entriesOfAll context typeName _ _).trans
    (((placesOfAll_perm distinct).flatMap_right _).trans ?_)
  rw [List.flatMap_append, List.flatMap_map, List.flatMap_map, List.filterMap_eq_flatMap_toList]
  refine .append ?records ?ways
  case records =>
    refine .trans (.flatMap_left _ ?_) (List.map_append_flatMap_perm _ _ _).symm
    exact fun record _ => entriesAt_placeOf context typeName record
  case ways =>
    refine .flatMap_left _ ?_
    exact fun way _ => .of_eq (entriesAt_openPlace context typeName way)

end Entries

/-- If the records of a type have different properties, the tree of rules holds each of them once,
and so does the schema: it has one entry for each record where the path of the property ends, the
remarks beside the checks of records, and the objects on the way to records. The lines of the schema
are those of its entries. A type without any rule has no schema. -/
theorem schema_accounts_for_records (context : Context) (typeName : String)
    (distinct : ((context.contract.rulesFor typeName).map PropertyRules.property).Nodup) :
    (ofRecords (context.contract.rulesFor typeName)).paths.Perm
      ((context.contract.rulesFor typeName).map PropertyRules.property) ∧
    (outlineAll (entriesFor context typeName)).Perm
      ((context.contract.rulesFor typeName).map (recordEntry context typeName) ++
        (context.contract.rulesFor typeName).flatMap (recordRemarks context typeName) ++
        (openWays (context.contract.rulesFor typeName)).filterMap (wayObject? context typeName)) ∧
    (context.contract.hasRules typeName = true → ∃ artifact,
      artifact? context typeName = some artifact ∧ artifact.module.body =
        ["export const " ++ Name.schema typeName ++ " = z", "  .object(\x7b"] ++
          drawnAll 2 (entriesFor context typeName) ++ ["  \x7d)", "  .passthrough();"]) ∧
    (context.contract.hasRules typeName = false → artifact? context typeName = none) := by
  refine ⟨paths_perm distinct, entriesFor_perm context typeName distinct, ?some, ?none⟩
  case some =>
    intro rules
    rw [artifact?, if_pos rules]
    exact ⟨_, rfl, lines_eq context typeName⟩
  case none =>
    intro none
    rw [artifact?, if_neg (by rw [none]; exact Bool.false_ne_true)]

/-- The context for a contract in which the rules of an order reach into its address and lines. -/
def orderContext : Context :=
  .ofContract
    { types := [
        { name := "Order"
          display := "Order"
          properties := [
            { name := "Address"
              wireName := "address"
              type := { name := "Address", display := "Address" }
              isNullable := true
              isRequired := false },
            { name := "Lines"
              wireName := "lines"
              type := { name := "List", display := "List<Line>", isCollection := true }
              isNullable := false
              isRequired := false }] },
        { name := "Address"
          display := "Address"
          properties := [
            { name := "Street"
              wireName := "street"
              type := { name := "string", display := "string" }
              isNullable := false
              isRequired := false }] }]
      validation := [
        { typeName := "Order", property := "Address.Street", maxLength := some 80 },
        { typeName := "Order", property := "Lines.Count", required := true },
        { typeName := "Order", property := "Lines" }] }
    [] {}

/-- The records of the order have an entry each, and the schema has an object for the address. -/
theorem orderContext_accounts_for_records :
    ((orderContext.contract.rulesFor "Order").map PropertyRules.property).Nodup ∧
      (ofRecords (orderContext.contract.rulesFor "Order")).paths.Perm
        ["Address.Street", "Lines.Count", "Lines"] ∧
      ((outlineAll (entriesFor orderContext "Order")).map fun placed =>
          (placed.above, drawn 0 placed.entry)).Perm
        [(["address"], ["street: z.string().max(80).optional(),"]),
          ([], ["// checked on the server: Lines.Count"]),
          ([], ["lines: z.array(z.any()).optional(),"]),
          ([], ["address: z", "  .object(\x7b", "  \x7d)", "  .passthrough().nullish(),"])] ∧
      (artifact? orderContext "Order").isSome := by
  have distinct : ((orderContext.contract.rulesFor "Order").map PropertyRules.property).Nodup := by
    decide
  obtain ⟨paths, entries, made, _⟩ := schema_accounts_for_records orderContext "Order" distinct
  obtain ⟨artifact, isMade, _⟩ := made (by decide)
  refine ⟨distinct, paths.trans (.of_eq (by decide)), ?_, by rw [isMade]; rfl⟩
  exact (entries.map _).trans (.of_eq (by decide +kernel))

/-- The context for a contract with a record that demands nothing. -/
def silentContext : Context :=
  .ofContract { validation := [{ typeName := "Note", property := "Text" }] } [] {}

/-- The record has a property of its own, and no schema accounts for it. -/
theorem silentContext_has_no_schema :
    (silentContext.contract.rulesFor "Note").map PropertyRules.property = ["Text"] ∧
      artifact? silentContext "Note" = none := by
  refine ⟨by decide, ?_⟩
  rw [artifact?, if_neg (by decide)]

end Schema

end TypedClient
