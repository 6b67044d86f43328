/-
This file shows that the name finder inverts the writing of client types: without choices of the
user it finds in the text of a mapped type exactly the names that the mapping has put there, at any
depth, apart from those that the language declares.
-/

import TypedClient.Proofs.NamedParts
import TypedClient.Proofs.SortedNames
import TypedClient.Proofs.TypeTexts

namespace TypedClient

open Text Brackets

namespace Reference

/-- A name that the language does not declare. -/
def isForeign (name : String) : Bool :=
  !builtinNames.contains name

/-- A name that is found where it stands: an ASCII name that the language does not declare. -/
def isReferable (name : String) : Bool :=
  isName name.toList && isForeign name

theorem isIdentifier_of_isName {cs : List Char} (legal : isName cs = true) : IsIdentifier cs := by
  refine ⟨⟨(tight_of_isName legal).some, fun c member => ?_⟩, fun bar => ?_⟩
  · obtain ⟨unblank, unopened, unclosed, unmarked⟩ := unmarked_of_isName legal c member
    exact ⟨unblank, unopened, unclosed, fun marked => unmarked (List.mem_append_left ['|'] marked)⟩
  · exact (unmarked_of_isName legal '|' bar).2.2.2 (by decide)

theorem namesWithin_of_parts {text : List Char} {texts : List (List Char)} {names : List String}
    (parts : shape text = .parts texts)
    (inside : ∀ depth, text.length ≤ depth → texts.flatMap (namesWithin depth) = names)
    (depth : Nat) (enough : text.length < depth) : namesWithin depth text = names := by
  obtain ⟨depth, rfl⟩ := Nat.exists_eq_add_one_of_ne_zero (Nat.ne_zero_of_lt enough)
  rw [namesWithin, parts]
  exact inside depth (Nat.lt_succ_iff.mp enough)

theorem namesWithin_identifier {name : String} (legal : IsIdentifier name.toList) {depth : Nat}
    (some : depth ≠ 0) : namesWithin depth name.toList = [name].filter isReferable := by
  obtain ⟨depth, rfl⟩ := Nat.exists_eq_add_one_of_ne_zero some
  rw [namesWithin, shape_plain legal.tight legal.plain]
  simp [isReferable, isForeign, List.filter_cons]

end Reference

namespace ClientType

open Reference

/-- A type whose text can stand in other types and refers to those names put into it that are found
where they stand. -/
structure Traceable (type : ClientType) : Prop extends Nestable type where
  traced : ∀ depth, type.text.toList.length < depth →
    namesWithin depth type.text.toList = type.emitted.filter isReferable

namespace Traceable

variable {type other : ClientType} {types : List ClientType}

theorem of_identifier (legal : IsIdentifier type.text.toList)
    (own : type.emitted.filter isReferable = [type.text].filter isReferable) : Traceable type := by
  refine ⟨.of_identifier legal, fun depth enough => ?_⟩
  rw [namesWithin_identifier legal (Nat.ne_zero_of_lt enough), own]

/-- Being traceable depends only on the text and on the names that are found. -/
theorem congr (traceable : Traceable type) (sameText : other.text = type.text)
    (sameNames : other.emitted.filter isReferable = type.emitted.filter isReferable) :
    Traceable other := by
  refine ⟨traceable.toNestable.congr sameText, ?_⟩
  rw [sameText, sameNames]
  exact traceable.traced

/-- Traceable types in brackets are each found. -/
theorem flatMap_namesWithin (traceable : ∀ type ∈ types, Traceable type) {depth : Nat}
    (enough : ([',', ' '].intercalate (types.map fun type => type.text.toList)).length < depth) :
    (types.map fun type => type.text.toList).flatMap (namesWithin depth) =
      (types.flatMap emitted).filter isReferable := by
  rw [List.flatMap_map, List.filter_flatMap]
  refine List.flatMap_congr fun type member => ?_
  have inside : type.text.toList ∈ types.map fun type => type.text.toList :=
    List.mem_map.mpr ⟨type, member, rfl⟩
  exact (traceable type member).traced depth
    (Nat.lt_of_le_of_lt (length_le_length_intercalate inside) enough)

theorem application {name : String} (legal : IsIdentifier name.toList)
    (traceable : ∀ type ∈ types, Traceable type) : Traceable (.application name types) := by
  refine ⟨.application legal fun type member => (traceable type member).toNestable, ?_⟩
  have arguments := List.forall_mem_map.mpr fun type member => (traceable type member).toIsArgument
  rw [toList_text_application]
  refine namesWithin_of_parts (shape_application legal.tight legal.plain arguments)
    fun depth enough => ?_
  simp only [List.length_append, List.length_cons, List.length_nil] at enough
  rw [List.flatMap_cons, namesWithin_identifier legal (by omega),
    flatMap_namesWithin traceable (by omega), emitted, emittedByAll_eq, ← List.filter_append,
    List.singleton_append]

theorem tuple (filled : types ≠ []) (traceable : ∀ type ∈ types, Traceable type) :
    Traceable (.tuple types) := by
  refine ⟨.tuple fun type member => (traceable type member).toNestable, ?_⟩
  have arguments := List.forall_mem_map.mpr fun type member => (traceable type member).toIsArgument
  have written : (types.map fun type => type.text.toList) ≠ [] := by simpa using filled
  rw [toList_text_tuple]
  refine namesWithin_of_parts (shape_tuple written arguments) fun depth enough => ?_
  simp only [List.length_append, List.length_cons, List.length_nil] at enough
  rw [flatMap_namesWithin traceable (by omega), emitted, emittedByAll_eq]

/-- The names of a traceable type are found in parentheses too, where it needs them. -/
theorem traced_inParentheses (traceable : Traceable type) {depth : Nat}
    (enough : (inParentheses type.text).toList.length < depth) :
    namesWithin depth (inParentheses type.text).toList = type.emitted.filter isReferable := by
  cases union : isUnionText type.text with
  | false =>
      have bare : inParentheses type.text = type.text := by simp [inParentheses, union]
      rw [bare] at enough ⊢
      exact traceable.traced depth enough
  | true =>
      have around : (inParentheses type.text).toList = '(' :: (type.text.toList ++ [')']) := by
        simp [inParentheses, union]
      rw [around] at enough ⊢
      refine namesWithin_of_parts (shape_parentheses traceable.nested) (fun depth enough => ?_)
        depth enough
      simp only [List.length_append, List.length_cons, List.length_nil] at enough
      rw [List.flatMap_singleton, traceable.traced depth (by omega)]

theorem array (traceable : Traceable type) : Traceable (.array type) := by
  refine ⟨traceable.toNestable.array, ?_⟩
  -- A union is taken out of the array first and out of its parentheses then.
  obtain ⟨argument, single⟩ := traceable.toNestable.inParentheses
  rw [toList_text_array]
  refine namesWithin_of_parts (shape_array argument.tight single) fun depth enough => ?_
  simp only [List.length_append, List.length_cons, List.length_nil] at enough
  rw [List.flatMap_singleton, traceable.traced_inParentheses (by omega), emitted]

theorem orNull (traceable : Traceable type) (single : isUnionText type.text = false) :
    Traceable (.orNull type) := by
  refine ⟨traceable.toNestable.orNull single, ?_⟩
  have null : IsIdentifier "null".toList := by decide
  rw [toList_text_orNull]
  refine namesWithin_of_parts (shape_orNull traceable.tight (traceable.single single))
    fun depth enough => ?_
  have some : 0 < " | null".toList.length := by decide
  have short : type.text.toList.length < depth := by
    rw [List.length_append] at enough
    omega
  have nothing : ["null"].filter isReferable = [] := by decide
  rw [List.flatMap_cons, List.flatMap_singleton, traceable.traced depth short,
    namesWithin_identifier null (Nat.ne_zero_of_lt short), nothing, List.append_nil, emitted]

theorem builtin {name : String} (legal : IsIdentifier name.toList)
    (known : isForeign name = false) : Traceable (.builtin name) :=
  of_identifier legal (by simp [text, emitted, isReferable, known])

theorem files : Traceable (.builtin "File[]") := by
  have file : Traceable (.builtin "File") := builtin (by decide) (by decide)
  refine file.array.congr ?_ rfl
  have single : isUnionText "File" = false := by decide
  simp [text, inParentheses, single]

theorem of_application (base : String) (legal : IsIdentifier base.toList)
    (known : isForeign base = false) (traceable : ∀ type ∈ types, Traceable type)
    (sameText : other.text = (ClientType.application base types).text)
    (sameNames : other.emitted = types.flatMap emitted) : Traceable other := by
  refine (application legal traceable).congr sameText ?_
  rw [sameNames, emitted, emittedByAll_eq, List.filter_cons_of_neg (by simp [isReferable, known])]

theorem record {value : ClientType} (traceable : Traceable value) : Traceable (.record value) := by
  have key : Traceable (.builtin "string") := builtin (by decide) (by decide)
  have both : ∀ type ∈ [.builtin "string", value], Traceable type :=
    List.forall_mem_cons.mpr ⟨key, List.forall_mem_singleton.mpr traceable⟩
  exact of_application "Record" (by decide) (by decide) both (text_record value)
    (by simp [emitted])

theorem map {key value : ClientType} (keys : Traceable key) (values : Traceable value) :
    Traceable (.map key value) := by
  have both : ∀ type ∈ [key, value], Traceable type :=
    List.forall_mem_cons.mpr ⟨keys, List.forall_mem_singleton.mpr values⟩
  exact of_application "Map" (by decide) (by decide) both (text_map key value)
    (by simp [emitted])

theorem set {element : ClientType} (traceable : Traceable element) : Traceable (.set element) := by
  exact of_application "Set" (by decide) (by decide) (List.forall_mem_singleton.mpr traceable)
    (text_set element) (by simp [emitted])

/-- A traceable type stays traceable where null is allowed too. -/
theorem withNull (traceable : Traceable type) : Traceable type.withNull := by
  unfold ClientType.withNull
  simp only
  split
  case isTrue => exact traceable
  case isFalse other =>
    refine traceable.orNull ?_
    simp only [Bool.or_eq_true, not_or, Bool.not_eq_true] at other
    exact other.2

theorem names_text (traceable : Traceable type) :
    names type.text = (type.emitted.filter isReferable).eraseDups := by
  have enough : type.text.toList.length < type.text.length + 1 := by
    rw [String.length_toList]
    omega
  rw [names, traceable.traced _ enough]

end Traceable

/-- A traceable type into which only names have been put. -/
structure Legible (type : ClientType) : Prop extends Traceable type where
  legal : ∀ name ∈ type.emitted, isName name.toList = true

/-- The text of a legible type refers to all names put into it that the language does not
declare. -/
theorem Legible.found {type : ClientType} (legible : Legible type) (depth : Nat)
    (enough : type.text.toList.length < depth) :
    namesWithin depth type.text.toList = type.emitted.filter isForeign := by
  rw [legible.traced depth enough]
  refine List.filter_congr fun name member => ?_
  simp [isReferable, legible.legal name member]

end ClientType

namespace TypeMapping

open ClientType Reference

variable {mapping : TypeMapping} {type : SourceType}

theorem traceable_of_fixed {text : String} (fixed : text ∈ fixedTexts) :
    Traceable (.builtin text) := by
  have known : ∀ text ∈ fixedTexts,
      text = "File[]" ∨ IsIdentifier text.toList ∧ isForeign text = false := by decide
  rcases known text fixed with rfl | ⟨legal, declared⟩
  · exact .files
  · exact .builtin legal declared

theorem traceable_of_made {result : ClientType} (legal : IsIdentifier type.name.toList)
    (traceable : ∀ argument ∈ type.arguments, Traceable (mapping.map argument))
    (made : Made mapping type result) : Traceable result := by
  have nothing : Traceable (.builtin Builtin.voidText) := traceable_of_fixed (by decide)
  have anything : Traceable (.builtin Builtin.anyText) := traceable_of_fixed (by decide)
  cases made with
  | builtin fixed => exact traceable_of_fixed fixed
  | enumeration => exact .of_identifier legal rfl
  | declared => exact .of_identifier legal rfl
  | unknown => exact .of_identifier legal rfl
  | emptyOutcome => exact .application (by decide) (List.forall_mem_singleton.mpr nothing)
  | emptyArray => exact anything.array
  | array member => exact (traceable _ member).array
  | carried wrapped => exact traceable _ (SourceType.mem_of_carried? wrapped)
  | outcome member =>
      exact .application (by decide) (List.forall_mem_singleton.mpr (traceable _ member))
  | record member => exact (traceable _ member).record
  | map keyMember valueMember => exact (traceable _ keyMember).map (traceable _ valueMember)
  | set member => exact (traceable _ member).set
  | tuple filled =>
      exact .tuple (mt List.map_eq_nil_iff.mp filled) (List.forall_mem_map.mpr traceable)
  | application => exact .application legal (List.forall_mem_map.mpr traceable)

theorem traceable_map (plain : mapping.overrides = [])
    (legal : ∀ inner, SourceType.IsWithin inner type → IsIdentifier inner.name.toList) :
    Traceable (mapping.map type) := by
  induction type using SourceType.of_arguments with
  | step type inductionHypothesis =>
      have own := traceable_of_made (legal type .itself) (fun argument member =>
        inductionHypothesis argument member fun inner within =>
          legal inner (.argument member within)) (made_core plain)
      rw [map_eq, finish]
      split
      · exact own.withNull
      · exact own

/-- Without choices of the user, every type over dotted names is mapped to a legible one. -/
theorem legible_map (plain : mapping.overrides = [])
    (built : SourceType.BuiltOver (IsDotted fun part => isName part = true) type) :
    Legible (mapping.map type) := by
  have legal (inner : SourceType) (within : SourceType.IsWithin inner type) :
      isName inner.name.toList = true :=
    built.name_within (fun _ legal => (isIdentifier_of_isName legal).1) (by decide) (by decide)
      within
  refine ⟨traceable_map plain fun inner within => isIdentifier_of_isName (legal inner within), ?_⟩
  intro name member
  rcases name_of_mem_emitted plain member with rfl | ⟨inner, within, rfl⟩
  · decide
  · exact legal inner within

/-- Without choices of the user, the text of a mapped type over dotted names refers to exactly the
names that the mapping has put into the type and the language does not declare, each once and in the
order of their first occurrence. -/
theorem names_text_map (plain : mapping.overrides = [])
    (built : SourceType.BuiltOver (IsDotted fun part => isName part = true) type) :
    names (mapping.map type).text = ((mapping.map type).emitted.filter isForeign).eraseDups ∧
      (names (mapping.map type).text).Nodup := by
  have found : namesWithin ((mapping.map type).text.length + 1) (mapping.map type).text.toList =
      (mapping.map type).emitted.filter isForeign := by
    refine (legible_map plain built).found _ ?_
    rw [String.length_toList]
    omega
  rw [names, found]
  exact ⟨rfl, nodup_eraseDups _⟩

/-- The mapping of a shop that declares orders and knows that statuses are an enumeration. -/
def shopMapping : TypeMapping :=
  { enums := ["Status"], declared := ["Order"] }

/-- An array of pairs, which may be null, of pages of orders for each status and of the outcome of a
download. -/
def shopReport : SourceType :=
  .array (.nullable (.tuple
    [.generic "Dictionary" [.reference "Shop.Status", .generic "Page" [.reference "Shop.Order"]],
      .generic "OperationResult" [.array (.reference "byte")]]))

/-- The names in the text of the report. -/
theorem names_shopReport :
    shopMapping.overrides = [] ∧
      SourceType.BuiltOver (IsDotted fun part => isName part = true) shopReport ∧
      (shopMapping.map shopReport).text =
        "([Map<Status, Page<Order>>, Result<string>] | null)[]" ∧
      names "([Map<Status, Page<Order>>, Result<string>] | null)[]" =
        ["Status", "Page", "Order", "Result"] := by
  have plain : shopMapping.overrides = [] := rfl
  have text : (shopMapping.map shopReport).text =
      "([Map<Status, Page<Order>>, Result<string>] | null)[]" := by decide
  have emitted : ((shopMapping.map shopReport).emitted.filter isForeign).eraseDups =
      ["Status", "Page", "Order", "Result"] := by decide
  have single {name : String} (legal : isName name.toList = true) :
      IsDotted (fun part => isName part = true) name :=
    ⟨[name.toList], by simp, by simpa using legal, by simp⟩
  have status : IsDotted (fun part => isName part = true) "Shop.Status" :=
    ⟨["Shop".toList, "Status".toList], by decide, by decide, by decide⟩
  have order : IsDotted (fun part => isName part = true) "Shop.Order" :=
    ⟨["Shop".toList, "Order".toList], by decide, by decide, by decide⟩
  have page : SourceType.BuiltOver (IsDotted fun part => isName part = true)
      (.generic "Page" [.reference "Shop.Order"]) :=
    .generic (single (by decide)) (List.forall_mem_singleton.mpr (.reference order))
  have pages := SourceType.BuiltOver.generic
    (single (show isName "Dictionary".toList = true by decide))
    (List.forall_mem_cons.mpr ⟨.reference status, List.forall_mem_singleton.mpr page⟩)
  have bytes : SourceType.BuiltOver (IsDotted fun part => isName part = true)
      (.array (.reference "byte")) := .array (.reference (single (by decide)))
  have download := SourceType.BuiltOver.generic
    (single (show isName "OperationResult".toList = true by decide))
    (List.forall_mem_singleton.mpr bytes)
  have built : SourceType.BuiltOver (IsDotted fun part => isName part = true) shopReport :=
    .array (.nullable (.tuple
      (List.forall_mem_cons.mpr ⟨pages, List.forall_mem_singleton.mpr download⟩)))
  have found := (names_text_map plain built).1
  rw [text, emitted] at found
  exact ⟨plain, built, text, found⟩

end TypeMapping

end TypedClient
