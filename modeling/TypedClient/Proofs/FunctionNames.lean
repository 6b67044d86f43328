/-
This file shows which operations have a client function with a legal name: all operations with an
ASCII name, except for those of the method DELETE that add nothing to the word of the method.
-/

import TypedClient.Proofs.CamelCase
import TypedClient.Proofs.ModuleExports

namespace TypedClient

open Text

namespace Text

/-- Lower case makes no letter or digit of another character. -/
theorem isAlphanum_toLower (c : Char) : c.toLower.isAlphanum = c.isAlphanum := by
  by_cases upper : c.isUpper = true
  · simp [Char.isAlphanum, Char.isAlpha, upper]
  · rw [Char.toLower_eq_of_not_isUpper upper]

/-- The spellings of a word in lower case that differ from it in the case of letters only. -/
def spellings : List Char → List (List Char)
  | [] => [[]]
  | c :: rest => (spellings rest).flatMap fun spelling => [c :: spelling, c.toUpper :: spelling]

theorem mem_spellings {cs word : List Char} (lower : cs.map Char.toLower = word) :
    cs ∈ spellings word := by
  subst lower
  induction cs with
  | nil => simp [spellings]
  | cons c rest inductionHypothesis =>
      refine List.mem_flatMap.mpr ⟨rest, inductionHypothesis, ?_⟩
      by_cases upper : c.isUpper = true
      · have back : c.toLower.toUpper = c := by
          rw [Char.toUpper_toLower_eq_toUpper,
            Char.toUpper_eq_of_not_isLower (Char.not_isLower_of_isUpper upper)]
        simp [back]
      · simp [Char.toLower_eq_of_not_isUpper upper]

end Text

namespace Name

/-- A text may name a function: it begins with a letter or an underscore, goes on with characters
of identifiers, and is not reserved. -/
def IsFunctionName (name : String) : Prop :=
  (∃ first rest, name.toList = first :: rest ∧ (first.isAlpha = true ∨ first = '_') ∧
    ∀ c ∈ rest, startsIdentifier c = true ∨ c.isDigit = true) ∧ name ∉ reserved

/-- An operation adds nothing to the word of the method DELETE: it is that word, or has neither
letters nor digits. -/
def AddsNothingToDelete (operation : String) : Prop :=
  operation ∈ ["delete", "Delete", "DELETE"] ∨ ∀ c ∈ operation.toList, c.isAlphanum = false

/-- The beginning and the remainder of the name that gets camel case: the word of the method and
the operation, or the operation alone where it begins with that word. -/
inductive Parts (verb : Verb) (operation : String) : List Char → List Char → Prop
  | joined : Parts verb operation verb.word.toList operation.toList
  | named {beginning remainder : List Char}
      (whole : operation.toList = beginning ++ remainder)
      (word : beginning.map Char.toLower = verb.word.toList.map Char.toLower)
      (ends : ∀ c ∈ remainder.head?, c.isAlphanum = true) : Parts verb operation beginning remainder

/-- The name of a function is made of the parts of its operation. -/
theorem exists_parts (verb : Verb) (operation : String) :
    ∃ beginning remainder, Parts verb operation beginning remainder ∧
      function verb operation = lowerCamel (String.ofList (beginning ++ remainder)) := by
  unfold function
  split
  case isTrue names =>
    simp only [namesVerb, Bool.and_eq_true, beq_iff_eq] at names
    refine ⟨_, _, .named (List.take_append_drop verb.word.toList.length _).symm names.1 ?_, ?_⟩
    · intro c next
      have follows := names.2
      rw [Option.mem_def.mp next, Option.all_some, Bool.or_eq_true] at follows
      rcases follows with upper | digit
      · simp [Char.isAlphanum, Char.isAlpha, upper]
      · simp [Char.isAlphanum, digit]
    · rw [List.take_append_drop, String.ofList_toList]
  case isFalse =>
    refine ⟨_, _, .joined, ?_⟩
    rw [← String.toList_append, String.ofList_toList]

namespace Parts

variable {verb : Verb} {operation : String} {beginning remainder : List Char}

/-- The beginning is the word of the method, up to the case of its letters. -/
theorem word (parts : Parts verb operation beginning remainder) :
    beginning.map Char.toLower = verb.word.toList.map Char.toLower := by
  cases parts with
  | joined => rfl
  | named _ word _ => exact word

/-- The words of methods consist of letters. -/
theorem letters (parts : Parts verb operation beginning remainder) :
    ∀ c ∈ beginning, c.isAlpha = true := by
  have words : (verb.word.toList.map Char.toLower).all Char.isAlpha = true := by
    cases verb <;> decide
  intro c member
  rw [← Char.isAlpha_toLower_eq_isAlpha]
  exact List.all_eq_true.mp words c.toLower (parts.word ▸ List.mem_map_of_mem member)

theorem ascii (parts : Parts verb operation beginning remainder)
    (asciiName : Ascii operation.toList) : Ascii (beginning ++ remainder) := by
  cases parts with
  | joined =>
      have word : Ascii verb.word.toList := by
        cases verb <;> decide
      exact List.forall_mem_append.mpr ⟨word, asciiName⟩
  | named whole _ _ => exact whole ▸ asciiName

/-- In lower case the name of the function is the word of the method followed by what the remainder
has in letters and digits. -/
theorem lower (parts : Parts verb operation beginning remainder)
    (asciiName : Ascii operation.toList) :
    (lowerCamel (String.ofList (beginning ++ remainder))).toList.map Char.toLower =
      verb.word.toList.map Char.toLower ++
        (remainder.filter Char.isAlphanum).map Char.toLower := by
  have asciiParts := parts.ascii asciiName
  have same : (beginning ++ remainder).filter isLetterOrNumeral =
      (beginning ++ remainder).filter Char.isAlphanum :=
    List.filter_congr fun c member => isLetterOrNumeral_of_ascii (asciiParts c member)
  have whole : beginning.filter Char.isAlphanum = beginning := by
    refine List.filter_eq_self.mpr ?_
    intro c member
    simp [Char.isAlphanum, parts.letters c member]
  rw [map_toLower_lowerCamel (by rwa [String.toList_ofList]), String.toList_ofList, same,
    List.filter_append, List.map_append, whole, parts.word]

end Parts

/-- Of the reserved words only that of the method DELETE begins with the word of a method, and it
ends with it. -/
theorem eq_delete_of_reserved {verb : Verb} {name : String} {rest : List Char}
    (known : name ∈ reserved)
    (begins : name.toList.map Char.toLower = verb.word.toList.map Char.toLower ++ rest) :
    verb = .delete ∧ name = "delete" ∧ rest = [] := by
  have table : ∀ word ∈ reserved,
      dropStart? (verb.word.toList.map Char.toLower) (word.toList.map Char.toLower) = none ∨
        (verb = .delete ∧ word = "delete") := by
    cases verb <;> decide +kernel
  have found := dropStart?_eq_some.mpr begins
  rcases table name known with none | ⟨rfl, rfl⟩
  · rw [none] at found
    exact absurd found (Option.some_ne_none rest).symm
  · have ends : dropStart? (Verb.delete.word.toList.map Char.toLower)
        ("delete".toList.map Char.toLower) = some [] := by
      decide +kernel
    exact ⟨rfl, rfl, Option.some.inj (found.symm.trans ends)⟩

/-- The name of a function begins with a letter and goes on with letters and digits. -/
theorem function_letters (verb : Verb) {operation : String} (ascii : Ascii operation.toList) :
    ∃ first rest, (function verb operation).toList = first :: rest ∧ first.isAlpha = true ∧
      ∀ c ∈ rest, c.isAlphanum = true := by
  obtain ⟨beginning, remainder, parts, named⟩ := exists_parts verb operation
  have lower := parts.lower ascii
  rw [← named] at lower
  have letters : ∀ c ∈ (function verb operation).toList, c.isAlphanum = true := by
    intro c member
    rw [← isAlphanum_toLower]
    have inLower : c.toLower ∈ (function verb operation).toList.map Char.toLower :=
      List.mem_map_of_mem member
    rw [lower, ← parts.word] at inLower
    rcases List.mem_append.mp inLower with inWord | inRest
    · obtain ⟨d, inBeginning, same⟩ := List.mem_map.mp inWord
      rw [← same, Char.isAlphanum, Char.isAlpha_toLower_eq_isAlpha, parts.letters d inBeginning,
        Bool.true_or]
    · obtain ⟨d, inRemainder, same⟩ := List.mem_map.mp inRest
      rw [← same, isAlphanum_toLower]
      exact (List.mem_filter.mp inRemainder).2
  obtain ⟨c, others, word, letter⟩ : ∃ c others,
      verb.word.toList.map Char.toLower = c :: others ∧ c.isAlpha = true := by
    cases verb <;> exact ⟨_, _, rfl, by decide⟩
  rw [word, List.cons_append] at lower
  obtain ⟨first, rest, whole, same, _⟩ := List.map_eq_cons_iff.mp lower
  rw [whole] at letters
  obtain ⟨_, later⟩ := List.forall_mem_cons.mp letters
  refine ⟨first, rest, whole, ?_, later⟩
  rw [← Char.isAlpha_toLower_eq_isAlpha, same]
  exact letter

/-- Of the spellings of the word of the method DELETE three give a function of that name. -/
theorem delete_of_spelling {operation : String}
    (spelled : operation.toList ∈ spellings "delete".toList)
    (delete : function .delete operation = "delete") :
    operation ∈ ["delete", "Delete", "DELETE"] := by
  have table : ∀ spelling ∈ spellings "delete".toList,
      function .delete (String.ofList spelling) = "delete" →
        String.ofList spelling ∈ ["delete", "Delete", "DELETE"] := by
    decide +kernel
  simpa [delete] using table operation.toList spelled

/-- An operation whose function is named by the method DELETE alone adds nothing to it. -/
theorem addsNothing_of_function_delete {operation : String} (ascii : Ascii operation.toList)
    (delete : function .delete operation = "delete") : AddsNothingToDelete operation := by
  obtain ⟨beginning, remainder, parts, named⟩ := exists_parts .delete operation
  have lower := parts.lower ascii
  rw [← named, delete] at lower
  obtain ⟨-, -, none⟩ := eq_delete_of_reserved (by decide) lower
  have bare : ∀ c ∈ remainder, c.isAlphanum = false := by
    simpa using none
  cases parts with
  | joined => exact .inr bare
  | named whole word ends =>
      have nothing : remainder = [] := by
        cases remainder with
        | nil => rfl
        | cons c rest =>
            have letter := ends c rfl
            rw [bare c List.mem_cons_self] at letter
            exact absurd letter Bool.false_ne_true
      refine .inl (delete_of_spelling (mem_spellings ?_) delete)
      rw [whole, nothing, List.append_nil, word]
      decide

/-- An operation that adds nothing to the method DELETE has a function named by it alone. -/
theorem function_delete_of_addsNothing {operation : String} (ascii : Ascii operation.toList)
    (nothing : AddsNothingToDelete operation) : function .delete operation = "delete" := by
  rcases nothing with known | bare
  · have table : ∀ name ∈ ["delete", "Delete", "DELETE"], function .delete name = "delete" := by
      decide +kernel
    exact table operation known
  · obtain ⟨beginning, remainder, parts, named⟩ := exists_parts .delete operation
    cases parts with
    | joined =>
        have separators : ∀ c ∈ operation.toList, isLetterOrNumeral c = false := by
          intro c member
          rw [isLetterOrNumeral_of_ascii (ascii c member), bare c member]
        have letters : ∀ c ∈ Verb.delete.word.toList, isLetterOrNumeral c = true :=
          List.all_eq_true.mp (by decide)
        rw [named, lowerCamel, String.toList_ofList, words_append_separators letters separators]
        decide +kernel
    | named whole word ends =>
        -- The word of the method is among the letters of such an operation.
        have letters := (Parts.named whole word ends).letters
        cases beginning with
        | nil => exact absurd word (by decide)
        | cons c others =>
            have letter := bare c (by simp [whole])
            rw [Char.isAlphanum, letters c List.mem_cons_self, Bool.true_or] at letter
            exact absurd letter.symm Bool.false_ne_true

/-- The name of a function is legal unless its operation adds nothing to the method DELETE. -/
theorem isFunctionName_iff (verb : Verb) {operation : String} (ascii : Ascii operation.toList) :
    IsFunctionName (function verb operation) ↔
      ¬(verb = .delete ∧ AddsNothingToDelete operation) := by
  obtain ⟨first, rest, whole, letter, others⟩ := function_letters verb ascii
  have formed : ∃ first rest, (function verb operation).toList = first :: rest ∧
      (first.isAlpha = true ∨ first = '_') ∧
        ∀ c ∈ rest, startsIdentifier c = true ∨ c.isDigit = true := by
    refine ⟨first, rest, whole, .inl letter, ?_⟩
    intro c member
    rcases Bool.or_eq_true_iff.mp (others c member) with alpha | digit
    · exact .inl (by simp [startsIdentifier, alpha])
    · exact .inr digit
  have free : function verb operation ∉ reserved ↔
      ¬(verb = .delete ∧ AddsNothingToDelete operation) := by
    rw [not_iff_not]
    constructor
    · intro known
      obtain ⟨beginning, remainder, parts, named⟩ := exists_parts verb operation
      obtain ⟨rfl, delete, -⟩ := eq_delete_of_reserved known (named ▸ parts.lower ascii)
      exact ⟨rfl, addsNothing_of_function_delete ascii delete⟩
    · rintro ⟨rfl, nothing⟩
      rw [function_delete_of_addsNothing ascii nothing]
      decide
  rw [IsFunctionName, and_iff_right formed, free]

end Name

/-- The files of client functions and of their server variants declare each endpoint of a group
under the name of its function, and this name is legal unless the operation adds nothing to the
method DELETE. -/
theorem emitted_function_name_legal_iff (context : Context) {group : EndpointGroup}
    {endpoint : Endpoint} (member : endpoint ∈ group.endpoints)
    (ascii : Ascii endpoint.operation.toList) :
    let name := (ClientFunction.ofEndpoint context endpoint).name
    (∃ line ∈ (group.clientArtifact context).module.body, DeclaresExport line name) ∧
      (∃ line ∈ (group.serverArtifact context).module.body, DeclaresExport line name) ∧
      (Name.IsFunctionName name ↔
        ¬(endpoint.verb = .delete ∧ Name.AddsNothingToDelete endpoint.operation)) := by
  intro name
  have inGroup : ClientFunction.ofEndpoint context endpoint ∈ group.functions context :=
    List.mem_map_of_mem member
  have named : name = Name.function endpoint.verb endpoint.operation := by
    simp only [name, ClientFunction.ofEndpoint]
  refine ⟨?client, ?server, ?legal⟩
  case client =>
    obtain ⟨opening, declaration, exported⟩ :=
      declares_function context (ClientFunction.ofEndpoint context endpoint)
    exact ⟨opening, mem_intercalate (List.mem_map_of_mem inGroup) declaration.opening_mem, exported⟩
  case server =>
    obtain ⟨opening, declaration, exported⟩ :=
      declares_server (ClientFunction.ofEndpoint context endpoint)
    exact ⟨opening, mem_intercalate (List.mem_map_of_mem inGroup) declaration.opening_mem, exported⟩
  case legal =>
    rw [named]
    exact Name.isFunctionName_iff endpoint.verb ascii

/-- A group of two operations of the method DELETE, of which one is named by the method alone. -/
def deletingGroup : EndpointGroup :=
  { name := "Orders"
    endpoints := [
      { verb := .delete, route := "/api/orders/{id}", container := "OrdersController",
        operation := "DeleteOrder", group := "Orders", requiresAuth := false, style := .attached },
      { verb := .delete, route := "/api/orders", container := "OrdersController",
        operation := "Delete", group := "Orders", requiresAuth := false, style := .attached }] }

/-- The first of the operations has a function with a legal name. -/
theorem deleteOrder_has_legal_name :
    (∃ line ∈ (deletingGroup.clientArtifact default).module.body,
      DeclaresExport line "deleteOrder") ∧ Name.IsFunctionName "deleteOrder" := by
  have named : (ClientFunction.ofEndpoint default deletingGroup.endpoints[0]).name =
      "deleteOrder" := by
    decide +kernel
  have member : deletingGroup.endpoints[0] ∈ deletingGroup.endpoints := List.getElem_mem _
  obtain ⟨client, -, legal⟩ := emitted_function_name_legal_iff default member (by decide)
  rw [named] at client legal
  refine ⟨client, legal.mpr ?_⟩
  rintro ⟨-, word | bare⟩
  · revert word
    decide
  · exact absurd (bare 'D' (by decide)) (by decide)

/-- The second operation has a function with the reserved word for a name. -/
theorem delete_has_reserved_name :
    "export async function delete(): Promise<void> \x7b" ∈
        (deletingGroup.clientArtifact default).module.body ∧
      ¬Name.IsFunctionName "delete" := by
  refine ⟨by decide +kernel, ?_⟩
  rintro ⟨-, free⟩
  exact free (by decide)

end TypedClient
