/-
This file shows what the text of a generated file holds: the declarations of the names that it
exports, and no statement among them that imports a module or exports one again.
-/

import TypedClient.Proofs.ClientFiles
import TypedClient.Proofs.DraftLines

namespace TypedClient

open Text

/-- The beginnings of the lines that export a declaration. -/
def exportKeywords : List String :=
  ["export async function ", "export function ", "export interface ", "export enum ",
    "export type ", "export const ", "export class "]

/-- The signs that may follow a declared name. -/
def nameEnds : List String := ["(", "<", " "]

/-- A line exports a declaration of a name; the sign behind the name is not part of it. -/
def DeclaresExport (line name : String) : Prop :=
  ∃ keyword ∈ exportKeywords, ∃ sign ∈ nameEnds,
    startsWith (keyword ++ name ++ sign).toList line.toList = true

instance (line name : String) : Decidable (DeclaresExport line name) :=
  inferInstanceAs (Decidable (∃ keyword ∈ exportKeywords, _))

/-- A line is an import statement or exports another module again. -/
def IsStatement (line : String) : Prop :=
  startsWith "import ".toList line.toList = true ∨ startsWith "export *".toList line.toList = true

instance (line : String) : Decidable (IsStatement line) :=
  inferInstanceAs (Decidable (_ ∨ _))

/-- A word stands in front of a text exactly where the text goes on from it. -/
theorem Text.startsWith_iff {expected cs : List Char} :
    startsWith expected cs = true ↔ ∃ rest, cs = expected ++ rest := by
  simp only [startsWith, Option.isSome_iff_exists, dropStart?_eq_some]

/-- A line that begins with neither letter is no statement. -/
theorem not_isStatement_of_head {line : String} (notImport : line.toList.head? ≠ some 'i')
    (notExport : line.toList.head? ≠ some 'e') : ¬IsStatement line := by
  rintro (starts | starts)
  · obtain ⟨rest, same⟩ := startsWith_iff.mp starts
    exact notImport (by rw [same]; rfl)
  · obtain ⟨rest, same⟩ := startsWith_iff.mp starts
    exact notExport (by rw [same]; rfl)

theorem not_isStatement_empty : ¬IsStatement "" := by
  decide

/-- A line that is given by its characters is no statement where these begin differently. -/
theorem not_isStatement_ofList {cs : List Char}
    (notImport : startsWith ['i', 'm', 'p', 'o', 'r', 't', ' '] cs = false)
    (notExport : startsWith ['e', 'x', 'p', 'o', 'r', 't', ' ', '*'] cs = false) :
    ¬IsStatement (String.ofList cs) := by
  rintro (starts | starts)
  · rw [String.toList_ofList, String.toList_ofList] at starts
    exact absurd (starts.symm.trans notImport) (by decide)
  · rw [String.toList_ofList, String.toList_ofList] at starts
    exact absurd (starts.symm.trans notExport) (by decide)

/-- A line whose beginning differs from those of statements is none. -/
theorem not_isStatement_of_front {front : String}
    (differs : ∀ word ∈ ["import ", "export *"], startsWith word.toList front.toList = false ∧
      startsWith front.toList word.toList = false) (behind : String) :
    ¬IsStatement (front ++ behind) := by
  have apart : ∀ word ∈ ["import ", "export *"],
      startsWith word.toList (front ++ behind).toList ≠ true := by
    intro word member starts
    obtain ⟨longer, shorter⟩ := differs word member
    obtain ⟨rest, same⟩ := startsWith_iff.mp starts
    rw [String.toList_append] at same
    rcases List.append_eq_append_iff.mp same with ⟨more, whole, _⟩ | ⟨more, whole, _⟩
    · rw [startsWith_iff.mpr ⟨more, whole⟩] at shorter
      contradiction
    · rw [startsWith_iff.mpr ⟨more, whole⟩] at longer
      contradiction
  rintro (starts | starts)
  · exact apart "import " (by simp) starts
  · exact apart "export *" (by simp) starts

theorem not_isStatement_of_keyword {keyword : String} (known : keyword ∈ exportKeywords)
    (behind : String) : ¬IsStatement (keyword ++ behind) := by
  refine not_isStatement_of_front ?_ behind
  revert keyword
  decide

theorem declaresExport_of_parts {line name : String} (keyword sign rest : String)
    (whole : line = keyword ++ name ++ (sign ++ rest))
    (known : keyword ∈ exportKeywords := by decide) (ends : sign ∈ nameEnds := by decide) :
    DeclaresExport line name := by
  refine ⟨keyword, known, sign, ends, startsWith_iff.mpr ⟨rest.toList, ?_⟩⟩
  rw [whole]
  simp

theorem DeclaresExport.not_isStatement {line name : String} (exported : DeclaresExport line name) :
    ¬IsStatement line := by
  obtain ⟨keyword, known, sign, _, starts⟩ := exported
  obtain ⟨rest, letters⟩ := startsWith_iff.mp starts
  have whole : line = keyword ++ (name ++ sign ++ String.ofList rest) := by
    rw [← String.toList_inj, letters]
    simp
  rw [whole]
  exact not_isStatement_of_keyword known _

namespace Draft

/-- A line inside a block is no statement. -/
theorem Deep.not_isStatement {line : String} (deep : Deep 1 line) : ¬IsStatement line := by
  obtain ⟨deeper, text, positive, rfl⟩ := deep
  obtain ⟨level, rfl⟩ := Nat.exists_eq_succ_of_ne_zero (Nat.ne_of_gt positive)
  have head : (indented (level + 1) text).toList.head? = none ∨
      (indented (level + 1) text).toList.head? = some ' ' := by
    unfold indented
    split
    · exact .inl rfl
    · refine .inr ?_
      rw [Nat.mul_succ, List.replicate_succ]
      simp
  apply not_isStatement_of_head
  · rcases head with none | blank <;> simp_all
  · rcases head with none | blank <;> simp_all

theorem not_isStatement_of_mem_commentLines {summary : Option String} :
    ∀ line ∈ commentLines summary, ¬IsStatement line := by
  simp only [commentLines]
  split
  · simp
  · split
    · rename_i single _
      intro line member
      rw [List.mem_singleton.mp member, String.append_assoc]
      exact not_isStatement_of_front (by decide) _
    · intro line member
      simp only [List.cons_append, List.mem_cons, List.mem_append, List.mem_map,
        List.not_mem_nil, or_false] at member
      rcases member with rfl | ⟨text, _, rfl⟩ | rfl
      · exact not_isStatement_of_head (by decide) (by decide)
      · split
        · exact not_isStatement_of_head (by decide) (by decide)
        · exact not_isStatement_of_front (by decide) _
      · exact not_isStatement_of_head (by decide) (by decide)

theorem IsDeclaration.not_isStatement {opening : String} {lines : List String}
    (declaration : IsDeclaration opening lines) (plain : ¬IsStatement opening) :
    ∀ line ∈ lines, ¬IsStatement line := by
  obtain ⟨summary, inner, rfl, deep⟩ := declaration
  intro line member
  rcases List.mem_append.mp member with inComment | behind
  · exact not_isStatement_of_mem_commentLines line inComment
  · rcases List.mem_cons.mp behind with rfl | inInner
    · exact plain
    · rcases deep line inInner with deeper | rfl
      · exact deeper.not_isStatement
      · exact not_isStatement_of_head (by decide) (by decide)

theorem IsDeclaration.opening_mem {opening : String} {lines : List String}
    (declaration : IsDeclaration opening lines) : opening ∈ lines := by
  obtain ⟨summary, inner, rfl, _⟩ := declaration
  exact List.mem_append_right _ List.mem_cons_self

end Draft

section Declarations

open Draft

theorem Draft.Extends.commentedLine (draft : Draft) (summary : Option String) (text : String) :
    Extends draft ((draft.comment summary).line text) :=
  (Extends.comment draft summary).trans (Extends.line _ text)

/-- Lines declare a name and export it. -/
def Declares (lines : List String) (name : String) : Prop :=
  ∃ opening, IsDeclaration opening lines ∧ DeclaresExport opening name

theorem declares_enum (type : SourceType) : Declares (Declaration.enumLines type) type.name :=
  ⟨_, isDeclaration_closeBlock (Extends.foldl (fun draft _ => .commentedLine draft _ _) _ _),
    declaresExport_of_parts "export enum " " " "\x7b" rfl⟩

theorem declares_interface (context : Context) (type : SourceType) :
    Declares (Declaration.interfaceLines context type) type.name := by
  refine ⟨_, isDeclaration_closeBlock
    (Extends.foldl (fun draft _ => .commentedLine draft _ _) _ _), ?_⟩
  unfold Declaration.header
  split
  · exact declaresExport_of_parts "export interface " " " "\x7b" rfl
  · refine declaresExport_of_parts "export interface " "<"
      (", ".intercalate type.parameterNames ++ (">" ++ " \x7b")) ?_
    simp only [String.append_assoc]

theorem declaresExport_opening (function : ClientFunction) :
    DeclaresExport function.opening function.name := by
  refine declaresExport_of_parts "export async function " "("
    (function.parameterList ++ ("): Promise<" ++ (function.returns.text ++ "> \x7b"))) ?_
  unfold ClientFunction.opening
  simp only [String.append_assoc]

theorem declares_function (context : Context) (function : ClientFunction) :
    Declares (function.lines context) function.name := by
  let opened := (comment {} function.endpoint.summary).openBlock function.opening
  let checks := ((function.requestCheck? context).map ClientFunction.RequestCheck.line).toList ++
    function.formLines
  have checked : Extends opened (opened.addLines checks) := .addLines opened checks
  exact ⟨_, isDeclaration_closeBlock
    (checked.trans ((Extends.addLines _ function.requestLines).block "\x7d);")),
    declaresExport_opening function⟩

theorem declares_server (function : ClientFunction) :
    Declares function.serverLines function.name :=
  ⟨_, isDeclaration_closeBlock (Extends.line _ _), declaresExport_opening function⟩

theorem declares_hook (framework : Framework) (groupStem : String) (function : ClientFunction) :
    Declares (function.hookLines framework groupStem) (Name.hook function.name) := by
  have made (parameters factory : String) (options : List String) :
      Declares (function.factoryLines parameters factory options) (Name.hook function.name) := by
    refine ⟨_, isDeclaration_closeBlock ((Extends.addLines _ options).block "\x7d);"),
      declaresExport_of_parts "export function " "(" (parameters ++ ") \x7b") ?_⟩
    simp only [String.append_assoc]
  unfold ClientFunction.hookLines
  split
  · exact made _ _ _
  · exact made _ _ _

mutual

theorem extends_draw (draft : Draft) : (entry : SchemaEntry) → Extends draft (entry.draw draft)
  | .remark subject => by
    rw [SchemaEntry.draw]
    exact .line draft _
  | .check key type expression => by
    rw [SchemaEntry.draw]
    exact .line draft _
  | .object key absence entries => by
    rw [SchemaEntry.draw]
    exact (((extends_drawAll _ entries).block "\x7d)").trans (.line _ _)).dedent

theorem extends_drawAll (draft : Draft) :
    (entries : List SchemaEntry) → Extends draft (SchemaEntry.drawAll draft entries)
  | [] => by
    rw [SchemaEntry.drawAll]
    exact .refl draft
  | entry :: rest => by
    rw [SchemaEntry.drawAll]
    exact (extends_draw draft entry).trans (extends_drawAll _ rest)

end

theorem declares_schema (context : Context) (typeName : String) :
    Declares (Schema.lines context typeName) (Name.schema typeName) := by
  let opened := (comment {} none).openBlock ("export const " ++ Name.schema typeName ++ " = z")
  have inner : Extends opened _ := ((extends_drawAll (opened.openBlock ".object(\x7b")
    (Schema.entriesFor context typeName)).block "\x7d)").trans (.line _ ".passthrough();")
  exact ⟨_, isDeclaration_dedent inner,
    declaresExport_of_parts "export const " " " "= z" rfl⟩

end Declarations

/-- The text of a module says what the module exports and imports: each exported name is declared in
its own line, and no other line than those of its statements is one. -/
structure ClientModule.Truthful (module : ClientModule) : Prop where
  exported : ∀ name ∈ module.exports, ∃ line ∈ module.body, DeclaresExport line name
  plain : ∀ line ∈ module.body, ¬IsStatement line
  directive : ∀ line ∈ module.directive, ¬IsStatement line

/-- A module of declarations with an empty line between them is truthful. -/
theorem truthful_of_declares {Element : Type} {elements : List Element}
    {lines : Element → List String} {name : Element → String} {module : ClientModule}
    (declared : ∀ element ∈ elements, Declares (lines element) (name element))
    (exports : module.exports = elements.map name)
    (body : module.body = EndpointGroup.separated (elements.map lines))
    (directive : ∀ line ∈ module.directive, ¬IsStatement line) : module.Truthful where
  exported := by
    rw [exports, body]
    intro exportedName member
    obtain ⟨element, inElements, rfl⟩ := List.mem_map.mp member
    obtain ⟨opening, declaration, exported⟩ := declared element inElements
    exact ⟨opening, mem_intercalate (List.mem_map_of_mem inElements) declaration.opening_mem,
      exported⟩
  plain := by
    rw [body]
    refine forall_mem_intercalate (by decide) ?_
    intro piece member
    obtain ⟨element, inElements, rfl⟩ := List.mem_map.mp member
    obtain ⟨opening, declaration, exported⟩ := declared element inElements
    exact declaration.not_isStatement exported.not_isStatement
  directive := directive

theorem truthful_of_declaration {lines : List String} {name : String} {module : ClientModule}
    (declared : Declares lines name) (exports : module.exports = [name])
    (body : module.body = lines) (directive : module.directive = none) : module.Truthful := by
  have only : module.body = EndpointGroup.separated ([()].map fun _ => lines) := by
    simpa [EndpointGroup.separated] using body
  have named : module.exports = [()].map fun _ => name := exports
  exact truthful_of_declares (fun _ _ => declared) named only (by simp [directive])

/-- A module that only exports others again is truthful. -/
theorem truthful_of_reExports (reExports : List ReExport) :
    ClientModule.Truthful { reExports } where
  exported := by simp
  plain := by simp
  directive := by simp

/-- The module that sends requests is truthful. -/
theorem truthful_sender (baseUrl : String) :
    (SupportModule.clientArtifact baseUrl).module.Truthful where
  exported := by
    have written {line : String} (member : line ∈ SupportModule.linesBeforeAddress ∨
        line ∈ SupportModule.linesBehindAddress) :
        line ∈ (SupportModule.clientArtifact baseUrl).module.body := by
      rcases member with before | behind
      · exact List.mem_append_left _ (List.mem_append_left _ before)
      · exact List.mem_append_right _ behind
    simp only [SupportModule.clientArtifact, List.forall_mem_cons]
    refine ⟨?config, ?configure, ?error, ?options, ?fetch, List.forall_mem_nil _⟩
    case config =>
      exact ⟨"export interface ClientConfig \x7b",
        written (.inl (by simp [SupportModule.linesBeforeAddress])),
        declaresExport_of_parts "export interface " " " "\x7b" rfl⟩
    case configure =>
      exact ⟨"export function configureClient(options: Partial<ClientConfig>): void \x7b",
        written (.inr (by simp [SupportModule.linesBehindAddress])),
        declaresExport_of_parts "export function " "("
          "options: Partial<ClientConfig>): void \x7b" rfl⟩
    case error =>
      exact ⟨"export class ApiError extends Error \x7b",
        written (.inr (by simp [SupportModule.linesBehindAddress])),
        declaresExport_of_parts "export class " " " "extends Error \x7b" rfl⟩
    case options =>
      exact ⟨"export interface RequestOptions \x7b",
        written (.inr (by simp [SupportModule.linesBehindAddress])),
        declaresExport_of_parts "export interface " " " "\x7b" rfl⟩
    case fetch =>
      exact ⟨
        "export async function apiFetch<T>(path: string, options: RequestOptions): Promise<T> \x7b",
        written (.inr (by simp [SupportModule.linesBehindAddress])),
        declaresExport_of_parts "export async function " "<"
          "T>(path: string, options: RequestOptions): Promise<T> \x7b" rfl⟩
  plain := by
    have before : ∀ line ∈ SupportModule.linesBeforeAddress, ¬IsStatement line := by
      unfold SupportModule.linesBeforeAddress
      repeat refine List.forall_mem_cons.mpr ⟨not_isStatement_ofList rfl rfl, ?_⟩
      exact List.forall_mem_nil _
    have behind : ∀ line ∈ SupportModule.linesBehindAddress, ¬IsStatement line := by
      unfold SupportModule.linesBehindAddress
      repeat refine List.forall_mem_cons.mpr ⟨not_isStatement_ofList rfl rfl, ?_⟩
      exact List.forall_mem_nil _
    have address : ¬IsStatement ("  baseUrl: " ++ Name.quote baseUrl ++ ",") := by
      rw [String.append_assoc]
      exact not_isStatement_of_front (by decide) _
    simp only [SupportModule.clientArtifact, List.forall_mem_append, List.forall_mem_singleton]
    exact ⟨⟨before, address⟩, behind⟩
  directive := by
    simp [SupportModule.clientArtifact]

theorem truthful_outcome : SupportModule.outcomeArtifact.module.Truthful where
  exported := by
    simp only [SupportModule.outcomeArtifact, List.forall_mem_cons]
    refine ⟨?error, ?result, List.forall_mem_nil _⟩
    case error =>
      exact ⟨"export interface ResultError \x7b", by simp [SupportModule.outcomeLines],
        declaresExport_of_parts "export interface " " " "\x7b" rfl⟩
    case result =>
      exact ⟨"export type Result<T> =", by simp [SupportModule.outcomeLines],
        declaresExport_of_parts "export type " "<" "T> =" rfl⟩
  plain := by
    change ∀ line ∈ SupportModule.outcomeLines, ¬IsStatement line
    unfold SupportModule.outcomeLines
    repeat refine List.forall_mem_cons.mpr ⟨not_isStatement_ofList rfl rfl, ?_⟩
    exact List.forall_mem_nil _
  directive := by
    simp [SupportModule.outcomeArtifact]

theorem FileOf.truthful {context : Context} {artifact : Artifact} (file : FileOf context artifact) :
    artifact.module.Truthful := by
  cases file with
  | declaration declared =>
      unfold Declaration.artifact
      split
      · exact truthful_of_declaration (declares_enum _) rfl rfl rfl
      · exact truthful_of_declaration (declares_interface context _) rfl rfl rfl
  | functions grouped =>
      exact truthful_of_declares (fun function _ => declares_function context function) rfl rfl
        (by simp [EndpointGroup.clientArtifact])
  | hooks grouped wanted made =>
      obtain ⟨package, _, rfl⟩ := Option.map_eq_some_iff.mp made
      refine truthful_of_declares (fun function _ => declares_hook _ _ function) rfl rfl ?_
      intro line member
      split at member
      · cases member
        decide
      · contradiction
  | server grouped wanted =>
      refine truthful_of_declares (fun function _ => declares_server function) rfl rfl ?_
      intro line member
      change line ∈ (EndpointGroup.serverGuard context.options.framework).1 at member
      unfold EndpointGroup.serverGuard at member
      split at member
      · cases member
        decide
      · contradiction
  | schema wanted made =>
      obtain ⟨_, rfl⟩ := Package.schema_eq_some.mp made
      exact truthful_of_declaration (declares_schema context _) rfl rfl rfl
  | sender => exact truthful_sender _
  | outcome => exact truthful_outcome
  | directoryIndex populated => exact truthful_of_reExports _
  | rootIndex => exact truthful_of_reExports _

end TypedClient
