/-
This file shows when the parameters of a client function have clear identifiers: different from one
another, from the function that sends requests, and from the variable that holds a form.
-/

import TypedClient.Proofs.CamelCase
import TypedClient.Proofs.CheckedBody

namespace TypedClient

open Text

namespace Name

/-- Without its underscores an identifier is the name in camel case. -/
theorem filter_identifier (name : String) :
    (identifier name).toList.filter (· != '_') = (lowerCamel name).toList := by
  have kept : (lowerCamel name).toList.filter (· != '_') = (lowerCamel name).toList := by
    refine List.filter_eq_self.mpr fun c member => ?_
    have noSign := not_isSign_of_mem_lowerCamel c member
    simp only [bne_iff_ne, ne_eq]
    rintro rfl
    exact noSign (by decide)
  simp only [identifier]
  split <;> split <;> simp [kept]

theorem identifier_eq_iff {first second : String} :
    identifier first = identifier second ↔ lowerCamel first = lowerCamel second := by
  constructor
  · intro same
    rw [← String.toList_inj, ← filter_identifier, ← filter_identifier, same]
  · intro same
    rw [identifier, identifier, same]

/-- A name has the identifier of a name that is in camel case already exactly if it is that name in
camel case. -/
theorem identifier_eq_iff_of_camel {name word : String} (camel : lowerCamel word = word)
    (kept : identifier word = word) : identifier name = word ↔ lowerCamel name = word := by
  constructor
  · intro same
    rw [← camel, ← identifier_eq_iff, same, kept]
  · intro same
    rw [← kept, identifier_eq_iff, same, camel]

end Name

namespace Binding

def tokenNames (route : String) : List String :=
  (Route.tokens route).map fun token => lowerAscii token.name

/-- The places of the parameters of a handler that a client has to give, with their names there. -/
def places (route : String) (parameters : List MethodParameter) :
    List (ParameterPlace × String) :=
  (given parameters).map (place (tokenNames route))

/-- The names that give arguments their identifiers: those of the tokens of the route, and those of
the parameters that do not travel in the route. -/
def argumentNames (route : String) (parameters : List MethodParameter) : List String :=
  (Route.tokens route).map RouteToken.name ++
    ((places route parameters).filter fun bound => bound.1 != .route).map Prod.snd

/-- The names of arguments differ in camel case from one another, from the function that sends
requests and, if there is a form, from the variable that holds it. -/
structure HasClearNames (route : String) (parameters : List MethodParameter) : Prop where
  distinct : (argumentNames route parameters).Pairwise fun first second =>
    lowerCamel first ≠ lowerCamel second
  unimported : ∀ name ∈ argumentNames route parameters, lowerCamel name ≠ "apiFetch"
  undeclared : (∃ bound ∈ places route parameters, bound.1 = .form) →
    ∀ name ∈ argumentNames route parameters, lowerCamel name ≠ "form"

end Binding

/-- The parameters of an operation are bound to the places that follow from its handler. -/
theorem Endpoint.Binds.places {endpoint : Endpoint} {given : List MethodParameter}
    (binds : endpoint.Binds given) (enums : List String) :
    (Assembly.markEndpoint enums endpoint).parameters.map
        (fun parameter => (parameter.place, parameter.name)) =
      Binding.places endpoint.route given := by
  simp only [Assembly.markEndpoint, binds.parameters, Binding.bind, List.map_map]
  rfl

namespace ClientFunction

def identifiers (function : ClientFunction) : List String :=
  function.arguments.map Argument.identifier

/-- The identifiers of the arguments differ from one another, from the function that sends
requests and from the variable that the function declares, if it makes a form. -/
structure HasClearIdentifiers (function : ClientFunction) : Prop where
  distinct : function.identifiers.Nodup
  unimported : "apiFetch" ∉ function.identifiers
  undeclared : formLine ∈ function.formLines → "form" ∉ function.identifiers

section Handler

variable {endpoint : Endpoint} {given : List MethodParameter}

theorem perm_identifiers (context : Context) (enums : List String)
    (binds : endpoint.Binds given) :
    (ofEndpoint context (Assembly.markEndpoint enums endpoint)).identifiers.Perm
      ((Binding.argumentNames endpoint.route given).map Name.identifier) := by
  refine ((perm_arguments _ _).map _).trans (List.Perm.of_eq ?_)
  rw [declaredArguments, Binding.argumentNames, ← binds.places enums]
  simp [List.filter_map, Function.comp_def, routeArgument, parameterArgument,
    Assembly.markEndpoint]

/-- A function makes a form exactly if some parameter of its handler travels in a form. -/
theorem makesForm_iff (context : Context) (enums : List String) (binds : endpoint.Binds given) :
    formLine ∈ (ofEndpoint context (Assembly.markEndpoint enums endpoint)).formLines ↔
      ∃ bound ∈ Binding.places endpoint.route given, bound.1 = .form := by
  rw [formLine_mem_formLines, ne_eq, argumentsAt_eq_nil_iff (by decide), ← binds.places enums]
  simp [Endpoint.parametersAt]

end Handler

end ClientFunction

open ClientFunction

/-- The arguments of a client function have clear identifiers exactly if the names that the handler
and the route give them are clear. -/
theorem clear_identifiers_iff (context : Context) (enums : List String) {endpoint : Endpoint}
    {given : List MethodParameter} (binds : endpoint.Binds given) :
    (ofEndpoint context (Assembly.markEndpoint enums endpoint)).HasClearIdentifiers ↔
      Binding.HasClearNames endpoint.route given := by
  have identifiers := perm_identifiers context enums binds
  have form := makesForm_iff context enums binds
  have distinct : (ofEndpoint context (Assembly.markEndpoint enums endpoint)).identifiers.Nodup ↔
      (Binding.argumentNames endpoint.route given).Pairwise fun first second =>
        lowerCamel first ≠ lowerCamel second := by
    rw [identifiers.nodup_iff, List.Nodup, List.pairwise_map]
    simp only [ne_eq, Name.identifier_eq_iff]
  have absent {word : String} (camel : lowerCamel word = word)
      (kept : Name.identifier word = word) :
      word ∉ (ofEndpoint context (Assembly.markEndpoint enums endpoint)).identifiers ↔
        ∀ name ∈ Binding.argumentNames endpoint.route given, lowerCamel name ≠ word := by
    simp [identifiers.mem_iff, Name.identifier_eq_iff_of_camel camel kept]
  have imported := @absent "apiFetch" (by decide) (by decide)
  have declared := @absent "form" (by decide) (by decide)
  constructor
  · intro clear
    exact ⟨distinct.mp clear.distinct, imported.mp clear.unimported,
      fun bound => declared.mp (clear.undeclared (form.mpr bound))⟩
  · intro clear
    exact ⟨distinct.mpr clear.distinct, imported.mpr clear.unimported,
      fun made => declared.mpr (clear.undeclared (form.mp made))⟩

/-- A method that takes a folder in its route and further parameters. -/
def uploadSite (parameters : List MethodParameter) : DeclarationSite where
  file := {}
  container :=
    { name := "FilesController"
      decorations := [{ name := "ExportClient" }] }
  method :=
    { name := "Upload"
      decorations := [{ name := "HttpPost", arguments := [⟨none, "\"files/\x7bfolder\x7d\""⟩] }]
      parameters := { name := "folder", type := .reference "string" } :: parameters }

/-- The operation that the method declares. -/
def upload (parameters : List MethodParameter) : Endpoint :=
  Assembly.markEndpoint [] ((Attached.endpoints (uploadSite parameters)).headD default)

/-- What the client of the operation depends on. -/
def uploadContext (parameters : List MethodParameter) : Context :=
  Context.ofContract
    { endpoints := [upload parameters], types := [.definition "Details" none [] [] none] } [] {}

def fileParameter (name : String) : MethodParameter :=
  { name, type := .reference "IFormFile" }

theorem binds_uploadSite (parameters : List MethodParameter) :
    ((Attached.endpoints (uploadSite parameters)).headD default).Binds
      (uploadSite parameters).method.parameters := by
  have single : ∃ endpoint, Attached.endpoints (uploadSite parameters) = [endpoint] := ⟨_, rfl⟩
  obtain ⟨endpoint, endpoints⟩ := single
  apply Endpoint.Binds.attached
  rw [endpoints]
  exact List.mem_singleton_self endpoint

/-- The function that uploads a document has clear identifiers. -/
theorem document_is_clear :
    (ofEndpoint (uploadContext [fileParameter "document"])
      (upload [fileParameter "document"])).HasClearIdentifiers := by
  refine (clear_identifiers_iff (uploadContext [fileParameter "document"]) []
    (binds_uploadSite [fileParameter "document"])).mpr ?_
  exact ⟨by decide, by decide, fun _ => by decide⟩

/-- The function that uploads a form declares a variable of the name of its argument. -/
theorem form_is_declared_twice :
    let parameters := [fileParameter "form"]
    let function := ofEndpoint (uploadContext parameters) (upload parameters)
    ((uploadSite parameters).method.parameters.map MethodParameter.name).Nodup ∧
      ¬function.HasClearIdentifiers ∧ function.lines (uploadContext parameters) = [
        "export async function postUpload(folder: string, form: File): Promise<void> \x7b",
        "  const form = new FormData();",
        "  form.append('form', form);",
        "  return apiFetch<void>(`/files/$\x7bencodeURIComponent(folder)\x7d`, \x7b",
        "    method: 'POST',",
        "    body: form,",
        "    responseType: 'void',",
        "  \x7d);",
        "\x7d"] := by
  intro parameters function
  refine ⟨by decide, fun clear => ?_, by decide +kernel⟩
  exact clear.undeclared (by decide) (by decide)

end TypedClient
