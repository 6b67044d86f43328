/-
This file shows which arguments of a client function are sent with its request. Arguments in the
route, the query, the headers and a form always have their code. A request has one content only, so
that an argument of the body is left out beside a form and beside another argument of the body.
-/

import TypedClient.Proofs.ParameterIdentifiers

namespace TypedClient

namespace ClientFunction

/-- The code at the place of an argument holds the argument. -/
def Holds (function : ClientFunction) (argument : Argument) : Prop :=
  match argument.place with
  | .route => ∃ before token behind,
      routeCode function.endpoint.route = before ++ tokenCode token ++ behind ∧
        Name.identifier token.name = argument.identifier
  | .query => ∃ fields, "query: \x7b " ++ ", ".intercalate fields ++ " \x7d," ∈
      function.requestLines ∧ argument.field ∈ fields
  | .header => ∃ fields, "headers: \x7b " ++ ", ".intercalate fields ++ " \x7d," ∈
      function.requestLines ∧ argument.field ∈ fields
  | .form => appendLine argument ∈ function.formLines ∧ "body: form," ∈ function.requestLines
  | .body => "body: " ++ argument.identifier ++ "," ∈ function.requestLines

/-- The variable of a form hides an argument of its name. -/
def Hides (function : ClientFunction) (argument : Argument) : Prop :=
  formLine ∈ function.formLines ∧ argument.identifier = "form"

/-- A function sends an argument if the code at its place holds it and nothing hides it. -/
def Sends (function : ClientFunction) (argument : Argument) : Prop :=
  function.Holds argument ∧ ¬function.Hides argument

section Lines

variable {function : ClientFunction} {argument : Argument}

theorem exists_fields (key : String) {arguments : List Argument} (member : argument ∈ arguments) :
    ∃ fields, objectLine key arguments = [key ++ ": \x7b " ++ ", ".intercalate fields ++ " \x7d,"] ∧
      argument.field ∈ fields := by
  refine ⟨arguments.map Argument.field, ?_, List.mem_map_of_mem member⟩
  rw [objectLine, if_neg (by simpa using List.ne_nil_of_mem member)]

/-- Of the lines of a request only that of the content begins with its first letter. -/
theorem mem_requestLines_iff_of_content {line : String} (begins : line.toList.head? = some 'b') :
    line ∈ function.requestLines ↔ line ∈ function.bodyLine := by
  have other {text : String} (start : text.toList.head? ≠ some 'b') : line ≠ text := by
    rintro rfl
    exact start begins
  have noMethod : line ≠ "method: '" ++ function.endpoint.verb.wire ++ "'," := other (by simp)
  have noObject {key : String} {arguments : List Argument}
      (start : ∀ rest, (key ++ rest).toList.head? ≠ some 'b') :
      line ∉ objectLine key arguments := by
    rw [objectLine]
    split
    · simp
    · simpa [String.append_assoc] using other (start _)
  have noAuth : line ∉ if function.endpoint.requiresAuth then ["auth: true,"] else [] := by
    split
    · simpa using other (by decide)
    · simp
  have noResponse : line ∉ function.responseLine := by
    rw [responseLine]
    split
    · simpa using other (by decide)
    · split
      · simpa using other (by decide)
      · simp
  have noQuery := @noObject "query" (function.argumentsAt .query) (by simp)
  have noHeaders := @noObject "headers" (function.argumentsAt .header) (by simp)
  simp [requestLines, noMethod, noQuery, noHeaders, noAuth, noResponse]

end Lines

variable {context : Context} {endpoint : Endpoint} {argument : Argument}

theorem exists_tokenCode {route : String} {token : RouteToken}
    (member : token ∈ Route.tokens route) :
    ∃ before behind, routeCode route = before ++ tokenCode token ++ behind := by
  obtain ⟨part, inParts, found⟩ := List.mem_filterMap.mp member
  have same : part = .token token := by
    cases part with
    | plain => contradiction
    | token other => rw [Option.some.inj found]
  obtain ⟨before, behind, parts⟩ := List.append_of_mem (same ▸ inParts)
  have some : ¬(Route.tokens route).isEmpty := by
    simpa using List.ne_nil_of_mem member
  refine ⟨"`" ++ String.join (before.map partCode), String.join (behind.map partCode) ++ "`", ?_⟩
  rw [routeCode, if_neg some, parts]
  simp [partCode, String.append_assoc]

/-- The code at the place of an argument holds it, unless it travels in the body. -/
theorem holds_of_elsewhere (member : argument ∈ (ofEndpoint context endpoint).arguments)
    (elsewhere : argument.place ≠ .body) : (ofEndpoint context endpoint).Holds argument := by
  have there (place : ParameterPlace) (same : argument.place = place) :
      argument ∈ (ofEndpoint context endpoint).argumentsAt place :=
    List.mem_filter.mpr ⟨member, beq_iff_eq.mpr same⟩
  unfold Holds
  split
  case h_1 inRoute =>
    rcases mem_arguments.mp member with ⟨token, inTokens, rfl⟩ | ⟨parameter, _, beside, rfl⟩
    · obtain ⟨before, behind, code⟩ := exists_tokenCode inTokens
      exact ⟨before, token, behind, code, (identifier_routeArgument ..).symm⟩
    · exact absurd inRoute beside
  case h_2 inQuery =>
    obtain ⟨fields, line, inFields⟩ := exists_fields "query" (there .query inQuery)
    exact ⟨fields, by simp [requestLines, line], inFields⟩
  case h_3 inHeader =>
    obtain ⟨fields, line, inFields⟩ := exists_fields "headers" (there .header inHeader)
    exact ⟨fields, by simp [requestLines, line], inFields⟩
  case h_4 inForm =>
    have some : ¬((ofEndpoint context endpoint).argumentsAt .form).isEmpty := by
      simpa using List.ne_nil_of_mem (there .form inForm)
    constructor
    · rw [formLines, if_neg some]
      exact List.mem_cons_of_mem _ (List.mem_map_of_mem (there .form inForm))
    · rw [mem_requestLines_iff_of_content (by decide), bodyLine]
      simp [some]
  case h_5 inBody => exact absurd inBody elsewhere

/-- An argument of the body is sent exactly if there is no form, and the first argument of the body
has its identifier. -/
theorem sends_iff_of_body {function : ClientFunction} (inBody : argument.place = .body) :
    function.Sends argument ↔ function.argumentsAt .form = [] ∧
      ∃ first ∈ (function.argumentsAt .body).head?, first.identifier = argument.identifier := by
  have holds : function.Holds argument ↔
      "body: " ++ argument.identifier ++ "," ∈ function.bodyLine := by
    rw [Holds, inBody]
    exact mem_requestLines_iff_of_content (by simp)
  have line {first second : String} : "body: " ++ first ++ "," = "body: " ++ second ++ "," ↔
      first = second := by
    simp
  rw [Sends, Hides, holds, formLine_mem_formLines, bodyLine]
  by_cases unformed : function.argumentsAt .form = []
  · simp [unformed, line, eq_comm]
  · have form : "body: " ++ argument.identifier ++ "," = "body: form," ↔
        argument.identifier = "form" :=
      @line argument.identifier "form"
    simp [unformed, form]

/-- An argument that travels elsewhere is sent exactly if no variable hides it. -/
theorem sends_iff_of_elsewhere (member : argument ∈ (ofEndpoint context endpoint).arguments)
    (elsewhere : argument.place ≠ .body) :
    (ofEndpoint context endpoint).Sends argument ↔
      ¬(ofEndpoint context endpoint).Hides argument :=
  and_iff_right (holds_of_elsewhere member elsewhere)

end ClientFunction

namespace Binding

/-- A request has room for what the parameters of a handler give: those of the body stand neither
beside a form nor beside others of another name, and no argument has the name of the variable of a
form. -/
structure HasRoom (route : String) (parameters : List MethodParameter) : Prop where
  unformed : ∀ body ∈ places route parameters, body.1 = .body →
    ∀ field ∈ places route parameters, field.1 ≠ .form
  single : ∀ first ∈ places route parameters, first.1 = .body →
    ∀ second ∈ places route parameters, second.1 = .body →
      Text.lowerCamel first.2 = Text.lowerCamel second.2
  undeclared : (∃ field ∈ places route parameters, field.1 = .form) →
    ∀ name ∈ argumentNames route parameters, Text.lowerCamel name ≠ "form"

end Binding

namespace ClientFunction

variable {endpoint : Endpoint} {given : List MethodParameter}

theorem exists_argumentsAt_iff (context : Context) (enums : List String)
    (binds : endpoint.Binds given) {place : ParameterPlace} (beside : place ≠ .route)
    (identifier : String) :
    (∃ argument ∈ (ofEndpoint context (Assembly.markEndpoint enums endpoint)).argumentsAt place,
        argument.identifier = identifier) ↔
      ∃ bound ∈ Binding.places endpoint.route given,
        bound.1 = place ∧ Name.identifier bound.2 = identifier := by
  simp only [mem_argumentsAt beside, ← binds.places enums, Endpoint.parametersAt, List.mem_filter,
    List.mem_map, beq_iff_eq]
  constructor
  · rintro ⟨_, ⟨parameter, ⟨member, there⟩, rfl⟩, same⟩
    rw [identifier_parameterArgument] at same
    exact ⟨_, ⟨parameter, member, rfl⟩, there, same⟩
  · rintro ⟨_, ⟨parameter, member, rfl⟩, there, same⟩
    refine ⟨_, ⟨parameter, ⟨member, there⟩, rfl⟩, ?_⟩
    rwa [identifier_parameterArgument]

/-- A function has no arguments in a form exactly if no parameter of its handler travels in one. -/
theorem argumentsAt_form_eq_nil_iff (context : Context) (enums : List String)
    (binds : endpoint.Binds given) :
    (ofEndpoint context (Assembly.markEndpoint enums endpoint)).argumentsAt .form = [] ↔
      ∀ field ∈ Binding.places endpoint.route given, field.1 ≠ .form := by
  have made := makesForm_iff context enums binds
  rw [formLine_mem_formLines] at made
  simpa only [ne_eq, not_not, not_exists, not_and] using not_congr made

/-- A variable hides an argument exactly if there is a form, and a name of an argument is that of
the variable in camel case. -/
theorem exists_hidden_iff (context : Context) (enums : List String)
    (binds : endpoint.Binds given) :
    let function := ofEndpoint context (Assembly.markEndpoint enums endpoint)
    (∃ argument ∈ function.arguments, function.Hides argument) ↔
      (∃ field ∈ Binding.places endpoint.route given, field.1 = .form) ∧
        ∃ name ∈ Binding.argumentNames endpoint.route given, Text.lowerCamel name = "form" := by
  intro function
  have identifiers := perm_identifiers context enums binds
  have inCamel {name : String} :
      Name.identifier name = "form" ↔ Text.lowerCamel name = "form" :=
    Name.identifier_eq_iff_of_camel (by decide) (by decide)
  have named : (∃ argument ∈ function.arguments, argument.identifier = "form") ↔
      ∃ name ∈ Binding.argumentNames endpoint.route given, Text.lowerCamel name = "form" := by
    simp only [← inCamel, ← List.mem_map, ← identifiers.mem_iff]
    rfl
  rw [← named, ← makesForm_iff context enums binds]
  exact ⟨fun ⟨argument, member, made, same⟩ => ⟨made, argument, member, same⟩,
    fun ⟨made, argument, member, same⟩ => ⟨argument, member, made, same⟩⟩

/-- A function that sends all of its arguments has a request with room for them. -/
theorem hasRoom_of_sent {context : Context} {enums : List String} (binds : endpoint.Binds given)
    (sent : ∀ argument ∈ (ofEndpoint context (Assembly.markEndpoint enums endpoint)).arguments,
      (ofEndpoint context (Assembly.markEndpoint enums endpoint)).Sends argument) :
    Binding.HasRoom endpoint.route given := by
  -- Each name of the body has an argument, and that is sent.
  have content {body : ParameterPlace × String}
      (member : body ∈ Binding.places endpoint.route given) (there : body.1 = .body) :
      (ofEndpoint context (Assembly.markEndpoint enums endpoint)).argumentsAt .form = [] ∧
        ∃ first ∈ ((ofEndpoint context
            (Assembly.markEndpoint enums endpoint)).argumentsAt .body).head?,
          first.identifier = Name.identifier body.2 := by
    obtain ⟨argument, inArguments, same⟩ :=
      (exists_argumentsAt_iff context enums binds (by decide) _).mpr ⟨body, member, there, rfl⟩
    obtain ⟨declared, place⟩ := List.mem_filter.mp inArguments
    rw [← same]
    exact (sends_iff_of_body (beq_iff_eq.mp place)).mp (sent argument declared)
  refine ⟨?unformed, ?single, ?undeclared⟩
  case unformed =>
    intro body member there
    exact (argumentsAt_form_eq_nil_iff context enums binds).mp (content member there).1
  case single =>
    intro first firstMember firstThere second secondMember secondThere
    obtain ⟨-, argument, inFront, firstSame⟩ := content firstMember firstThere
    obtain ⟨-, other, alsoInFront, secondSame⟩ := content secondMember secondThere
    have same : argument = other := Option.some.inj (inFront.symm.trans alsoInFront)
    rw [← Name.identifier_eq_iff, ← firstSame, same, secondSame]
  case undeclared =>
    intro made name member same
    obtain ⟨argument, inArguments, hides⟩ :=
      (exists_hidden_iff context enums binds).mpr ⟨made, name, member, same⟩
    exact (sent argument inArguments).2 hides

/-- A function whose request has room for its arguments sends each of them. -/
theorem sends_of_hasRoom {context : Context} {enums : List String} (binds : endpoint.Binds given)
    (room : Binding.HasRoom endpoint.route given) {argument : Argument}
    (member : argument ∈ (ofEndpoint context (Assembly.markEndpoint enums endpoint)).arguments) :
    (ofEndpoint context (Assembly.markEndpoint enums endpoint)).Sends argument := by
  have beside : ParameterPlace.body ≠ .route := by decide
  have inBody := exists_argumentsAt_iff context enums binds beside
  by_cases there : argument.place = .body
  · have inArguments : argument ∈
        (ofEndpoint context (Assembly.markEndpoint enums endpoint)).argumentsAt .body :=
      List.mem_filter.mpr ⟨member, beq_iff_eq.mpr there⟩
    obtain ⟨body, bound, place, same⟩ := (inBody _).mp ⟨argument, inArguments, rfl⟩
    obtain ⟨first, others, split⟩ :=
      List.exists_cons_of_ne_nil (List.ne_nil_of_mem inArguments)
    obtain ⟨other, otherBound, otherPlace, otherSame⟩ :=
      (inBody _).mp ⟨first, split ▸ List.mem_cons_self, rfl⟩
    have unformed := (argumentsAt_form_eq_nil_iff context enums binds).mpr
      (room.unformed body bound place)
    refine (sends_iff_of_body there).mpr ⟨unformed, first, by rw [split]; rfl, ?_⟩
    rw [← same, ← otherSame, Name.identifier_eq_iff]
    exact room.single other otherBound otherPlace body bound place
  · refine (sends_iff_of_elsewhere member there).mpr fun hides => ?_
    obtain ⟨made, name, named, same⟩ :=
      (exists_hidden_iff context enums binds).mp ⟨argument, member, hides⟩
    exact room.undeclared made name named same

end ClientFunction

open ClientFunction

/-- A client function is written with the form and the options of its request, and it sends all of
its arguments exactly if a request has room for them. -/
theorem arguments_sent_iff (context : Context) (enums : List String) {endpoint : Endpoint}
    {given : List MethodParameter} (binds : endpoint.Binds given) :
    let function := ofEndpoint context (Assembly.markEndpoint enums endpoint)
    (∃ before, function.lines context = before ++ function.formLines.map (Draft.indented 1) ++
        Draft.indented 1 function.sendingLine :: function.requestLines.map (Draft.indented 2) ++
        [Draft.indented 1 "\x7d);", "\x7d"]) ∧
      ((∀ argument ∈ function.arguments, function.Sends argument) ↔
        Binding.HasRoom endpoint.route given) := by
  intro function
  constructor
  · exact ⟨_, by rw [lines_eq, List.map_append, ← List.cons_append, ← List.append_assoc]⟩
  · exact ⟨hasRoom_of_sent binds, fun room _ => sends_of_hasRoom binds room⟩

/-- A note in the query. -/
def noteParameter : MethodParameter :=
  { name := "note", type := .reference "string", hasDefault := true }

/-- A tenant in a header. -/
def tenantParameter : MethodParameter :=
  { name := "tenant", type := .reference "string"
    decorations := [{ name := "FromHeader", arguments := [⟨some "Name", "\"X-Tenant\""⟩] }] }

/-- Details in the body. -/
def detailsParameter : MethodParameter :=
  { name := "details", type := .reference "Details" }

/-- The function that uploads a document sends it with a note and a tenant. -/
theorem document_is_sent :
    let parameters := [noteParameter, tenantParameter, fileParameter "document"]
    let function := ofEndpoint (uploadContext parameters) (upload parameters)
    function.arguments.map Argument.identifier = ["folder", "xTenant", "document", "note"] ∧
      ∀ argument ∈ function.arguments, function.Sends argument := by
  intro parameters function
  have room : Binding.HasRoom ((Attached.endpoints (uploadSite parameters)).headD default).route
      (uploadSite parameters).method.parameters :=
    ⟨by decide, by decide, fun _ => by decide⟩
  have sent := (arguments_sent_iff (uploadContext parameters) [] (binds_uploadSite parameters)).2
  exact ⟨by decide, sent.mpr room⟩

/-- Beside a document, details are an argument that is not sent. -/
theorem details_are_left_out :
    let parameters := [fileParameter "document", detailsParameter]
    let function := ofEndpoint (uploadContext parameters) (upload parameters)
    (∃ argument ∈ function.arguments,
        argument.identifier = "details" ∧ ¬function.Sends argument) ∧
      function.lines (uploadContext parameters) = [
        "export async function postUpload(" ++
          "folder: string, document: File, details: Details): Promise<void> \x7b",
        "  const form = new FormData();",
        "  form.append('document', document);",
        "  return apiFetch<void>(`/files/$\x7bencodeURIComponent(folder)\x7d`, \x7b",
        "    method: 'POST',",
        "    body: form,",
        "    responseType: 'void',",
        "  \x7d);",
        "\x7d"] := by
  intro parameters function
  have listed : (ParameterPlace.body, "details") ∈
      function.arguments.map fun argument => (argument.place, argument.identifier) := by
    decide
  obtain ⟨argument, member, same⟩ := List.mem_map.mp listed
  obtain ⟨inBody, named⟩ := Prod.mk.inj same
  refine ⟨⟨argument, member, named, fun sent => ?_⟩, by decide +kernel⟩
  have formed : (function.argumentsAt .form).isEmpty = false := by decide
  rw [((sends_iff_of_body inBody).mp sent).1] at formed
  exact absurd formed (by decide)

end TypedClient
