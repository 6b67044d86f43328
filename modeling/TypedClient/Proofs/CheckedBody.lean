/-
This file shows which argument a client function checks before it sends a request. The type of the
request is chosen among the parameters of the handler, the content of the request by its place, and
the two need not be the same parameter.
-/

import TypedClient.Backend.Assembly
import TypedClient.Proofs.CallArguments
import TypedClient.Proofs.ReferenceClosure
import TypedClient.Proofs.Registrations
import TypedClient.Proofs.RequestChecks

namespace TypedClient

/-- The parameters and the request of an operation are those of a handler on its route. -/
structure Endpoint.Binds (endpoint : Endpoint) (given : List MethodParameter) : Prop where
  parameters : endpoint.parameters = (Binding.bind given endpoint.route).parameters
  request : endpoint.requestType = (Binding.bind given endpoint.route).requestType

namespace Binding

def requestParameter? (parameters : List MethodParameter) : Option MethodParameter :=
  (given parameters).find? fun parameter => !isScalar parameter.type

theorem requestType_bind (parameters : List MethodParameter) (route : String) :
    (bind parameters route).requestType =
      (requestParameter? parameters).map MethodParameter.type := by
  simp only [bind, requestParameter?, List.find?_map, Option.map_map]
  rfl

end Binding

namespace Endpoint.Binds

theorem describe (verb : Verb) (route : String) (container : Container) (handler : Method)
    (metadata : List ChainCall) (style : DeclarationStyle) (source : Option String) :
    (Handler.describe verb route container handler metadata style source).Binds
      handler.parameters where
  parameters := rfl
  request := rfl

/-- What markers set leaves the parameters and the request alone. -/
theorem overlay {endpoint : Endpoint} {parameters : List MethodParameter}
    (binds : endpoint.Binds parameters) (markers : List Decoration) :
    (ExportMarker.overlay endpoint markers).Binds parameters := by
  induction markers generalizing endpoint with
  | nil => exact binds
  | cons marker rest inductionHypothesis =>
      apply inductionHypothesis
      exact ⟨binds.parameters, binds.request⟩

theorem attached {site : DeclarationSite} {endpoint : Endpoint}
    (declared : endpoint ∈ Attached.endpoints site) :
    endpoint.Binds site.method.parameters := by
  simp only [Attached.endpoints] at declared
  split at declared
  · rw [List.mem_singleton.mp declared]
    exact (describe ..).overlay _
  · contradiction

/-- A call behind a registration leaves the parameters and the request alone. One that states the
type of the request counts only where no parameter is chosen for it. -/
theorem applyCall {endpoint : Endpoint} {given : List MethodParameter}
    (binds : endpoint.Binds given) {call : ChainCall}
    (chosen : call.name = "Accepts" → (Binding.requestParameter? given).isSome = true) :
    (Registration.applyCall endpoint call).Binds given := by
  unfold Registration.applyCall
  split
  case h_1 =>
    split
    · exact ⟨binds.parameters, binds.request⟩
    · exact binds
  case h_7 accepts =>
    obtain ⟨parameter, found⟩ := Option.isSome_iff_exists.mp (chosen accepts)
    have requested : endpoint.requestType = some parameter.type := by
      rw [binds.request, Binding.requestType_bind, found, Option.map_some]
    refine ⟨binds.parameters, ?_⟩
    rw [← binds.request, requested, Option.some_or]
  all_goals exact ⟨binds.parameters, binds.request⟩

/-- The calls behind a registration leave the parameters and the request alone. -/
theorem applyCalls {endpoint : Endpoint} {given : List MethodParameter}
    (binds : endpoint.Binds given) {calls : List ChainCall}
    (chosen : ∀ call ∈ calls, call.name = "Accepts" →
      (Binding.requestParameter? given).isSome = true) :
    (calls.foldl Registration.applyCall endpoint).Binds given := by
  induction calls generalizing endpoint with
  | nil => exact binds
  | cons call rest inductionHypothesis =>
      obtain ⟨here, later⟩ := List.forall_mem_cons.mp chosen
      exact inductionHypothesis (binds.applyCall here) later

theorem registered {site : DeclarationSite} {registration : Registration}
    {handler : Registration.ResolvedHandler} {endpoint : Endpoint}
    (resolved : Registration.resolve? site registration = some handler)
    (chosen : ∀ call ∈ registration.metadata, call.name = "Accepts" →
      (Binding.requestParameter? handler.method.parameters).isSome = true)
    (declared : Registration.Declares site registration endpoint) :
    endpoint.Binds handler.method.parameters := by
  obtain ⟨name, rfl⟩ := declared
  apply overlay
  have described : (Registration.described site registration (some handler)).Binds
      handler.method.parameters :=
    applyCalls ⟨rfl, rfl⟩ chosen
  rw [resolved]
  exact ⟨described.parameters, described.request⟩

theorem requestName {endpoint : Endpoint} {parameters : List MethodParameter}
    (binds : endpoint.Binds parameters) (enums : List String) :
    (Assembly.markEndpoint enums endpoint).requestType.map SourceType.name =
      (Binding.requestParameter? parameters).map fun parameter => parameter.type.name := by
  simp only [Assembly.markEndpoint, binds.request, Binding.requestType_bind, Option.map_map]
  apply congrArg (fun name => Option.map name (Binding.requestParameter? parameters))
  funext parameter
  exact Assembly.name_markEnums enums parameter.type

end Endpoint.Binds

open ClientFunction

/-- A client function checks the content of its request before it sends it, if the type of the
content has rules, exactly where the first parameter of the handler that is not scalar has a type
of the same name and no other argument with such a type comes first. -/
theorem body_checked_iff (context : Context) (enums : List String) {endpoint : Endpoint}
    {given : List MethodParameter} (binds : endpoint.Binds given)
    (wanted : context.options.features.validation = true) :
    let described := Assembly.markEndpoint enums endpoint
    let function := ofEndpoint context described
    described.parametersAt .form = [] → ∀ body ∈ described.parametersAt .body,
      context.contract.hasRules body.type.name = true →
        (function.ChecksFirst context ⟨body.type.name, parameterArgument context body⟩ ↔
          (Binding.requestParameter? given).map (fun parameter => parameter.type.name) =
              some body.type.name ∧
            (parameterArgument context body).IsFirstTyped body.type.name function.arguments) := by
  intro described function unformed body _ ruled
  have validates : context.validates body.type.name = true := by
    rw [Context.validates, wanted, ruled, Bool.true_and]
  rw [checksFirst_iff ((argumentsAt_eq_nil_iff (by decide)).mpr unformed),
    requestCheck?_eq_some_iff,
    and_iff_right validates]
  apply and_congr_left'
  apply Eq.congr_left
  exact binds.requestName enums

/-- A method that takes the kind of an order in the route and the order in the body. -/
def creation (kindType : String) : DeclarationSite where
  file := {}
  container :=
    { name := "OrdersController"
      decorations := [{ name := "ExportClient" }] }
  method :=
    { name := "Create"
      decorations := [{ name := "HttpPost", arguments := [⟨none, "\"orders/\x7bkind\x7d\""⟩] }]
      parameters := [
        { name := "kind", type := .reference kindType },
        { name := "order", type := .reference "Order" }] }

/-- The operation that the method declares, in a contract with an enumeration. -/
def createOrder (kindType : String) : Endpoint :=
  Assembly.markEndpoint ["Kind"] ((Attached.endpoints (creation kindType)).headD default)

def kindParameter (type : SourceType) : Parameter :=
  { name := "kind", type, isRequired := true, place := .route }

def orderParameter : Parameter :=
  { name := "order", type := .reference "Order", isRequired := true, place := .body }

/-- What the client of the operation depends on; the order has a rule. -/
def creationContext (kindType : String) : Context :=
  Context.ofContract
    { endpoints := [createOrder kindType]
      types := [
        .enumeration "Kind" none [⟨"Phone", 0, none⟩, ⟨"Web", 1, none⟩] none,
        .definition "Order" none [] [] none]
      validation := [{ typeName := "Order", property := "Customer", required := true }] }
    [] {}

/-- Behind a kind that is a text, the order is checked before it is sent. -/
theorem textKind_checks_body :
    (createOrder "string").parametersAt .form = [] ∧
      orderParameter ∈ (createOrder "string").parametersAt .body ∧
      (creationContext "string").contract.hasRules orderParameter.type.name = true ∧
      ∃ sending, (ofEndpoint (creationContext "string") (createOrder "string")).lines
          (creationContext "string") =
        ["export async function postCreate(kind: string, order: Order): Promise<void> \x7b",
          "  orderSchema.parse(order);",
          "  return apiFetch<void>(`/orders/$\x7bencodeURIComponent(kind)\x7d`, \x7b"] ++
        sending := by
  have declared : (Attached.endpoints (creation "string")).headD default ∈
      Attached.endpoints (creation "string") :=
    List.mem_of_mem_head? rfl
  have parameters : (createOrder "string").parameters =
      [kindParameter (.reference "string"), orderParameter] := by rfl
  have tokens : Route.tokens (createOrder "string").route =
      [⟨"\x7bkind\x7d", "kind", none⟩] := by rfl
  have unformed : (createOrder "string").parametersAt .form = [] := by
    rw [Endpoint.parametersAt, parameters]
    rfl
  have inRoute : (createOrder "string").parametersAt .route =
      [kindParameter (.reference "string")] := by
    rw [Endpoint.parametersAt, parameters]
    rfl
  have member : orderParameter ∈ (createOrder "string").parametersAt .body := by
    rw [Endpoint.parametersAt, parameters]
    exact List.mem_filter.mpr ⟨by simp, rfl⟩
  have kind : (routeArgument (creationContext "string") (createOrder "string")
      ⟨"\x7bkind\x7d", "kind", none⟩).parameter = some (kindParameter (.reference "string")) := by
    rw [routeArgument, inRoute]
    rfl
  have first : (parameterArgument (creationContext "string") orderParameter).IsFirstTyped "Order"
      (ofEndpoint (creationContext "string") (createOrder "string")).arguments := by
    refine ⟨[routeArgument (creationContext "string") (createOrder "string")
      ⟨"\x7bkind\x7d", "kind", none⟩], [], ?arguments, ⟨orderParameter, rfl, rfl⟩, ?kind⟩
    case arguments =>
      simp [ofEndpoint, declaredArguments, tokens, parameters, routeArgument, parameterArgument,
        kindParameter, orderParameter]
    case kind =>
      rintro earlier inFront ⟨parameter, belongs, typed⟩
      rw [List.mem_singleton.mp inFront, kind] at belongs
      rw [← Option.some.inj belongs] at typed
      revert typed
      decide
  have ruled : (creationContext "string").contract.hasRules orderParameter.type.name = true := by
    decide
  obtain ⟨-, sending, lines⟩ :=
    (body_checked_iff (creationContext "string") ["Kind"] (.attached declared) rfl unformed
      orderParameter member ruled).mpr ⟨by decide, first⟩
  refine ⟨unformed, member, ruled, sending, lines.trans ?_⟩
  apply congrArg (· ++ sending)
  decide +kernel

/-- Behind a kind of an enumeration, the order is sent without a check. -/
theorem enumKind_hides_body :
    let context := creationContext "Kind"
    let described := createOrder "Kind"
    let function := ofEndpoint context described
    context.options.features.validation = true ∧ described.parametersAt .form = [] ∧
      orderParameter ∈ described.parametersAt .body ∧
      context.contract.hasRules orderParameter.type.name = true ∧
      ¬function.ChecksFirst context
        ⟨orderParameter.type.name, parameterArgument context orderParameter⟩ ∧
      function.lines context = [
        "export async function postCreate(kind: Kind, order: Order): Promise<void> \x7b",
        "  return apiFetch<void>(`/orders/$\x7bencodeURIComponent(kind)\x7d`, \x7b",
        "    method: 'POST',",
        "    body: order,",
        "    responseType: 'void',",
        "  \x7d);",
        "\x7d"] := by
  intro context described function
  have parameters : (createOrder "Kind").parameters =
      [kindParameter (SourceType.reference "Kind").asEnum, orderParameter] := by rfl
  have unchecked : (function.requestCheck? context).isNone = true := by decide
  refine ⟨rfl, ?form, ?body, by decide, ?unchecked, by decide +kernel⟩
  case form =>
    rw [Endpoint.parametersAt, parameters]
    rfl
  case body =>
    rw [Endpoint.parametersAt, parameters]
    exact List.mem_filter.mpr ⟨by simp, rfl⟩
  case unchecked =>
    intro checked
    rw [checked.chosen] at unchecked
    contradiction

end TypedClient
