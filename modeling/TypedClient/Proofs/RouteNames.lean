/-
This file shows when the names that operations get from their routes stay apart. A name that is
taken gets the method in front once, and nothing is tried where that name is taken as well.
-/

import Mathlib.Data.List.Induction
import Mathlib.Data.List.Nodup
import TypedClient.Proofs.Merge
import TypedClient.Proofs.Registrations

namespace TypedClient

/-- The word of a method in front of a name can be told from the name. -/
theorem Verb.word_append_inj {first second : Verb} {left right : String}
    (same : first.word ++ left = second.word ++ right) : first = second ∧ left = right := by
  have characters : first.word.toList ++ left.toList = second.word.toList ++ right.toList := by
    rw [← String.toList_append, same, String.toList_append]
  clear same
  cases first <;> cases second <;> simp [word] at characters ⊢
  all_goals exact String.toList_inj.mp characters

/-- No two elements of a list have one key exactly if none has the key of an element before it. -/
theorem nodup_map_iff_of_splits {Element Key : Type} {key : Element → Key}
    {elements : List Element} :
    (elements.map key).Nodup ↔ ∀ before element behind, elements = before ++ element :: behind →
      key element ∉ before.map key := by
  constructor
  · rintro unlike before element behind rfl member
    rw [List.map_append, List.map_cons] at unlike
    exact (List.nodup_append.mp unlike).2.2 _ member _ List.mem_cons_self rfl
  · intro apart
    induction elements using List.reverseRecOn with
    | nil => exact List.nodup_nil
    | append_singleton front last inductionHypothesis =>
        have unlike : (front.map key).Nodup := by
          apply inductionHypothesis
          rintro before element behind rfl
          exact apart before element (behind ++ [last]) (by simp)
        rw [List.map_append, List.map_singleton, ← List.concat_eq_append]
        exact unlike.concat (apart front last [] rfl)

namespace Registration

/-- The method and the route of an operation. -/
def target (endpoint : Endpoint) : Verb × String :=
  (endpoint.verb, endpoint.route)

theorem nameFor_congr {taken others : List String} (names : ∀ name, name ∈ taken ↔ name ∈ others)
    {endpoint other : Endpoint} (same : target endpoint = target other) :
    nameFor taken endpoint = nameFor others other := by
  obtain ⟨verb, route⟩ := Prod.mk.inj same
  simp only [nameFor, List.contains_iff_mem, names, verb, route]

/-- The calls behind a registration change neither the method nor the route. -/
theorem target_applyCalls (endpoint : Endpoint) (calls : List ChainCall) :
    target (calls.foldl applyCall endpoint) = target endpoint := by
  induction calls generalizing endpoint with
  | nil => rfl
  | cons call rest inductionHypothesis =>
      rw [List.foldl_cons, inductionHypothesis, applyCall]
      split
      case h_1 => split <;> rfl
      all_goals rfl

theorem target_described (site : DeclarationSite) (registration : Registration)
    (resolved : Option ResolvedHandler) :
    target (described site registration resolved) = (registration.verb, registration.route) := by
  unfold described applyMetadata
  rw [target_applyCalls]
  cases resolved <;> rfl

/-- Markers change neither the name nor the method and the route. -/
theorem target_overlay (endpoint : Endpoint) (markers : List Decoration) :
    (ExportMarker.overlay endpoint markers).operation = endpoint.operation ∧
      target (ExportMarker.overlay endpoint markers) = target endpoint := by
  induction markers generalizing endpoint with
  | nil => exact ⟨rfl, rfl⟩
  | cons marker rest inductionHypothesis =>
      exact inductionHypothesis (ExportMarker.apply endpoint marker)

/-- The operations that are declared have the methods and routes of the registrations to which a
marker applies. -/
theorem targets_endpoints (site : DeclarationSite) :
    (endpoints site).value.map target = ((ofMethod site.method).filter (isChosen site)).map
      fun registration => (registration.verb, registration.route) := by
  have declares := endpointsFrom_declares site [] (ofMethod site.method)
  rw [endpoints]
  generalize (endpointsFrom site [] (ofMethod site.method)).value = declared at declares ⊢
  generalize (ofMethod site.method).filter (isChosen site) = chosen at declares ⊢
  induction declares with
  | nil => rfl
  | cons here _ inductionHypothesis =>
      obtain ⟨name, rfl⟩ := here
      rw [List.map_cons, List.map_cons, inductionHypothesis, (target_overlay _ _).2]
      exact congrArg (· :: _) (target_described site _ _)

/-- No registration in a method has a name of its own: neither a handler that is found nor a call
behind it states one. -/
def AllUnnamed (site : DeclarationSite) (registrations : List Registration) : Prop :=
  ∀ registration ∈ registrations,
    (described site registration (resolve? site registration)).operation = ""

/-- A registration without a name of its own is named by its route, and takes the name. -/
theorem endpointsFrom_cons_unnamed {site : DeclarationSite} {registration : Registration}
    (empty : (described site registration (resolve? site registration)).operation = "")
    (chosen : isChosen site registration = true) (taken : List String)
    (rest : List Registration) :
    let endpoint := described site registration (resolve? site registration)
    let name := nameFor taken endpoint
    (endpointsFrom site taken (registration :: rest)).value =
      ExportMarker.overlay { endpoint with operation := name }
        (markers site (resolve? site registration)) ::
      (endpointsFrom site (name :: taken) rest).value := by
  intro endpoint name
  have marked : (markers site (resolve? site registration)).isEmpty = false := by
    simpa [isChosen] using chosen
  have needsName : endpoint.operation.isEmpty = true := by
    rw [empty]
    rfl
  simp only [endpointsFrom, marked, Bool.false_eq_true, if_false]
  rw [if_pos needsName, if_pos needsName]

/-- Registrations without names of their own are named by their routes, one behind the other. -/
theorem operation_endpointsFrom {site : DeclarationSite} {taken : List String}
    {registrations : List Registration} (unnamed : AllUnnamed site registrations)
    {before behind : List Endpoint} {endpoint : Endpoint}
    (split : (endpointsFrom site taken registrations).value = before ++ endpoint :: behind) :
    endpoint.operation = nameFor (before.map Endpoint.operation ++ taken) endpoint := by
  induction registrations generalizing taken before with
  | nil => simp [endpointsFrom] at split
  | cons registration rest inductionHypothesis =>
      obtain ⟨empty, unnamedBehind⟩ := List.forall_mem_cons.mp unnamed
      cases chosen : isChosen site registration with
      | false =>
          have unmarked : (markers site (resolve? site registration)).isEmpty = true := by
            simpa [isChosen] using chosen
          rw [endpointsFrom, if_pos unmarked] at split
          exact inductionHypothesis unnamedBehind split
      | true =>
          rw [endpointsFrom_cons_unnamed empty chosen] at split
          obtain ⟨operation, same⟩ := target_overlay
            { described site registration (resolve? site registration) with
              operation := nameFor taken
                (described site registration (resolve? site registration)) }
            (markers site (resolve? site registration))
          -- The name that is given here is taken for all registrations behind.
          cases before with
          | nil =>
              obtain ⟨rfl, -⟩ := List.cons.inj split
              exact operation.trans (nameFor_congr (by simp) same.symm)
          | cons first others =>
              obtain ⟨rfl, later⟩ := List.cons.inj split
              rw [inductionHypothesis unnamedBehind later]
              apply nameFor_congr _ rfl
              intro name
              rw [List.map_cons, operation]
              simp only [List.mem_append, List.mem_cons]
              tauto

/-- The names of operations without names of their own are distinct exactly if no operation comes
to a name that is taken and finds the name behind its method taken too. -/
theorem nodup_operations_iff {site : DeclarationSite}
    (unnamed : AllUnnamed site (ofMethod site.method)) :
    ((endpoints site).value.map Endpoint.operation).Nodup ↔
      ∀ before endpoint behind, (endpoints site).value = before ++ endpoint :: behind →
        nameOfRoute endpoint.route ∈ before.map Endpoint.operation →
          endpoint.verb.word ++ nameOfRoute endpoint.route ∉ before.map Endpoint.operation := by
  rw [nodup_map_iff_of_splits]
  refine forall₄_congr fun before endpoint behind split => ?_
  rw [operation_endpointsFrom unnamed split, List.append_nil, nameFor]
  simp only [List.contains_iff_mem]
  by_cases known : nameOfRoute endpoint.route ∈ before.map Endpoint.operation
  · rw [if_pos known, imp_iff_right known]
  · simp only [known, if_false, not_false_iff, false_imp_iff]

/-- Operations without names of their own get distinct names if no two of them have one method and
the same name of a route, and no route is named like another behind its method. -/
theorem nodup_operations_of_routes {site : DeclarationSite}
    (unnamed : AllUnnamed site (ofMethod site.method))
    (unlike : ((endpoints site).value.map fun endpoint =>
      (endpoint.verb, nameOfRoute endpoint.route)).Nodup)
    (plain : ∀ first ∈ (endpoints site).value, ∀ second ∈ (endpoints site).value,
      nameOfRoute first.route ≠ second.verb.word ++ nameOfRoute second.route) :
    ((endpoints site).value.map Endpoint.operation).Nodup := by
  rw [nodup_operations_iff unnamed]
  intro before endpoint behind split _ taken
  obtain ⟨earlier, inFront, same⟩ := List.mem_map.mp taken
  have there : earlier ∈ (endpoints site).value :=
    split ▸ List.mem_append_left _ inFront
  have here : endpoint ∈ (endpoints site).value :=
    split ▸ List.mem_append_right _ List.mem_cons_self
  obtain ⟨start, between, parts⟩ := List.append_of_mem inFront
  have inOrder : (endpointsFrom site [] (ofMethod site.method)).value =
      start ++ earlier :: (between ++ endpoint :: behind) := by
    rw [endpoints] at split
    rw [split, parts]
    simp
  have name : earlier.operation = nameFor (start.map Endpoint.operation ++ []) earlier :=
    operation_endpointsFrom unnamed inOrder
  rw [same, nameFor] at name
  split at name
  · obtain ⟨verb, route⟩ := Verb.word_append_inj name
    apply nodup_map_iff_of_splits.mp unlike before endpoint behind split
    exact List.mem_map.mpr ⟨earlier, inFront, by rw [verb, route]⟩
  · exact plain earlier there endpoint here name.symm

/-- Where the registrations of a method have no names of their own, each one with a marker gives an
operation with its method and route. The operations get distinct names exactly if none comes to a
name that is taken and finds that name behind its method taken too; it suffices that no two have
one method and the same name of a route, and that no route is named like another behind its method.
With distinct names a contract takes in all of them whose names are new in their groups. -/
theorem route_names_distinct_iff (site : DeclarationSite)
    (unnamed : AllUnnamed site (ofMethod site.method)) :
    let declared := (endpoints site).value
    (declared.map target = ((ofMethod site.method).filter (isChosen site)).map
      fun registration => (registration.verb, registration.route)) ∧
    ((declared.map Endpoint.operation).Nodup ↔
      ∀ before endpoint behind, declared = before ++ endpoint :: behind →
        nameOfRoute endpoint.route ∈ before.map Endpoint.operation →
          endpoint.verb.word ++ nameOfRoute endpoint.route ∉ before.map Endpoint.operation) ∧
    ((declared.map fun endpoint => (endpoint.verb, nameOfRoute endpoint.route)).Nodup →
      (∀ first ∈ declared, ∀ second ∈ declared,
        nameOfRoute first.route ≠ second.verb.word ++ nameOfRoute second.route) →
      (declared.map Endpoint.operation).Nodup) ∧
    ((declared.map Endpoint.operation).Nodup → ∀ contract : Contract,
      (contract.add { endpoints := declared }).value.endpoints = contract.endpoints ++
        declared.filter fun endpoint =>
          !(contract.endpoints.map Endpoint.key).contains endpoint.key) := by
  intro declared
  refine ⟨targets_endpoints site, nodup_operations_iff unnamed,
    nodup_operations_of_routes unnamed, ?_⟩
  intro unlike contract
  have keys : (declared.map Endpoint.key).Nodup := by
    apply List.Nodup.of_map Prod.fst
    rwa [List.map_map]
  exact congrArg (contract.endpoints ++ ·) (Contract.firstOfEach_of_nodup Endpoint.key _ keys)

/-- A registration of a function on a route, as the only calls of its chain. -/
def inlineChain (call route : String) : CallChain where
  root := "app"
  calls := [{ name := call, arguments := ["\"" ++ route ++ "\"", "() => 0"] }]
  functions := [(0, {})]

/-- A method that is chosen for the client and registers functions on routes. -/
def inlineSite (chains : List CallChain) : DeclarationSite where
  file := {}
  container := { name := "UserEndpoints", decorations := [{ name := ExportMarker.name }] }
  method := {
    name := "MapUsers"
    parameters := [
      { name := "app", type := .reference "IEndpointRouteBuilder", isReceiver := true }]
    chains }

/-- Two methods on one route, and a third route. -/
def userSite : DeclarationSite :=
  inlineSite [inlineChain "MapGet" "/users", inlineChain "MapPost" "/users",
    inlineChain "MapGet" "/users/\x7bid:int\x7d"]

/-- The operations on the routes get distinct names. -/
theorem userSite_names_distinct :
    AllUnnamed userSite (ofMethod userSite.method) ∧
      ((endpoints userSite).value.map Endpoint.operation).Nodup ∧
      (endpoints userSite).value.map Endpoint.operation = ["Users", "PostUsers", "UsersById"] := by
  have unnamed : AllUnnamed userSite (ofMethod userSite.method) := by
    unfold AllUnnamed
    decide +kernel
  obtain ⟨-, -, distinct, -⟩ := route_names_distinct_iff userSite unnamed
  exact ⟨unnamed, distinct (by decide +kernel) (by decide +kernel), by decide +kernel⟩

/-- Three routes that differ in the constraint of a token only. -/
def constrainedSite : DeclarationSite :=
  inlineSite [inlineChain "MapGet" "/users/\x7bid:int\x7d",
    inlineChain "MapGet" "/users/\x7bid:guid\x7d", inlineChain "MapGet" "/users/\x7bid:alpha\x7d"]

/-- The routes are distinct and have no names of their own, and still two operations get one name,
so that a contract drops the last. -/
theorem constrainedSite_repeats_name :
    isRegistrationMethod constrainedSite.method = true ∧
      AllUnnamed constrainedSite (ofMethod constrainedSite.method) ∧
      ((ofMethod constrainedSite.method).map fun registration =>
        (registration.verb, registration.route)).Nodup ∧
      ¬((endpoints constrainedSite).value.map Endpoint.operation).Nodup ∧
      ((Contract.merge [{ endpoints := (endpoints constrainedSite).value }]).value.endpoints.map
        Endpoint.operation) = ["UsersById", "GetUsersById"] := by
  refine ⟨by decide, ?_, by decide +kernel, by decide +kernel, by decide +kernel⟩
  unfold AllUnnamed
  decide +kernel

end Registration

end TypedClient
