/-
This file shows which arguments a client function has: those of the tokens of its route and of the
parameters that travel elsewhere, in some order.
-/

import Mathlib.Data.List.Perm.Basic
import TypedClient.Client.Function

namespace TypedClient.ClientFunction

theorem perm_arguments (context : Context) (endpoint : Endpoint) :
    (ofEndpoint context endpoint).arguments.Perm (declaredArguments context endpoint) := by
  refine List.perm_append_comm.trans ?_
  exact List.filter_append_perm Argument.isOptional (declaredArguments context endpoint)

-- Identifiers are not to be spelled out when arguments are compared.
attribute [local irreducible] Name.identifier

section Fields

variable (context : Context) (endpoint : Endpoint) (token : RouteToken) (parameter : Parameter)

@[simp] theorem place_routeArgument : (routeArgument context endpoint token).place = .route := rfl

@[simp] theorem identifier_routeArgument :
    (routeArgument context endpoint token).identifier = Name.identifier token.name := rfl

@[simp] theorem place_parameterArgument :
    (parameterArgument context parameter).place = parameter.place := rfl

@[simp] theorem identifier_parameterArgument :
    (parameterArgument context parameter).identifier = Name.identifier parameter.name := rfl

end Fields

variable {context : Context} {endpoint : Endpoint}

theorem mem_arguments {argument : Argument} :
    argument ∈ (ofEndpoint context endpoint).arguments ↔
      (∃ token ∈ Route.tokens endpoint.route, routeArgument context endpoint token = argument) ∨
        ∃ parameter ∈ endpoint.parameters,
          parameter.place ≠ .route ∧ parameterArgument context parameter = argument := by
  rw [(perm_arguments context endpoint).mem_iff, declaredArguments]
  simp [and_assoc]

theorem mem_argumentsAt {place : ParameterPlace} (beside : place ≠ .route) {argument : Argument} :
    argument ∈ (ofEndpoint context endpoint).argumentsAt place ↔
      ∃ parameter ∈ endpoint.parametersAt place,
        parameterArgument context parameter = argument := by
  simp only [argumentsAt, Endpoint.parametersAt, List.mem_filter, mem_arguments, beq_iff_eq]
  constructor
  · rintro ⟨⟨token, _, rfl⟩ | ⟨parameter, member, _, rfl⟩, there⟩
    · exact absurd there.symm beside
    · exact ⟨parameter, ⟨member, there⟩, rfl⟩
  · rintro ⟨parameter, ⟨member, rfl⟩, rfl⟩
    exact ⟨.inr ⟨parameter, member, beside, rfl⟩, rfl⟩

theorem argumentsAt_eq_nil_iff {place : ParameterPlace} (beside : place ≠ .route) :
    (ofEndpoint context endpoint).argumentsAt place = [] ↔ endpoint.parametersAt place = [] := by
  simp only [List.eq_nil_iff_forall_not_mem, mem_argumentsAt beside]
  simp

/-- The line that makes the form of a request. -/
def formLine : String := "const form = new FormData();"

theorem formLine_mem_formLines {function : ClientFunction} :
    formLine ∈ function.formLines ↔ function.argumentsAt .form ≠ [] := by
  rw [formLines]
  split
  case isTrue none => simp [List.isEmpty_iff.mp none]
  case isFalse some => simpa [formLine, List.isEmpty_iff] using some

end TypedClient.ClientFunction
