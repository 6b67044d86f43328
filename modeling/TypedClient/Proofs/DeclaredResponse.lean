/-
This file shows which declared response an operation takes its type from. It is the first one that
names a type and has a status of success, or a status that is a member of `StatusCodes`, which is
never read as a failure.
-/

import Mathlib
import TypedClient.Proofs.StatusSpelling

namespace TypedClient.Response

open Text

/-- A declared response: the type it names and its status, where it has them. -/
structure Declaration where
  type : Option SourceType
  status : Option String

namespace Declaration

/-- The response that a decoration declares. -/
def ofDecoration? (decoration : Decoration) : Option Declaration :=
  if ["ProducesResponseType", "Produces"].contains decoration.name then
    let positional := decoration.positional
    let arguments := positional ++ (decoration.named? "Type").toList
    some {
      type := (decoration.typeArguments.head?.or (arguments.findSome? typeOperand?)).map
        SourceType.ofDisplay
      status := (decoration.named? "StatusCode").or (firstStatus? positional) }
  else none

def ofCall? (call : ChainCall) : Option Declaration :=
  if call.name == "Produces" then
    some {
      type := (call.typeArguments.head?.or (call.arguments.findSome? typeOperand?)).map
        SourceType.ofDisplay
      status := firstStatus? call.arguments }
  else none

/-- The type of a declared response that passes for success. -/
def accepted? (declaration : Declaration) : Option SourceType :=
  if declaration.status.all isSuccess then declaration.type else none

/-- The status of a declared response is absent or has one of its spellings. -/
def IsSpelled (declaration : Declaration) : Prop :=
  ∀ status ∈ declaration.status, isSpelled status = true

instance (declaration : Declaration) : Decidable declaration.IsSpelled :=
  inferInstanceAs (Decidable (∀ status ∈ declaration.status, isSpelled status = true))

/-- A declared response names a type, and its status is absent or stands for success. -/
def succeeds (declaration : Declaration) : Bool :=
  declaration.type.isSome && declaration.status.all fun status => isSuccessCode (codeOf status)

/-- A declared response names a type for a member of `StatusCodes` that stands for no success. -/
def isHiddenFailure (declaration : Declaration) : Bool :=
  declaration.type.isSome &&
    declaration.status.any fun status => isMember status && !isSuccessCode (codeOf status)

def isTaken (declaration : Declaration) : Bool :=
  declaration.succeeds || declaration.isHiddenFailure

theorem succeeds_of_isHiddenFailure {declaration : Declaration}
    (hidden : declaration.isHiddenFailure = true) : declaration.succeeds = false := by
  obtain ⟨type, status⟩ := declaration
  cases status with
  | none => simp [isHiddenFailure] at hidden
  | some status => simp_all [isHiddenFailure, succeeds]

/-- The declared responses that pass for success are the successes and the hidden failures. -/
theorem accepted?_of_spelled {declaration : Declaration} (spelled : declaration.IsSpelled) :
    declaration.accepted? =
      if declaration.isTaken then declaration.type else none := by
  obtain ⟨type, status⟩ := declaration
  cases type with
  | none => simp [accepted?]
  | some type =>
      cases status with
      | none => simp [accepted?, isTaken, succeeds]
      | some status =>
          have passes := isSuccess_of_spelled (spelled status rfl)
          cases member : isMember status <;>
            simp [accepted?, isTaken, succeeds, isHiddenFailure, passes, member]

end Declaration

/-- The declared responses, with those of decorations in front. -/
def declarations (decorations : List Decoration) (metadata : List ChainCall) : List Declaration :=
  decorations.filterMap Declaration.ofDecoration? ++ metadata.filterMap Declaration.ofCall?

/-- The type of the first declared response that passes for success. -/
theorem declared?_eq_findSome? (decorations : List Decoration) (metadata : List ChainCall) :
    declared? decorations metadata =
      ((declarations decorations metadata).findSome? Declaration.accepted?).map
        withoutEnvelope := by
  have ofDecorations : decorations.findSome? ofDecoration? =
      (decorations.filterMap Declaration.ofDecoration?).findSome? Declaration.accepted? := by
    rw [← List.head?_filterMap, ← List.head?_filterMap, List.filterMap_filterMap]
    congr 2
    funext decoration
    simp only [ofDecoration?, Declaration.ofDecoration?]
    split <;> rfl
  have ofCalls : metadata.findSome? ofCall? =
      (metadata.filterMap Declaration.ofCall?).findSome? Declaration.accepted? := by
    rw [← List.head?_filterMap, ← List.head?_filterMap, List.filterMap_filterMap]
    congr 2
    funext call
    simp only [ofCall?, Declaration.ofCall?]
    split <;> rfl
  rw [declared?, declarations, List.findSome?_append, ofDecorations, ofCalls]

/-- The first declared response that names a type for a status of success or for no status. -/
def firstSuccess? (declarations : List Declaration) : Option Declaration :=
  declarations.find? Declaration.succeeds

/-- The first declared response that is a success or a hidden failure. -/
def firstTaken? (declarations : List Declaration) : Option Declaration :=
  declarations.find? Declaration.isTaken

/-- Every hidden failure comes behind a success. -/
def FailuresBehindSuccess (declarations : List Declaration) : Prop :=
  ∀ before declaration after, declarations = before ++ declaration :: after →
    declaration.isHiddenFailure = true → ∃ success ∈ before, success.succeeds = true

/-- The first type that passes for success is that of the first success or hidden failure. -/
theorem findSome?_accepted? {declarations : List Declaration}
    (spelled : ∀ declaration ∈ declarations, declaration.IsSpelled) :
    declarations.findSome? Declaration.accepted? =
      (firstTaken? declarations).bind Declaration.type := by
  induction declarations with
  | nil => rfl
  | cons declaration rest inductionHypothesis =>
      obtain ⟨first, others⟩ := List.forall_mem_cons.mp spelled
      have accepted := Declaration.accepted?_of_spelled first
      rw [firstTaken?] at inductionHypothesis ⊢
      cases taken : declaration.isTaken with
      | false =>
          rw [taken] at accepted
          rw [List.findSome?_cons_of_isNone (by simp [accepted]),
            List.find?_cons_of_neg (by simp [taken]), inductionHypothesis others]
      | true =>
          rw [taken, if_pos rfl] at accepted
          have typed : declaration.type.isSome = true := by
            rcases Bool.or_eq_true_iff.mp taken with success | hidden
            · exact (Bool.and_eq_true_iff.mp success).1
            · exact (Bool.and_eq_true_iff.mp hidden).1
          rw [List.findSome?_cons_of_isSome (by rwa [accepted]), List.find?_cons_of_pos taken,
            accepted, Option.bind_some]

/-- A list of declared responses begins with a success, or with no hidden failure and goes on so
that every hidden failure comes behind a success. -/
theorem failuresBehindSuccess_cons {declaration : Declaration} {rest : List Declaration} :
    FailuresBehindSuccess (declaration :: rest) ↔
      declaration.isHiddenFailure = false ∧
        (declaration.succeeds = true ∨ FailuresBehindSuccess rest) := by
  constructor
  · intro behind
    refine ⟨?_, ?_⟩
    · by_contra hidden
      obtain ⟨_, none, -⟩ := behind [] declaration rest rfl (by simpa using hidden)
      contradiction
    · refine or_iff_not_imp_left.mpr ?_
      rintro fails before failure after rfl hidden
      obtain ⟨success, member, succeeds⟩ :=
        behind (declaration :: before) failure after rfl hidden
      rcases List.mem_cons.mp member with rfl | later
      · contradiction
      · exact ⟨success, later, succeeds⟩
  · rintro ⟨shown, behind⟩ before failure after whole hidden
    cases before with
    | nil =>
        obtain ⟨rfl, -⟩ := List.cons.inj whole
        rw [shown] at hidden
        contradiction
    | cons first before =>
        obtain ⟨rfl, rfl⟩ := List.cons.inj whole
        rcases behind with succeeds | behind
        · exact ⟨_, List.mem_cons_self, succeeds⟩
        · obtain ⟨success, member, succeeds⟩ := behind before failure after rfl hidden
          exact ⟨success, List.mem_cons_of_mem _ member, succeeds⟩

instance decidableFailuresBehindSuccess :
    (declarations : List Declaration) → Decidable (FailuresBehindSuccess declarations)
  | [] => isTrue (by simp [FailuresBehindSuccess])
  | _ :: rest =>
    have := decidableFailuresBehindSuccess rest
    decidable_of_iff' _ failuresBehindSuccess_cons

/-- The first success is taken exactly where every hidden failure comes behind a success. -/
theorem firstTaken?_eq_iff (declarations : List Declaration) :
    firstTaken? declarations = firstSuccess? declarations ↔ FailuresBehindSuccess declarations := by
  induction declarations with
  | nil => simp [firstTaken?, firstSuccess?, FailuresBehindSuccess]
  | cons declaration rest inductionHypothesis =>
      rw [failuresBehindSuccess_cons, ← inductionHypothesis]
      simp only [firstTaken?, firstSuccess?, List.find?_cons]
      cases succeeds : declaration.succeeds with
      | true =>
          have shown : declaration.isHiddenFailure = false := by
            by_contra hidden
            rw [Declaration.succeeds_of_isHiddenFailure (by simpa using hidden)] at succeeds
            contradiction
          simp [Declaration.isTaken, succeeds, shown]
      | false =>
          cases hidden : declaration.isHiddenFailure with
          | true =>
              -- What is found among the rest succeeds, unlike this one.
              have other : some declaration ≠ rest.find? Declaration.succeeds := by
                intro found
                rw [List.find?_some found.symm] at succeeds
                contradiction
              simp [Declaration.isTaken, succeeds, hidden, other]
          | false => simp [Declaration.isTaken, succeeds, hidden]

/-- Two arguments of decorations differ in the spelling of a status only. -/
def SameArgument (left right : DecorationArgument) : Prop :=
  left.name = right.name ∧ SameStatus left.value right.value

/-- Two decorations differ in the spelling of statuses only. -/
structure SameDecoration (left right : Decoration) : Prop where
  name : left.name = right.name
  typeArguments : left.typeArguments = right.typeArguments
  arguments : List.Forall₂ SameArgument left.arguments right.arguments

/-- Two calls differ in the spelling of statuses only. -/
structure SameCall (left right : ChainCall) : Prop where
  name : left.name = right.name
  typeArguments : left.typeArguments = right.typeArguments
  arguments : List.Forall₂ SameStatus left.arguments right.arguments

/-- Two declared responses differ in the spelling of the status only. -/
structure SameDeclaration (left right : Declaration) : Prop where
  type : left.type = right.type
  status : Option.Rel SameStatus left.status right.status

section

variable {Element : Type} {Same : Element → Element → Prop}

theorem find?_of_forall₂ {left right : List Element} {test : Element → Bool}
    (related : List.Forall₂ Same left right) (agree : ∀ x y, Same x y → test x = test y) :
    Option.Rel Same (left.find? test) (right.find? test) := by
  induction related with
  | nil => exact .none
  | cons same _ inductionHypothesis =>
      rw [List.find?_cons, List.find?_cons, agree _ _ same]
      split
      · exact .some same
      · exact inductionHypothesis

theorem or_of_rel {first first' second second' : Option Element}
    (firsts : Option.Rel Same first first') (seconds : Option.Rel Same second second') :
    Option.Rel Same (first.or second) (first'.or second') := by
  cases firsts with
  | some same => exact .some same
  | none => exact seconds

theorem toList_of_rel {left right : Option Element} (related : Option.Rel Same left right) :
    List.Forall₂ Same left.toList right.toList := by
  cases related with
  | some same => exact .cons same .nil
  | none => exact .nil

end

/-- Respelled arguments have the same first `typeof` expression. -/
theorem findSome?_typeOperand? {left right : List String}
    (same : List.Forall₂ SameStatus left right) :
    left.findSome? typeOperand? = right.findSome? typeOperand? := by
  induction same with
  | nil => rfl
  | cons first _ inductionHypothesis =>
      rw [List.findSome?_cons, List.findSome?_cons, first.typeOperand?_eq, inductionHypothesis]

theorem firstStatus?_of_same {left right : List String}
    (same : List.Forall₂ SameStatus left right) :
    Option.Rel SameStatus (firstStatus? left) (firstStatus? right) := by
  refine find?_of_forall₂ same ?_
  intro x y spelling
  rw [spelling.typeOperand?_eq]

namespace SameDecoration

variable {left right : Decoration}

/-- Respelled decorations have the same arguments without a name. -/
theorem positional (same : SameDecoration left right) :
    List.Forall₂ SameStatus left.positional right.positional := by
  refine List.rel_filterMap ?_ same.arguments
  rintro ⟨name, value⟩ ⟨_, other⟩ ⟨rfl, spelling⟩
  cases name with
  | none => exact .some spelling
  | some name => exact .none

theorem value_of_rel {first second : Option DecorationArgument}
    (same : Option.Rel SameArgument first second) :
    Option.Rel SameStatus (first.map DecorationArgument.value)
      (second.map DecorationArgument.value) := by
  cases same with
  | some pair => exact .some pair.2
  | none => exact .none

theorem named? (same : SameDecoration left right) (name : String) :
    Option.Rel SameStatus (left.named? name) (right.named? name) := by
  refine value_of_rel (find?_of_forall₂ same.arguments ?_)
  rintro first second ⟨name, -⟩
  rw [name]

theorem ofDecoration? (same : SameDecoration left right) :
    Option.Rel SameDeclaration (Declaration.ofDecoration? left)
      (Declaration.ofDecoration? right) := by
  have types := findSome?_typeOperand?
    (List.rel_append same.positional (toList_of_rel (same.named? "Type")))
  simp only [Declaration.ofDecoration?, same.name, same.typeArguments, types]
  split
  · exact .some ⟨rfl, or_of_rel (same.named? "StatusCode") (firstStatus?_of_same same.positional)⟩
  · exact .none

end SameDecoration

theorem SameCall.ofCall? {left right : ChainCall} (same : SameCall left right) :
    Option.Rel SameDeclaration (Declaration.ofCall? left) (Declaration.ofCall? right) := by
  simp only [Declaration.ofCall?, same.name, same.typeArguments,
    findSome?_typeOperand? same.arguments]
  split
  · exact .some ⟨rfl, firstStatus?_of_same same.arguments⟩
  · exact .none

theorem declarations_of_same {decorations others : List Decoration}
    {metadata otherMetadata : List ChainCall}
    (sameDecorations : List.Forall₂ SameDecoration decorations others)
    (sameCalls : List.Forall₂ SameCall metadata otherMetadata) :
    List.Forall₂ SameDeclaration (declarations decorations metadata)
      (declarations others otherMetadata) :=
  List.rel_append (List.rel_filterMap (fun _ _ same => same.ofDecoration?) sameDecorations)
    (List.rel_filterMap (fun _ _ same => same.ofCall?) sameCalls)

namespace SameDeclaration

variable {left right : Declaration}

/-- The spelling of the status does not matter to success. -/
theorem succeeds_eq (same : SameDeclaration left right) : left.succeeds = right.succeeds := by
  obtain ⟨type, status⟩ := left
  obtain ⟨_, other⟩ := right
  obtain ⟨rfl, spelling⟩ := same
  cases spelling with
  | some spelling => simp [Declaration.succeeds, SameStatus.codeOf_eq spelling]
  | none => rfl

/-- A status stays spelled in another spelling. -/
theorem isSpelled_right (same : SameDeclaration left right) (spelled : left.IsSpelled) :
    right.IsSpelled := by
  obtain ⟨type, status⟩ := left
  obtain ⟨_, other⟩ := right
  obtain ⟨-, spelling⟩ := same
  cases spelling with
  | some spelling =>
      intro status member
      rw [← Option.mem_some_iff.mp member]
      exact spelling.isSpelled_right (spelled _ rfl)
  | none => exact spelled

end SameDeclaration

theorem isSpelled_of_same {left right : List Declaration}
    (same : List.Forall₂ SameDeclaration left right)
    (spelled : ∀ declaration ∈ left, declaration.IsSpelled) :
    ∀ declaration ∈ right, declaration.IsSpelled := by
  induction same with
  | nil => exact spelled
  | cons first _ inductionHypothesis =>
      obtain ⟨here, later⟩ := List.forall_mem_cons.mp spelled
      exact List.forall_mem_cons.mpr ⟨first.isSpelled_right here, inductionHypothesis later⟩

def answer? (found : Option Declaration) : Option SourceType :=
  (found.bind Declaration.type).map withoutEnvelope

theorem answer?_of_same {left right : Option Declaration}
    (same : Option.Rel SameDeclaration left right) : answer? left = answer? right := by
  cases same with
  | some pair => rw [answer?, answer?, Option.bind_some, Option.bind_some, pair.type]
  | none => rfl

theorem declared?_of_spelled {decorations : List Decoration} {metadata : List ChainCall}
    (spelled : ∀ declaration ∈ declarations decorations metadata, declaration.IsSpelled) :
    declared? decorations metadata = answer? (firstTaken? (declarations decorations metadata)) := by
  rw [declared?_eq_findSome?, findSome?_accepted? spelled, answer?]

/-- Where each declared status is absent, a number or a member of `StatusCodes`, an operation gets
the type of the first success or hidden failure. This is the first success exactly where every
hidden failure comes behind a success, and then the spelling of statuses does not matter. -/
theorem declared?_takes_success_iff (decorations : List Decoration) (metadata : List ChainCall)
    (spelled : ∀ declaration ∈ declarations decorations metadata, declaration.IsSpelled) :
    declared? decorations metadata =
        answer? (firstTaken? (declarations decorations metadata)) ∧
      (firstTaken? (declarations decorations metadata) =
          firstSuccess? (declarations decorations metadata) ↔
        FailuresBehindSuccess (declarations decorations metadata)) ∧
      ∀ others otherMetadata, List.Forall₂ SameDecoration decorations others →
        List.Forall₂ SameCall metadata otherMetadata →
          FailuresBehindSuccess (declarations decorations metadata) →
            FailuresBehindSuccess (declarations others otherMetadata) →
              declared? others otherMetadata = declared? decorations metadata := by
  refine ⟨declared?_of_spelled spelled, firstTaken?_eq_iff _, ?_⟩
  intro others otherMetadata sameDecorations sameCalls behind otherBehind
  have same := declarations_of_same sameDecorations sameCalls
  have success : answer? (firstSuccess? (declarations decorations metadata)) =
      answer? (firstSuccess? (declarations others otherMetadata)) :=
    answer?_of_same (find?_of_forall₂ same fun _ _ pair => pair.succeeds_eq)
  rw [declared?_of_spelled spelled, declared?_of_spelled (isSpelled_of_same same spelled),
    (firstTaken?_eq_iff _).mpr behind, (firstTaken?_eq_iff _).mpr otherBehind, success]

def responseDecoration (type status : String) : Decoration :=
  { name := "ProducesResponseType"
    arguments := [{ name := none, value := type }, { name := none, value := status }] }

/-- The responses of an operation that answers with users: a failure in digits, and a success. -/
def userResponses (success : String) : List Decoration :=
  [responseDecoration "typeof(ErrorDto)" "404",
    responseDecoration "typeof(List<UserDto>)" success]

/-- The operation gets the type of the success, in either spelling of its status. -/
theorem userResponses_take_success :
    (declared? (userResponses "200") []).map SourceType.name = some "List" ∧
      declared? (userResponses "StatusCodes.Status200OK") [] =
        declared? (userResponses "200") [] := by
  have spelled : ∀ declaration ∈ declarations (userResponses "200") [], declaration.IsSpelled := by
    decide +kernel
  obtain ⟨taken, success, respelled⟩ := declared?_takes_success_iff _ _ spelled
  have behind : FailuresBehindSuccess (declarations (userResponses "200") []) := by
    decide +kernel
  refine ⟨?_, respelled _ _ ?_ .nil behind (by decide +kernel)⟩
  · rw [taken, success.mpr behind]
    decide +kernel
  · have same : SameDecoration (responseDecoration "typeof(List<UserDto>)" "200")
        (responseDecoration "typeof(List<UserDto>)" "StatusCodes.Status200OK") := by
      refine ⟨rfl, rfl, .cons ⟨rfl, .inl rfl⟩ (.cons ⟨rfl, .inr ?_⟩ .nil)⟩
      decide +kernel
    have kept : SameDecoration (responseDecoration "typeof(ErrorDto)" "404")
        (responseDecoration "typeof(ErrorDto)" "404") :=
      ⟨rfl, rfl, .cons ⟨rfl, .inl rfl⟩ (.cons ⟨rfl, .inl rfl⟩ .nil)⟩
    exact .cons kept (.cons same .nil)

/-- A failure that is a member of `StatusCodes` gives its type to an operation that declares a
success behind it. -/
theorem hiddenFailure_is_taken :
    let responses := [responseDecoration "typeof(ErrorDto)" "StatusCodes.Status404NotFound",
      responseDecoration "typeof(UserDto)" "200"]
    (∀ declaration ∈ declarations responses [], declaration.IsSpelled) ∧
      (declared? responses []).map SourceType.name = some "ErrorDto" ∧
      (answer? (firstSuccess? (declarations responses []))).map SourceType.name =
        some "UserDto" := by
  decide +kernel

end TypedClient.Response
