/-
This file shows what becomes of the methods that are chosen for the client: which of them declare
an operation, handle one or are reported, and which are passed over without a word.
-/

import TypedClient.Backend.Analysis
import TypedClient.Proofs.Registrations
import TypedClient.Proofs.Reports

namespace TypedClient

theorem Attached.exists_endpoint {site : DeclarationSite}
    (recognized : recognizes site = true)
    (marked : ExportMarker.isOn site.method.decorations = true) :
    ∃ endpoint, endpoint ∈ endpoints site := by
  obtain ⟨⟨verb, verbMarker⟩, found⟩ := Option.isSome_iff_exists.mp recognized
  obtain ⟨marker, exported⟩ := Option.isSome_iff_exists.mp marked
  cases outer : ExportMarker.find? site.container.decorations <;>
    simp [endpoints, found, exported, outer]

namespace Analysis

/-- A chosen method is passed over with a warning: it declares nothing in either style, and no
registration names a handler like it. -/
def IsReported (file : SourceModel) (site : DeclarationSite) : Prop :=
  styleOf? site = none ∧ ExportMarker.isOn site.method.decorations = true ∧
    site.method.name ∉ handlerNames file

/-- A registration names a method as its handler, and finds it. -/
def IsHandler (file : SourceModel) (site : DeclarationSite) : Prop :=
  ∃ other ∈ sites file, styleOf? other = some .registered ∧
    ∃ registration ∈ Registration.ofMethod other.method,
      Registration.resolve? other registration = some ⟨some site.container, site.method⟩

/-- A chosen method is not forgotten. -/
inductive IsAccounted (file : SourceModel) (site : DeclarationSite) : Prop
  /-- The method declares an operation. -/
  | declares (endpoint : Endpoint) (kept : endpoint ∈ (endpoints file).value)
      (declared : endpoint ∈ (siteEndpoints (handlerNames file) site).value)
  /-- The method is the handler of a registration that declares an operation. -/
  | handles (other : DeclarationSite) (registration : Registration) (endpoint : Endpoint)
      (there : other ∈ sites file) (style : styleOf? other = some .registered)
      (registered : registration ∈ Registration.ofMethod other.method)
      (resolved : Registration.resolve? other registration =
        some ⟨some site.container, site.method⟩)
      (kept : endpoint ∈ (endpoints file).value)
      (described : Registration.Declares other registration endpoint)
  /-- A warning names the method. -/
  | warned (diagnostic : Diagnostic) (reported : diagnostic ∈ (endpoints file).diagnostics)
      (warning : diagnostic.severity = .warning)
      (named : diagnostic.declaration = some site.qualifiedName)

variable {file : SourceModel} {site : DeclarationSite}

/-- The operations of a file are those of its methods. -/
theorem mem_endpoints {endpoint : Endpoint} :
    endpoint ∈ (endpoints file).value ↔
      ∃ site ∈ sites file, endpoint ∈ (siteEndpoints (handlerNames file) site).value := by
  simp [endpoints, Reported.map, Reported.value_each, List.mem_flatten]

/-- What is reported about a file is reported about its methods. -/
theorem mem_diagnostics {diagnostic : Diagnostic} :
    diagnostic ∈ (endpoints file).diagnostics ↔
      ∃ site ∈ sites file, diagnostic ∈ (siteEndpoints (handlerNames file) site).diagnostics := by
  simp [endpoints, Reported.map, Reported.diagnostics_each]

/-- A method with a verb marker is attached to its operation, another one that extends a builder
registers operations, and the rest has no style. -/
theorem styleOf?_cases (site : DeclarationSite) :
    (styleOf? site = some .attached ∧ Attached.recognizes site = true) ∨
      (styleOf? site = some .registered ∧ Attached.recognizes site = false ∧
        Registration.isRegistrationMethod site.method = true) ∨
      (styleOf? site = none ∧ Attached.recognizes site = false ∧
        Registration.isRegistrationMethod site.method = false) := by
  unfold styleOf?
  cases Attached.recognizes site <;>
    cases Registration.isRegistrationMethod site.method <;> simp

/-- A method declares the operations of its style, and none without a style. -/
theorem value_siteEndpoints (handlers : List String) (site : DeclarationSite) :
    (siteEndpoints handlers site).value = match styleOf? site with
      | some .attached => Attached.endpoints site
      | some .registered => (Registration.endpoints site).value
      | none => [] := by
  unfold siteEndpoints
  cases styleOf? site with
  | none =>
      dsimp only
      split <;> rfl
  | some style => cases style <;> rfl

/-- The one warning about a method says that it is passed over. -/
theorem mem_siteDiagnostics_iff {diagnostic : Diagnostic}
    (warning : diagnostic.severity = .warning) :
    diagnostic ∈ (siteEndpoints (handlerNames file) site).diagnostics ↔
      IsReported file site ∧ diagnostic = skippedMethod site := by
  unfold siteEndpoints IsReported
  cases style : styleOf? site with
  | none =>
      by_cases skipped : ExportMarker.isOn site.method.decorations = true ∧
        site.method.name ∉ handlerNames file <;> simp [skipped]
  | some found =>
      cases found with
      | attached => simp
      | registered =>
          have informs : diagnostic ∉ (Registration.endpoints site).diagnostics := by
            intro reported
            rw [Registration.severity_endpointsFrom reported] at warning
            contradiction
          simp [informs]

/-- A chosen method of the registered style declares an operation exactly if it registers on a
group. -/
theorem exists_registered_iff (style : styleOf? site = some .registered)
    (marked : ExportMarker.isOn site.method.decorations = true) :
    (∃ endpoint, endpoint ∈ (siteEndpoints (handlerNames file) site).value) ↔
      Registration.registersOn (Registration.receivers site.method)
        site.method.chains = true := by
  rw [value_siteEndpoints, style, ← Bool.not_eq_false, ← Registration.ofMethod_eq_nil_iff]
  constructor
  · intro ⟨endpoint, declared⟩ nothing
    rw [Registration.endpoints, nothing] at declared
    contradiction
  · intro something
    obtain ⟨registration, member⟩ := List.exists_mem_of_ne_nil _ something
    obtain ⟨endpoint, declared, -⟩ :=
      Registration.exists_declared member (Registration.isChosen_of_marked marked registration)
    exact ⟨endpoint, declared⟩

/-- A chosen method declares an operation exactly if it has a verb marker or registers on a
group. -/
theorem exists_declared_iff (marked : ExportMarker.isOn site.method.decorations = true) :
    (∃ endpoint, endpoint ∈ (siteEndpoints (handlerNames file) site).value) ↔
      Attached.recognizes site = true ∨
        Registration.isRegistrationMethod site.method = true ∧
          Registration.registersOn (Registration.receivers site.method)
            site.method.chains = true := by
  rcases styleOf?_cases site with ⟨style, recognized⟩ | ⟨style, unrecognized, builder⟩ |
    ⟨style, unrecognized, plain⟩
  · simp [value_siteEndpoints, style, recognized, Attached.exists_endpoint recognized marked]
  · rw [exists_registered_iff style marked, unrecognized, builder]
    simp
  · simp [value_siteEndpoints, style, unrecognized, plain]

/-- A chosen handler that a registration finds is part of an operation. -/
theorem IsHandler.isAccounted (handler : IsHandler file site)
    (marked : ExportMarker.isOn site.method.decorations = true) : IsAccounted file site := by
  obtain ⟨other, there, style, registration, registered, resolved⟩ := handler
  obtain ⟨endpoint, declared, described⟩ :=
    Registration.exists_declared registered (Registration.isChosen_of_handler resolved marked)
  have kept : endpoint ∈ (endpoints file).value := by
    apply mem_endpoints.mpr
    exact ⟨other, there, by rwa [value_siteEndpoints, style]⟩
  exact .handles other registration endpoint there style registered resolved kept described

/-- A chosen method is not forgotten exactly if it declares an operation, a registration finds it as
its handler, or a method of the same name is reported as passed over. -/
theorem isAccounted_iff (member : site ∈ sites file)
    (marked : ExportMarker.isOn site.method.decorations = true) :
    IsAccounted file site ↔
      (∃ endpoint, endpoint ∈ (siteEndpoints (handlerNames file) site).value) ∨
      IsHandler file site ∨
      ∃ namesake ∈ sites file, namesake.qualifiedName = site.qualifiedName ∧
        IsReported file namesake := by
  constructor
  · intro accounted
    cases accounted with
    | declares endpoint kept declared => exact .inl ⟨endpoint, declared⟩
    | handles other registration endpoint there style registered resolved =>
        exact .inr (.inl ⟨other, there, style, registration, registered, resolved⟩)
    | warned diagnostic reported warning named =>
        obtain ⟨namesake, there, reported⟩ := mem_diagnostics.mp reported
        obtain ⟨skipped, rfl⟩ := (mem_siteDiagnostics_iff warning).mp reported
        exact .inr (.inr ⟨namesake, there, Option.some.inj named, skipped⟩)
  · intro reason
    rcases reason with ⟨endpoint, declared⟩ | handler | ⟨namesake, there, named, skipped⟩
    · exact .declares endpoint (mem_endpoints.mpr ⟨site, member, declared⟩) declared
    · exact handler.isAccounted marked
    · apply IsAccounted.warned (skippedMethod namesake) _ rfl (congrArg some named)
      apply mem_diagnostics.mpr
      exact ⟨namesake, there, (mem_siteDiagnostics_iff rfl).mpr ⟨skipped, rfl⟩⟩

/-- A method that is chosen for the client is not forgotten exactly in these cases: it has a verb
marker, it registers an operation on its receiver or on a group made from it, a registration finds
it as its handler, or a method of the same name is reported as passed over. -/
theorem exported_method_accounted_iff (member : site ∈ sites file)
    (marked : ExportMarker.isOn site.method.decorations = true) :
    IsAccounted file site ↔
      (Attached.recognizes site = true ∨
        Registration.isRegistrationMethod site.method = true ∧
          Registration.registersOn (Registration.receivers site.method)
            site.method.chains = true) ∨
      IsHandler file site ∨
      ∃ namesake ∈ sites file, namesake.qualifiedName = site.qualifiedName ∧
        IsReported file namesake := by
  rw [isAccounted_iff member marked, exists_declared_iff marked]

def chosen (name : String) : Method :=
  { name, decorations := [{ name := ExportMarker.name }] }

/-- A chosen method that registers an operation on a variable. -/
def registering (name root route handler : String) : Method :=
  { chosen name with
    parameters := [
      { name := "app", type := .reference "IEndpointRouteBuilder", isReceiver := true }]
    chains := [{ root, calls := [{ name := "MapGet", arguments := [route, handler] }] }] }

/-- A file with chosen methods in several classes. -/
def orderFile : SourceModel where
  containers := [
    { name := "OrderEndpoints"
      methods := [registering "MapOrders" "app" "\"/orders\"" "GetOrder", { name := "GetOrder" }] },
    { name := "InvoiceEndpoints"
      methods := [registering "MapInvoices" "api" "\"/invoices\"" "GetInvoice"] },
    { name := "OrderHistory"
      methods := [chosen "GetOrder", chosen "GetTotal"] }]

/-- The method that registers an operation on its receiver is not forgotten. -/
theorem mapOrders_isAccounted :
    ∃ site ∈ sites orderFile, site.qualifiedName = "OrderEndpoints.MapOrders" ∧
      ExportMarker.isOn site.method.decorations = true ∧ IsAccounted orderFile site := by
  have member : (sites orderFile).headD default ∈ sites orderFile := List.mem_of_mem_head? rfl
  refine ⟨_, member, by decide, by decide, ?_⟩
  apply (exported_method_accounted_iff member (by decide)).mpr
  exact .inl (.inr ⟨by decide, by decide⟩)

instance (file : SourceModel) (site : DeclarationSite) : Decidable (IsReported file site) :=
  inferInstanceAs (Decidable (_ ∧ _ ∧ _))

/-- The names of a handler and of its container. -/
def resolvedNames? (site : DeclarationSite) (registration : Registration) :
    Option (Option String × String) :=
  (Registration.resolve? site registration).map fun handler =>
    (handler.owner.map Container.name, handler.method.name)

/-- Two chosen methods are forgotten: one registers on a variable that stands for no group, and
one only has the name of a handler in another class. -/
theorem orderFile_forgets :
    let forgotten := ["InvoiceEndpoints.MapInvoices", "OrderHistory.GetOrder"]
    forgotten ⊆ (sites orderFile).map DeclarationSite.qualifiedName ∧
      ∀ site ∈ sites orderFile, site.qualifiedName ∈ forgotten →
        ExportMarker.isOn site.method.decorations = true ∧ ¬IsAccounted orderFile site := by
  intro forgotten
  refine ⟨by decide, ?_⟩
  intro site member named
  have marked : ∀ site ∈ sites orderFile, site.qualifiedName ∈ forgotten →
      ExportMarker.isOn site.method.decorations = true := by decide
  have silent : ∀ site ∈ sites orderFile, site.qualifiedName ∈ forgotten →
      (siteEndpoints (handlerNames orderFile) site).value.isEmpty = true := by decide
  have unfound : ∀ site ∈ sites orderFile, site.qualifiedName ∈ forgotten →
      ∀ other ∈ sites orderFile, ∀ registration ∈ Registration.ofMethod other.method,
        resolvedNames? other registration ≠ some (some site.container.name, site.method.name) := by
    decide
  have unnamed : ∀ site ∈ sites orderFile, site.qualifiedName ∈ forgotten →
      ∀ namesake ∈ sites orderFile, namesake.qualifiedName = site.qualifiedName →
        ¬IsReported orderFile namesake := by decide
  refine ⟨marked site member named, ?_⟩
  intro accounted
  rcases (isAccounted_iff member (marked site member named)).mp accounted with
    ⟨endpoint, declared⟩ | handler | ⟨namesake, there, same, reported⟩
  · have empty := List.isEmpty_iff.mp (silent site member named)
    rw [empty] at declared
    contradiction
  · obtain ⟨other, there, _, registration, registered, resolved⟩ := handler
    apply unfound site member named other there registration registered
    rw [resolvedNames?, resolved]
    rfl
  · exact unnamed site member named namesake there same reported

end Analysis

end TypedClient
