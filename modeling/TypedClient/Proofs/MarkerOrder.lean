/-
This file shows which export marker decides about a field of an operation. The markers of a
handler, of its container, of the method that declares or registers the operation and of the
container of that method come in this order. Where the two containers are one, its marker comes
before that of the method, although it stands around it.
-/

import Mathlib.Data.List.Induction
import TypedClient.Proofs.ExportedMethods

namespace TypedClient

namespace ExportMarker

/-- The fields of an operation that a marker may set. -/
structure Settings where
  summary : Option String
  requiresAuth : Bool
  tags : List String
  isUpload : Bool
  isDownload : Bool
  group : String
  deriving DecidableEq, Repr

/-- The fields of an operation that a marker may set. -/
def settingsOf (endpoint : Endpoint) : Settings :=
  { summary := endpoint.summary
    requiresAuth := endpoint.requiresAuth
    tags := endpoint.tags
    isUpload := endpoint.isUpload
    isDownload := endpoint.isDownload
    group := endpoint.group }

/-- Each field as the first of some markers sets it that sets it at all, or else as inferred. -/
def settle (inferred : Settings) (markers : List Decoration) : Settings :=
  { summary := (markers.findSome? (text? · "Summary")).or inferred.summary
    requiresAuth := (markers.findSome? (flag? · "RequiresAuth")).getD inferred.requiresAuth
    tags := (markers.findSome? (texts? · "Tags")).getD inferred.tags
    isUpload := (markers.findSome? (flag? · "Upload")).getD inferred.isUpload
    isDownload := (markers.findSome? (flag? · "Download")).getD inferred.isDownload
    group := (markers.findSome? (text? · "Group")).getD inferred.group }

section FindSome

variable {Value : Type} (read : Decoration → Option Value) (first : Decoration)
  (markers : List Decoration)

theorem getD_findSome?_cons (fallback : Value) :
    ((first :: markers).findSome? read).getD fallback =
      (read first).getD ((markers.findSome? read).getD fallback) := by
  rw [List.findSome?_cons]
  cases read first <;> rfl

theorem or_findSome?_cons (fallback : Option Value) :
    ((first :: markers).findSome? read).or fallback =
      (read first).or ((markers.findSome? read).or fallback) := by
  rw [List.findSome?_cons]
  cases read first <;> rfl

theorem findSome?_toList (marker : Option Decoration) :
    marker.toList.findSome? read = marker.bind read := by
  cases marker with
  | none => rfl
  | some marker => simp

end FindSome

/-- The first of some markers decides where it sets a field, and leaves the rest to the others. -/
theorem settingsOf_apply {endpoint : Endpoint} {inferred : Settings} {markers : List Decoration}
    (settled : settingsOf endpoint = settle inferred markers) (marker : Decoration) :
    settingsOf (apply endpoint marker) = settle inferred (marker :: markers) := by
  simp only [settingsOf, settle, Settings.mk.injEq] at settled
  obtain ⟨summary, requiresAuth, tags, isUpload, isDownload, group⟩ := settled
  simp only [settingsOf, apply, settle, getD_findSome?_cons, or_findSome?_cons, summary,
    requiresAuth, tags, isUpload, isDownload, group]

/-- What several markers set is what the last of them set first. -/
theorem settingsOf_overlay (endpoint : Endpoint) (markers : List Decoration) :
    settingsOf (overlay endpoint markers) = settle (settingsOf endpoint) markers.reverse := by
  induction markers using List.reverseRecOn with
  | nil => rfl
  | append_singleton markers last inductionHypothesis =>
      rw [overlay, List.foldl_append, List.reverse_append]
      exact settingsOf_apply inductionHypothesis last

end ExportMarker

namespace Analysis

open ExportMarker

/-- What leads to an operation: the method that declares or registers it, the handler that a
registration resolves to, and what is known about it without markers. -/
structure Origin where
  site : DeclarationSite
  handler : Option Registration.ResolvedHandler := none
  inferred : Settings

namespace Origin

def handlerMarker? (origin : Origin) : Option Decoration :=
  origin.handler.bind fun handler => find? handler.method.decorations

/-- The marker of the container of the handler. -/
def ownerMarker? (origin : Origin) : Option Decoration :=
  (origin.handler.bind Registration.ResolvedHandler.owner).bind fun owner =>
    find? owner.decorations

/-- The marker of the method that declares or registers the operation. -/
def methodMarker? (origin : Origin) : Option Decoration :=
  find? origin.site.method.decorations

def containerMarker? (origin : Origin) : Option Decoration :=
  find? origin.site.container.decorations

/-- All markers in the order in which they decide. -/
def deciding (origin : Origin) : List Decoration :=
  origin.handlerMarker?.toList ++ origin.ownerMarker?.toList ++ origin.methodMarker?.toList ++
    origin.containerMarker?.toList

/-- The markers of the handler, the method and its container, from the innermost to the
outermost. -/
def nested (origin : Origin) : List Decoration :=
  origin.handlerMarker?.toList ++ origin.methodMarker?.toList ++ origin.containerMarker?.toList

/-- The container of the handler leaves a field as the method, its container and what is known
without markers have it, unless the handler sets the field itself. -/
def Keeps {Value : Type} (origin : Origin) (read : Decoration → Option Value)
    (inferred : Option Value) : Prop :=
  origin.handlerMarker?.bind read = none → ∀ value, origin.ownerMarker?.bind read = some value →
    ((origin.methodMarker?.bind read).or (origin.containerMarker?.bind read)).or inferred =
      some value

/-- The container of the handler leaves every field as it is without it. -/
structure IsKept (origin : Origin) : Prop where
  summary : origin.Keeps (text? · "Summary") origin.inferred.summary
  requiresAuth : origin.Keeps (flag? · "RequiresAuth") (some origin.inferred.requiresAuth)
  tags : origin.Keeps (texts? · "Tags") (some origin.inferred.tags)
  isUpload : origin.Keeps (flag? · "Upload") (some origin.inferred.isUpload)
  isDownload : origin.Keeps (flag? · "Download") (some origin.inferred.isDownload)
  group : origin.Keeps (text? · "Group") (some origin.inferred.group)

/-- What the first deciding marker sets that sets a field. -/
theorem findSome?_deciding {Value : Type} (origin : Origin) (read : Decoration → Option Value) :
    origin.deciding.findSome? read =
      (((origin.handlerMarker?.bind read).or (origin.ownerMarker?.bind read)).or
        (origin.methodMarker?.bind read)).or (origin.containerMarker?.bind read) := by
  simp only [deciding, List.findSome?_append, findSome?_toList]

/-- What the innermost marker sets that sets a field. -/
theorem findSome?_nested {Value : Type} (origin : Origin) (read : Decoration → Option Value) :
    origin.nested.findSome? read =
      ((origin.handlerMarker?.bind read).or (origin.methodMarker?.bind read)).or
        (origin.containerMarker?.bind read) := by
  simp only [nested, List.findSome?_append, findSome?_toList]

/-- A field is as the innermost marker sets it exactly where the container of the handler keeps
it. -/
theorem or_deciding_iff {Value : Type} (origin : Origin) (read : Decoration → Option Value)
    (inferred : Option Value) :
    (origin.deciding.findSome? read).or inferred = (origin.nested.findSome? read).or inferred ↔
      origin.Keeps read inferred := by
  rw [findSome?_deciding, findSome?_nested, Keeps]
  cases origin.handlerMarker?.bind read with
  | some value => simp
  | none =>
      cases origin.ownerMarker?.bind read with
      | none => simp
      | some value => simp [eq_comm]

/-- The same for a field that is never absent. -/
theorem getD_deciding_iff {Value : Type} (origin : Origin) (read : Decoration → Option Value)
    (inferred : Value) :
    (origin.deciding.findSome? read).getD inferred =
        (origin.nested.findSome? read).getD inferred ↔ origin.Keeps read (some inferred) := by
  rw [← or_deciding_iff, Option.or_some, Option.or_some, Option.some_inj]

/-- The fields are those of the innermost markers exactly if the container of the handler keeps
them all. -/
theorem settle_deciding_iff (origin : Origin) :
    settle origin.inferred origin.deciding = settle origin.inferred origin.nested ↔
      origin.IsKept := by
  simp only [settle, Settings.mk.injEq, getD_deciding_iff, or_deciding_iff]
  constructor
  · rintro ⟨summary, requiresAuth, tags, isUpload, isDownload, group⟩
    exact ⟨summary, requiresAuth, tags, isUpload, isDownload, group⟩
  · intro kept
    exact ⟨kept.summary, kept.requiresAuth, kept.tags, kept.isUpload, kept.isDownload,
      kept.group⟩

end Origin

/-- The origin of what a method with a verb marker declares. -/
def attachedOrigins (site : DeclarationSite) : List Origin :=
  match Attached.verbMarker? site.method.decorations with
  | some (verb, marker) =>
    let described := Handler.describe verb (Attached.route marker site.container site.method)
      site.container site.method [] .attached site.file.path
    if isOn site.method.decorations || isOn site.container.decorations then
      [{ site, inferred := settingsOf described }]
    else []
  | none => []

def registeredOrigins (site : DeclarationSite) : List Origin :=
  ((Registration.ofMethod site.method).filter (Registration.isChosen site)).map
    fun registration =>
      let handler := Registration.resolve? site registration
      { site, handler
        inferred := settingsOf (Registration.described site registration handler) }

/-- The origins of what a method declares in its style. -/
def siteOrigins (site : DeclarationSite) : List Origin :=
  match styleOf? site with
  | some .attached => attachedOrigins site
  | some .registered => registeredOrigins site
  | none => []

/-- The origins of the operations of a file, in order. -/
def origins (file : SourceModel) : List Origin :=
  (sites file).flatMap siteOrigins

/-- An operation has the fields that the deciding markers of its origin set. -/
def IsSettled (origin : Origin) (endpoint : Endpoint) : Prop :=
  settingsOf endpoint = settle origin.inferred origin.deciding

/-- What a method with a verb marker declares is settled. -/
theorem attached_settled (site : DeclarationSite) :
    List.Forall₂ IsSettled (attachedOrigins site) (Attached.endpoints site) := by
  unfold attachedOrigins Attached.endpoints
  cases Attached.verbMarker? site.method.decorations with
  | none => exact .nil
  | some found =>
      obtain ⟨verb, marker⟩ := found
      cases outer : find? site.container.decorations <;>
        cases inner : find? site.method.decorations <;>
        simp [isOn, outer, inner, IsSettled, settingsOf_overlay, Origin.deciding,
          Origin.handlerMarker?, Origin.ownerMarker?, Origin.methodMarker?,
          Origin.containerMarker?]

theorem reverse_markers (site : DeclarationSite) (handler : Option Registration.ResolvedHandler)
    (inferred : Settings) :
    (Registration.markers site handler).reverse =
      Origin.deciding { site, handler, inferred } := by
  have reversed (marker : Option Decoration) : marker.toList.reverse = marker.toList := by
    cases marker <;> rfl
  cases handler <;>
    simp [Registration.markers, Origin.deciding, reversed, Origin.handlerMarker?,
      Origin.ownerMarker?, Origin.methodMarker?, Origin.containerMarker?]

theorem registered_settled (site : DeclarationSite) :
    List.Forall₂ IsSettled (registeredOrigins site) (Registration.endpoints site).value := by
  rw [registeredOrigins, List.forall₂_map_left_iff]
  refine (Registration.endpointsFrom_declares site [] _).imp ?_
  rintro registration endpoint ⟨name, rfl⟩
  rw [IsSettled, settingsOf_overlay]
  rw [reverse_markers]
  rfl

theorem site_settled (handlers : List String) (site : DeclarationSite) :
    List.Forall₂ IsSettled (siteOrigins site) (siteEndpoints handlers site).value := by
  rw [siteOrigins, value_siteEndpoints]
  cases styleOf? site with
  | none => exact .nil
  | some style =>
      cases style with
      | attached => exact attached_settled site
      | registered => exact registered_settled site

theorem endpoints_settled (file : SourceModel) :
    List.Forall₂ IsSettled (origins file) (endpoints file).value := by
  have together : (endpoints file).value =
      ((sites file).map fun site => (siteEndpoints (handlerNames file) site).value).flatten := by
    simp only [endpoints, Reported.map, Reported.value_each]
  rw [together, origins, List.flatMap]
  apply List.rel_flatten
  rw [List.forall₂_map_left_iff, List.forall₂_map_right_iff, List.forall₂_same]
  exact fun site _ => site_settled (handlerNames file) site

/-- In every file and for every operation, a field is as the first marker sets it that sets it,
among those of the handler, of its container, of the method and of the container of the method. The
fields are those of the innermost markers exactly if the container of the handler keeps them. -/
theorem fields_from_deciding_markers (file : SourceModel) :
    List.Forall₂ (fun origin endpoint =>
        settingsOf endpoint = settle origin.inferred origin.deciding ∧
          (settingsOf endpoint = settle origin.inferred origin.nested ↔ origin.IsKept))
      (origins file) (endpoints file).value := by
  refine (endpoints_settled file).imp ?_
  intro origin endpoint settled
  refine ⟨settled, ?_⟩
  rw [settled, Origin.settle_deciding_iff]

/-- A class for users with a method that registers an operation for another group. -/
def userFile : SourceModel where
  containers := [
    { name := "UserEndpoints"
      decorations := [
        { name := ExportMarker.name, arguments := [⟨some "Group", "\"Users\""⟩] }]
      methods := [
        { name := "MapUsers"
          decorations := [
            { name := ExportMarker.name, arguments := [⟨some "Group", "\"Admin\""⟩] }]
          parameters := [
            { name := "app", type := .reference "IEndpointRouteBuilder", isReceiver := true }]
          chains := [
            { root := "app"
              calls := [{ name := "MapGet", arguments := ["\"/users\"", "ListUsers"] }] }] },
        { name := "ListUsers" }] }]

/-- The marker of the method is the innermost that sets the group, but that of the class around
both methods decides. -/
theorem userFile_overrides_method :
    (endpoints userFile).value.map Endpoint.group = ["Users"] ∧
      ((origins userFile).map fun origin => (settle origin.inferred origin.nested).group) =
        ["Admin"] ∧
      ¬List.Forall₂ (fun origin endpoint =>
          settingsOf endpoint = settle origin.inferred origin.nested)
        (origins userFile) (endpoints userFile).value := by
  decide

end Analysis

end TypedClient
