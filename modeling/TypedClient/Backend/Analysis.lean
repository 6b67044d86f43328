/-
This file analyses the declarations of one source file: its operations, types and rules.
-/

import TypedClient.Backend.Attached
import TypedClient.Backend.Registration
import TypedClient.Backend.TypeDiscovery
import TypedClient.Backend.Validator

namespace TypedClient

/-- What one source file adds to the contract. -/
structure FileAnalysis where
  path : String
  endpoints : List Endpoint := []
  types : List SourceType := []
  unlisted : List SourceType := []
  /-- The rules of the validators. -/
  rules : List Rule := []
  deriving Repr, Inhabited

namespace Analysis

/-- The styles of declaration in the order in which they are tried. -/
def styleOf? (site : DeclarationSite) : Option DeclarationStyle :=
  if Attached.recognizes site then some .attached
  else if Registration.isRegistrationMethod site.method then some .registered
  else none

/-- The methods of a file in order. -/
def sites (file : SourceModel) : List DeclarationSite :=
  file.containers.flatMap fun container =>
    container.methods.map fun method => ⟨file, container, method⟩

def handlerNames (file : SourceModel) : List String :=
  file.containers.flatMap Registration.handlerNames

/-- The warning that a chosen method declares no operation. -/
def skippedMethod (site : DeclarationSite) : Diagnostic :=
  { severity := .warning
    message := "exported method has no verb marker or registration call, skipping"
    file := site.file.path
    declaration := some site.qualifiedName }

/-- The operations that a method declares. -/
def siteEndpoints (handlers : List String) (site : DeclarationSite) :
    Reported (List Endpoint) :=
  match styleOf? site with
  | some .attached => ⟨Attached.endpoints site, []⟩
  | some .registered => Registration.endpoints site
  | none =>
    if ExportMarker.isOn site.method.decorations && !handlers.contains site.method.name then
      ⟨[], [skippedMethod site]⟩
    else ⟨[], []⟩

def endpoints (file : SourceModel) : Reported (List Endpoint) :=
  (Reported.each (siteEndpoints (handlerNames file)) (sites file)).map List.flatten

/-- The warning about a member of an enumeration whose value is not known. -/
def unresolvedWarning (path : Option String) (value : UnresolvedValue) : Diagnostic :=
  { severity := .warning
    message := "enum value `" ++ value.expression ++
      "` is not a constant expression, assuming " ++ intText value.assumed
    file := path
    declaration := some (value.enumName ++ "." ++ value.member) }

/-- What a file adds to the contract. -/
def analyze (path : String) (file : SourceModel) : Reported FileAnalysis :=
  let types := TypeDiscovery.discover file
  let found := endpoints file
  { value :=
      { path
        endpoints := found.value
        types := types.included
        unlisted := types.unlisted
        rules := Validator.rules file }
    diagnostics := file.unresolvedValues.map (unresolvedWarning (some path)) ++
      found.diagnostics }

end Analysis

end TypedClient
