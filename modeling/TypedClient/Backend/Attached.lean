/-
This file finds operations that are declared by verb markers attached to methods.
-/

import TypedClient.Backend.Handler

namespace TypedClient.Attached

open Text

/-- The first verb marker and its method of HTTP. -/
def verbMarker? (decorations : List Decoration) : Option (Verb × Decoration) :=
  decorations.findSome? fun decoration =>
    (Verb.ofMarker? decoration.name).map fun verb => (verb, decoration)

def template? (decoration : Decoration) : Option String :=
  (decoration.positional.head?.or (decoration.named? "template")).bind Literal.string?

/-- A template with names in the place of its words for the container and the method. -/
def expand (container : Container) (method : Method) (template : String) : String :=
  let withGroup := replaceAll "[controller]".toList (groupName container.name).toList
    template.toList
  String.ofList (replaceAll "[action]".toList (operationName method.name).toList withGroup)

/-- The template of a method: that of its verb marker, or else of its route decoration, or else
its name. -/
def methodTemplate (marker : Decoration) (method : Method) : String :=
  ((template? marker).or ((Decoration.find? method.decorations "Route").bind template?)).getD
    method.name

def containerTemplate (container : Container) : String :=
  ((Decoration.find? container.decorations "Route").bind template?).getD ""

def route (marker : Decoration) (container : Container) (method : Method) : String :=
  Route.join (expand container method (containerTemplate container))
    (expand container method (methodTemplate marker method))

/-- Tells whether a method has the form of this style. -/
def recognizes (site : DeclarationSite) : Bool :=
  (verbMarker? site.method.decorations).isSome

/-- The operations that a method declares. Without an export marker on the method or its container
there are none. -/
def endpoints (site : DeclarationSite) : List Endpoint :=
  let markers := (ExportMarker.find? site.container.decorations).toList ++
    (ExportMarker.find? site.method.decorations).toList
  match verbMarker? site.method.decorations, markers with
  | some (verb, marker), _ :: _ =>
    let described := Handler.describe verb (route marker site.container site.method)
      site.container site.method [] .attached site.file.path
    [ExportMarker.overlay described markers]
  | _, _ => []

end TypedClient.Attached
