/-
This file reads the marker by which a declaration is chosen for the client. Its named arguments
replace what is inferred about an operation.
-/

import TypedClient.Backend.Model
import TypedClient.Endpoint
import TypedClient.Literal.Basic

namespace TypedClient.ExportMarker

def name : String := "ExportClient"

def find? (decorations : List Decoration) : Option Decoration :=
  Decoration.find? decorations name

/-- Tells whether there is a marker. -/
def isOn (decorations : List Decoration) : Bool :=
  (find? decorations).isSome

def text? (marker : Decoration) (field : String) : Option String :=
  (marker.named? field).bind Literal.string?

/-- The truth value that a marker sets for a field. -/
def flag? (marker : Decoration) (field : String) : Option Bool :=
  (marker.named? field).bind Literal.bool?

/-- The list of texts that a marker sets for a field; an empty list sets nothing. -/
def texts? (marker : Decoration) (field : String) : Option (List String) :=
  ((marker.named? field).map Literal.strings).filter fun texts => !texts.isEmpty

/-- An endpoint with what a marker sets. -/
def apply (endpoint : Endpoint) (marker : Decoration) : Endpoint :=
  { endpoint with
    summary := (text? marker "Summary").or endpoint.summary
    requiresAuth := (flag? marker "RequiresAuth").getD endpoint.requiresAuth
    tags := (texts? marker "Tags").getD endpoint.tags
    isUpload := (flag? marker "Upload").getD endpoint.isUpload
    isDownload := (flag? marker "Download").getD endpoint.isDownload
    group := (text? marker "Group").getD endpoint.group }

/-- An endpoint with what several markers set; a later marker wins. -/
def overlay (endpoint : Endpoint) (markers : List Decoration) : Endpoint :=
  markers.foldl apply endpoint

end TypedClient.ExportMarker
