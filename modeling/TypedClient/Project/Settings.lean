/-
This file reads the settings of a project from a TOML document. Every setting may be missing, and
members with other names do not count.
-/

import TypedClient.Client.Options
import TypedClient.Toml.Document

namespace TypedClient

open Toml (Value)

/-- The settings as they are written. -/
structure Settings where
  outputPath : Option String := none
  packageName : Option String := none
  baseUrl : Option String := none
  framework : Framework := .vanilla
  strict : Bool := false
  /-- The directories with the sources of the backend. -/
  roots : List String := []
  excludedEndpoints : List String := []
  excludedTypes : List String := []
  features : Features := {}
  typeOverrides : List (String × String) := []
  deriving DecidableEq, Repr, Inhabited

namespace Settings

def text? : Value → Option String
  | .text value => some value
  | _ => none

/-- Reads a truth value. -/
def bool? : Value → Option Bool
  | .bool value => some value
  | _ => none

def texts? : Value → Option (List String)
  | .list elements => elements.mapM text?
  | _ => none

/-- Reads the members of a table. A date or time counts as a table with its text under a reserved
name. -/
def members? : Value → Option Toml.Members
  | .table _ members => some members
  | .moment moment => some [("$__toml_private_datetime", .text moment.text)]
  | _ => none

def textTable? (value : Value) : Option (List (String × String)) := do
  (← members? value).mapM fun (name, content) => do some (name, ← text? content)

def member? {Content : Type} (members : Toml.Members) (name : String)
    (read? : Value → Option Content) (default : Content) : Option Content :=
  match members.lookup name with
  | some value => read? value
  | none => some default

/-- Tells whether a value is an empty list or an empty table. -/
def isEmpty : Value → Bool
  | .list elements => elements.isEmpty
  | .table _ members => members.isEmpty
  | _ => false

/-- Reads a framework: its name, or a table with the name of one framework and nothing under it. -/
def framework? : Value → Option Framework
  | .text name => Framework.ofName? name
  | .table _ [(name, content)] => if isEmpty content then Framework.ofName? name else none
  | _ => none

/-- Reads the truth value at a place of a list, or gives a default behind its end. -/
def element? (elements : List Value) (place : Nat) (default : Bool) : Option Bool :=
  match elements[place]? with
  | some value => bool? value
  | none => some default

/-- Reads features: a table of truth values, or a list of them. -/
def features? (value : Value) : Option Features :=
  let usual : Features := {}
  match value with
  | .list elements => do
    some { validation := ← element? elements 0 usual.validation
           bindings := ← element? elements 1 usual.bindings
           serverVariants := ← element? elements 2 usual.serverVariants }
  | _ => do
    let members ← members? value
    some { validation := ← member? members "validation" bool? usual.validation
           bindings := ← member? members "bindings" bool? usual.bindings
           serverVariants := ← member? members "server_variants" bool? usual.serverVariants }

/-- Reads the settings from the members of a document. -/
def ofMembers? (members : Toml.Members) : Option Settings := do
  let optional (name : String) : Option (Option String) :=
    member? members name (fun value => (text? value).map some) none
  some { outputPath := ← optional "output_path"
         packageName := ← optional "package_name"
         baseUrl := ← optional "base_url"
         framework := ← member? members "framework" framework? .vanilla
         strict := ← member? members "strict" bool? false
         roots := ← member? members "projects" texts? []
         excludedEndpoints := ← member? members "exclude_endpoints" texts? []
         excludedTypes := ← member? members "exclude_types" texts? []
         features := ← member? members "features" features? {}
         typeOverrides := ← member? members "type_overrides" textTable? [] }

def read? (source : String) : Option Settings :=
  (Toml.document? source).bind ofMembers?

end Settings

end TypedClient
