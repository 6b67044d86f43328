/-
This file shows what the files of a client depend on: the options, how types are mapped, which
types are declared, and the type and the rules that belong to a name. Contexts that agree on these
give the same files.
-/

import TypedClient.Client.Package

namespace TypedClient

/-- Contexts agree if they answer alike what the parts of a client ask. -/
structure Context.Agrees (context other : Context) : Prop where
  options : context.options = other.options
  map : context.map = other.map
  declares : context.declares = other.declares
  typeNamed? : context.contract.typeNamed? = other.contract.typeNamed?
  rulesFor : context.contract.rulesFor = other.contract.rulesFor
  extraRulesFor : context.contract.extraRulesFor = other.contract.extraRulesFor

namespace Context.Agrees

variable {context other : Context}

section Functions

variable (agrees : context.Agrees other)

include agrees

theorem hasRules : context.contract.hasRules = other.contract.hasRules := by
  funext typeName
  simp only [Contract.hasRules, agrees.rulesFor, agrees.extraRulesFor]

/-- The same requests are checked. -/
theorem validates : context.validates = other.validates := by
  funext typeName
  simp only [Context.validates, agrees.options, agrees.hasRules]

theorem typeImports : context.typeImports = other.typeImports := by
  have stems : context.declarationStem? = other.declarationStem? := by
    funext name
    simp only [declarationStem?, agrees.declares]
  funext specifier own text
  simp only [Context.typeImports, stems]

theorem outerTypeImports : context.outerTypeImports = other.outerTypeImports := by
  funext type
  simp only [Context.outerTypeImports, agrees.typeImports]

theorem declaration : Declaration.artifact context = Declaration.artifact other := by
  have lines : Declaration.propertyLine context = Declaration.propertyLine other := by
    funext property
    simp only [Declaration.propertyLine, agrees.map]
  funext type
  simp only [Declaration.artifact, Declaration.interfaceImports, Declaration.interfaceLines, lines,
    agrees.map, agrees.typeImports]

/-- An operation has the same client function. -/
theorem ofEndpoint : ClientFunction.ofEndpoint context = ClientFunction.ofEndpoint other := by
  have structured : ClientFunction.isStructured context = ClientFunction.isStructured other := by
    funext type
    simp only [ClientFunction.isStructured, agrees.typeNamed?]
  have parameters : ClientFunction.parameterArgument context =
      ClientFunction.parameterArgument other := by
    funext parameter
    simp only [ClientFunction.parameterArgument, structured, agrees.map]
  have tokens : ClientFunction.routeArgument context = ClientFunction.routeArgument other := by
    funext endpoint token
    simp only [ClientFunction.routeArgument, agrees.map]
  have returns : ClientFunction.returnType context = ClientFunction.returnType other := by
    funext endpoint
    simp only [ClientFunction.returnType, agrees.map]
  funext endpoint
  simp only [ClientFunction.ofEndpoint, ClientFunction.declaredArguments, parameters, tokens,
    returns]

theorem functions (group : EndpointGroup) : group.functions context = group.functions other := by
  simp only [EndpointGroup.functions, agrees.ofEndpoint]

theorem requestCheck? : ClientFunction.requestCheck? context =
    ClientFunction.requestCheck? other := by
  funext function
  simp only [ClientFunction.requestCheck?, agrees.validates]

/-- The file of the functions of a group is the same. -/
theorem clientArtifact (group : EndpointGroup) :
    group.clientArtifact context = group.clientArtifact other := by
  have imports : ClientFunction.imports context = ClientFunction.imports other := by
    funext function
    simp only [ClientFunction.imports, agrees.outerTypeImports, agrees.requestCheck?]
  have lines : ClientFunction.lines context = ClientFunction.lines other := by
    funext function
    simp only [ClientFunction.lines, agrees.requestCheck?]
  simp only [EndpointGroup.clientArtifact, agrees.functions, imports, lines]

theorem hookArtifact? (group : EndpointGroup) :
    group.hookArtifact? context = group.hookArtifact? other := by
  have imports : ClientFunction.hookImports context = ClientFunction.hookImports other := by
    funext groupStem package function
    simp only [ClientFunction.hookImports, agrees.options, agrees.outerTypeImports]
  simp only [EndpointGroup.hookArtifact?, agrees.functions, agrees.options, imports]

theorem serverArtifact (group : EndpointGroup) :
    group.serverArtifact context = group.serverArtifact other := by
  simp only [EndpointGroup.serverArtifact, agrees.functions, agrees.options,
    agrees.outerTypeImports]

theorem groupArtifacts : Package.groupArtifacts context = Package.groupArtifacts other := by
  funext group
  simp only [Package.groupArtifacts, agrees.options, agrees.clientArtifact, agrees.hookArtifact?,
    agrees.serverArtifact]

theorem ownEntries : Schema.ownEntries context = Schema.ownEntries other := by
  funext typeName name property record
  simp only [Schema.ownEntries, agrees.extraRulesFor, agrees.map]

/-- A property holds the same declared object. -/
theorem objectType? : Schema.objectType? context = Schema.objectType? other := by
  funext property
  simp only [Schema.objectType?, agrees.typeNamed?]

end Functions

mutual

/-- The rules at a property and below it give the same entries. -/
theorem entries (agrees : context.Agrees other) (typeName : String) (owner : Option SourceType)
    (name : String) : (tree : RuleTree) → Schema.entries context typeName owner name tree =
      Schema.entries other typeName owner name tree
  | .node record children => by
    simp only [Schema.entries, agrees.ownEntries, agrees.objectType?,
      entriesOfAll agrees typeName _ children]

/-- The rules at several properties give the same entries. -/
theorem entriesOfAll (agrees : context.Agrees other) (typeName : String)
    (owner : Option SourceType) : (trees : List (String × RuleTree)) →
      Schema.entriesOfAll context typeName owner trees =
        Schema.entriesOfAll other typeName owner trees
  | [] => by
    rw [Schema.entriesOfAll, Schema.entriesOfAll]
  | (name, tree) :: rest => by
    rw [Schema.entriesOfAll, Schema.entriesOfAll, entries agrees typeName owner name tree,
      entriesOfAll agrees typeName owner rest]

end

theorem schema (agrees : context.Agrees other) :
    Schema.artifact? context = Schema.artifact? other := by
  have lines : Schema.lines context = Schema.lines other := by
    funext typeName
    simp only [Schema.lines, Schema.entriesFor, agrees.entriesOfAll, agrees.typeNamed?,
      agrees.rulesFor]
  funext typeName
  simp only [Schema.artifact?, agrees.hasRules, lines]

end Context.Agrees

end TypedClient
