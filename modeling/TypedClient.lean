import TypedClient.Main
import TypedClient.Proofs.ReferenceClosure
import TypedClient.Proofs.AssembledTypes
import TypedClient.Proofs.CaseForms
import TypedClient.Proofs.FileStem
import TypedClient.Proofs.ModulePaths
import TypedClient.Proofs.DistinctPaths
import TypedClient.Proofs.AssembledClient
import TypedClient.Proofs.ClientFiles
import TypedClient.Proofs.DraftLines
import TypedClient.Proofs.CommentBlocks
import TypedClient.Proofs.ModuleExports
import TypedClient.Proofs.Resolution
import TypedClient.Proofs.RequestChecks
import TypedClient.Proofs.CollectedImports
import TypedClient.Proofs.ResolvedImports
import TypedClient.Proofs.SelfContained
import TypedClient.Proofs.FunctionNames
import TypedClient.Proofs.DeclaredResponse
import TypedClient.Proofs.FunctionClashes
import TypedClient.Proofs.ChainedMessages
import TypedClient.Proofs.FoldedRules
import TypedClient.Proofs.FoldedBounds
import TypedClient.Proofs.KeptChecks
import TypedClient.Proofs.BalancedBrackets
import TypedClient.Proofs.NestedText
import TypedClient.Proofs.NamedParts
import TypedClient.Proofs.ReferencedNames
import TypedClient.Proofs.ReportedNames
import TypedClient.Proofs.NullableTypes
import TypedClient.Proofs.Reports
import TypedClient.Proofs.SourceOrder
import TypedClient.Proofs.CallArguments
import TypedClient.Proofs.CheckedBody
import TypedClient.Proofs.ParameterIdentifiers
import TypedClient.Proofs.Registrations
import TypedClient.Proofs.ExportedMethods
import TypedClient.Proofs.StagedMerge
import TypedClient.Proofs.NamedGroups
import TypedClient.Proofs.DiscoveredTypes
import TypedClient.Proofs.MarkerOrder
import TypedClient.Proofs.AgreeingContexts
import TypedClient.Proofs.IndependentOrder
import TypedClient.Proofs.IntegerTrees
import TypedClient.Proofs.IntegerPhrases
import TypedClient.Proofs.RoundedIntegers
import TypedClient.Proofs.IntegerSpellings
import TypedClient.Proofs.IntegerTokens
import TypedClient.Proofs.WrittenIntegers
import TypedClient.Proofs.FollowedPaths
import TypedClient.Proofs.DiskChanges
import TypedClient.Proofs.DeliveryRuns
import TypedClient.Proofs.DeliveredFiles
import TypedClient.Proofs.DryRuns
import TypedClient.Proofs.ReturnTypes
import TypedClient.Proofs.SentArguments
import TypedClient.Proofs.KeptRules
import TypedClient.Proofs.DistinctMembers
import TypedClient.Proofs.RouteNames
import TypedClient.Proofs.RuleTrees
import TypedClient.Proofs.SchemaOutline
import TypedClient.Proofs.RouteRanges
import TypedClient.Proofs.ScriptLiterals
import TypedClient.Proofs.QuotedTexts
import TypedClient.Proofs.TemplateReading
import TypedClient.Proofs.RouteTemplates
import TypedClient.Proofs.TextsInCode
import TypedClient.Proofs.WrittenTypes
import TypedClient.Proofs.TupleNames
import TypedClient.Proofs.StringLiterals
import TypedClient.Proofs.SeparatedPieces
import TypedClient.Proofs.StringLists
import TypedClient.Proofs.ChainSegments
import TypedClient.Proofs.JoinedRoutes
import TypedClient.Proofs.ExclusionPatterns
