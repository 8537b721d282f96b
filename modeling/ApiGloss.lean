import ApiGloss.Main
import ApiGloss.Proofs.BreadthFirst
import ApiGloss.Proofs.Definitions
import ApiGloss.Proofs.References
import ApiGloss.Proofs.Blockwise
import ApiGloss.Proofs.Outcome
import ApiGloss.Proofs.VersionOrder
import ApiGloss.Proofs.Selection
import ApiGloss.Proofs.LookupOrder
import ApiGloss.Proofs.FileOrder
import ApiGloss.Proofs.HiddenBlocks
import ApiGloss.Proofs.Elements
import ApiGloss.Proofs.Paths
import ApiGloss.Proofs.Reading
import ApiGloss.Proofs.Resolving
import ApiGloss.Proofs.FieldGroups
import ApiGloss.Proofs.ConsumedReferences
import ApiGloss.Proofs.EndpointBlocks
import ApiGloss.Proofs.Shapes
import ApiGloss.Proofs.ReadableRecords
import ApiGloss.Proofs.Matching
import ApiGloss.Proofs.Preference
import ApiGloss.Proofs.Comments
import ApiGloss.Proofs.FormattedComments
import ApiGloss.Proofs.Prose
import ApiGloss.Proofs.BareBlocks
import ApiGloss.Proofs.BareResolving
import ApiGloss.Proofs.BareEndpoints
import ApiGloss.Proofs.DocumentProse
import ApiGloss.Proofs.RenderedDocuments
import ApiGloss.Proofs.OperationSlots
import ApiGloss.Proofs.ComponentReferences
import ApiGloss.Proofs.DeepMerge
import ApiGloss.Proofs.FirstChoice
import ApiGloss.Proofs.WrittenFields
import ApiGloss.Proofs.FieldRoundTrip
import ApiGloss.Proofs.SuccessiveMerges
import ApiGloss.Proofs.FieldSchemas
import ApiGloss.Proofs.Redeclarations
import ApiGloss.Proofs.ComponentRuns
import ApiGloss.Proofs.OperationParameters
import ApiGloss.Proofs.GroupPartition
import ApiGloss.Proofs.SingleDefinition
import ApiGloss.Proofs.FirstDeclarations
import ApiGloss.Proofs.NestedReferences
import ApiGloss.Proofs.SizeRanges
import ApiGloss.Proofs.PathTemplates
import ApiGloss.Proofs.EndpointLines
import ApiGloss.Proofs.AllowedValues
import ApiGloss.Proofs.PackagePrecedence
import ApiGloss.Proofs.FileTrees
import ApiGloss.Proofs.WantedFiles
import ApiGloss.Proofs.LineEndings
import ApiGloss.Proofs.AttachedValues
import ApiGloss.Proofs.RemovedTags
import ApiGloss.Proofs.SharedIndentation
