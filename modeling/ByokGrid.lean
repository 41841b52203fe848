import ByokGrid.Records
import ByokGrid.Kahn
import ByokGrid.Dependents
import ByokGrid.Worklist
import ByokGrid.Closure
import ByokGrid.Dataflow
import ByokGrid.Transition
import ByokGrid.Versions
import ByokGrid.Tiling
import ByokGrid.Base64Url
import ByokGrid.Keyset
import ByokGrid.SqlLogic
import ByokGrid.Jobs
import ByokGrid.Leases
import ByokGrid.TaskForest
import ByokGrid.PaddedNumbers
import ByokGrid.JsText
import ByokGrid.CellValue
import ByokGrid.JsonText
import ByokGrid.JsonTree
import ByokGrid.Utf16Strings
import ByokGrid.Store
import ByokGrid.Outbox
import ByokGrid.OutboxLeases
import ByokGrid.Formula
import ByokGrid.FormulaSoundness
import ByokGrid.Grid
import ByokGrid.FormulaRecompute
import ByokGrid.FormulaOrder
import ByokGrid.FormulaConsistency
import ByokGrid.GridView
import ByokGrid.Calendar
import ByokGrid.GridViewQuery
import ByokGrid.GridViewMeaning
import ByokGrid.Connectors
import ByokGrid.Database
import ByokGrid.ConnectorRevocations
import ByokGrid.GridSelection
import ByokGrid.LikePatterns
import ByokGrid.GridSearch
import ByokGrid.SearchIndex
import ByokGrid.RowMutations
import ByokGrid.CellRuns
import ByokGrid.Deliveries
import ByokGrid.Settlements
import ByokGrid.Writebacks
import ByokGrid.WebhookDeliveries
import ByokGrid.BulkRuns
import ByokGrid.CellRunSystem
import ByokGrid.CellRunEffects
import ByokGrid.BulkAccounting
import ByokGrid.BulkRunSelection
import ByokGrid.CellRunLedger
import ByokGrid.CellRunAgreement
import ByokGrid.CellRunContract
import ByokGrid.BulkRunContract
import ByokGrid.SettlementDispatch
import ByokGrid.SettlementDelivery
import ByokGrid.SettlementTotality
import ByokGrid.SettlementOutcomes
import ByokGrid.DeliverySystem
import ByokGrid.SettlementFanout
import ByokGrid.RevocationGates
import ByokGrid.RevocationEffects
import ByokGrid.RevocationRuns
import ByokGrid.RevocationContract
import ByokGrid.DeliveryKeys
import ByokGrid.DeliveryWorkers
import ByokGrid.DeliveryOutcomes
import ByokGrid.WritebackConvergence
import ByokGrid.ImportPolicy
import ByokGrid.ImportNames
import ByokGrid.ColumnConversion
import ByokGrid.EditableValues
import ByokGrid.CalendarValues
import ByokGrid.EditRoundTrip
import ByokGrid.SortedTexts
import ByokGrid.WebUrls
import ByokGrid.WebOrigins
import ByokGrid.WebAddresses
import ByokGrid.FormTexts
import ByokGrid.EndpointPolicy
import ByokGrid.EndpointSecrets
import ByokGrid.Navigation
import ByokGrid.CanonicalJson
import ByokGrid.StableTexts
import ByokGrid.Subnets
import ByokGrid.GuardedEgress
import ByokGrid.EgressGuarantee
import ByokGrid.FilterTreeEditor
import ByokGrid.ColumnTypeConversion
import ByokGrid.ConversionPages
import ByokGrid.ConversionAtomicity
import ByokGrid.GridWrites
import ByokGrid.Imports
import ByokGrid.ColumnCreation
import ByokGrid.SavedViews
import ByokGrid.Ingestion
import ByokGrid.IngestionOrder
import ByokGrid.LocalDispatcher
import ByokGrid.Sources
import ByokGrid.SourcePages
import ByokGrid.SourceRecords
import ByokGrid.SourceSystem
import ByokGrid.SourceWindows
import ByokGrid.DueSources
import ByokGrid.SourceLedger
import ByokGrid.FieldMappings
import ByokGrid.WorkflowPolicy
import ByokGrid.WorkflowCompiler
import ByokGrid.WorkflowGraphFacts
import ByokGrid.WorkflowValidation
import ByokGrid.WorkflowGraphParse
import ByokGrid.WorkflowPlan
import ByokGrid.WorkflowMeaning
import ByokGrid.WorkflowRows
import ByokGrid.GridHistory
import ByokGrid.DispatcherTurns
import ByokGrid.Workspace
import ByokGrid.SchemaLifecycle
import ByokGrid.SchemaEffects
import ByokGrid.SchemaInvariants
import ByokGrid.SchemaSystem
import ByokGrid.SchemaRuns
import ByokGrid.WorkflowReplay
import ByokGrid.ImportRows
import ByokGrid.ImportSystem
import ByokGrid.ImportLedger
import ByokGrid.Workflows
import ByokGrid.WorkflowDrafts
import ByokGrid.DraftSchemas
import ByokGrid.DraftHistory
import ByokGrid.DraftCatalog
import ByokGrid.PublishedDrafts
import ByokGrid.WorkflowRuns
import ByokGrid.WorkflowForest
import ByokGrid.WorkflowSystem
import ByokGrid.StepLedger
import ByokGrid.StepOutcome
import ByokGrid.StepLedgerRuns
import ByokGrid.StepFencing
import ByokGrid.Effects
import ByokGrid.AirbyteRecords
import ByokGrid.IntegerTexts
import ByokGrid.AirbyteClient
import ByokGrid.AirbyteWriter
import ByokGrid.AirbyteHistory
import ByokGrid.AirbyteCheckpoints
import ByokGrid.SourceNormalization
import ByokGrid.ContactPages
import ByokGrid.SourceContents
import ByokGrid.AirbyteAgreement
import ByokGrid.Envelopes
import ByokGrid.EnvelopeSeparation
import ByokGrid.MasterKeyRotation
import ByokGrid.MasterKeyRuns
import ByokGrid.JsonMembers
import ByokGrid.MemberOrder
import ByokGrid.UnitTexts
import ByokGrid.FormulaSource
import ByokGrid.FormulaTexts
import ByokGrid.FormulaRoundTrip
import ByokGrid.FormulaSchema
import ByokGrid.WorkspacePurge
import ByokGrid.PurgeBlockers
import ByokGrid.SandboxProtocol
import ByokGrid.SandboxRunnerClient
import ByokGrid.SandboxConfinement
import ByokGrid.Waterfall
import ByokGrid.WaterfallResumption
import ByokGrid.AnalyticsPolicy
import ByokGrid.AnalyticsStore
import ByokGrid.AnalyticsProjector
import ByokGrid.AnalyticsConvergence
import ByokGrid.AnalyticsErasures
import ByokGrid.Collaboration
import ByokGrid.CollaborationRoles
import ByokGrid.RoleHistories
import ByokGrid.WriteTransactions
import ByokGrid.WriteSerialization
import ByokGrid.GridPages
import ByokGrid.GridCursors
import ByokGrid.GridTraversal
import ByokGrid.CsvText
import ByokGrid.CsvExport
import ByokGrid.WorkflowRowBatches
