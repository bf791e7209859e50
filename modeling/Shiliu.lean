import Shiliu.Artifacts.Processes
import Shiliu.Artifacts.Resolution
import Shiliu.Artifacts.Staleness
import Shiliu.Artifacts.Store
import Shiliu.Ask.Context
import Shiliu.Ask.Contracts
import Shiliu.Ask.F1Context
import Shiliu.Ask.F1Packing
import Shiliu.Ask.Finalize
import Shiliu.Ask.Fusion
import Shiliu.Ask.RawRuns
import Shiliu.Ask.TranscriptPacking
import Shiliu.Ask.Trust
import Shiliu.Ask.WidePacking
import Shiliu.Asr.AtMostOnce
import Shiliu.Asr.Service
import Shiliu.Assistant.CompactedUnits
import Shiliu.Assistant.Compaction
import Shiliu.Assistant.ExecutionBudget
import Shiliu.Assistant.FittedTools
import Shiliu.Assistant.ModelSequence
import Shiliu.Assistant.Rows
import Shiliu.Assistant.RunActions
import Shiliu.Assistant.RunLifecycle
import Shiliu.Assistant.RunMoves
import Shiliu.Assistant.RunStore
import Shiliu.Assistant.RunUsage
import Shiliu.Assistant.Threads
import Shiliu.Assistant.WorkingContext
import Shiliu.Collection.BaselineSelection
import Shiliu.Collection.HistoryQueue
import Shiliu.Collection.LeaseFencing
import Shiliu.Collection.Leases
import Shiliu.Collection.Moves
import Shiliu.Collection.Removal
import Shiliu.Collection.Rows
import Shiliu.Collection.Store
import Shiliu.Collection.Sync
import Shiliu.Collection.Upkeep
import Shiliu.Deep.BatchReduce
import Shiliu.Deep.ChosenExcerpts
import Shiliu.Deep.Contracts
import Shiliu.Deep.Controller
import Shiliu.Deep.Execution
import Shiliu.Deep.InputFit
import Shiliu.Deep.QueryReduce
import Shiliu.Deep.RunLoop
import Shiliu.Deep.StateInvariant
import Shiliu.Drafts.Commands
import Shiliu.Drafts.DerivedIds
import Shiliu.Drafts.Moves
import Shiliu.Drafts.Phases
import Shiliu.Drafts.Rows
import Shiliu.Evidence.ChunkReplay
import Shiliu.Evidence.Continuation
import Shiliu.Evidence.Decision
import Shiliu.Evidence.DecisionIntegrity
import Shiliu.Evidence.DecisionSafety
import Shiliu.Evidence.Mapping
import Shiliu.Evidence.RefreshAccounts
import Shiliu.Evidence.RefreshRounds
import Shiliu.Evidence.RefreshRuns
import Shiliu.Evidence.Source
import Shiliu.Knowledge.BuildMoves
import Shiliu.Knowledge.Builds
import Shiliu.Knowledge.Candidates
import Shiliu.Knowledge.PageHistory
import Shiliu.Knowledge.PageRevisions
import Shiliu.Knowledge.Publication
import Shiliu.Knowledge.PublicationMoves
import Shiliu.Knowledge.PublicationSafety
import Shiliu.Knowledge.Rows
import Shiliu.Library.Allotment
import Shiliu.Library.Bisection
import Shiliu.Library.Bookkeeping
import Shiliu.Library.Chain
import Shiliu.Library.Consecutive
import Shiliu.Library.Distinct
import Shiliu.Library.Effect
import Shiliu.Library.FencedLease
import Shiliu.Library.Forwarding
import Shiliu.Library.Json
import Shiliu.Library.Keyset
import Shiliu.Library.LeaseHolders
import Shiliu.Library.Outcome
import Shiliu.Library.Rounds
import Shiliu.Library.Slices
import Shiliu.Library.Table
import Shiliu.Library.Transition
import Shiliu.Memory.ChangeLog
import Shiliu.Memory.Checks
import Shiliu.Memory.Extraction
import Shiliu.Memory.Forgetting
import Shiliu.Memory.Moves
import Shiliu.Memory.Projection
import Shiliu.Memory.Rows
import Shiliu.Memory.Service
import Shiliu.Migration.Batches
import Shiliu.Migration.Import
import Shiliu.Migration.Resumption
import Shiliu.Migration.Rows
import Shiliu.Migration.SelfReferences
import Shiliu.Pipeline.CallBound
import Shiliu.Pipeline.ModelStages
import Shiliu.Pipeline.SourceFetch
import Shiliu.Research.Control
import Shiliu.Research.ControlMoves
import Shiliu.Research.ControlRows
import Shiliu.Research.EffectRuns
import Shiliu.Research.EffectsOnce
import Shiliu.Research.InputRuns
import Shiliu.Research.InputSafety
import Shiliu.Research.Kernel
import Shiliu.Research.KernelMoves
import Shiliu.Research.KernelSafety
import Shiliu.Research.Ledger
import Shiliu.Research.LedgerSafety
import Shiliu.Research.OfferedOperations
import Shiliu.Research.Recovery
import Shiliu.Research.RecoveryQueue
import Shiliu.Research.Rows
import Shiliu.Retrieval.ChunkRuns
import Shiliu.Retrieval.Chunking
import Shiliu.Retrieval.Consolidation
import Shiliu.Retrieval.Projection
import Shiliu.Retrieval.ProjectionFreshness
import Shiliu.Retrieval.ProjectionMoves
import Shiliu.Sources.ReadChain
import Shiliu.Sources.Reading
import Shiliu.Sources.Scope
import Shiliu.Sources.Visibility
import Shiliu.Storage.Basic
import Shiliu.Storage.DispatchConservation
import Shiliu.Storage.DispatchLedger
import Shiliu.Storage.LaneExclusion
import Shiliu.Storage.Scheduler
import Shiliu.Storage.Usage
import Shiliu.Taxonomy.OneCall
import Shiliu.Taxonomy.SingleFlight
import Shiliu.Wiki.History
import Shiliu.Wiki.Merging
import Shiliu.Wiki.Moves
import Shiliu.Wiki.PageWriters
import Shiliu.Wiki.RedirectRuns
import Shiliu.Wiki.Redirects
import Shiliu.Wiki.Reverting
import Shiliu.Wiki.ReviewSafety
import Shiliu.Wiki.Reviewing
import Shiliu.Wiki.Rows
import Shiliu.Wiki.SaveDiscussion
import Shiliu.Wiki.Service
import Shiliu.Wiki.SourcePatches
import Shiliu.Wiki.WriterMoves
import Shiliu.Workspace.History
import Shiliu.Workspace.Records
import Shiliu.Workspace.Service
