import WebSupervisor.Library.Sha256
import WebSupervisor.Library.Checks
import WebSupervisor.Library.Runs
import WebSupervisor.Library.Table
import WebSupervisor.Library.Program
import WebSupervisor.Library.Certificate
import WebSupervisor.Library.History
import WebSupervisor.Library.Triple
import WebSupervisor.Library.Preserves
import WebSupervisor.Library.Delimited
import WebSupervisor.Library.Journal
import WebSupervisor.Library.Effects
import WebSupervisor.Library.Authority
import WebSupervisor.Library.Alone
import WebSupervisor.Library.Stops
import WebSupervisor.Library.Forest
import WebSupervisor.Library.Retention
import WebSupervisor.Text
import WebSupervisor.Models
import WebSupervisor.Reconcile
import WebSupervisor.WorkerProtocol
import WebSupervisor.Errors
import WebSupervisor.Urls
import WebSupervisor.Actions
import WebSupervisor.Dispatcher
import WebSupervisor.Attempts
import WebSupervisor.ProbeOps
import WebSupervisor.PageRuntime
import WebSupervisor.Database
import WebSupervisor.WorkerPersistence
import WebSupervisor.Registry.Workers
import WebSupervisor.Registry.Actions
import WebSupervisor.Registry.Probes
import WebSupervisor.Registry.Replacements
import WebSupervisor.Registry.Tasks
import WebSupervisor.Registry.ChildSpawns
import WebSupervisor.Registry.Completion
import WebSupervisor.Registry.Watchdog
import WebSupervisor.Registry.Observations
import WebSupervisor.TimeoutRecovery
import WebSupervisor.OverrunContinuation
import WebSupervisor.ActionRuntime
import WebSupervisor.ChatDispatch
import WebSupervisor.ChatEngine
import WebSupervisor.Proofs.WorkerProtocolState
import WebSupervisor.Proofs.WorkerProtocolChange
import WebSupervisor.Proofs.WorkerProtocolInvariant
import WebSupervisor.Proofs.WorkerProtocolFencing
import WebSupervisor.Proofs.WorkerPersistenceLoad
import WebSupervisor.Proofs.WorkerPersistenceStored
import WebSupervisor.Proofs.WorkerPersistenceWrite
import WebSupervisor.Proofs.WorkerPersistenceStep
import WebSupervisor.Proofs.WorkerPersistenceBootstrap
import WebSupervisor.Proofs.WorkerPersistenceRefinement
import WebSupervisor.Proofs.EventLog
import WebSupervisor.Proofs.LegacyAgreement
import WebSupervisor.Proofs.BootstrapAuthority
import WebSupervisor.Proofs.WindowBindings
import WebSupervisor.Schema
import WebSupervisor.Proofs.SchemaOpen
import WebSupervisor.RuntimeState
import WebSupervisor.Proofs.Relocation
import WebSupervisor.Proofs.Lineage
import WebSupervisor.Proofs.ChildCompletion
import WebSupervisor.Proofs.ActionChange
import WebSupervisor.Proofs.ActionSends
import WebSupervisor.Proofs.ActionTerminal
import WebSupervisor.Proofs.RecoveryBudget
import WebSupervisor.Proofs.ProbeChange
import WebSupervisor.Proofs.ProbeAuthority
import WebSupervisor.Proofs.ProbeFailure
import WebSupervisor.Proofs.ProbeSlots
import WebSupervisor.Proofs.ReplacementSubmit
import WebSupervisor.Proofs.SpawnSubmit
import WebSupervisor.Proofs.SpawnRecords
import WebSupervisor.Proofs.WatchdogLease
import WebSupervisor.Proofs.ChatQueue
import WebSupervisor.Proofs.ChatOrder
import WebSupervisor.Proofs.ChatTurn
import WebSupervisor.Proofs.ChatContract
import WebSupervisor.Proofs.ChatEngineSafety
import WebSupervisor.Proofs.ChatEngineTurn
import WebSupervisor.Proofs.ChatEngineLoop
import WebSupervisor.Proofs.ChatCalls
import WebSupervisor.Proofs.ChatSends
import WebSupervisor.Proofs.ChatCancel
import WebSupervisor.Proofs.ChatUrls
import WebSupervisor.Proofs.ChatWindows
import WebSupervisor.Proofs.ChatExit
import WebSupervisor.Proofs.ChatRound
import WebSupervisor.Proofs.ChatTraces
import WebSupervisor.Proofs.ChatIsolation
import WebSupervisor.Proofs.ChatStarvation
import WebSupervisor.Proofs.ChatKeys
import WebSupervisor.Proofs.ObservationHistory
import WebSupervisor.Proofs.OverrunAnchor
import WebSupervisor.Proofs.ReconcileFence
import WebSupervisor.Proofs.DispatchReadiness
import WebSupervisor.Proofs.ChildReplay
import WebSupervisor.Proofs.CompletionResume
import WebSupervisor.Library.Requests
import WebSupervisor.Registry.Adoption
import WebSupervisor.ChildSpawn
import WebSupervisor.ChildSpawnTransport
import WebSupervisor.Proofs.SpawnSteps
import WebSupervisor.Proofs.SpawnRequests
import WebSupervisor.Proofs.WindowOpen
import WebSupervisor.Proofs.SpawnReconcile
import WebSupervisor.Proofs.Addresses
import WebSupervisor.Proofs.ProjectAddresses
import WebSupervisor.Proofs.OwnerTags
import WebSupervisor.Proofs.ConversationAddresses
import WebSupervisor.Proofs.CloseSlots
import WebSupervisor.Proofs.ProbeAgreement
import WebSupervisor.ProbeOperator
import WebSupervisor.Proofs.EvidenceTimes
import WebSupervisor.Library.Fairness
import WebSupervisor.Replacement
import WebSupervisor.Proofs.ReplacementBlocked
import WebSupervisor.Orchestration
import WebSupervisor.Proofs.OrchestrationPlan
import WebSupervisor.Proofs.OrchestrationFairness
import WebSupervisor.Proofs.OrchestrationOrder
import WebSupervisor.Proofs.TransitionRows
import WebSupervisor.WatcherSync
import WebSupervisor.Proofs.WatcherStability
import WebSupervisor.ChatWorker
import WebSupervisor.Proofs.ChatWorkerLease
import WebSupervisor.Proofs.ChatWorkerExit
import WebSupervisor.Registry.Cooldowns
import WebSupervisor.ChildPrompt
import WebSupervisor.ChildBatch
import WebSupervisor.Proofs.SpawnScan
import WebSupervisor.Proofs.ChildBatchPool
import WebSupervisor.Proofs.ChildBatchCourse
import WebSupervisor.BrowserPool
import WebSupervisor.Proofs.BrowserPages
import WebSupervisor.Proofs.BrowserProbes
import WebSupervisor.Scheduler
import WebSupervisor.Proofs.AttentionOrder
import WebSupervisor.Watcher
import WebSupervisor.Recovery
import WebSupervisor.Proofs.RecoveryAdvice
