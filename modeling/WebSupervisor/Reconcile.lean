import WebSupervisor.Library.Sha256
import WebSupervisor.Models

/-! Reconciliation records and their fence, from `reconcile.py`. -/

namespace WebSupervisor
open Library

/-- What the fence is computed from: a snapshot without the times of its samples. -/
structure FenceMaterial where
  task : Option TaskFacts
  browser : Option BrowserFacts
  network : Option NetworkFacts
  lsm : Option LsmFacts
  workspace : Option WorkspaceFacts
  deriving DecidableEq

/-- The canonical JSON texts of the values that are digested. `κ` are the
checkpoints of tasks. -/
structure JsonEncoding (κ : Type) where
  checkpoint : κ → String
  material : FenceMaterial → String

/-- `_digest_json` of a value with the given text. -/
def digestJson (encoded : String) : String := sha256 encoded

def fenceMaterial (snapshot : Snapshot) : FenceMaterial :=
  { task := snapshot.task
    browser := snapshot.browser.map (·.facts)
    network := snapshot.network.map (·.facts)
    lsm := snapshot.lsm.map (·.facts)
    workspace := snapshot.workspace.map (·.facts) }

/-- What is observed of the world of a task. -/
structure ObservedWorld (κ : Type) where
  task : TaskRecord
  checkpoint : κ
  worker : Option WorkerRecord := none
  browser : Option BrowserObservation
  network : Option NetworkObservation
  lsm : Option LsmObservation
  workspace : Option WorkspaceObservation

namespace ObservedWorld
variable {κ : Type} (encoding : JsonEncoding κ) (world : ObservedWorld κ)

/-- The worker, when it is the current one of the task. -/
def registeredWorker : Option WorkerRecord :=
  world.worker.filter (fun worker => some worker.workerId = world.task.currentWorkerId)

def snapshot : Snapshot :=
  { task := some
      { taskId := world.task.taskId
        state := world.task.state
        currentWorkerId := world.task.currentWorkerId
        registeredWorkerUrl := world.registeredWorker.map (·.conversationUrl)
        registeredWorkerStatus := world.registeredWorker.map (·.status)
        lsmSessionId := world.task.lsmSessionId
        recoveryAttempts := world.task.recoveryAttempts
        maxRecoveryAttempts := world.task.maxRecoveryAttempts
        checkpointDigest := digestJson (encoding.checkpoint world.checkpoint) }
    browser := world.browser.map (fun browser =>
      { observedAt := browser.observedAt
        facts :=
          { workerId := browser.workerId
            url := browser.url
            generating := browser.generating
            sendButtonReady := browser.sendButtonReady
            composerPresent := browser.composerPresent
            pendingToolCalls := browser.pendingToolCalls
            visibleError := browser.visibleError
            lastDomChangeAt := browser.lastDomChangeAt
            messageSignature := browser.messageSignature } })
    network := world.network.map (fun network =>
      { observedAt := network.observedAt
        facts :=
          { workerId := network.workerId
            source := network.source
            pageUrl := network.pageUrl
            eventCount := network.eventCount
            loadingFailed := network.loadingFailed
            lastActivityAt := network.lastActivityAt
            quietSinceAt := network.quietSinceAt
            inflightRequests := network.inflightRequests } })
    lsm := world.lsm.map (fun lsm =>
      { observedAt := lsm.observedAt
        facts :=
          { sessionId := lsm.sessionId
            sessionStatus := lsm.sessionStatus
            activeRunId := lsm.activeRunId
            planStatus := lsm.planStatus
            planLastAgentActivity := lsm.planLastAgentActivity
            continuationDue := lsm.continuationDue
            continuationPending := lsm.continuationPending
            inFlightCalls := lsm.inFlightCalls
            freshestInFlightHeartbeat := lsm.freshestInFlightHeartbeat
            activeJobs := lsm.activeJobs
            failedJobs := lsm.failedJobs
            succeededJobs := lsm.succeededJobs
            recentEventType := lsm.recentEventType
            recentEventAt := lsm.recentEventAt
            completedSteps := lsm.completedSteps
            totalSteps := lsm.totalSteps } })
    workspace := world.workspace.map (fun workspace =>
      { observedAt := workspace.observedAt
        facts :=
          { cwd := workspace.cwd
            cwdExists := workspace.cwdExists
            isGitRepo := workspace.isGitRepo
            gitRoot := workspace.gitRoot
            gitHead := workspace.gitHead
            gitDirty := workspace.gitDirty
            gitStatusHash := workspace.gitStatusHash
            error := workspace.error } }) }

end ObservedWorld

/-- The arguments of `build_reconciliation_record` beside the observations, and
the identifier it generates. -/
structure RecordStamp where
  assessment : Assessment
  createdAt : Time
  suffix : String

def buildReconciliationRecord {κ : Type} (encoding : JsonEncoding κ) (stamp : RecordStamp) (world : ObservedWorld κ) :
    ReconciliationRecord :=
  let snapshot := world.snapshot encoding
  { reconcileId := "rec_" ++ stamp.suffix
    taskId := world.task.taskId
    createdAt := stamp.createdAt
    state := stamp.assessment.state
    confidence := stamp.assessment.confidence
    reason := stamp.assessment.reason
    requiresReconcile := stamp.assessment.requiresReconcile
    currentWorkerId := world.task.currentWorkerId
    fenceToken := digestJson (encoding.material (fenceMaterial snapshot))
    fenceVersion := 2
    evidence := stamp.assessment.evidence
    snapshot }

def fenceMatches (a b : ReconciliationRecord) : Bool :=
  a.taskId = b.taskId ∧ a.fenceVersion = b.fenceVersion ∧ a.fenceToken = b.fenceToken

end WebSupervisor
