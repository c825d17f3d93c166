import WebSupervisor.Watcher

/-! The advice on an assessment, from `recovery.py`, with the preamble of `prompts.py`.
Nothing is sent here: the advice is for an operator. -/

namespace WebSupervisor.Recovery
open Watcher

/-- `SUPERVISOR_SAFETY_PREAMBLE`. -/
def supervisorSafetyPreamble : String :=
  "This is a reliability/recovery task for a user-authorized web chat + Local Shell MCP workflow.\n" ++
  "Work read-only first. Do not bypass authentication or platform controls. Do not access, copy, or move cookies, " ++
  "tokens, passwords, session secrets, or private API credentials. Do not call, reconstruct, or automate private " ++
  "web chat backend endpoints. Do not click or type in unrelated browser tabs.\n\n" ++
  "Before any action with side effects, reconcile the durable Local Shell logical session, Goal plan, tracked " ++
  "jobs/in-flight leases, and actual workspace/Git state. The previous web chat message may have failed after side " ++
  "effects already completed, so never blindly replay the prior operation. If evidence is ambiguous, stop at a " ++
  "recommendation or request human review rather than guessing.\n"

def lstrip (text : String) : String := String.ofList (text.toList.dropWhile isSpace)

def withSafetyPreamble (instruction : String) : String :=
  rstrip supervisorSafetyPreamble ++ "\n\n" ++ lstrip instruction

/-- `RECOVERY_PROMPT.format(...)`. -/
def recoveryPrompt (taskId sessionId cwd checkpoint workspace : String) : String :=
  "Resume the existing task.\n\n" ++
  "First inspect the current Local Shell logical session, Goal plan, tracked jobs, and actual workspace state.\n" ++
  "The previous web chat message may have failed after side effects were already executed.\n" ++
  "Do not repeat completed operations.\n" ++
  "Continue from the first genuinely incomplete step.\n\n" ++
  "Task id: " ++ taskId ++ "\nLocal Shell logical session: " ++ sessionId ++ "\nWorking directory: " ++ cwd ++
  "\nRecorded checkpoint: " ++ checkpoint ++ "\nObserved workspace: " ++ workspace ++ "\n"

/-- `str` of a truth value. -/
def spelled (value : Bool) : String := if value then "True" else "False"

/-- `_workspace_summary`. -/
def workspaceSummary : Option WorkspaceObservation → String
  | none => "unavailable"
  | some workspace =>
    String.intercalate ", " (["cwd_exists=" ++ spelled workspace.cwdExists] ++
      (workspace.isGitRepo.map (fun repo => "git_repo=" ++ spelled repo)).toList ++
      ((given workspace.gitHead).map ("git_head=" ++ ·)).toList ++
      (workspace.gitDirty.map (fun dirty => "git_dirty=" ++ spelled dirty)).toList ++
      ((given workspace.gitStatusHash).map ("git_status_hash=" ++ ·)).toList ++
      ((given workspace.error).map ("error=" ++ ·)).toList)

/-- A recommendation with the fields that only an operator reads. -/
structure Advice extends RecoveryRecommendation where
  taskId : String
  safeToDispatch : Bool
  evidence : List String
  deriving DecidableEq

/-- Advice without a prompt. -/
def Advice.plain (task : TaskRecord) (assessment : Assessment) (action reason : String) : Advice :=
  { action, reason, taskId := task.taskId, safeToDispatch := false, evidence := assessment.evidence }

def recommend (task : TaskRecord) (checkpoint : Checkpoint) (assessment : Assessment) (lsm : Option LsmObservation)
    (workspace : Option WorkspaceObservation) : Advice :=
  let advise := Advice.plain task assessment
  if task.state = .completed then advise "none" "task is durably complete"
  else if task.state = .abandoned then advise "none" "task was abandoned/cancelled"
  else if assessment.state = .completed then advise "none" "task is durably complete"
  else if assessment.state = .abandoned then advise "none" "task was abandoned/cancelled"
  else if assessment.state = .needsHuman then
    advise "human_decision" "task requires a human decision before recovery"
  else if assessment.state = .blocked then
    advise "human_decision" "Goal plan is blocked; automatic continuation would bypass an explicit blocker"
  else if assessment.state ∈ [SupervisorState.running, .starting, .recovering] then
    advise "observe" "work still appears active; do not compete with the current worker"
  else if task.maxRecoveryAttempts ≤ task.recoveryAttempts then
    advise "human_decision" "recovery-attempt budget exhausted"
  else
    match given task.lsmSessionId, lsm with
    | some sessionId, some lsm =>
      if 0 < lsm.inFlightCalls ∨ 0 < lsm.activeJobs ∨ lsm.continuationPending = some true then
        advise "observe" "durable LSM work/continuation is active; takeover or continue is unsafe"
      else
        { advise "reconcile_then_continue"
            "candidate for a new web chat turn after explicit reconciliation; V0 does not auto-dispatch" with
          prompt := some (withSafetyPreamble
            (recoveryPrompt task.taskId sessionId task.cwd checkpoint.json (workspaceSummary workspace))) }
    | _, _ => advise "human_decision" "no durable LSM session observation is available for reconciliation"

end WebSupervisor.Recovery
