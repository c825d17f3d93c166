import WebSupervisor.Registry.Cooldowns
import WebSupervisor.ChildSpawn

/-! The prompt of a child in the window that its attempt owns, from `child_spawn.py`. The
prompt is sent at most once; a second call may press the send button of a draft that the
first one has left. -/

namespace WebSupervisor.ChildSpawn
open Library Library.Program Registry

/-- `round` of the host language on a number that is not negative. -/
def roundHalfEven (value : Rat) : Nat :=
  let whole := value.floor.toNat
  let rest := value - whole
  if rest < 1 / 2 ∨ rest = 1 / 2 ∧ whole % 2 = 0 then whole else whole + 1

/-- The format `.nf` of a number that is not negative. -/
def fixedPoint (digits : Nat) (value : Rat) : String :=
  let scaled := roundHalfEven (value * 10 ^ digits)
  if digits = 0 then toString scaled
  else
    let text := (Nat.toDigits 10 scaled).leftpad (digits + 1) '0'
    String.ofList (text.dropLast.take (text.length - digits) ++ '.' :: text.drop (text.length - digits))

/-- The arguments of `execute_child_spawn_prompt`, whether the transport has
`wait_for_delivery`, and `str` of a float. -/
structure PromptSettings where
  leaseSeconds : Time := 7200
  rateLimitCooldownS : Time := defaultRateLimitCooldownS
  waitsForDelivery : Bool := true
  now : Option Time := none
  printed : Time → String := fun _ => ""

def flag (value : Bool) : MetadataValue := if value then .number 1 "True" else .number 0 "False"

/-- A part of the prompt program whose attempt keeps a window. -/
def keepState (attemptId : String) (state : ChildSpawnAttemptState) (detail : String) (updates : Metadata) (now : Time) :
    Spawning ChildSpawnAttempt :=
  updateChildSpawnAttempt attemptId { state, lastError := some detail, metadataUpdates := updates } now

/-- The prompt was not sent: the browser asks to wait. -/
def rateLimit (settings : PromptSettings) (attemptId : String) (result : ChildSpawnExecution) (now : Time) :
    Spawning ChildSpawnAttempt := do
  let cooldownS := max 5 (min settings.rateLimitCooldownS 900)
  let untilAt := now + cooldownS
  let _ ← setRuntimeCooldown webChildDispatchCooldown untilAt "ChatGPT Too many requests modal" now
  let seen := if result.modalDismissed then "dismissed" else "observed"
  keepState attemptId .windowBound
    ("rate-limit modal " ++ seen ++ "; global child dispatch cooldown for " ++ fixedPoint 0 cooldownS ++ "s")
    [("cooldown_until", .number untilAt (settings.printed untilAt)),
      ("rate_limit_modal_dismissed", flag result.modalDismissed)] now

/-- The delivery is in a conversation of the project. -/
def inProject (attempt : ChildSpawnAttempt) (url : String) : Bool :=
  decide (url ≠ "") && decide (webConversationProjectId url = some attempt.projectId)

/-- The end of a delivery that nothing has proved. -/
def undelivered (submitted : ChildSpawnAttempt) (delivery : ChildSpawnDeliveryObservation) (now : Time) :
    Spawning ChildSpawnAttempt :=
  let detail :=
    if delivery.detail = "" then "conversation route exists but prompt delivery was not positively observed"
    else delivery.detail
  updateChildSpawnAttempt submitted.attemptId { state := .reconcileRequired, lastError := some detail } now

/-- The second press of the send button, whose authority is stored before it. -/
def secondSend (settings : PromptSettings) (submitted : ChildSpawnAttempt) (prompt : String)
    (delivery : ChildSpawnDeliveryObservation) (now : Time) : Spawning ChildSpawnAttempt := do
  let submitted ← updateChildSpawnAttempt submitted.attemptId
    { state := .promptSubmitted
      metadataUpdates := [("delivery_second_send_used", flag true), ("delivery_second_send_url", .text delivery.url)] } now
  let second ← transport (.invokeExistingDraftAuthorized submitted prompt delivery.url)
  if !second.changed then
    updateChildSpawnAttempt submitted.attemptId { state := .reconcileRequired, lastError := some second.detail } now
  else do
    let delivery ← ask (.waitForDelivery submitted prompt) id
    if inProject submitted delivery.url && delivery.delivered then
      completeFromBoundConversation submitted delivery.url now settings.leaseSeconds
    else
      undelivered submitted delivery now

/-- What follows when the conversation exists. -/
def settleDelivery (settings : PromptSettings) (submitted : ChildSpawnAttempt) (prompt : String) (now : Time) :
    Spawning ChildSpawnAttempt := do
  let delivery ← ask (.waitForDelivery submitted prompt) id
  if inProject submitted delivery.url && delivery.delivered then
    completeFromBoundConversation submitted delivery.url now settings.leaseSeconds
  else if inProject submitted delivery.url && delivery.promptMatchesDraft && delivery.sendButtonReady &&
      !isSet (submitted.metadata.get "delivery_second_send_used") then
    secondSend settings submitted prompt delivery now
  else
    undelivered submitted delivery now

/-- What follows when the send has reported. -/
def settleSend (settings : PromptSettings) (submitted : ChildSpawnAttempt) (prompt : String) (result : ChildSpawnExecution)
    (now : Time) : Spawning ChildSpawnAttempt :=
  if result.rateLimited then
    rateLimit settings submitted.attemptId result now
  else if !result.changed then
    updateChildSpawnAttempt submitted.attemptId
      { state := if result.sideEffectPossible then .reconcileRequired else .windowBound, lastError := some result.detail } now
  else do
    let transition ← transport (.waitForConversation submitted)
    let url := transition.url.getD ""
    if !inProject submitted url then
      updateChildSpawnAttempt submitted.attemptId { state := .reconcileRequired, lastError := some transition.detail } now
    else if !settings.waitsForDelivery then
      completeFromBoundConversation submitted url now settings.leaseSeconds
    else
      settleDelivery settings submitted prompt now

/-- An attempt during a cooldown keeps its state. -/
def coolingDown (settings : PromptSettings) (attempt : ChildSpawnAttempt) (cooldown : RuntimeCooldown) (now : Time) :
    Spawning ChildSpawnAttempt :=
  keepState attempt.attemptId attempt.state
    ("global web child-dispatch cooldown active for " ++ fixedPoint 1 (max 0 (cooldown.untilAt - now)) ++ "s: " ++
      cooldown.reason)
    [("cooldown_until", .number cooldown.untilAt (settings.printed cooldown.untilAt))] now

def executeChildSpawnPrompt (attemptId : String) (settings : PromptSettings) : Spawning ChildSpawnAttempt := do
  let ts ← clockOr settings.now
  let attempt ← check (fun db => getChildSpawnAttempt db attemptId)
  let cooldown ← check (getRuntimeCooldown webChildDispatchCooldown)
  match cooldown.filter (fun cooldown => ts < cooldown.untilAt) with
  | some cooldown => coolingDown settings attempt cooldown ts
  | none => do
    let (submitted, prompt) ← submitChildSpawnPrompt attemptId ts
    let result ← transport (.sendAuthorized submitted prompt)
    settleSend settings submitted prompt result ts

end WebSupervisor.ChildSpawn
