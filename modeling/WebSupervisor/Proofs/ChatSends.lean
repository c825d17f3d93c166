import WebSupervisor.Proofs.ChatCalls

/-! The sends of a chat queue, in all runs of its calls. -/

namespace WebSupervisor.ChatDispatch.Proofs
open Library

abbrev ChatWorld := World ChatStore Answer ChatCall ChatResult

abbrev chatRun (start : ChatStore) (moves : List (Move Answer ChatCall)) : ChatWorld :=
  run chatMachine.move { store := start, log := [] } moves

theorem chat_orderly (start : ChatStore) (moves : List (Move Answer ChatCall)) :
    Orderly start (chatRun start moves).toShared := by
  refine Contract.run_valid (dispatching_isolated start) (dispatching_certifies start) ?_ rfl moves
  have unsent {id : String} : ¬ Sent id [] := by simp [Sent]
  refine ⟨rfl, .nil, fun id sent => absurd sent unsent, fun id _ _ _ => excused_of_unsent unsent, fun id _ _ => ?_,
    fun _ _ _ _ sent => absurd sent unsent, fun id _ => Or.inl (excused_of_unsent unsent), fun empty page member => ?_⟩
  · rw [unsent_count unsent]
    exact Nat.zero_le _
  · have inside : page ∈ start.pages.rows := member
    rw [empty] at inside
    cases inside

/-- What holds of the sends in a world. Logs stand latest first. -/
structure SendsOnce (world : ChatWorld) : Prop where
  deferred : ∀ newer further middle pid request found older dispatchId,
    world.log = newer ++ further :: (middle ++ .issued pid request found :: older) →
    sentJob request = some dispatchId → sends dispatchId further = true →
    ∃ answer, .answered pid request answer ∈ middle ∧ Deferred request answer
  counted : ∀ job ∈ world.store.jobs, world.log.countP (sends job.dispatchId) ≤ job.attempts

/-- A job is sent again only after its last send was answered as deferred, and
its row counts at least the sends there have been. -/
theorem sends_at_most_once (start : ChatStore) (moves : List (Move Answer ChatCall)) :
    SendsOnce (chatRun start moves) := by
  have orderly := chat_orderly start moves
  constructor
  · intro newer further middle pid request found older dispatchId split named sent
    cases further with
    | issued sender again store =>
      obtain ⟨reason, _⟩ := orderly.justified newer _ _ split
      have excused := (reason dispatchId (by simpa [sends] using sent)).excused
      exact excused middle pid request found older rfl named
    | committed writer before after => cases sent
    | answered sender request answer => cases sent
    | returned sender value => cases sent
  · intro job member
    refine orderly.counted job.dispatchId job.attempts ?_
    rw [attemptsOf, mem_find.mpr ⟨member, rfl⟩]
    rfl

section Fifo
variable {start : ChatStore} {shared : ChatShared}

private theorem Orderly.between (orderly : Orderly start shared) {newer middle older : List ChatEvent}
    {pid sender : Nat} {request again : Request} {found later : ChatStore} {first second : String}
    (split : shared.log = newer ++ .issued sender again later :: (middle ++ .issued pid request found :: older))
    (ordered : Precedes found first second) : Precedes later first second := by
  have linked := orderly.linked
  rw [split] at linked
  obtain ⟨_, ⟨rfl, rest⟩, _⟩ := linked.split
  obtain ⟨_, ⟨rfl, _⟩, along⟩ := rest.split
  refine @Linked.stays _ _ _ _ _ _ _ (fun store => Precedes store first second) along ordered
    (fun writer before after member earlier => ?_)
  exact (orderly.change (split ▸ List.mem_append_right _ (List.mem_cons_of_mem _ (List.mem_append_left _ member)))).precedes
    earlier

end Fifo

/-- When a job is sent, the jobs of its conversation that stand before it are
finished, and none of them is sent later. -/
theorem sends_in_order (start : ChatStore) (moves : List (Move Answer ChatCall)) :
    ∀ newer pid request found older dispatchId,
      (chatRun start moves).log = newer ++ .issued pid request found :: older → sentJob request = some dispatchId →
      ∀ earlier later, [earlier, later].Sublist found.jobs.rows → later.dispatchId = dispatchId →
        earlier.conversationKey = later.conversationKey →
        earlier.state.Terminal ∧ ∀ event ∈ newer, sends earlier.dispatchId event = false := by
  intro newer pid request found older dispatchId split named earlier later sub same key
  have orderly := chat_orderly start moves
  have ordered : Precedes found earlier.dispatchId dispatchId := ⟨earlier, later, sub, rfl, same, key⟩
  constructor
  · obtain ⟨reason, _⟩ := orderly.justified newer _ _ split
    exact (reason dispatchId named).clear _ _ ordered (stateOf_job (sub.subset (List.mem_cons_self ..)))
  · intro event member
    by_contra again
    cases event with
    | issued sender repeated store =>
      have sent : sentJob repeated = some earlier.dispatchId := by simpa [sends] using again
      obtain ⟨front, back, rfl⟩ := List.append_of_mem member
      rw [List.append_assoc, List.cons_append] at split
      obtain ⟨reason, _⟩ := orderly.justified front _ _ split
      have passed : Sent dispatchId (back ++ .issued pid request found :: older) :=
        ⟨_, List.mem_append_right _ (List.mem_cons_self ..), by simp [sends, named]⟩
      exact ((reason _ sent).unpassed dispatchId passed).2 (orderly.between split ordered)
    | committed writer before after => exact again rfl
    | answered sender request answer => exact again rfl
    | returned sender value => exact again rfl

section Runs

def projectWindow : PageIdentity :=
  { conversationUrl := "https://chatgpt.com/g/g-p-0123456789abcdef0123456789abcdef/project", windowHandle := 1
    browserPid := 1, chromeExecutable := "chrome.exe", owned := true }

/-- A browser that opens the window and answers every send with one result. -/
def windowReply (result : BrowserSendResult) : ∀ request, Answer request
  | .time => (0 : Time)
  | .findExisting _ => .ok none
  | .openExisting _ => .ok projectWindow
  | .openNew .. => .ok projectWindow
  | .recoverNew .. => .ok none
  | .sendExisting .. => .ok result
  | .sendNew .. => .ok result
  | .observeAck .. => .ok ⟨false, 0, none⟩
  | .currentUrl _ => .ok none
  | .closePage _ => .ok ⟨true, false, ""⟩

/-- Moves that run a call to its end. -/
def finish (pid : Nat) (reply : ∀ request, Answer request) (rounds : Nat) : List (Move Answer ChatCall) :=
  (List.replicate rounds [.step pid, .answer pid reply]).flatten

/-- Two prompts of one conversation; the first one is cancelled, and the engine
comes to the second one. -/
def secondRun : List (Move Answer ChatCall) :=
  let prompt : Enqueue :=
    { prompt := "hello", projectUrl := some "https://chatgpt.com/g/g-p-0123456789abcdef0123456789abcdef/project"
      conversationKey := some "k", now := 0, keySuffix := "k", dispatchSuffix := "first", nonce := "n" }
  let reply := windowReply ⟨true, true, "", none, false⟩
  .start (.enqueue prompt) :: finish 0 reply 6 ++
    .start (.enqueue { prompt with dispatchSuffix := "second", nonce := "m" }) :: finish 1 reply 6 ++
    .start (.cancel "chat_first") :: finish 2 reply 8 ++ .start (.runOnce (.make 4 90 60)) :: finish 3 reply 30

/-- The second prompt is sent, with the first one before it. -/
def sendsBehind : ChatEvent → Bool
  | .issued _ request found =>
    sentJob request = some "chat_second" ∧
      found.jobs.rows.map (fun job => (job.dispatchId, job.conversationKey)) = [("chat_first", "k"), ("chat_second", "k")]
  | _ => false

theorem sends_in_order_second : ∃ newer pid request found older earlier later,
    (chatRun {} secondRun).log = newer ++ .issued pid request found :: older ∧ sentJob request = some "chat_second" ∧
      [earlier, later].Sublist found.jobs.rows ∧ earlier.dispatchId = "chat_first" ∧ earlier.state.Terminal ∧
      ∀ event ∈ newer, sends earlier.dispatchId event = false := by
  have sent : (chatRun {} secondRun).log.any sendsBehind = true := by decide +kernel
  obtain ⟨event, member, behind⟩ := List.any_eq_true.mp sent
  cases event with
  | issued pid request found =>
    obtain ⟨newer, older, split⟩ := List.append_of_mem member
    obtain ⟨named, rows⟩ := of_decide_eq_true behind
    obtain ⟨earlier, rest, jobs, first, others⟩ := List.map_eq_cons_iff.mp rows
    obtain ⟨later, tail, rfl, second, _⟩ := List.map_eq_cons_iff.mp others
    simp only [Prod.mk.injEq] at first second
    have sub : [earlier, later].Sublist found.jobs.rows := by
      rw [jobs]
      exact ((List.nil_sublist tail).cons_cons later).cons_cons earlier
    exact ⟨newer, pid, request, found, older, earlier, later, split, named, sub, first.1,
      sends_in_order {} secondRun newer pid request found older "chat_second" split named earlier later sub second.1
        (first.2.trans second.2.symm)⟩
  | committed writer before after => cases behind
  | answered sender request answer => cases behind
  | returned sender value => cases behind

end Runs

end WebSupervisor.ChatDispatch.Proofs
