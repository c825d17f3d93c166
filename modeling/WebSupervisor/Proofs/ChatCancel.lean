import WebSupervisor.Proofs.ChatSends

/-! Cancellation. As long as no call moves or sends a job that another call has
moved meanwhile, a cancelled job stays cancelled and is not sent any more. -/

namespace WebSupervisor.ChatDispatch.Proofs
open Library

theorem Overtaken.grow {log later : List ChatEvent} (overtaken : Overtaken log) (grown : log <:+ later) :
    Overtaken later := by
  obtain ⟨newer, event, older, dispatchId, rfl, touches, changed⟩ := overtaken
  obtain ⟨front, rfl⟩ := grown
  exact ⟨front ++ newer, event, older, dispatchId, by rw [List.append_assoc], touches, changed⟩

/-- Calls that run one after the other do not overtake each other. -/
theorem not_overtaken_of_sequential {log : List ChatEvent}
    (sequential : (log.map (·.pid)).Pairwise (fun newer older => older ≤ newer)) : ¬ Overtaken log := by
  rintro ⟨newer, event, older, dispatchId, rfl, _, middle, other, before, after, oldest, rfl, foreign, _, first, last, begun⟩
  simp only [List.map_append, List.map_cons, List.pairwise_append, List.pairwise_cons] at sequential
  obtain ⟨_, ⟨below, _, ⟨above, _⟩, _⟩, _⟩ := sequential
  have late := below other (by simp)
  have early := above event.pid (List.mem_map.mpr ⟨_, begun, rfl⟩)
  exact foreign (Nat.le_antisymm late early)

section Final
variable {start : ChatStore} {shared : ChatShared} {dispatchId : String} {newer older : List ChatEvent} {pid : Nat}
  {before after : ChatStore}

private theorem Orderly.terminal (orderly : Orderly start shared) (clean : ¬ Overtaken shared.log)
    (member : .committed pid before after ∈ shared.log) {state : ChatDispatchState}
    (stored : stateOf before dispatchId = some state) (terminal : state.Terminal) :
    stateOf after dispatchId = some state := by
  obtain ⟨front, back, split, _, kept, _⟩ := orderly.justified.of_mem member
  refine (kept dispatchId state stored terminal).resolve_right (fun overtaken => clean ?_)
  exact overtaken.grow (split ▸ List.suffix_append ..)

private theorem Orderly.unsent_after (orderly : Orderly start shared) (clean : ¬ Overtaken shared.log)
    (split : shared.log = newer ++ .committed pid before after :: older)
    (cancelled : stateOf after dispatchId = some .cancelled) :
    ∀ event ∈ newer, sends dispatchId event = false := by
  intro event member
  by_contra sent
  cases event with
  | issued sender request found =>
    have named : sentJob request = some dispatchId := by simpa [sends] using sent
    obtain ⟨front, back, rfl⟩ := List.append_of_mem member
    rw [List.append_assoc, List.cons_append] at split
    have linked := orderly.linked
    rw [split] at linked
    obtain ⟨_, ⟨rfl, rest⟩, _⟩ := linked.split
    have still : stateOf found dispatchId = some .cancelled := by
      refine @Linked.stays _ _ _ _ _ _ _ (fun store => stateOf store dispatchId = some .cancelled) rest.since cancelled
        (fun writer early late inside held => ?_)
      have logged : .committed writer early late ∈ shared.log := by
        rw [split]
        exact List.mem_append_right _ (List.mem_cons_of_mem _ (List.mem_append_left _ inside))
      exact orderly.terminal clean logged held (by decide)
    obtain ⟨reason, _⟩ := orderly.justified front _ _ split
    obtain ⟨state, stored, _, overtaken⟩ := (reason dispatchId named).unsettled
    rw [still, Option.some.injEq] at stored
    exact clean ((overtaken stored.symm).grow (split ▸ List.suffix_append ..))
  | committed writer early late => exact sent rfl
  | answered sender request answer => exact sent rfl
  | returned sender value => exact sent rfl

private theorem Excused.append {log : List ChatEvent} (excused : Excused dispatchId log)
    (quiet : ∀ event ∈ newer, sends dispatchId event = false) : Excused dispatchId (newer ++ log) := by
  induction newer with
  | nil => exact excused
  | cons event newer ih =>
    rw [List.forall_mem_cons] at quiet
    exact (ih quiet.2).cons quiet.1

end Final

/-- What cancellation promises in a world. -/
structure CancelFinal (world : ChatWorld) : Prop where
  after : ∀ newer pid job older, world.log = newer ++ .returned pid (.job (.ok job)) :: older →
    job.state = .cancelled → ∀ event ∈ newer, sends job.dispatchId event = false
  before : ∀ newer pid job older, world.log = newer ++ .returned pid (.job (.ok job)) :: older →
    job.state = .cancelled → Excused job.dispatchId older
  terminal : ∀ pid before after, .committed pid before after ∈ world.log → ∀ row ∈ before.jobs, row.state.Terminal →
    ∃ kept ∈ after.jobs, kept.dispatchId = row.dispatchId ∧ kept.state = row.state

/-- In runs in which no call overtakes another: when a call has returned a job as
cancelled, the job is not sent any more and every earlier send of it was
deferred; and a finished job keeps its state. -/
theorem cancel_final (start : ChatStore) (moves : List (Move Answer ChatCall))
    (clean : ¬ Overtaken (chatRun start moves).log) : CancelFinal (chatRun start moves) := by
  have orderly := chat_orderly start moves
  -- The commit after which the job was seen as cancelled.
  have seen {newer : List ChatEvent} {pid : Nat} {job : ChatDispatchJob} {older : List ChatEvent}
      (split : (chatRun start moves).log = newer ++ .returned pid (.job (.ok job)) :: older)
      (cancelled : job.state = .cancelled) : ∃ front writer before after back,
        older = front ++ .committed writer before after :: back ∧
        stateOf after job.dispatchId = some .cancelled := by
    obtain ⟨writer, before, after, member, stored⟩ := orderly.justified newer _ _ split cancelled
    obtain ⟨front, back, rfl⟩ := List.append_of_mem member
    exact ⟨front, writer, before, after, back, rfl, stored⟩
  refine ⟨?_, ?_, ?_⟩
  · intro newer pid job older split cancelled event member
    obtain ⟨front, writer, before, after, back, rfl, stored⟩ := seen split cancelled
    have longer : (chatRun start moves).log =
        (newer ++ .returned pid (.job (.ok job)) :: front) ++ .committed writer before after :: back := by
      rw [split, List.append_assoc, List.cons_append]
    exact orderly.unsent_after clean longer stored event (List.mem_append_left _ member)
  · intro newer pid job older split cancelled
    obtain ⟨front, writer, before, after, back, rfl, stored⟩ := seen split cancelled
    have longer : (chatRun start moves).log =
        (newer ++ .returned pid (.job (.ok job)) :: front) ++ .committed writer before after :: back := by
      rw [split, List.append_assoc, List.cons_append]
    obtain ⟨_, _, excused⟩ := orderly.justified _ _ _ longer
    rcases excused job.dispatchId stored with excused | overtaken
    · have quiet := orderly.unsent_after clean longer stored
      have later : Excused job.dispatchId (.committed writer before after :: back) := excused.cons rfl
      exact later.append (fun event member => quiet event (List.mem_append_right _ (List.mem_cons_of_mem _ member)))
    · exact absurd (overtaken.grow (longer ▸ List.suffix_append ..)) clean
  · intro pid before after member row present terminal
    exact stateOf_some.mp (orderly.terminal clean member (stateOf_job present) terminal)

section Runs

/-- A prompt for a new conversation in a project. -/
def projectPrompt : Enqueue :=
  { prompt := "hello", projectUrl := some "https://chatgpt.com/g/g-p-0123456789abcdef0123456789abcdef/project"
    now := 0, keySuffix := "k", dispatchSuffix := "d", nonce := "n" }

/-- The prompt is enqueued, its send meets a rate limit, and it is cancelled. -/
def deferredRun : List (Move Answer ChatCall) :=
  let reply := windowReply ⟨false, false, "", none, true⟩
  .start (.enqueue projectPrompt) :: finish 0 reply 6 ++ .start (.runOnce (.make 4 90 60)) :: finish 1 reply 40 ++
    .start (.cancel "chat_d") :: finish 2 reply 8

/-- The job that a call has returned as cancelled. -/
def cancelledJob : ChatEvent → Option String
  | .returned _ (.job (.ok job)) => if job.state = .cancelled then some job.dispatchId else none
  | _ => none

theorem cancel_final_deferred : (chatRun {} deferredRun).log.head?.bind cancelledJob = some "chat_d" ∧
    CancelFinal (chatRun {} deferredRun) :=
  ⟨by decide +kernel, cancel_final {} deferredRun (not_overtaken_of_sequential (by decide +kernel))⟩

/-- The prompt is cancelled after the engine has made its list of jobs. -/
def overtakenRun : List (Move Answer ChatCall) :=
  let reply := windowReply ⟨true, true, "", none, false⟩
  .start (.enqueue projectPrompt) :: finish 0 reply 3 ++ .start (.runOnce (.make 4 90 60)) :: finish 1 reply 2 ++
    .start (.cancel "chat_d") :: finish 2 reply 5 ++ finish 1 reply 30

/-- A job that is returned as cancelled has been sent before; and a job is sent
after it was returned as cancelled, which it is not any more in the end. -/
theorem cancel_final_fails :
    ((chatRun {} deferredRun).log.head?.bind cancelledJob = some "chat_d" ∧
      (chatRun {} deferredRun).log.tail.any (sends "chat_d") = true) ∧
    (chatRun {} overtakenRun).log.any (cancelledJob · = some "chat_d") = true ∧
    ((chatRun {} overtakenRun).log.takeWhile (cancelledJob · = none)).any (sends "chat_d") = true ∧
    stateOf (chatRun {} overtakenRun).store "chat_d" = some .submitted := by
  decide +kernel

end Runs

end WebSupervisor.ChatDispatch.Proofs
