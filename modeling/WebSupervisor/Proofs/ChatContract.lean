import WebSupervisor.Library.Triple
import WebSupervisor.Proofs.ChatTurn

/-! The contract of the chat queue. One engine runs at a time; beside it any
number of processes enqueue and cancel. -/

namespace WebSupervisor.ChatDispatch.Proofs
open Library Library.Program

def dispatching (start : ChatStore) : Contract ChatStore Answer ChatCall ChatResult where
  valid := Orderly start
  rely pid
    | .runOnce _ => Nearby pid
    | _ => fun _ _ => True
  guarantee pid
    | .runOnce _ => fun _ _ => True
    | _ => fun before after => ∀ other ≠ pid, Nearby other before after

theorem dispatching_isolated (start : ChatStore) : (dispatching start).Isolated chatMachine where
  refl pid call shared := by
    cases call with
    | runOnce engine => exact .refl pid shared
    | enqueue request => trivial
    | cancel dispatchId => trivial
  trans := by
    intro pid call first second third one two
    cases call with
    | runOnce engine => exact Nearby.trans one two
    | enqueue request => trivial
    | cancel dispatchId => trivial
  cover := by
    intro pid other call beside before after different compatible guaranteed
    cases beside with
    | runOnce engine =>
      cases call with
      | runOnce engine => simp [chatMachine, ChatCall.compatible] at compatible
      | enqueue request => exact guaranteed other (Ne.symm different)
      | cancel dispatchId => exact guaranteed other (Ne.symm different)
    | enqueue request => trivial
    | cancel dispatchId => trivial

section Effects
variable {pid : Nat} {turn : String} {before after : ChatStore} {change : JobChange} {time : Time}

/-- A commit after which every job has the state and the attempts it had. -/
structure SameQueue (before after : ChatStore) : Prop where
  change : QueueChange before after
  states : ∀ id, stateOf after id = stateOf before id
  attempts : ∀ id, attemptsOf after id = attemptsOf before id

theorem SameQueue.of_jobs (jobs : after.jobs = before.jobs) : SameQueue before after :=
  ⟨.same jobs, fun _ => stateOf_jobs jobs, fun _ => attemptsOf_jobs jobs⟩

theorem SameQueue.beside (same : SameQueue before after) (pid other : Nat) :
    Beside pid (.committed other before after) := by
  intro turn
  have spares (id : String) : Spares pid id (.committed other before after) :=
    fun state stored => Or.inl ((same.states id).trans stored)
  exact ⟨⟨same.change, fun id _ => spares id⟩, spares turn, fun old stored =>
    ⟨old, (same.attempts turn).trans stored, Nat.le_refl _⟩⟩

theorem wrote_aside : Aside pid turn (.committed pid before (updateJobRow turn change time before)) := by
  refine ⟨.wrote turn change time rfl, fun id other state stored => Or.inl ?_⟩
  rw [stateOf_wrote_other other, stored]

theorem wrote_calm {new : ChatDispatchState} (state : change.state = some new) (unfinished : ¬ new.Terminal) :
    Calm pid turn (.committed pid before (updateJobRow turn change time before)) := by
  refine ⟨wrote_aside, fun old stored => Or.inr ⟨new, ?_, unfinished⟩⟩
  rw [stateOf_wrote_self, stored, state]
  rfl

/-- The engine moves the job that it is working on. -/
theorem Orderly.write {start : ChatStore} {now : ChatShared} (orderly : Orderly start now) {new : ChatDispatchState}
    (state : change.state = some new) (own : new ≠ .cancelled) (live : Live pid turn now.store now.log)
    (unpassed : Unpassed turn now.store now.log) (excused : Presend new → Excused turn now.log)
    (attempts : ∀ number, change.attempts = some number → now.log.countP (sends turn) ≤ number) :
    Orderly start (now.became pid (updateJobRow turn change time now.store)) := by
  refine orderly.commit (.wrote turn change time rfl) ?_ ?_ (fun _ paged => paged)
  · intro id old moved before after different
    by_cases same : id = turn
    · subst same
      have written := after
      rw [stateOf_wrote_self, before, state] at written
      cases written
      refine ⟨fun terminal => ?_, excused, fun _ => unpassed, fun cancelled => absurd cancelled own⟩
      obtain ⟨current, stored, unfinished⟩ := live.state
      rw [before, Option.some.injEq] at stored
      exact (unfinished (stored ▸ terminal)).2.overtaken rfl ⟨old, _, before, after, different⟩
    · rw [stateOf_wrote_other same, before, Option.some.injEq] at after
      exact absurd after different
  · intro id old number before after
    by_cases same : id = turn
    · subst same
      rw [attemptsOf_wrote_self, before] at after
      cases given : change.attempts with
      | none =>
        rw [given] at after
        cases after
        exact orderly.counted id old before
      | some sent =>
        rw [given] at after
        cases after
        exact attempts _ given
    · rw [attemptsOf_wrote_other same, before, Option.some.injEq] at after
      exact after ▸ orderly.counted id old before

end Effects

section Pages
variable {store : ChatStore} {log : List ChatEvent}

theorem updatePage_paged {pageId : String} {change : ChatPage → ChatPage}
    {kept : ∀ page, (change page).pageId = page.pageId} (window : ∀ page, ChatPage.window (change page) = ChatPage.window page)
    (owned : ∀ page, (change page).owned = page.owned) (paged : Paged store log) :
    Paged (updatePage pageId change kept store) log := by
  intro page member
  obtain ⟨old, present, rfl⟩ := (@Table.mem_update _ _ ChatPage.pageId store.pages
    (fun page => page.pageId = pageId) change kept page).mp member
  obtain ⟨named, opened⟩ := paged old present
  split
  · refine ⟨fun identity same => ?_, fun held => ?_⟩
    · rw [kept, named identity (same.trans (window old))]
    · rw [window]
      exact opened (owned old ▸ held)
  · exact ⟨named, opened⟩

/-- The name of a page determines its window. -/
theorem pageIdOf_window {first second : PageIdentity} (same : pageIdOf first = pageIdOf second) :
    PageIdentity.window first = PageIdentity.window second := by
  have lists := congrArg String.toList same
  simp only [pageIdOf, String.toList_append, List.append_assoc] at lists
  have inner := List.append_cancel_left lists
  have colon : ":pid:".toList = ':' :: "pid:".toList := rfl
  rw [colon, List.cons_append, List.cons_append] at inner
  obtain ⟨handles, rest⟩ := split_unique (int_toString_plain (by decide) (by decide))
    (int_toString_plain (by decide) (by decide)) inner
  have pids := List.append_cancel_left rest
  exact Prod.ext (int_toString_injective (String.toList_inj.mp handles))
    (int_toString_injective (String.toList_inj.mp pids))

theorem upsertPage_paged {conversationKey : String} {identity : PageIdentity} {time : Time}
    (opened : identity.owned = true → Opened (PageIdentity.window identity) log) (paged : Paged store log) :
    Paged (upsertPage conversationKey identity time store) log := by
  intro page member
  rcases Table.mem_upsert.mp member with rfl | ⟨present, _⟩
  · dsimp only
    split
    next missing =>
      refine ⟨fun other same => ?_, opened⟩
      simp only [ChatPage.window, PageIdentity.window, Prod.mk.injEq] at same
      simp only [pageIdOf, same]
    next old found =>
      obtain ⟨present, sameId⟩ := Table.find?_some.mp found
      obtain ⟨named, owned⟩ := paged old present
      have window : PageIdentity.window identity = ChatPage.window old := by
        have again := named { identity with windowHandle := old.windowHandle, browserPid := old.browserPid } rfl
        exact pageIdOf_window (sameId.symm.trans again.symm)
      refine ⟨fun other same => (named other same).trans sameId, fun held => ?_⟩
      rcases Bool.or_eq_true_iff.mp held with before | fresh
      · exact owned before
      · have fact := opened fresh
        rw [window] at fact
        exact fact
  · exact paged page present

end Pages

end WebSupervisor.ChatDispatch.Proofs
