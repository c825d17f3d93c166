import WebSupervisor.Proofs.ChatEngineSafety

/-! The turn of one job in an engine run: its writes, its window and its send. -/

namespace WebSupervisor.ChatDispatch.Proofs
open Library Library.Program

variable {start : ChatStore} {pid : Nat} {engine : ChatDispatchEngine} {turn : String} {β γ : Type}
  {rest : List ChatDispatchJob} {knows after : Knowledge} {post : Except Raised β → Knowledge}

theorem not_raised {error : Raised} : ¬ ∃ value : β, Except.error error = .ok value := by
  rintro ⟨value, impossible⟩
  cases impossible

theorem does_clock (steady : Steady pid knows) :
    Does start pid engine knows clock (fun result store log => (∃ time, result = .ok time) ∧ knows store log) := by
  refine does_ask rfl (by simp) steady (fun _ => steady_const.and steady) (fun store log answer known => ⟨⟨_, rfl⟩, ?_⟩)
  exact steady _ _ _ _ rfl beside_answer known

theorem does_write {change : ChatStore → ChatStore} (before : Steady pid knows) (lasting : Steady pid after)
    (keeps : ∀ now, Orderly start now → knows now.store now.log → Orderly start (now.became pid (change now.store)))
    (leaves : ∀ store log, knows store log → after (change store) (.committed pid store (change store) :: log)) :
    Does start pid engine knows (write change) (fun result store log => result = .ok () ∧ after store log) := by
  refine Contract.Triple.transaction ?_ ?_ ?_ ?_
  · exact fun seen now earlier later found held => before.later earlier later found.2 held
  · exact fun result seen now earlier later found held => ⟨held.1, lasting.later earlier later found.2 held.2⟩
  · intro now value next orderly held done
    cases done
    exact ⟨⟨keeps now orderly held, trivial⟩, rfl, leaves _ _ held⟩
  · intro now error _ _ refused
    cases refused

/-- What a write of the job asks for. -/
structure Writes (pid : Nat) (turn : String) (change : JobChange) (new : ChatDispatchState) (store : ChatStore)
    (log : List ChatEvent) : Prop where
  live : Live pid turn store log
  unpassed : Unpassed turn store log
  excused : Presend new → Excused turn log
  counted : ∀ number, change.attempts = some number → log.countP (sends turn) ≤ number

theorem getJob_ok {dispatchId : String} {store : ChatStore} {job : ChatDispatchJob}
    (found : getJob dispatchId store = .ok job) : job ∈ store.jobs ∧ job.dispatchId = dispatchId := by
  unfold getJob at found
  split at found
  next => cases found
  next row present =>
    cases found
    exact mem_find.mp present

theorem does_updateJob {change : JobChange} {new : ChatDispatchState} (state : change.state = some new)
    (own : new ≠ .cancelled) (before : Steady pid knows) (lasting : Steady pid after)
    (implies : ∀ store log, knows store log → Writes pid turn change new store log)
    (leaves : ∀ store log time, knows store log →
      after (updateJobRow turn change time store) (.committed pid store (updateJobRow turn change time store) :: log)) :
    Does start pid engine knows (updateJob turn change)
      (fun result store log => after store log ∧ ∀ job, result = .ok job → job.dispatchId = turn) := by
  have known (result : Except Raised ChatDispatchJob) :
      Steady pid (fun store log => after store log ∧ ∀ job, result = .ok job → job.dispatchId = turn) :=
    lasting.and steady_const
  refine does_bind (does_clock before) (fun time => ?_) (fun _ => known _) (fun _ _ _ held => absurd held.1 not_raised)
  have wrote : Does start pid engine (fun store log => (∃ same, Except.ok (ε := Raised) time = .ok same) ∧ knows store log)
      (write (updateJobRow turn change time)) (fun result store log => result = .ok () ∧ after store log) := by
    refine does_write (steady_const.and before) lasting (fun now orderly held => ?_)
      (fun store log held => leaves store log time held.2)
    obtain ⟨live, unpassed, excused, counted⟩ := implies _ _ held.2
    exact orderly.write state own live unpassed excused counted
  refine does_bind wrote (fun _ => ?_) (fun _ => known _) (fun _ _ _ held => nomatch held.1)
  refine does_check (steady_const.and lasting) known (fun now _ held => ⟨held.2, fun job found => ?_⟩)
  exact (getJob_ok found).2

/-- A write that leaves the job unfinished keeps what the engine knows. -/
theorem does_move {change : JobChange} {new : ChatDispatchState} (state : change.state = some new)
    (unfinished : ¬ new.Terminal) (attempts : change.attempts = none) (lasts : Lasts pid turn knows)
    (implies : ∀ store log, knows store log → Turn pid turn rest store log ∧ (Presend new → Excused turn log)) :
    Does start pid engine knows (updateJob turn change)
      (fun result store log => knows store log ∧ ∀ job, result = .ok job → job.dispatchId = turn) := by
  refine does_updateJob state ?_ lasts.steady lasts.steady (fun store log known => ?_) (fun store log time known => ?_)
  · rintro rfl
    exact unfinished (by decide)
  · obtain ⟨held, excused⟩ := implies store log known
    exact ⟨held.live, held.unpassed, excused, fun number given => by rw [attempts] at given; cases given⟩
  · exact lasts _ _ _ _ ⟨rfl, rfl⟩ (wrote_calm state unfinished) known

/-- A write ends the turn. -/
theorem does_finish {change : JobChange} {new : ChatDispatchState} (state : change.state = some new)
    (own : new ≠ .cancelled) (past : ¬ Presend new) (attempts : change.attempts = none) :
    Does start pid engine (Turn pid turn rest) (updateJob turn change) (fun _ => Rest pid turn rest) := by
  refine does_weaken (does_updateJob state own turn_steady rest_steady ?_ ?_) (fun _ _ known => known)
    (fun _ _ _ held => held.1)
  · intro store log known
    exact ⟨known.live, known.unpassed, fun presend => absurd presend past,
      fun number given => by rw [attempts] at given; cases given⟩
  · exact fun store log time known => known.rest.step ⟨rfl, rfl⟩ wrote_aside

theorem does_attempt {program : Engine β} (does : Does start pid engine knows program (fun _ => after)) :
    Does start pid engine knows (attempt program)
      (fun result store log => (∃ outcome, result = .ok outcome) ∧ after store log) := by
  refine Contract.Triple.weaken (Contract.Triple.attempt does) (fun _ _ held => held) (fun result now _ held => ?_)
  obtain ⟨outcome, same, known⟩ := held
  exact ⟨⟨outcome, same⟩, known⟩

section Windows

/-- The window of an identity that is returned as owned has been opened. -/
def Acquired (result : Except Raised (Option PageIdentity)) (log : List ChatEvent) : Prop :=
  ∀ identity, result = .ok (some identity) → identity.owned = true → Opened (PageIdentity.window identity) log

theorem acquired_steady {result : Except Raised (Option PageIdentity)} :
    Steady pid (fun _ log => Acquired result log) :=
  fun _ _ _ _ _ _ acquired identity same owned => (acquired identity same owned).cons

private theorem acquired_none {log : List ChatEvent} : Acquired (.ok none) log := fun _ same => nomatch same

private theorem acquired_error {error : Raised} {log : List ChatEvent} : Acquired (.error error) log :=
  fun _ same => nomatch same

/-- The engine looks for a window and keeps what it knows. -/
abbrev Acquires (start : ChatStore) (pid : Nat) (engine : ChatDispatchEngine) (turn : String)
    (rest : List ChatDispatchJob) (program : Engine (Option PageIdentity)) : Prop :=
  Does start pid engine (Ready pid turn rest) program
    (fun result store log => Ready pid turn rest store log ∧ Acquired result log)

private theorem acquires_steady (result : Except Raised (Option PageIdentity)) :
    Steady pid (fun store log => Ready pid turn rest store log ∧ Acquired result log) :=
  ready_steady.and acquired_steady

private theorem acquires_none : Acquires start pid engine turn rest (pure none) :=
  does_pure (acquires_steady _) (fun _ _ known => ⟨known, acquired_none⟩)

private theorem acquires_after {program : Engine γ} {next : γ → Engine (Option PageIdentity)}
    (first : Quiet start pid engine program)
    (others : ∀ value, Acquires start pid engine turn rest (next value)) :
    Acquires start pid engine turn rest (program >>= next) :=
  does_after first ready_steady others (fun _ => acquires_steady _) (fun _ _ _ known => ⟨known, acquired_error⟩)

private theorem acquires_reconcile {change : JobChange} (state : change.state = some .reconcileRequired)
    (attempts : change.attempts = none) :
    Acquires start pid engine turn rest (do
      let _ ← updateJob turn change
      pure none) := by
  refine does_bind (does_move state (by decide) attempts ready_lasts (fun _ _ known => ⟨known.known, ?_⟩))
    (fun _ => ?_) (fun _ => acquires_steady _) (fun _ _ _ held => ⟨held.1, acquired_error⟩)
  · exact fun _ => known.excused
  · exact does_pure (acquires_steady _) (fun _ _ held => ⟨held.1, acquired_none⟩)

private theorem acquires_outcome (job : ChatDispatchJob) (failure : String) (outcome : Except Raised PageIdentity) :
    Does start pid engine
      (fun store log => Ready pid job.dispatchId rest store log ∧ Acquired (outcome.map some) log)
      (openOutcome job failure outcome)
      (fun result store log => Ready pid job.dispatchId rest store log ∧ Acquired result log) := by
  cases outcome with
  | ok identity => exact does_pure (acquires_steady _) (fun _ _ known => known)
  | error exception => exact does_weaken (acquires_reconcile rfl rfl) (fun _ _ known => known.1) (fun _ _ _ held => held)

private theorem acquires_open (request : Request) (outcome : Answer request → Except Raised PageIdentity)
    (job : ChatDispatchJob) (failure : String) (unsent : sentJob request = none)
    (kept : ∀ page, request ≠ .closePage page)
    (owned : ∀ answer identity log, outcome answer = .ok identity → identity.owned = true →
      Opened (PageIdentity.window identity) (.answered pid request answer :: log)) :
    Acquires start pid engine job.dispatchId rest (do
      let result ← ask request (fun answer => .ok (outcome answer))
      openOutcome job failure result) := by
  let told : Except Raised (Except Raised PageIdentity) → Knowledge := fun result store log =>
    Ready pid job.dispatchId rest store log ∧ ∀ value, result = .ok value → Acquired (value.map some) log
  have toldSteady (result) : Steady pid (told result) :=
    ready_steady.and (fun event log before after leads calm acquired value same =>
      acquired_steady event log before after leads calm (acquired value same))
  have asked : Does start pid engine (Ready pid job.dispatchId rest)
      (ask request (fun answer => .ok (outcome answer))) told := by
    refine does_ask unsent kept ready_steady toldSteady (fun store log answer known => ⟨?_, ?_⟩)
    · exact ready_steady _ _ _ _ rfl beside_answer known
    · rintro value ⟨⟩ identity same held
      cases result : outcome answer with
      | error exception =>
        rw [result] at same
        cases same
      | ok opened =>
        rw [result] at same
        cases same
        exact owned answer identity log result held
  refine does_bind asked (fun value => ?_) (fun _ => acquires_steady _) (fun _ _ _ held => ⟨held.1, acquired_error⟩)
  exact does_weaken (acquires_outcome job failure value) (fun _ _ held => ⟨held.1, held.2 value rfl⟩)
    (fun _ _ _ held => held)

private theorem acquires_existing (job : ChatDispatchJob) :
    Acquires start pid engine job.dispatchId rest (openExistingWindow engine job) := by
  have found : Does start pid engine (Ready pid job.dispatchId rest) (ask (.findExisting (job.conversationUrl.getD "")) id)
      (fun _ => Ready pid job.dispatchId rest) := quiet_ask _ rfl (by simp) _ ready_steady
  refine does_bind found (fun page => ?_) (fun _ => acquires_steady _) (fun _ _ _ known => ⟨known, acquired_error⟩)
  cases page with
  | some page =>
    refine does_pure (acquires_steady _) (fun _ _ known => ⟨known, ?_⟩)
    rintro identity ⟨⟩ ⟨⟩
  | none =>
    refine acquires_after (quiet_query _) (fun count => ?_)
    split
    · exact acquires_none
    · refine does_bind (does_move rfl (by decide) rfl ready_lasts (fun _ _ known => ⟨known.known, fun _ => known.excused⟩))
        (fun _ => ?_) (fun _ => acquires_steady _) (fun _ _ _ held => ⟨held.1, acquired_error⟩)
      refine does_weaken (acquires_open (.openExisting _) id job _ rfl (by simp) ?_) (fun _ _ held => held.1)
        (fun _ _ _ held => held)
      rintro answer identity log rfl owned
      exact ⟨_, List.mem_cons_self .., by simp [opens, owned]⟩

private theorem acquires_new (job : ChatDispatchJob) :
    Acquires start pid engine job.dispatchId rest (openNewWindow engine job) := by
  refine acquires_after (quiet_ensure _) (fun _ => ?_)
  refine acquires_after (quiet_query _) (fun count => ?_)
  split
  · exact acquires_none
  · refine does_bind (does_move rfl (by decide) rfl ready_lasts (fun _ _ known => ⟨known.known, fun _ => known.excused⟩))
      (fun _ => ?_) (fun _ => acquires_steady _) (fun _ _ _ held => ⟨held.1, acquired_error⟩)
    split
    next exception _ =>
      exact does_weaken (acquires_outcome job _ (.error exception)) (fun _ _ held => ⟨held.1, acquired_error⟩)
        (fun _ _ _ held => held)
    next digest _ =>
      refine does_weaken (acquires_open (.openNew ..) id job _ rfl (by simp) ?_) (fun _ _ held => held.1)
        (fun _ _ _ held => held)
      rintro answer identity log rfl _
      exact ⟨_, List.mem_cons_self .., rfl⟩

private theorem acquires_recovered (job : ChatDispatchJob) :
    Acquires start pid engine job.dispatchId rest (recoverOpening job) := by
  unfold recoverOpening
  split
  · refine acquires_after (quiet_ask _ rfl (by simp)) (fun found => ?_)
    refine does_pure (acquires_steady _) (fun _ _ known => ⟨known, ?_⟩)
    intro identity same owned
    cases found with
    | none => cases same
    | some page =>
      cases same
      cases owned
  · split
    · refine acquires_after (quiet_ensure _) (fun digest => ?_)
      refine does_ask rfl (by simp) ready_steady acquires_steady (fun store log answer known => ⟨?_, ?_⟩)
      · exact ready_steady _ _ _ _ rfl beside_answer known
      · rintro identity rfl _
        exact ⟨_, List.mem_cons_self .., rfl⟩
    · exact acquires_none

theorem does_acquire (job : ChatDispatchJob) :
    Acquires start pid engine job.dispatchId rest (acquire engine job) := by
  unfold acquire
  split
  · refine does_bind (acquires_recovered job) (fun found => ?_) (fun _ => acquires_steady _) (fun _ _ _ held => held)
    cases found with
    | some identity => exact does_pure (acquires_steady _) (fun _ _ known => known)
    | none =>
      exact does_weaken (acquires_reconcile rfl rfl) (fun _ _ held => held.1) (fun _ _ _ held => held)
  · split
    · exact acquires_existing job
    · exact acquires_new job

theorem does_bindWindow (job : ChatDispatchJob) (identity : PageIdentity) :
    Does start pid engine
      (fun store log => Ready pid job.dispatchId rest store log ∧ Acquired (.ok (some identity)) log)
      (bindWindow job identity) (fun _ => Ready pid job.dispatchId rest) := by
  have recorded : Does start pid engine
      (fun store log => Ready pid job.dispatchId rest store log ∧ Acquired (.ok (some identity)) log)
      (recordPage job.conversationKey identity) (fun _ => Ready pid job.dispatchId rest) := by
    refine does_after quiet_clock (acquires_steady _) (fun time => ?_) (fun _ => ready_steady) (fun _ _ _ known => known.1)
    have wrote : Does start pid engine
        (fun store log => Ready pid job.dispatchId rest store log ∧ Acquired (.ok (some identity)) log)
        (write (upsertPage job.conversationKey identity time))
        (fun result store log => result = .ok () ∧ Ready pid job.dispatchId rest store log) := by
      refine does_write (acquires_steady _) ready_steady (fun now orderly held => ?_) (fun store log held => ?_)
      · exact orderly.keep (.same rfl) (fun _ => rfl) (fun _ => rfl)
          (fun _ => upsertPage_paged (held.2 identity rfl))
      · have same : SameQueue store (upsertPage job.conversationKey identity time store) := .of_jobs rfl
        exact ready_steady _ _ _ _ ⟨rfl, rfl⟩ (same.beside pid pid) held.1
    refine does_bind wrote (fun _ => ?_) (fun _ => ready_steady) (fun _ _ _ held => held.2)
    exact does_weaken (quiet_check _ _ ready_steady) (fun _ _ held => held.2) (fun _ _ _ known => known)
  refine does_bind recorded (fun page => ?_) (fun _ => ready_steady) (fun _ _ _ known => known)
  refine does_bind (does_move rfl (by decide) rfl ready_lasts (fun _ _ known => ⟨known.known, fun _ => known.excused⟩))
    (fun _ => ?_) (fun _ => ready_steady) (fun _ _ _ held => held.1)
  exact does_pure ready_steady (fun _ _ held => held.1)

theorem does_ensurePage (job : ChatDispatchJob) :
    Does start pid engine (Ready pid job.dispatchId rest) (ensurePage engine job)
      (fun _ => Ready pid job.dispatchId rest) := by
  refine does_after (quiet_pageOf job) ready_steady (fun found => ?_) (fun _ => ready_steady) (fun _ _ _ known => known)
  cases found with
  | some page => exact quiet_map _ (quiet_setPageOpen _) _ ready_steady
  | none =>
    refine does_bind (does_acquire job) (fun identity => ?_) (fun _ => ready_steady) (fun _ _ _ held => held.1)
    cases identity with
    | none => exact does_pure ready_steady (fun _ _ held => held.1)
    | some identity => exact does_map _ (does_bindWindow job identity) (fun _ => ready_steady)

end Windows

section Sending

/-- What the engine knows when it sends. -/
def Armed (pid : Nat) (turn : String) (rest : List ChatDispatchJob) : Knowledge := fun store log =>
  Ready pid turn rest store log ∧ Loaded turn store log

theorem armed_steady : Steady pid (Armed pid turn rest) := ready_steady.and loaded_steady

theorem Armed.reason {store : ChatStore} {log : List ChatEvent} {request : Request}
    (armed : Armed pid turn rest store log) (sent : sentJob request = some turn) :
    SendReason turn (.issued pid request store) store log := by
  obtain ⟨⟨⟨_, live, unpassed⟩, excused, clear⟩, ⟨attempts, stored, counted⟩, state, found, past⟩ := armed
  refine ⟨excused, fun number same => ?_, clear, unpassed, state, found, past, ?_⟩
  · rw [stored, Option.some.injEq] at same
    exact same ▸ counted
  · rintro rfl
    obtain ⟨current, held, unfinished⟩ := live.state
    rw [found, Option.some.injEq] at held
    exact (unfinished (held ▸ by decide)).2.overtaken rfl sent

/-- After the answer: a send that was deferred does not count. -/
def Answered (pid : Nat) (turn : String) (rest : List ChatDispatchJob) (outcome : Except Raised BrowserSendResult) :
    Knowledge := fun store log =>
  Turn pid turn rest store log ∧ ∀ result, outcome = .ok result → BrowserSendResult.Deferred result → Excused turn log

theorem answered_lasts {outcome : Except Raised BrowserSendResult} : Lasts pid turn (Answered pid turn rest outcome) := by
  intro event log before after leads calm known
  exact ⟨turn_lasts event log before after leads calm known.1, fun result same deferred =>
    (known.2 result same deferred).cons (calm.aside.quiet turn)⟩

private theorem does_sendRequest (request : Request) (receive : Answer request → Except Raised BrowserSendResult)
    (sent : sentJob request = some turn)
    (deferred : ∀ answer result, receive answer = .ok result → BrowserSendResult.Deferred result →
      Deferred request answer) :
    Does start pid engine (Armed pid turn rest) (ask request (fun answer => .ok (receive answer)))
      (fun result store log => Turn pid turn rest store log ∧
        ∀ outcome, result = .ok outcome → Answered pid turn rest outcome store log) := by
  have lasting (result : Except Raised (Except Raised BrowserSendResult)) :
      Steady pid (fun store log => Turn pid turn rest store log ∧
        ∀ outcome, result = .ok outcome → Answered pid turn rest outcome store log) :=
    turn_steady.and (fun event log before after leads beside known outcome same =>
      answered_lasts.steady event log before after leads beside (known outcome same))
  have waiting : Steady pid (fun store log => Turn pid turn rest store log ∧ Sending pid turn request log) :=
    turn_steady.and sending_steady
  refine Contract.Triple.ask armed_steady.stable waiting.stable (fun result => (lasting result).stable) ?_ ?_
  · intro now orderly armed
    exact ⟨⟨orderly.send sent (armed.reason sent), trivial⟩, armed.1.known.sent sent, [], now.store, now.log, rfl,
      armed.1.excused, by simp⟩
  · intro now answer orderly held
    obtain ⟨known, newer, found, older, split, excused, quiet⟩ := held
    have later : Turn pid turn rest now.store (.answered pid request answer :: now.log) :=
      turn_steady _ _ _ _ rfl beside_answer known
    refine ⟨⟨orderly.answer request answer, trivial⟩, later, ?_⟩
    rintro outcome ⟨⟩
    refine ⟨later, fun result same harmless => ?_⟩
    rw [Shared.record_log, split]
    exact excused.answered quiet (deferred answer result same harmless)

theorem does_send (job : ChatDispatchJob) (page : ChatPage) :
    Does start pid engine (Armed pid job.dispatchId rest) (send job page)
      (fun result store log => Turn pid job.dispatchId rest store log ∧
        ∀ outcome, result = .ok outcome → Answered pid job.dispatchId rest outcome store log) := by
  unfold send
  split
  · refine does_sendRequest (.sendExisting job page) id rfl ?_
    rintro answer result rfl deferred
    exact deferred
  · refine does_sendRequest (.sendNew job page) id rfl ?_
    rintro answer result rfl deferred
    exact deferred

theorem does_settleSend (job : ChatDispatchJob) (result : BrowserSendResult) (current : Time) :
    Does start pid engine (Answered pid job.dispatchId rest (.ok result)) (settleSend engine job result current)
      (fun _ => Rest pid job.dispatchId rest) := by
  have ends {change : JobChange} (written : Does start pid engine (Answered pid job.dispatchId rest (.ok result))
      (updateJob job.dispatchId change) (fun _ => Rest pid job.dispatchId rest)) :
      Does start pid engine (Answered pid job.dispatchId rest (.ok result))
        (do let _ ← updateJob job.dispatchId change) (fun _ => Rest pid job.dispatchId rest) :=
    does_bind written (fun _ => does_pure rest_steady (fun _ _ known => known)) (fun _ => rest_steady)
      (fun _ _ _ known => known)
  refine ends ?_
  split
  · exact does_weaken (does_finish rfl (by decide) (by decide) rfl) (fun _ _ known => known.1) (fun _ _ _ known => known)
  · split
    · exact does_weaken (does_finish rfl (by decide) (by decide) rfl) (fun _ _ known => known.1)
        (fun _ _ _ known => known)
    · split
      next submitted possible limited =>
        refine does_weaken (does_move rfl (by decide) rfl answered_lasts (fun _ _ known => ⟨known.1, fun _ => ?_⟩))
          (fun _ _ known => known) (fun _ _ _ held => held.1.1.rest)
        exact known.2 result rfl ⟨by simpa using submitted, by simpa using possible, limited⟩
      · exact does_weaken (does_finish rfl (by decide) (by decide) rfl) (fun _ _ known => known.1)
          (fun _ _ _ known => known)

theorem quiet_recordSentUrl (job : ChatDispatchJob) (page : ChatPage) (result : BrowserSendResult) :
    Quiet start pid engine (recordSentUrl job page result) := by
  unfold recordSentUrl
  split
  · exact quiet_bind (quiet_bindKey _ _) (fun _ => quiet_bind (quiet_setPageUrl _ _) (fun _ => quiet_pure _))
  · exact quiet_pure _

theorem does_sendOutcome (job : ChatDispatchJob) (page : ChatPage) (current : Time)
    (outcome : Except Raised BrowserSendResult) :
    Does start pid engine (Answered pid job.dispatchId rest outcome) (sendOutcome engine job page current outcome)
      (fun _ => Rest pid job.dispatchId rest) := by
  cases outcome with
  | error exception =>
    refine does_bind (does_weaken (does_finish rfl (by decide) (by decide) rfl) (fun _ _ known => known.1)
      (fun _ _ _ known => known)) (fun _ => ?_) (fun _ => rest_steady) (fun _ _ _ known => known)
    exact does_pure rest_steady (fun _ _ known => known)
  | ok result =>
    exact does_after (quiet_recordSentUrl job page result) answered_lasts.steady
      (fun _ => does_settleSend job result current) (fun _ => rest_steady) (fun _ _ _ known => known.1.rest)

/-- The row is written ahead of the send. -/
theorem does_submit (job : ChatDispatchJob) (page : ChatPage) :
    Does start pid engine
      (fun store log => Ready pid job.dispatchId rest store log ∧ log.countP (sends job.dispatchId) ≤ job.attempts)
      (submit engine job page) (fun _ => Rest pid job.dispatchId rest) := by
  refine does_after quiet_clock (ready_steady.and counted_steady) (fun current => ?_) (fun _ => rest_steady)
    (fun _ _ _ known => known.1.known.rest)
  refine does_bind (does_updateJob rfl (by decide) (ready_steady.and counted_steady) armed_steady ?_ ?_)
    (fun written => ?_) (fun _ => rest_steady) (fun _ _ _ held => held.1.1.known.rest)
  · intro store log known
    obtain ⟨ready, counted⟩ := known
    refine ⟨ready.known.live, ready.known.unpassed, fun presend => absurd presend (by decide), ?_⟩
    rintro number ⟨⟩
    exact Nat.le_succ_of_le counted
  · intro store log time known
    obtain ⟨ready, counted⟩ := known
    obtain ⟨state, stored, _⟩ := ready.known.live.state
    obtain ⟨row, found, _⟩ := Option.map_eq_some_iff.mp stored
    refine ⟨ready_lasts _ _ _ _ ⟨rfl, rfl⟩ (wrote_calm rfl (by decide)) ready,
      ⟨⟨job.attempts + 1, ?_, ?_⟩, .submitting, ?_, by decide⟩⟩
    · rw [attemptsOf_wrote_self, attemptsOf, found]
      rfl
    · rw [List.countP_cons_of_neg (by simp [sends])]
      exact Nat.lt_succ_of_le counted
    · rw [stateOf_wrote_self, stored]
      rfl
  · refine does_given (fun _ _ held => held.2 written rfl) (fun same => ?_)
    rw [← same]
    refine does_bind (does_weaken (does_send written page) (fun _ _ held => held.1) (fun _ _ _ held => held))
      (fun outcome => ?_) (fun _ => rest_steady) (fun _ _ _ held => held.1.rest)
    exact does_weaken (does_sendOutcome written page current outcome) (fun _ _ held => held.2 outcome rfl)
      (fun _ _ _ known => known)

end Sending

end WebSupervisor.ChatDispatch.Proofs
