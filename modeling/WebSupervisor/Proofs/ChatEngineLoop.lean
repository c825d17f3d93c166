import WebSupervisor.Proofs.ChatEngineTurn

/-! A whole run of the engine: reconciliation, the loop over its list of jobs,
and the closing of idle pages. -/

namespace WebSupervisor.ChatDispatch.Proofs
open Library Library.Program

variable {start : ChatStore} {pid : Nat} {engine : ChatDispatchEngine} {turn : String} {β γ : Type}
  {rest : List ChatDispatchJob} {knows : Knowledge}

section Following

private theorem does_stop (value : β) (left : ∀ store log, knows store log → Rest pid turn rest store log) :
    Does start pid engine knows (pure value) (fun _ => Rest pid turn rest) :=
  does_pure rest_steady left

private theorem does_then {program : Engine γ} {next : γ → Engine β}
    (first : Does start pid engine knows program (fun _ => Rest pid turn rest))
    (others : ∀ value, Does start pid engine (Rest pid turn rest) (next value) (fun _ => Rest pid turn rest)) :
    Does start pid engine knows (program >>= next) (fun _ => Rest pid turn rest) :=
  does_bind first others (fun _ => rest_steady) (fun _ _ _ known => known)

private theorem does_first {program : Engine γ} {next : γ → Engine β} (first : Quiet start pid engine program)
    (others : ∀ value, Does start pid engine (Turn pid turn rest) (next value) (fun _ => Rest pid turn rest)) :
    Does start pid engine (Turn pid turn rest) (program >>= next) (fun _ => Rest pid turn rest) :=
  does_after first turn_steady others (fun _ => rest_steady) (fun _ _ _ known => known.rest)

theorem does_settleAck (job : ChatDispatchJob) (page : ChatPage) (ack : BrowserAckResult) :
    Does start pid engine (Turn pid job.dispatchId rest) (settleAck job page ack)
      (fun _ => Rest pid job.dispatchId rest) := by
  unfold settleAck
  split
  · exact does_stop _ (fun _ _ known => known.rest)
  · split
    · exact does_then (does_finish rfl (by decide) (by decide) rfl)
        (fun _ => quiet_setPageClosed _ _ _ _ rest_steady)
    · split
      · refine does_first quiet_clock (fun now => ?_)
        refine does_then (does_finish rfl (by decide) (by decide) rfl) (fun _ => ?_)
        refine does_then (quiet_query _ _ rest_steady) (fun pending => ?_)
        split
        · exact does_stop _ (fun _ _ known => known)
        · exact quiet_setPageIdle _ _ _ _ rest_steady
      · exact does_stop _ (fun _ _ known => known.rest)

theorem does_observe (job : ChatDispatchJob) (page : ChatPage) :
    Does start pid engine (Turn pid job.dispatchId rest) (observe job page)
      (fun _ => Rest pid job.dispatchId rest) :=
  does_first (quiet_ask _ rfl (by simp)) (fun ack => does_settleAck job page ack)

private theorem does_continue {change : JobChange} {new : ChatDispatchState} {next : ChatDispatchJob → Engine β}
    (state : change.state = some new) (unfinished : ¬ new.Terminal) (past : ¬ Presend new)
    (attempts : change.attempts = none)
    (others : ∀ job, job.dispatchId = turn →
      Does start pid engine (Turn pid turn rest) (next job) (fun _ => Rest pid turn rest)) :
    Does start pid engine (Turn pid turn rest) (updateJob turn change >>= next) (fun _ => Rest pid turn rest) := by
  refine does_bind (does_move state unfinished attempts turn_lasts
    (fun _ _ known => ⟨known, fun presend => absurd presend past⟩)) (fun job => ?_) (fun _ => rest_steady)
    (fun _ _ _ held => held.1.rest)
  refine does_given (fun _ _ held => held.2 job rfl) (fun same => ?_)
  exact does_weaken (others job same) (fun _ _ held => held.1) (fun _ _ _ known => known)

theorem quiet_submittedTime (job : ChatDispatchJob) : Quiet start pid engine (submittedTime job) := by
  unfold submittedTime
  split
  · exact quiet_pure _
  · exact quiet_clock

theorem does_discover (job : ChatDispatchJob) (page : ChatPage) :
    Does start pid engine (Turn pid job.dispatchId rest) (discover job page)
      (fun _ => Rest pid job.dispatchId rest) := by
  refine does_first (quiet_ask _ rfl (by simp)) (fun found => ?_)
  dsimp only
  split
  · refine does_first (quiet_bindKey _ _) (fun _ => ?_)
    refine does_first (quiet_setPageUrl _ _) (fun _ => ?_)
    refine does_first (quiet_submittedTime job) (fun submittedAt => ?_)
    refine does_continue rfl (by decide) (by decide) rfl (fun written same => ?_)
    rw [← same]
    exact does_first (quiet_check _) (fun page => does_observe written page)
  · exact does_stop _ (fun _ _ known => known.rest)

theorem does_reconcile (job : ChatDispatchJob) :
    Does start pid engine (Turn pid job.dispatchId rest) (reconcile job) (fun _ => Rest pid job.dispatchId rest) := by
  refine does_first (quiet_pageOf job) (fun found => ?_)
  cases found with
  | none => exact does_stop _ (fun _ _ known => known.rest)
  | some page =>
    dsimp only
    split
    · exact does_observe job page
    · exact does_discover job page

private theorem does_reread :
    Does start pid engine (Ready pid turn rest) (check (getJob turn)) (fun result store log =>
      Ready pid turn rest store log ∧
      ∀ job, result = .ok job → job.dispatchId = turn ∧ log.countP (sends turn) ≤ job.attempts) := by
  refine does_check ready_steady (fun result => ready_steady.and ?_) (fun now orderly ready => ⟨ready, ?_⟩)
  · intro event log before after leads beside known job same
    obtain ⟨named, counted⟩ := known job same
    exact ⟨named, counted_steady event log before after leads beside counted⟩
  · intro job found
    obtain ⟨member, named⟩ := getJob_ok found
    refine ⟨named, orderly.counted turn job.attempts ?_⟩
    rw [attemptsOf, mem_find.mpr ⟨member, named⟩]
    rfl

theorem does_advance (job : ChatDispatchJob) :
    Does start pid engine (Ready pid job.dispatchId rest) (advance engine job)
      (fun _ => Rest pid job.dispatchId rest) := by
  refine does_bind (does_attempt (does_ensurePage job)) (fun outcome => ?_) (fun _ => rest_steady)
    (fun _ _ _ held => absurd held.1 not_raised)
  rcases outcome with exception | found
  · refine does_then (does_weaken (does_finish rfl (by decide) (by decide) rfl) (fun _ _ held => held.2.known)
      (fun _ _ _ known => known)) (fun _ => ?_)
    exact does_stop _ (fun _ _ known => known)
  · cases found with
    | none => exact does_stop _ (fun _ _ held => held.2.known.rest)
    | some page =>
      refine does_bind (does_weaken does_reread (fun _ _ held => held.2) (fun _ _ _ held => held)) (fun read => ?_)
        (fun _ => rest_steady) (fun _ _ _ held => held.1.known.rest)
      refine does_given (fun _ _ held => (held.2 read rfl).1) (fun same => ?_)
      rw [← same]
      refine does_then (does_weaken (does_submit read page) (fun _ _ held => ⟨held.1, (held.2 read rfl).2⟩)
        (fun _ _ _ known => known)) (fun _ => ?_)
      exact does_stop _ (fun _ _ known => known)

theorem does_resume (job : ChatDispatchJob) :
    Does start pid engine (Turn pid job.dispatchId rest) (ChatDispatch.resume job)
      (fun _ => Rest pid job.dispatchId rest) := by
  refine does_continue rfl (by decide) (by decide) rfl (fun _ _ => ?_)
  have read : Does start pid engine (Turn pid job.dispatchId rest) (check (getJob job.dispatchId))
      (fun result store log => Turn pid job.dispatchId rest store log ∧
        ∀ row, result = .ok row → row.dispatchId = job.dispatchId) :=
    does_check turn_steady (fun _ => turn_steady.and steady_const)
      (fun _ _ known => ⟨known, fun _ found => (getJob_ok found).2⟩)
  refine does_bind read (fun row => ?_) (fun _ => rest_steady) (fun _ _ _ held => held.1.rest)
  refine does_given (fun _ _ held => held.2 row rfl) (fun same => ?_)
  rw [← same]
  refine does_then (does_weaken (does_reconcile row) (fun _ _ held => held.1) (fun _ _ _ known => known)) (fun _ => ?_)
  exact does_stop _ (fun _ _ known => known)

theorem does_follow (job : ChatDispatchJob) :
    Does start pid engine (Turn pid job.dispatchId rest) (follow job) (fun _ => Rest pid job.dispatchId rest) := by
  refine does_then (does_reconcile job) (fun _ => ?_)
  refine does_then (quiet_check _ _ rest_steady) (fun _ => ?_)
  exact does_stop _ (fun _ _ known => known)

theorem does_retry (job : ChatDispatchJob) :
    Does start pid engine (Ready pid job.dispatchId rest) (retry engine job) (fun _ => Rest pid job.dispatchId rest) := by
  refine does_after quiet_clock ready_steady (fun now => ?_) (fun _ => rest_steady) (fun _ _ _ known => known.known.rest)
  split
  · exact does_stop _ (fun _ _ known => known.known.rest)
  · exact does_advance job

end Following

section Loop

/-- What the engine knows when the turn of a job begins. -/
structure Begins (pid : Nat) (job : ChatDispatchJob) (rest : List ChatDispatchJob) (store : ChatStore)
    (log : List ChatEvent) : Prop where
  known : Turn pid job.dispatchId rest store log
  excused : Presend job.state → Excused job.dispatchId log
  keyed : Keyed job store

private theorem begins_steady {job : ChatDispatchJob} : Steady pid (Begins pid job rest) := by
  intro event log before after leads beside known
  exact ⟨turn_steady event log before after leads beside known.known,
    excused_steady event log before after leads beside known.excused,
    keyed_steady event log before after leads beside known.keyed⟩

private theorem does_olderCheck (job : ChatDispatchJob) :
    Does start pid engine (Begins pid job rest) (query (hasOlderUnfinished job)) (fun result store log =>
      (Turn pid job.dispatchId rest store log ∧ (result = .ok false → Clear job.dispatchId store)) ∧
      (Presend job.state → Excused job.dispatchId log)) := by
  refine does_check begins_steady (fun result => clear_steady.and excused_steady) (fun now orderly begins => ?_)
  refine ⟨⟨begins.known, fun none => ?_⟩, begins.excused⟩
  exact fun first state ordered stored => older_finished begins.keyed (Except.ok.inj none) ordered stored

private theorem presend_of {state : ChatDispatchState} (unfinished : ¬ state.Terminal) (fresh : state ≠ .submitting)
    (sent : ¬ (state = .submitted ∨ state = .reconcileRequired)) : Presend state := by
  revert unfinished fresh sent
  cases state <;> decide

theorem does_runJob (job : ChatDispatchJob) (unfinished : ¬ job.state.Terminal) :
    Does start pid engine (Begins pid job rest) (runJob engine job) (fun _ => Rest pid job.dispatchId rest) := by
  refine does_bind (does_olderCheck job) (fun older => ?_) (fun _ => rest_steady) (fun _ _ _ held => held.1.1.rest)
  cases older with
  | true => exact does_stop _ (fun _ _ held => held.1.1.rest)
  | false =>
    have ready (presend : Presend job.state) (store : ChatStore) (log : List ChatEvent)
        (held : (Turn pid job.dispatchId rest store log ∧
          (Except.ok (ε := Raised) false = .ok false → Clear job.dispatchId store)) ∧
          (Presend job.state → Excused job.dispatchId log)) : Ready pid job.dispatchId rest store log :=
      ⟨held.1.1, held.2 presend, held.1.2 rfl⟩
    split
    next impossible => cases impossible
    next =>
      split
      next => exact does_weaken (does_resume job) (fun _ _ held => held.1.1) (fun _ _ _ known => known)
      next fresh =>
        split
        next => exact does_weaken (does_follow job) (fun _ _ held => held.1.1) (fun _ _ _ known => known)
        next sent =>
          have presend : Presend job.state := presend_of unfinished fresh sent
          split
          next => exact does_weaken (does_retry job) (ready presend) (fun _ _ _ known => known)
          next => exact does_weaken (does_advance job) (ready presend) (fun _ _ _ known => known)

theorem does_handleJob (job : ChatDispatchJob) :
    Does start pid engine (Begins pid job rest) (handleJob engine job) (fun _ => Rest pid job.dispatchId rest) := by
  unfold handleJob
  split
  next => exact does_stop _ (fun _ _ begins => begins.known.rest)
  next unfinished => exact does_runJob job unfinished

theorem Pending.begins {job : ChatDispatchJob} {jobs : List ChatDispatchJob} {store : ChatStore} {log : List ChatEvent}
    (pending : Pending pid (job :: jobs) store log) : Begins pid job jobs store log := by
  obtain ⟨live, unpassed, excused, keyed⟩ := pending.awaiting job (List.mem_cons_self ..)
  refine ⟨⟨⟨pending.order, fun other member => ?_⟩, live, unpassed⟩, excused, keyed⟩
  exact pending.awaiting other (List.mem_cons_of_mem _ member)

theorem Rest.pending {store : ChatStore} {log : List ChatEvent} (jobs : Rest pid turn rest store log) :
    Pending pid rest store log :=
  ⟨(List.sublist_cons_self ..).trans jobs.order, jobs.awaiting⟩

theorem does_runJobs (jobs : List ChatDispatchJob) :
    Does start pid engine (Pending pid jobs) (runJobs engine jobs) (fun _ _ _ => True) := by
  induction jobs with
  | nil => exact does_pure steady_const (fun _ _ _ => trivial)
  | cons job jobs ih =>
    refine does_bind (does_weaken (does_handleJob job) (fun _ _ pending => pending.begins) (fun _ _ _ known => known))
      (fun first => ?_) (fun _ => steady_const) (fun _ _ _ _ => trivial)
    refine does_bind (does_weaken ih (fun _ _ jobs => jobs.pending) (fun _ _ _ known => known)) (fun others => ?_)
      (fun _ => steady_const) (fun _ _ _ _ => trivial)
    exact does_pure steady_const (fun _ _ _ => trivial)

end Loop

section Closing

/-- The owned ones among the pages have been opened. -/
def OwnedOpened (fresh : Prop) (pages : List ChatPage) (log : List ChatEvent) : Prop :=
  ∀ page ∈ pages, page.owned = true → fresh → Opened (ChatPage.window page) log

private theorem owned_steady {fresh : Prop} {pages : List ChatPage} :
    Steady pid (fun _ log => OwnedOpened fresh pages log) :=
  fun _ _ _ _ _ _ opened page member owned given => (opened page member owned given).cons

private theorem does_closePage (page : ChatPage) (steady : Steady pid knows)
    (opened : ∀ store log, knows store log → start.pages.rows = [] → Opened (ChatPage.window page) log) :
    Does start pid engine knows (closePage page) (fun _ => knows) := by
  have asked : Does start pid engine knows (ask (.closePage page) id) (fun _ => knows) := by
    refine Contract.Triple.ask steady.stable steady.stable (fun _ => steady.stable) ?_ ?_
    · intro now orderly known
      refine ⟨⟨orderly.issue rfl ?_, trivial⟩, ?_⟩
      · rintro other ⟨⟩ fresh
        exact opened _ _ known fresh
      · exact steady _ _ _ _ ⟨rfl, rfl⟩ (fun _ => ⟨rfl, trivial, trivial⟩) known
    · intro now answer orderly known
      exact ⟨⟨orderly.answer _ answer, trivial⟩, steady _ _ _ _ rfl beside_answer known⟩
  refine does_bind asked (fun result => ?_) (fun _ => steady) (fun _ _ _ known => known)
  split
  · exact quiet_setPageClosed _ _ _ _ steady
  · exact quiet_setPageClosed _ _ _ _ steady

theorem does_closeIdlePage (now : Time) {page : ChatPage} {pages : List ChatPage} (member : page ∈ pages) :
    Does start pid engine (fun _ log => OwnedOpened (start.pages.rows = []) pages log)
      (closeIdlePage engine now page) (fun _ _ log => OwnedOpened (start.pages.rows = []) pages log) := by
  unfold closeIdlePage
  split
  next => exact does_pure owned_steady (fun _ _ known => known)
  next owned =>
    refine does_bind (quiet_query _ _ owned_steady) (fun pending => ?_) (fun _ => owned_steady) (fun _ _ _ known => known)
    split
    · exact does_pure owned_steady (fun _ _ known => known)
    · split
      · exact quiet_setPageIdle _ _ _ _ owned_steady
      · split
        · exact does_pure owned_steady (fun _ _ known => known)
        · exact does_closePage page owned_steady (fun _ _ known => known page member (by simpa using owned))

theorem does_closePages (now : Time) (all : List ChatPage) (pages : List ChatPage) (inside : ∀ page ∈ pages, page ∈ all) :
    Does start pid engine (fun _ log => OwnedOpened (start.pages.rows = []) all log)
      (closePages engine now pages) (fun _ _ log => OwnedOpened (start.pages.rows = []) all log) := by
  induction pages with
  | nil => exact does_pure owned_steady (fun _ _ known => known)
  | cons page pages ih =>
    refine does_bind (does_closeIdlePage now (inside page (List.mem_cons_self ..))) (fun _ => ?_) (fun _ => owned_steady)
      (fun _ _ _ known => known)
    exact ih (fun other member => inside other (List.mem_cons_of_mem _ member))

private theorem mem_listPages {store : ChatStore} {page : ChatPage} (listed : page ∈ listPages store) :
    page ∈ store.pages := by
  unfold listPages byLastUse at listed
  exact List.mem_of_mem_filter ((List.perm_insertionSort _ _).mem_iff.mp listed)

theorem does_closeIdlePages :
    Does start pid engine (fun _ _ => True) (closeIdlePages engine) (fun _ _ _ => True) := by
  refine does_after quiet_clock steady_const (fun now => ?_) (fun _ => steady_const) (fun _ _ _ _ => trivial)
  have listed : Does start pid engine (fun _ _ => True) (query listPages) (fun result _ log =>
      ∀ pages, result = .ok pages → OwnedOpened (start.pages.rows = []) pages log) := by
    refine does_check steady_const (fun result => ?_) (fun now orderly _ => ?_)
    · exact fun event log before after leads beside known pages same =>
        owned_steady event log before after leads beside (known pages same)
    · rintro pages ⟨⟩ page member owned fresh
      exact (orderly.paged fresh page (mem_listPages member)).2 owned
  refine does_bind listed (fun pages => ?_) (fun _ => steady_const) (fun _ _ _ _ => trivial)
  exact does_weaken (does_closePages now pages pages (fun _ member => member)) (fun _ _ known => known pages rfl)
    (fun _ _ _ _ => trivial)

end Closing

private theorem Orderly.eligible {now : ChatShared} (orderly : Orderly start now) (time : Time) (limit : Nat) :
    Pending pid (eligibleJobs time limit now.store) now.store (.committed pid now.store now.store :: now.log) := by
  constructor
  · exact ((List.take_sublist _ _).trans List.filter_sublist).map _
  · intro job listed
    obtain ⟨member, eligible⟩ := List.mem_filter.mp (List.mem_of_mem_take listed)
    have eligibleState : job.state.Eligible := by
      simp only [decide_eq_true_eq] at eligible
      exact eligible.1
    have unfinished : ¬ job.state.Terminal := by
      revert eligibleState
      cases job.state <;> decide
    have stored := @stateOf_job now.store job member
    refine ⟨⟨⟨_, _, List.mem_cons_self ..⟩, job.state, stored, fun terminal => absurd terminal unfinished⟩, ?_, ?_, ?_⟩
    · intro second sent
      have earlier : Sent second now.log := (sent_cons.mp sent).resolve_left (by simp [sends])
      exact ⟨orderly.stored second earlier, fun ordered => unfinished (orderly.fifo _ second _ ordered earlier stored)⟩
    · exact fun presend => (orderly.excused _ _ stored presend).cons rfl
    · exact ⟨job, member, rfl, rfl⟩

private theorem does_eligible (time : Time) (limit : Nat) :
    Does start pid engine (fun _ _ => True) (query (eligibleJobs time limit)) (fun result store log =>
      ∀ jobs, result = .ok jobs → Pending pid jobs store log) := by
  have lasting (result : Except Raised (List ChatDispatchJob)) :
      Steady pid (fun store log => ∀ jobs, result = .ok jobs → Pending pid jobs store log) :=
    fun event log before after leads beside known jobs same =>
      pending_steady event log before after leads beside (known jobs same)
  refine Contract.Triple.check (fun _ _ _ _ _ held => held) (fun result => (lasting result).stable) ?_
  intro now orderly _
  refine ⟨⟨orderly.read, trivial⟩, ?_⟩
  rintro jobs ⟨⟩
  exact orderly.eligible time limit

theorem does_runOnce : Does start pid engine (fun _ _ => True) (runOnce engine) (fun _ _ _ => True) := by
  have done {γ β : Type} {program : Engine γ} {next : γ → Engine β} {knows : Knowledge}
      (first : Does start pid engine knows program (fun _ _ _ => True))
      (others : ∀ value, Does start pid engine (fun _ _ => True) (next value) (fun _ _ _ => True)) :
      Does start pid engine knows (program >>= next) (fun _ _ _ => True) :=
    does_bind first others (fun _ => steady_const) (fun _ _ _ _ => trivial)
  refine done (quiet_clock _ steady_const) (fun now => ?_)
  refine does_bind (does_eligible now 200) (fun jobs => ?_) (fun _ => steady_const) (fun _ _ _ _ => trivial)
  refine done (does_weaken (does_runJobs jobs) (fun _ _ known => known jobs rfl) (fun _ _ _ held => held)) (fun progressed => ?_)
  refine done does_closeIdlePages (fun _ => ?_)
  refine done (quiet_query _ _ steady_const) (fun pending => ?_)
  refine done (quiet_query _ _ steady_const) (fun ownedOpen => ?_)
  exact does_pure steady_const (fun _ _ _ => trivial)

end WebSupervisor.ChatDispatch.Proofs
