import WebSupervisor.Proofs.ChatOrder

/-! What an engine knows while it works on one job of its list. Other processes
may cancel and enqueue beside it. Its knowledge lasts through their steps and
through those of its own that leave the rest of the list alone. -/

namespace WebSupervisor.ChatDispatch.Proofs
open Library

/-- The event leaves the state of the job, unless another process cancels it. -/
def Spares (pid : Nat) (dispatchId : String) : ChatEvent → Prop
  | .committed other before after => ∀ state, stateOf before dispatchId = some state →
    stateOf after dispatchId = some state ∨ stateOf after dispatchId = some .cancelled ∧ other ≠ pid
  | _ => True

/-- The event leaves the job as it is or unfinished. -/
def Holds (pid : Nat) (dispatchId : String) : ChatEvent → Prop
  | .committed other before after => ∀ state, stateOf before dispatchId = some state →
    (stateOf after dispatchId = some state ∨ stateOf after dispatchId = some .cancelled ∧ other ≠ pid) ∨
    ∃ new, stateOf after dispatchId = some new ∧ ¬ new.Terminal
  | _ => True

/-- The event sends nothing and leaves all jobs but one alone. -/
def Aside (pid : Nat) (turn : String) : ChatEvent → Prop
  | .committed other before after => QueueChange before after ∧
    ∀ id ≠ turn, Spares pid id (.committed other before after)
  | .issued _ request _ => sentJob request = none
  | _ => True

def Gains (turn : String) : ChatEvent → Prop
  | .committed _ before after => ∀ old, attemptsOf before turn = some old →
    ∃ new, attemptsOf after turn = some new ∧ old ≤ new
  | _ => True

/-- An event in the turn of a job that does not end it. -/
structure Calm (pid : Nat) (turn : String) (event : ChatEvent) : Prop where
  aside : Aside pid turn event
  holds : Holds pid turn event

/-- What other processes do beside an engine. -/
def Beside (pid : Nat) (event : ChatEvent) : Prop := ∀ turn, Aside pid turn event ∧ Spares pid turn event ∧ Gains turn event

def Nearby (pid : Nat) (seen now : ChatShared) : Prop :=
  ∃ newer, now.log = newer ++ seen.log ∧ ∀ event ∈ newer, Beside pid event

abbrev Knowledge := ChatStore → List ChatEvent → Prop

/-- Knowledge that others leave alone. -/
def Steady (pid : Nat) (knows : Knowledge) : Prop :=
  ∀ event log before after, event.Leads before after → Beside pid event → knows before log →
    knows after (event :: log)

/-- Knowledge that lasts through the turn of a job. -/
def Lasts (pid : Nat) (turn : String) (knows : Knowledge) : Prop :=
  ∀ event log before after, event.Leads before after → Calm pid turn event → knows before log →
    knows after (event :: log)

/-- The job has not been finished, unless it was cancelled behind the back of
the process. -/
structure Live (pid : Nat) (dispatchId : String) (store : ChatStore) (log : List ChatEvent) : Prop where
  begun : Begun pid log
  state : ∃ state, stateOf store dispatchId = some state ∧
    (state.Terminal → state = .cancelled ∧ ChangedSince pid dispatchId log)

/-- A job of the list that has not had its turn. -/
structure Awaiting (pid : Nat) (job : ChatDispatchJob) (store : ChatStore) (log : List ChatEvent) : Prop where
  live : Live pid job.dispatchId store log
  unpassed : Unpassed job.dispatchId store log
  excused : Presend job.state → Excused job.dispatchId log
  keyed : Keyed job store

/-- The jobs of the list behind the one whose turn it is. -/
structure Rest (pid : Nat) (turn : String) (rest : List ChatDispatchJob) (store : ChatStore) (log : List ChatEvent) :
    Prop where
  order : (turn :: rest.map (·.dispatchId)).Sublist (store.jobs.rows.map (·.dispatchId))
  awaiting : ∀ job ∈ rest, Awaiting pid job store log

/-- The jobs of the list that have not had their turn. -/
structure Pending (pid : Nat) (jobs : List ChatDispatchJob) (store : ChatStore) (log : List ChatEvent) : Prop where
  order : (jobs.map (·.dispatchId)).Sublist (store.jobs.rows.map (·.dispatchId))
  awaiting : ∀ job ∈ jobs, Awaiting pid job store log

structure Turn (pid : Nat) (turn : String) (rest : List ChatDispatchJob) (store : ChatStore) (log : List ChatEvent) :
    Prop where
  rest : Rest pid turn rest store log
  live : Live pid turn store log
  unpassed : Unpassed turn store log

/-- The job may be sent when its page is there. -/
structure Ready (pid : Nat) (turn : String) (rest : List ChatDispatchJob) (store : ChatStore) (log : List ChatEvent) :
    Prop where
  known : Turn pid turn rest store log
  excused : Excused turn log
  clear : Clear turn store

variable {pid : Nat} {turn dispatchId : String} {event : ChatEvent} {log : List ChatEvent} {before after : ChatStore}

theorem Spares.holds (spares : Spares pid dispatchId event) : Holds pid dispatchId event := by
  cases event with
  | committed other before after => exact fun state stored => Or.inl (spares state stored)
  | issued pid request found => trivial
  | answered pid request answer => trivial
  | returned pid value => trivial

theorem Beside.calm (beside : Beside pid event) (turn : String) : Calm pid turn event := by
  obtain ⟨aside, spares, _⟩ := beside turn
  exact ⟨aside, spares.holds⟩

theorem Aside.quiet (aside : Aside pid turn event) (dispatchId : String) : sends dispatchId event = false := by
  cases event with
  | committed other before after => rfl
  | issued sender request found =>
    simp only [Aside] at aside
    simp [sends, aside]
  | answered sender request answer => rfl
  | returned sender value => rfl

private theorem leads_cases {knows : ChatStore → List ChatEvent → Prop} (leads : event.Leads before after)
    (committed : ∀ other, event = .committed other before after → knows after (event :: log))
    (recorded : before = after → knows before (event :: log)) : knows after (event :: log) := by
  cases event with
  | committed other found left =>
    obtain ⟨rfl, rfl⟩ := leads
    exact committed other rfl
  | issued sender request found =>
    obtain ⟨rfl, rfl⟩ := leads
    exact recorded rfl
  | answered sender request answer =>
    cases leads
    exact recorded rfl
  | returned sender value =>
    cases leads
    exact recorded rfl

theorem Live.step (live : Live pid dispatchId before log) (leads : event.Leads before after)
    (holds : Holds pid dispatchId event) : Live pid dispatchId after (event :: log) := by
  obtain ⟨begun, state, stored, unfinished⟩ := live
  refine @leads_cases event log before after (Live pid dispatchId) leads ?_ ?_
  · rintro other rfl
    refine ⟨begun.cons, ?_⟩
    rcases holds state stored with (same | ⟨cancelled, foreign⟩) | ⟨new, moved, nonterminal⟩
    · exact ⟨state, same, fun terminal => ⟨(unfinished terminal).1, (unfinished terminal).2.cons⟩⟩
    · refine ⟨.cancelled, cancelled, fun _ => ⟨rfl, ?_⟩⟩
      by_cases already : state = .cancelled
      · exact (unfinished (already ▸ by decide)).2.cons
      · exact ⟨[], other, before, after, log, rfl, foreign, ⟨state, _, stored, cancelled, already⟩, begun⟩
    · exact ⟨new, moved, fun terminal => absurd terminal nonterminal⟩
  · intro _
    exact ⟨begun.cons, state, stored, fun terminal => ⟨(unfinished terminal).1, (unfinished terminal).2.cons⟩⟩

theorem Unpassed.step (unpassed : Unpassed dispatchId before log) (leads : event.Leads before after)
    (aside : Aside pid turn event) : Unpassed dispatchId after (event :: log) := by
  refine @leads_cases event log before after (Unpassed dispatchId) leads ?_ (fun _ => unpassed.cons aside.quiet)
  rintro other rfl
  obtain ⟨change, _⟩ := aside
  intro second sent
  obtain ⟨stored, behind⟩ := unpassed second ((sent_cons.mp sent).resolve_left (by simp [sends]))
  refine ⟨change.isSome stored, fun ordered => ?_⟩
  rcases change.precedes_back ordered with old | missing
  · exact behind old
  · rw [missing] at stored
    cases stored

theorem precedes_ne {store : ChatStore} {first second : String} (ordered : Precedes store first second) :
    first ≠ second := by
  rintro rfl
  obtain ⟨one, two, sub, sameOne, sameTwo, _⟩ := id ordered
  refine precedes_asymm sub ?_
  rw [sameOne, sameTwo]
  exact ordered

theorem Clear.step (clear : Clear turn before) (stored : (stateOf before turn).isSome) (leads : event.Leads before after)
    (aside : Aside pid turn event) : Clear turn after := by
  refine @leads_cases event [] before after (fun store _ => Clear turn store) leads ?_ (fun same => same ▸ clear)
  rintro other rfl
  obtain ⟨change, spares⟩ := aside
  intro first state ordered found
  have old : Precedes before first turn := by
    refine (change.precedes_back ordered).resolve_right (fun missing => ?_)
    rw [missing] at stored
    cases stored
  obtain ⟨earlier, held⟩ := old.stored
  rcases spares first (precedes_ne old) earlier held with same | ⟨cancelled, _⟩
  · rw [same, Option.some.injEq] at found
    exact found ▸ clear first earlier old held
  · rw [cancelled, Option.some.injEq] at found
    exact found ▸ by decide

theorem Keyed.step {job : ChatDispatchJob} (keyed : Keyed job before) (leads : event.Leads before after)
    (aside : Aside pid turn event) : Keyed job after := by
  refine @leads_cases event [] before after (fun store _ => Keyed job store) leads ?_ (fun _ => keyed)
  rintro other rfl
  exact aside.1.keyed keyed

theorem Rest.ne {rest : List ChatDispatchJob} {store : ChatStore} (jobs : Rest pid turn rest store log)
    {job : ChatDispatchJob} (member : job ∈ rest) : job.dispatchId ≠ turn := by
  intro same
  have distinct := jobs.order.nodup store.jobs.distinct
  exact (List.nodup_cons.mp distinct).1 (same ▸ List.mem_map.mpr ⟨job, member, rfl⟩)

theorem Awaiting.step {job : ChatDispatchJob} (awaiting : Awaiting pid job before log) (leads : event.Leads before after)
    (aside : Aside pid turn event) (spares : Spares pid job.dispatchId event) :
    Awaiting pid job after (event :: log) := by
  obtain ⟨live, unpassed, excused, keyed⟩ := awaiting
  exact ⟨live.step leads spares.holds, unpassed.step leads aside,
    fun presend => (excused presend).cons (aside.quiet _), keyed.step leads aside⟩

private theorem order_step {ids : List String} (order : ids.Sublist (before.jobs.rows.map (·.dispatchId)))
    (leads : event.Leads before after) (aside : Aside pid turn event) :
    ids.Sublist (after.jobs.rows.map (·.dispatchId)) := by
  refine @leads_cases event [] before after (fun store _ => ids.Sublist (store.jobs.rows.map (·.dispatchId))) leads ?_
    (fun _ => order)
  rintro other rfl
  exact order.trans aside.1.ids.sublist

theorem Rest.step {rest : List ChatDispatchJob} (jobs : Rest pid turn rest before log) (leads : event.Leads before after)
    (aside : Aside pid turn event) : Rest pid turn rest after (event :: log) := by
  refine ⟨order_step jobs.order leads aside, fun job member => (jobs.awaiting job member).step leads aside ?_⟩
  cases event with
  | committed other found left => exact aside.2 _ (jobs.ne member)
  | issued sender request found => trivial
  | answered sender request answer => trivial
  | returned sender value => trivial

section Lasting
variable {rest : List ChatDispatchJob} {knows : Knowledge}

theorem Lasts.steady (lasts : Lasts pid turn knows) : Steady pid knows :=
  fun event log before after leads beside known => lasts event log before after leads (beside.calm turn) known

theorem rest_lasts : Lasts pid turn (Rest pid turn rest) :=
  fun _ _ _ _ leads calm jobs => jobs.step leads calm.aside

theorem turn_lasts : Lasts pid turn (Turn pid turn rest) := by
  intro event log before after leads calm known
  exact ⟨known.rest.step leads calm.aside, known.live.step leads calm.holds, known.unpassed.step leads calm.aside⟩

theorem ready_lasts : Lasts pid turn (Ready pid turn rest) := by
  intro event log before after leads calm ready
  obtain ⟨state, stored, _⟩ := ready.known.live.state
  refine ⟨turn_lasts event log before after leads calm ready.known, ready.excused.cons (calm.aside.quiet turn), ?_⟩
  exact ready.clear.step (by rw [stored]; rfl) leads calm.aside

theorem rest_steady : Steady pid (Rest pid turn rest) := rest_lasts.steady

theorem turn_steady : Steady pid (Turn pid turn rest) := turn_lasts.steady

theorem ready_steady : Steady pid (Ready pid turn rest) := ready_lasts.steady

end Lasting

section Steady
variable {rest : List ChatDispatchJob} {condition : Prop}

theorem Beside.quiet (beside : Beside pid event) (dispatchId : String) : sends dispatchId event = false :=
  (beside dispatchId).1.quiet dispatchId

theorem Steady.and {first second : Knowledge} (one : Steady pid first) (two : Steady pid second) :
    Steady pid (fun store log => first store log ∧ second store log) :=
  fun event log before after leads beside known =>
    ⟨one event log before after leads beside known.1, two event log before after leads beside known.2⟩

theorem steady_const : Steady pid (fun _ _ => condition) := fun _ _ _ _ _ _ held => held

theorem pending_steady {jobs : List ChatDispatchJob} : Steady pid (Pending pid jobs) := by
  intro event log before after leads beside pending
  refine ⟨order_step pending.order leads (beside "").1, fun job member => ?_⟩
  obtain ⟨aside, spares, _⟩ := beside job.dispatchId
  exact (pending.awaiting job member).step leads aside spares

theorem excused_steady : Steady pid (fun _ log => condition → Excused dispatchId log) :=
  fun _ _ _ _ _ beside excused held => (excused held).cons (beside.quiet dispatchId)

theorem keyed_steady {job : ChatDispatchJob} : Steady pid (fun store _ => Keyed job store) :=
  fun _ _ _ _ leads beside keyed => keyed.step leads (beside job.dispatchId).1

/-- The older jobs stay finished while the job has its turn. -/
theorem clear_steady :
    Steady pid (fun store log => Turn pid turn rest store log ∧ (condition → Clear turn store)) := by
  intro event log before after leads beside known
  obtain ⟨held, clear⟩ := known
  obtain ⟨state, stored, _⟩ := held.live.state
  refine ⟨turn_steady event log before after leads beside held, fun given => ?_⟩
  exact (clear given).step (by rw [stored]; rfl) leads (beside turn).1

theorem counted_steady {number : Nat} : Steady pid (fun _ log => log.countP (sends turn) ≤ number) := by
  intro event log before after _ beside counted
  rw [List.countP_cons_of_neg (by simp [beside.quiet turn])]
  exact counted

/-- The row counts one send more than there has been, and does not allow
another. -/
structure Loaded (turn : String) (store : ChatStore) (log : List ChatEvent) : Prop where
  attempts : ∃ attempts, attemptsOf store turn = some attempts ∧ log.countP (sends turn) < attempts
  state : ∃ state, stateOf store turn = some state ∧ ¬ Presend state

theorem loaded_steady : Steady pid (Loaded turn) := by
  intro event log before after leads beside loaded
  refine @leads_cases event log before after (Loaded turn) leads ?_ ?_
  · rintro other rfl
    obtain ⟨⟨attempts, stored, counted⟩, state, found, past⟩ := loaded
    obtain ⟨_, spares, gains⟩ := beside turn
    obtain ⟨new, gained, more⟩ := gains attempts stored
    refine ⟨⟨new, gained, ?_⟩, ?_⟩
    · rw [List.countP_cons_of_neg (by simp [sends])]
      exact Nat.lt_of_lt_of_le counted more
    · rcases spares state found with same | ⟨cancelled, _⟩
      · exact ⟨state, same, past⟩
      · exact ⟨.cancelled, cancelled, by decide⟩
  · intro _
    obtain ⟨⟨attempts, stored, counted⟩, state⟩ := loaded
    refine ⟨⟨attempts, stored, ?_⟩, state⟩
    rw [List.countP_cons_of_neg (by simp [beside.quiet turn])]
    exact counted

/-- The engine has sent the job and awaits the answer. -/
def Sending (pid : Nat) (turn : String) (request : Request) (log : List ChatEvent) : Prop :=
  ∃ newer found older, log = newer ++ .issued pid request found :: older ∧ Excused turn older ∧
    ∀ event ∈ newer, sends turn event = false

theorem sending_steady {request : Request} : Steady pid (fun _ log => Sending pid turn request log) := by
  intro event log before after _ beside sending
  obtain ⟨newer, found, older, rfl, excused, quiet⟩ := sending
  refine ⟨event :: newer, found, older, rfl, excused, ?_⟩
  intro other member
  rcases List.mem_cons.mp member with rfl | old
  · exact beside.quiet turn
  · exact quiet other old

end Steady

section Later
variable {start : ChatStore} {seen now : ChatShared} {knows : Knowledge}

theorem Nearby.refl (pid : Nat) (shared : ChatShared) : Nearby pid shared shared := ⟨[], rfl, by simp⟩

theorem Nearby.trans {first second third : ChatShared} (one : Nearby pid first second) (two : Nearby pid second third) :
    Nearby pid first third := by
  obtain ⟨early, sameEarly, besideEarly⟩ := one
  obtain ⟨late, sameLate, besideLate⟩ := two
  refine ⟨late ++ early, by rw [sameLate, sameEarly, List.append_assoc], fun event member => ?_⟩
  rcases List.mem_append.mp member with new | old
  · exact besideLate event new
  · exact besideEarly event old

/-- Steady knowledge lasts while others are at work. -/
theorem Steady.later (steady : Steady pid knows) (earlier : Orderly start seen) (later : Orderly start now)
    (nearby : Nearby pid seen now) (known : knows seen.store seen.log) : knows now.store now.log := by
  obtain ⟨newer, same, beside⟩ := nearby
  have linked := later.linked
  rw [same] at linked ⊢
  refine earlier.linked.carry linked known (fun event member log before after leads holds => ?_)
  exact steady event log before after leads (beside event member) holds

end Later

section Sends
variable {rest : List ChatDispatchJob} {store : ChatStore} {request : Request}

private theorem sends_other {id : String} (sent : sentJob request = some turn) (different : id ≠ turn) :
    sends id (.issued pid request store : ChatEvent) = false := by
  simp [sends, sent, Ne.symm different]

private theorem Live.issued (live : Live pid dispatchId store log) :
    Live pid dispatchId store (.issued pid request store :: log) :=
  live.step ⟨rfl, rfl⟩ trivial

/-- Jobs behind the one that is sent are not passed by it. -/
theorem Rest.sent (jobs : Rest pid turn rest store log) (live : Live pid turn store log)
    (sent : sentJob request = some turn) : Rest pid turn rest store (.issued pid request store :: log) := by
  refine ⟨jobs.order, fun job member => ?_⟩
  obtain ⟨alive, unpassed, excused, keyed⟩ := jobs.awaiting job member
  refine ⟨alive.issued, fun second issued => ?_,
    fun presend => (excused presend).cons (sends_other sent (jobs.ne member)), keyed⟩
  by_cases same : second = turn
  · subst same
    obtain ⟨state, stored, _⟩ := live.state
    refine ⟨by rw [stored]; rfl, ?_⟩
    have pair : [second, job.dispatchId].Sublist (store.jobs.rows.map (·.dispatchId)) := by
      refine List.Sublist.trans (List.Sublist.cons_cons _ ?_) jobs.order
      exact List.singleton_sublist.mpr (List.mem_map.mpr ⟨job, member, rfl⟩)
    obtain ⟨rows, sub, equal⟩ := List.sublist_map_iff.mp pair
    obtain ⟨one, tail, rfl, rfl, tailEqual⟩ := List.map_eq_cons_iff.mp equal.symm
    obtain ⟨two, none, rfl, named, noneEqual⟩ := List.map_eq_cons_iff.mp tailEqual
    obtain rfl := List.map_eq_nil_iff.mp noneEqual
    rw [← named]
    exact precedes_asymm sub
  · rw [sent_cons, sends_other sent same] at issued
    exact unpassed second (issued.resolve_left (by simp))

theorem Turn.sent (known : Turn pid turn rest store log) (sent : sentJob request = some turn) :
    Turn pid turn rest store (.issued pid request store :: log) := by
  refine ⟨known.rest.sent known.live sent, known.live.issued, fun second issued => ?_⟩
  by_cases same : second = turn
  · subst same
    obtain ⟨state, stored, _⟩ := known.live.state
    exact ⟨by rw [stored]; rfl, fun ordered => precedes_ne ordered rfl⟩
  · rw [sent_cons, sends_other sent same] at issued
    exact known.unpassed second (issued.resolve_left (by simp))

end Sends

end WebSupervisor.ChatDispatch.Proofs
