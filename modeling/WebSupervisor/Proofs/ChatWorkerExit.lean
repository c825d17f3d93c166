import WebSupervisor.Proofs.ChatCalls
import WebSupervisor.Proofs.ChatExit
import WebSupervisor.Proofs.ChatWorkerLease

/-! The wake-up of a worker by a client. A client that finds a live lease starts no worker
and leaves its job to the owner of the lease, which may be past the last look at the queue
that it takes before it leaves. -/

namespace WebSupervisor.ChatWorker.Proofs
open Library ChatDispatch

/-- The client has answered, or is about to answer, that the owner will do its job. -/
def Client.Names (client : Client) (ownerId : String) : Prop :=
  match client.phase with
  | .checking lease => lease.ownerId = ownerId
  | .existing owner => owner = ownerId
  | _ => False

/-- No client was sent away to a worker that then left, with exit code 0, without another
`run_once` after the client's job had been committed. -/
def NoLostWakeUp (room : Room) : Prop :=
  ∀ client ∈ room.clients, ∀ worker ∈ room.workers, ∀ dispatchId,
    client.phase = .existing worker.owner → client.dispatchId = some dispatchId →
      worker.phase = .returned (some 0) → dispatchId ∉ worker.missed

/-- The client was sent away to the worker, which then left without its job. -/
def lostBy (client : Client) (worker : Worker) : Bool :=
  match client.phase, client.dispatchId, worker.phase with
  | .existing owner, some dispatchId, .returned (some 0) => owner == worker.owner && worker.missed.contains dispatchId
  | _, _, _ => false

theorem lostBy_iff {client : Client} {worker : Worker} : lostBy client worker = true ↔
    ∃ dispatchId, client.phase = .existing worker.owner ∧ client.dispatchId = some dispatchId ∧
      worker.phase = .returned (some 0) ∧ dispatchId ∈ worker.missed := by
  unfold lostBy
  split
  next owner dispatchId answered given left => simp [answered, given, left]
  next other =>
    simp only [Bool.false_eq_true, false_iff]
    rintro ⟨dispatchId, answered, given, left, _⟩
    exact other _ _ answered given left

instance (room : Room) : Decidable (NoLostWakeUp room) :=
  decidable_of_iff (∀ client ∈ room.clients, ∀ worker ∈ room.workers, lostBy client worker = false) <| by
    refine forall₄_congr fun client _ worker _ => ?_
    rw [← Bool.not_eq_true, lostBy_iff]
    constructor
    · exact fun none dispatchId answered given left missed => none ⟨dispatchId, answered, given, left, missed⟩
    · exact fun none ⟨dispatchId, answered, given, left, missed⟩ => none dispatchId answered given left missed

/-- A worker that leaves with exit code 0 releases the lease before any job has been
committed that its last `should_exit` has not listed. -/
def timely (room : Room) : Turn → Bool
  | .release index => room.workers[index]?.all (fun worker =>
      match worker.phase with
      | .leaving (some 0) => worker.unseen.isEmpty
      | _ => true)
  | _ => true

def punctual (room : Room) : List Turn → Bool
  | [] => true
  | turn :: rest => timely room turn && punctual (room.step turn) rest

/-- The newest job is queued. -/
def LastQueued (store : ChatStore) : Prop := ∃ job, store.jobs.rows.getLast? = some job ∧ job.state = .queued

/-- What a worker that looks at the queue knows of the jobs that it has missed. -/
def Worker.Attentive (store : ChatStore) (worker : Worker) : Prop :=
  match worker.phase with
  | .engine => worker.missed = []
  | .listing => worker.missed ≠ [] → LastQueued store
  | .counting jobs => (worker.missed ≠ [] → LastQueued store) ∧
      ((∃ id ∈ worker.missed, id ∉ worker.unseen) → ∃ job ∈ jobs, job.state = .queued)
  | .draining | .leaving (some 0) => worker.missed ⊆ worker.unseen
  | _ => True

/-- A worker that has never had the lease, or has released it, is named by nobody, and one
that has left with exit code 0 has missed no job of a client that names it. -/
structure Awake (room : Room) : Prop where
  fenced : Fenced room
  attentive : ∀ worker ∈ room.workers, Worker.Attentive room.store worker
  stored : ∀ client ∈ room.clients, ∀ dispatchId, client.dispatchId = some dispatchId → dispatchId ∈ jobIds room.store
  drawn : ∀ client ∈ room.clients, ∀ ownerId, Client.Names client ownerId → ownerId ∈ room.drawn
  released : ∀ worker ∈ room.workers, (worker.phase = .starting ∨ ∃ code, worker.phase = .returned code) →
    ∀ lease, room.lease = some lease → lease.ownerId ≠ worker.owner
  unnamed : ∀ worker ∈ room.workers, worker.phase = .starting → ∀ client ∈ room.clients, ¬ Client.Names client worker.owner
  done : ∀ worker ∈ room.workers, worker.phase = .returned (some 0) → ∀ client ∈ room.clients, ∀ dispatchId,
    Client.Names client worker.owner → client.dispatchId = some dispatchId → dispatchId ∉ worker.missed

theorem Awake.noLostWakeUp {room : Room} (awake : Awake room) : NoLostWakeUp room := by
  intro client served worker member dispatchId answered given left
  refine awake.done worker member left client served dispatchId ?_ given
  simp [Client.Names, answered]

section Steps
variable {room : Room} {worker next : Worker} {index : Nat} {row : Option ChatLease}

/-- A worker goes on, and the lease is its own or the one that was there. -/
theorem Awake.work (awake : Awake room) (seated : room.workers[index]? = some worker)
    (fenced : Fenced ({ room with lease := row }.setWorker index next)) (owner : next.owner = worker.owner)
    (moved : next.phase ≠ .starting) (attentive : Worker.Attentive room.store next)
    (lease : ∀ lease, row = some lease →
      lease.ownerId = worker.owner ∨ ∃ old, room.lease = some old ∧ old.ownerId = lease.ownerId)
    (gone : ∀ code, next.phase = .returned code → ∀ lease, row = some lease → lease.ownerId ≠ worker.owner)
    (done : next.phase = .returned (some 0) → ∀ client ∈ room.clients, ∀ dispatchId,
      Client.Names client worker.owner → client.dispatchId = some dispatchId → dispatchId ∉ next.missed) :
    Awake ({ room with lease := row }.setWorker index next) := by
  have split {other : Worker} (there : other ∈ room.workers.set index next) := awake.fenced.mem_set seated there
  constructor
  case fenced => exact fenced
  case attentive =>
    intro other there
    rcases split there with rfl | ⟨known, _⟩
    · exact attentive
    · exact awake.attentive other known
  case stored => exact awake.stored
  case drawn => exact awake.drawn
  case released =>
    intro other there ended kept found
    rcases split there with rfl | ⟨known, differ⟩
    · rcases ended with start | ⟨code, left⟩
      · exact absurd start moved
      · rw [owner]
        exact gone code left kept found
    · rcases lease kept found with mine | ⟨old, earlier, same⟩
      · exact fun equal => differ (equal.symm.trans mine)
      · exact same ▸ awake.released other known ended old earlier
  case unnamed =>
    intro other there start
    rcases split there with rfl | ⟨known, _⟩
    · exact absurd start moved
    · exact awake.unnamed other known start
  case done =>
    intro other there left
    rcases split there with rfl | ⟨known, _⟩
    · rw [owner]
      exact done left
    · exact awake.done other known left

/-- A worker goes on and leaves the lease alone. -/
theorem Awake.move (awake : Awake room) (seated : room.workers[index]? = some worker)
    (fenced : Fenced (room.setWorker index next)) (owner : next.owner = worker.owner) (moved : next.phase ≠ .starting)
    (attentive : Worker.Attentive room.store next) (stays : ∀ code, next.phase ≠ .returned code) :
    Awake (room.setWorker index next) :=
  awake.work seated fenced owner moved attentive (fun lease found => Or.inr ⟨lease, found, rfl⟩)
    (fun code left => absurd left (stays code)) (fun left => absurd left (stays _))

theorem mem_listJobs {store : ChatStore} {job : ChatDispatchJob} (last : store.jobs.rows.getLast? = some job) :
    job ∈ listJobs 500 store := by
  have first : store.jobs.rows.reverse.head? = some job := by rw [List.head?_reverse, last]
  unfold listJobs
  cases rows : store.jobs.rows.reverse with
  | nil =>
    rw [rows] at first
    cases first
  | cons head tail =>
    rw [rows] at first
    cases first
    exact List.mem_cons_self

theorem pending_of_last {store : ChatStore} (queued : LastQueued store) : 0 < pendingCount store := by
  obtain ⟨job, last, state⟩ := queued
  exact ChatDispatch.Proofs.pendingCount_pos.mpr ⟨job, List.mem_of_getLast? last, by simp [state, ChatDispatchState.Terminal]⟩

theorem holding_of_queued {now : Time} {job : ChatDispatchJob} (queued : job.state = .queued) : job.Holding now := by
  right
  simp [queued, ChatDispatchState.Terminal]

theorem attentive_exit {worker : Worker} {store : ChatStore} {exits : Bool}
    (caught : exits = true → worker.missed ⊆ worker.unseen) :
    Worker.Attentive store { worker with phase := Room.afterExit exits } := by
  cases exits with
  | true => exact caught rfl
  | false => trivial

theorem Awake.workerStep (awake : Awake room) (seated : room.workers[index]? = some worker) {turn : Turn}
    (punctual : ∀ place, turn = .release place → worker.phase = .leaving (some 0) → worker.unseen = []) :
    Awake (room.workerStep index worker turn) := by
  have member : worker ∈ room.workers := List.mem_of_getElem? seated
  have attentive := awake.attentive worker member
  have fenced := awake.fenced.workerStep seated turn
  revert fenced
  unfold Room.workerStep
  split
  case h_1 _ _ _ now starting =>
    dsimp only
    generalize acquired : acquireLease _ room.pidExists room.lease = answer
    obtain ⟨got, lease⟩ := answer
    intro fenced
    cases got with
    | false =>
      rw [acquireLease_refused acquired] at fenced ⊢
      refine awake.work seated fenced rfl (by simp) trivial (fun lease found => Or.inr ⟨lease, found, rfl⟩) ?_ ?_
      · exact fun _ _ lease found => awake.released worker member (Or.inl starting) lease found
      · exact fun _ client served _ named _ => absurd named (awake.unnamed worker member starting client served)
    | true =>
      obtain ⟨rfl, _⟩ := acquireLease_got acquired
      refine awake.work seated fenced rfl (by simp) trivial ?_ (by simp) (by simp)
      rintro _ ⟨⟩
      exact Or.inl rfl
  case h_2 _ _ _ now looping =>
    dsimp only
    generalize beaten : heartbeatLease worker.owner defaultLeaseTtlS now room.lease = answer
    obtain ⟨kept, lease⟩ := answer
    intro fenced
    cases kept with
    | false =>
      rw [(heartbeatLease_failed beaten).1] at fenced ⊢
      exact awake.move seated fenced rfl (by simp) trivial (by simp)
    | true =>
      obtain ⟨before, after, found, rfl, own, owner, _⟩ := heartbeatLease_kept beaten
      refine awake.work seated fenced rfl (by simp) rfl ?_ (by simp) (by simp)
      rintro _ ⟨⟩
      exact Or.inl (owner.trans own)
  case h_3 _ _ _ store engine =>
    intro fenced
    split at fenced
    next same =>
      rw [if_pos same]
      refine ⟨fenced, fun other there => ?_, fun client served id given => ?_, awake.drawn, awake.released, awake.unnamed, awake.done⟩
      · -- No other worker looks at the queue while this one is in its `run_once`.
        by_cases engaged : Worker.Engaged other
        · obtain ⟨place, at'⟩ := List.mem_iff_getElem?.mp there
          have one := awake.fenced.oneEngaged index place worker other seated at' (by simp [Worker.Engaged, engine]) engaged
          rw [← one, seated] at at'
          cases at'
          simpa [Worker.Attentive, engine] using attentive
        · unfold Worker.Attentive
          unfold Worker.Engaged at engaged
          split <;> simp_all
      · rw [show jobIds store = jobIds room.store from same]
        exact awake.stored client served id given
    next differ =>
      rw [if_neg differ]
      exact awake
  case h_4 _ _ _ engine =>
    intro fenced
    simp only [Worker.Attentive, engine] at attentive
    exact awake.move seated fenced rfl (by simp) (fun some => absurd attentive some) (by simp)
  case h_5 _ _ _ listing =>
    intro fenced
    simp only [Worker.Attentive, listing] at attentive
    refine awake.move seated fenced rfl (by simp) ⟨attentive, ?_⟩ (by simp)
    rintro ⟨id, missed, _⟩
    obtain ⟨job, last, queued⟩ := attentive (List.ne_nil_of_mem missed)
    exact ⟨job, mem_listJobs last, queued⟩
  case h_6 _ _ _ now jobs counting =>
    intro fenced
    simp only [Worker.Attentive, counting] at attentive
    have caught (none : ¬ ∃ id ∈ worker.missed, id ∉ worker.unseen) : worker.missed ⊆ worker.unseen := by
      intro id missed
      by_contra unseen
      exact none ⟨id, missed, unseen⟩
    split at fenced
    next pending =>
      rw [if_pos pending]
      refine awake.move seated fenced rfl ?_ (attentive_exit fun exits => caught fun waiting => ?_) ?_
      · unfold Room.afterExit; split <;> simp
      · obtain ⟨job, listed, queued⟩ := attentive.2 waiting
        have holds : jobs.any (fun job => job.Holding now) = true :=
          List.any_eq_true.mpr ⟨job, listed, decide_eq_true (holding_of_queued queued)⟩
        rw [holds] at exits
        cases exits
      · unfold Room.afterExit; split <;> simp
    next none =>
      rw [if_neg none]
      refine awake.move seated fenced rfl (by simp) (caught ?_) (by simp)
      rintro ⟨id, missed, _⟩
      exact none (pending_of_last (attentive.1 (List.ne_nil_of_mem missed)))
  case h_7 _ _ _ draining =>
    intro fenced
    simp only [Worker.Attentive, draining] at attentive
    refine awake.move seated fenced rfl ?_ (attentive_exit fun _ => attentive) ?_
    all_goals unfold Room.afterExit; split <;> simp
  case h_9 _ _ _ starting =>
    intro fenced
    refine awake.work seated fenced rfl (by simp) trivial (fun lease found => Or.inr ⟨lease, found, rfl⟩) ?_ (by simp)
    exact fun _ _ lease found => awake.released worker member (Or.inl starting) lease found
  case h_16 _ _ place code leaving =>
    intro fenced
    refine awake.work seated fenced rfl (by simp) trivial ?_ ?_ ?_
    · exact fun lease left => Or.inr ⟨lease, (releaseLease_some.mp left).1, rfl⟩
    · exact fun _ _ lease left => (releaseLease_some.mp left).2
    · rintro ⟨⟩ client served id named given missed
      simp only [Worker.Attentive, leaving] at attentive
      have unseen := attentive missed
      rw [punctual place rfl leaving] at unseen
      cases unseen
  case h_17 =>
    intro fenced
    split at fenced
    next running =>
      rw [if_pos running]
      exact awake.move seated fenced rfl (by simp) trivial (by simp)
    next ended =>
      rw [if_neg ended]
      exact awake
  case h_18 => exact fun _ => awake
  all_goals
    intro fenced
    exact awake.move seated fenced rfl (by simp) trivial (by simp)

/-- A client goes on and names nobody new. -/
theorem Awake.client (awake : Awake room) {client : Client} (fenced : Fenced (room.setClient index client))
    (stored : ∀ dispatchId, client.dispatchId = some dispatchId → dispatchId ∈ jobIds room.store)
    (named : ∀ ownerId, Client.Names client ownerId → ownerId ∈ room.drawn ∧
      (∀ worker ∈ room.workers, worker.owner = ownerId → worker.phase ≠ .starting) ∧
      ∀ worker ∈ room.workers, worker.owner = ownerId → worker.phase = .returned (some 0) →
        ∀ dispatchId, client.dispatchId = some dispatchId → dispatchId ∉ worker.missed) :
    Awake (room.setClient index client) := by
  constructor
  case fenced => exact fenced
  case attentive => exact awake.attentive
  case stored =>
    intro other served
    rcases List.mem_or_eq_of_mem_set served with there | rfl
    · exact awake.stored other there
    · exact stored
  case drawn =>
    intro other served ownerId names
    rcases List.mem_or_eq_of_mem_set served with there | rfl
    · exact awake.drawn other there ownerId names
    · exact (named ownerId names).1
  case released => exact awake.released
  case unnamed =>
    intro worker member start other served names
    rcases List.mem_or_eq_of_mem_set served with there | rfl
    · exact awake.unnamed worker member start other there names
    · exact (named _ names).2.1 worker member rfl start
  case done =>
    intro worker member left other served dispatchId names given
    rcases List.mem_or_eq_of_mem_set served with there | rfl
    · exact awake.done worker member left other there dispatchId names given
    · exact (named _ names).2.2 worker member rfl left dispatchId given

theorem Awake.clearLease (awake : Awake room) {ownerId : String} (fenced : Fenced { room with lease := releaseLease ownerId room.lease }) :
    Awake { room with lease := releaseLease ownerId room.lease } :=
  ⟨fenced, awake.attentive, awake.stored, awake.drawn,
    fun worker member ended lease left => awake.released worker member ended lease (releaseLease_some.mp left).1,
    awake.unnamed, awake.done⟩

theorem attentive_commit {store after : ChatStore} {worker : Worker} {dispatchId : String}
    (attentive : Worker.Attentive store worker) (newest : LastQueued after) :
    Worker.Attentive after (match worker.phase with
      | .engine => worker
      | _ => { worker with missed := dispatchId :: worker.missed, unseen := dispatchId :: worker.unseen }) := by
  have grows (caught : worker.missed ⊆ worker.unseen) : dispatchId :: worker.missed ⊆ dispatchId :: worker.unseen :=
    List.cons_subset_cons dispatchId caught
  cases phase : worker.phase with
  | engine =>
    simp only [Worker.Attentive, phase] at attentive ⊢
    exact attentive
  | counting jobs =>
    simp only [Worker.Attentive, phase] at attentive ⊢
    refine ⟨fun _ => newest, ?_⟩
    rintro ⟨id, missed, unseen⟩
    rw [List.mem_cons, not_or] at unseen
    exact attentive.2 ⟨id, (List.mem_cons.mp missed).resolve_left unseen.1, unseen.2⟩
  | listing =>
    simp only [Worker.Attentive]
    exact fun _ => newest
  | draining =>
    simp only [Worker.Attentive, phase] at attentive ⊢
    exact grows attentive
  | leaving code =>
    simp only [Worker.Attentive, phase] at attentive ⊢
    split at attentive
    all_goals simp_all
  | _ => trivial

/-- A job is committed that no client had before. -/
theorem Awake.commit (awake : Awake room) {store : ChatStore} {dispatchId : String} (newest : LastQueued store)
    (ids : jobIds store = jobIds room.store ++ [dispatchId]) (fresh : dispatchId ∉ jobIds room.store) :
    Awake ({ room with store }.commit dispatchId) := by
  have apart {client : Client} (served : client ∈ room.clients) {id : String} (given : client.dispatchId = some id) :
      id ≠ dispatchId := fun same => fresh (same ▸ awake.stored client served id given)
  have back {other : Worker} (there : other ∈ ({ room with store }.commit dispatchId).workers) :
      ∃ worker ∈ room.workers, other.owner = worker.owner ∧ other.phase = worker.phase ∧
        (∀ id ∈ other.missed, id = dispatchId ∨ id ∈ worker.missed) := by
    obtain ⟨worker, member, rfl⟩ := List.mem_map.mp there
    refine ⟨worker, member, ?_⟩
    split
    next => exact ⟨rfl, rfl, fun id missed => Or.inr missed⟩
    next => exact ⟨rfl, rfl, fun id missed => List.mem_cons.mp missed⟩
  constructor
  case fenced => exact (awake.fenced.withStore store).commit dispatchId
  case attentive =>
    intro other there
    obtain ⟨worker, member, rfl⟩ := List.mem_map.mp there
    exact attentive_commit (awake.attentive worker member) newest
  case stored =>
    intro client served id given
    change id ∈ jobIds store
    rw [ids]
    exact List.mem_append_left _ (awake.stored client served id given)
  case drawn => exact awake.drawn
  case released =>
    intro other there ended
    obtain ⟨worker, member, owner, phase, _⟩ := back there
    rw [owner]
    exact awake.released worker member (phase ▸ ended)
  case unnamed =>
    intro other there start
    obtain ⟨worker, member, owner, phase, _⟩ := back there
    rw [owner]
    exact awake.unnamed worker member (phase ▸ start)
  case done =>
    intro other there left client served id names given missed
    obtain ⟨worker, member, owner, phase, grew⟩ := back there
    rw [owner] at names
    rcases grew id missed with new | old
    · exact apart served given new
    · exact awake.done worker member (phase ▸ left) client served id names given old

theorem Awake.clientStep (awake : Awake room) {client : Client} (seated : room.clients[index]? = some client)
    (turn : Turn) : Awake (room.clientStep index client turn) := by
  have served : client ∈ room.clients := List.mem_of_getElem? seated
  have fenced := awake.fenced.clientStep seated turn
  revert fenced
  unfold Room.clientStep
  split
  case h_1 _ _ _ request enqueueing =>
    cases enqueued : enqueueTransaction request room.store with
    | error raised => exact fun fenced => awake.client fenced (awake.stored client served) nofun
    | ok pair =>
      obtain ⟨answer, store⟩ := pair
      rcases ChatDispatch.Proofs.enqueueTransaction_ok enqueued with ⟨job, member, rfl, rfl⟩ | ⟨job, rfl, queued, inserted, _⟩
      · intro fenced
        refine awake.client fenced ?_ nofun
        rintro _ ⟨⟩
        exact List.mem_map_of_mem member
      · intro fenced
        obtain ⟨new, rows⟩ := Table.insert?_some.mp inserted
        have ids : jobIds store = jobIds room.store ++ [job.dispatchId] := by
          unfold jobIds
          rw [rows, List.map_append, List.map_singleton]
        have fresh : job.dispatchId ∉ jobIds room.store := by
          intro known
          obtain ⟨old, there, same⟩ := List.mem_map.mp known
          exact new old there same
        have newest : LastQueued store := ⟨job, by rw [rows, List.getLast?_concat], queued⟩
        refine (awake.commit newest ids fresh).client fenced ?_ nofun
        rintro _ ⟨⟩
        change job.dispatchId ∈ jobIds store
        rw [ids]
        exact List.mem_append_right _ (List.mem_singleton_self _)
  case h_2 _ _ _ reading =>
    intro fenced
    refine awake.client fenced (awake.stored client served) fun ownerId names => ?_
    cases found : room.lease with
    | none =>
      rw [found] at names
      cases names
    | some lease =>
      rw [found] at names
      obtain rfl : lease.ownerId = ownerId := names
      refine ⟨(awake.fenced.lease lease found).1, fun worker member own start => ?_, fun worker member own left => ?_⟩
      · exact absurd own.symm (awake.released worker member (Or.inl start) lease found)
      · exact absurd own.symm (awake.released worker member (Or.inr ⟨_, left⟩) lease found)
  case h_3 _ _ _ lease checking =>
    intro fenced
    refine awake.client fenced (awake.stored client served) fun ownerId names => ?_
    have before : Client.Names client lease.ownerId := by simp [Client.Names, checking]
    split at names
    next =>
      obtain rfl : lease.ownerId = ownerId := names
      refine ⟨awake.drawn client served _ before, fun worker member own start => ?_, fun worker member own left id given => ?_⟩
      · exact awake.unnamed worker member start client served (own ▸ before)
      · exact awake.done worker member left client served id (own ▸ before) given
    next => cases names
  case h_4 _ _ _ ownerId clearing =>
    intro fenced
    have sound := awake.fenced.clients client served
    rw [clearing] at sound
    exact (awake.clearLease (awake.fenced.clear sound.2)).client fenced (awake.stored client served) nofun
  case h_5 => exact fun fenced => awake.client fenced (awake.stored client served) nofun
  case h_6 => exact fun _ => awake

theorem Awake.startStep (awake : Awake room) (owner : String) (pid maxWindows : Int) (idleCloseS : Time) :
    Awake (room.startStep owner pid maxWindows idleCloseS) := by
  have fenced := awake.fenced.startStep owner pid maxWindows idleCloseS
  revert fenced
  unfold Room.startStep
  split
  next => exact fun _ => awake
  next fresh =>
    intro fenced
    obtain ⟨new, _⟩ := not_or.mp fresh
    obtain ⟨added, addedEq⟩ : ∃ added : Worker, added =
      { owner, pid, maxWindows, idleCloseS, missed := jobIds room.store } := ⟨_, rfl⟩
    have token : added.owner = owner := by rw [addedEq]
    have start : added.phase = .starting := by rw [addedEq]
    rw [← addedEq] at fenced ⊢
    have either {worker : Worker} (member : worker ∈ room.workers ++ [added]) : worker ∈ room.workers ∨ worker = added := by
      rw [List.mem_append, List.mem_singleton] at member
      exact member
    constructor
    case fenced => exact fenced
    case attentive =>
      intro worker member
      rcases either member with there | rfl
      · exact awake.attentive worker there
      · simp [Worker.Attentive, start]
    case stored => exact awake.stored
    case drawn => exact fun client served ownerId names => List.mem_cons_of_mem _ (awake.drawn client served ownerId names)
    case released =>
      intro worker member ended lease found
      rcases either member with there | rfl
      · exact awake.released worker there ended lease found
      · rw [token]
        exact fun same => new (same ▸ (awake.fenced.lease lease found).1)
    case unnamed =>
      intro worker member first client served names
      rcases either member with there | rfl
      · exact awake.unnamed worker there first client served names
      · rw [token] at names
        exact new (awake.drawn client served owner names)
    case done =>
      intro worker member left
      rcases either member with there | rfl
      · exact awake.done worker there left
      · rw [start] at left
        cases left

theorem Awake.step (awake : Awake room) {turn : Turn} (punctual : timely room turn = true) : Awake (room.step turn) := by
  have work (index : Nat) (names : ∀ place, turn = .release place → place = index) :
      Awake (room.workers[index]?.elim room (fun worker => room.workerStep index worker turn)) := by
    cases seated : room.workers[index]? with
    | none => exact awake
    | some worker =>
      refine awake.workerStep seated ?_
      rintro place rfl leaving
      obtain rfl := names place rfl
      simpa [timely, seated, leaving] using punctual
  have serve (index : Nat) : Awake (room.clients[index]?.elim room (fun client => room.clientStep index client turn)) := by
    cases seated : room.clients[index]? with
    | none => exact awake
    | some client => exact awake.clientStep seated turn
  cases turn with
  | others pids =>
    have fenced := awake.fenced.step (.others pids)
    exact ⟨fenced, awake.attentive, awake.stored, awake.drawn, awake.released, awake.unnamed, awake.done⟩
  | start owner pid maxWindows idleCloseS => exact awake.startStep owner pid maxWindows idleCloseS
  | arrive request =>
    have fenced := awake.fenced.step (.arrive request)
    have either {client : Client} (member : client ∈ (room.step (.arrive request)).clients) :
        client ∈ room.clients ∨ (∀ ownerId, ¬ Client.Names client ownerId) ∧ client.dispatchId = none := by
      rcases List.mem_append.mp member with there | new
      · exact Or.inl there
      · cases List.mem_singleton.mp new
        refine Or.inr ⟨fun _ names => ?_, rfl⟩
        cases request <;> cases names
    constructor
    case fenced => exact fenced
    case attentive => exact awake.attentive
    case stored =>
      intro client member id given
      rcases either member with there | ⟨_, nothing⟩
      · exact awake.stored client there id given
      · rw [nothing] at given
        cases given
    case drawn =>
      intro client member ownerId names
      rcases either member with there | ⟨nobody, _⟩
      · exact awake.drawn client there ownerId names
      · exact absurd names (nobody ownerId)
    case released => exact awake.released
    case unnamed =>
      intro worker seated start client member names
      rcases either member with there | ⟨nobody, _⟩
      · exact awake.unnamed worker seated start client there names
      · exact nobody _ names
    case done =>
      intro worker seated left client member id names given
      rcases either member with there | ⟨_, nothing⟩
      · exact awake.done worker seated left client there id names given
      · rw [nothing] at given
        cases given
  | enqueue client => exact serve client
  | readLease client => exact serve client
  | checkLease client => exact serve client
  | clearLease client => exact serve client
  | launch client => exact serve client
  | release index => exact work index (by rintro _ ⟨⟩; rfl)
  | _ index => exact work index nofun

theorem awake_opened (store : ChatStore) (lease : Option ChatLease) : Awake (Room.opened store lease) :=
  ⟨fenced_opened store lease, nofun, nofun, nofun, nofun, nofun, nofun⟩

theorem Awake.run {turns : List Turn} (awake : Awake room) (timed : punctual room turns = true) :
    Awake (run Room.step room turns) := by
  induction turns generalizing room with
  | nil => exact awake
  | cons turn rest ih =>
    rw [punctual, Bool.and_eq_true] at timed
    exact ih (awake.step timed.1) timed.2

end Steps

/-- No wake-up is lost in a run whose workers leave before another job is committed. -/
theorem no_lost_wake_up (store : ChatStore) (lease : Option ChatLease) (turns : List Turn)
    (timed : punctual (Room.opened store lease) turns = true) :
    NoLostWakeUp (run Room.step (Room.opened store lease) turns) :=
  ((awake_opened store lease).run timed).noLostWakeUp

section Example

private def question : Enqueue :=
  { prompt := "Go on.", conversationUrl := some "https://chatgpt.com/c/0123456789abcdef", now := 1000
    keySuffix := "a", dispatchSuffix := "b", nonce := "c" }

private def acquiring : List Turn := [.start "one" 71 4 90, .acquire 0 1000, .heartbeat 0 1000]

/-- A client enqueues its job and finds the lease of a process that is alive. -/
private def asking : List Turn := [.arrive (some question), .enqueue 0, .readLease 0, .checkLease 0]

private def leaving : List Turn := [.count 0 1001, .countPages 0, .release 0]

/-- The client comes while the worker is in its first `run_once`, and the job is done in the second. -/
private def servedTurns (done : ChatStore) : List Turn :=
  acquiring ++ asking ++ [.engineReturns 0, .list 0, .count 0 1001, .wake 0, .heartbeat 0 1001, .engineWrites 0 done,
    .engineReturns 0, .list 0] ++ leaving

/-- The client comes when the worker has seen that no job is pending. -/
private def lostTurns : List Turn :=
  acquiring ++ [.engineReturns 0, .list 0, .count 0 1001] ++ asking ++ [.countPages 0, .release 0]

private def doneStore : ChatStore :=
  updateJobRow "chat_b" { state := some .acknowledged } 1001 (run Room.step (Room.opened {} none) (acquiring ++ asking)).store

theorem no_lost_wake_up_served :
    NoLostWakeUp (run Room.step (Room.opened {} none) (servedTurns doneStore)) ∧
      ((run Room.step (Room.opened {} none) (servedTurns doneStore)).workers.map (fun worker => match worker.phase with
        | .returned code => code
        | _ => none)) = [some 0] :=
  ⟨no_lost_wake_up {} none (servedTurns doneStore) (by decide +kernel), by decide +kernel⟩

theorem wake_up_lost : ¬ NoLostWakeUp (run Room.step (Room.opened {} none) lostTurns) := by
  decide +kernel

end Example

end WebSupervisor.ChatWorker.Proofs
