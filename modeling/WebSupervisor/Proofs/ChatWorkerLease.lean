import Mathlib.Data.List.Forall2
import WebSupervisor.ChatWorker

/-! The lease of the chat queue. An engaged worker finds its own token in the lease row at
any time: nobody takes the lease of a process that runs, and a client clears the token of
one that has ended only. -/

namespace WebSupervisor.ChatWorker.Proofs
open Library ChatDispatch

/-- The worker has got the lease and has neither released it nor failed a heartbeat. -/
def Worker.Engaged (worker : Worker) : Prop :=
  match worker.phase with
  | .starting | .returned _ | .dead => False
  | .leaving code => code ≠ some 3
  | _ => True

theorem Worker.Engaged.running {worker : Worker} (engaged : Worker.Engaged worker) : worker.running = true := by
  unfold Worker.Engaged at engaged
  unfold Worker.running
  split <;> simp_all

section Store
variable {args : AcquireArgs} {pidExists : Int → Bool} {row next : Option ChatLease} {ownerId : String} {ttlS now : Time}

theorem acquireLease_got (got : acquireLease args pidExists row = (true, next)) :
    next = some args.lease ∧ ∀ lease, row = some lease →
      lease.ownerId = args.ownerId ∨ lease.fences args.now pidExists = false := by
  unfold acquireLease at got
  split at got
  next =>
    cases got
    exact ⟨rfl, nofun⟩
  next lease =>
    split at got
    next => cases got
    next free =>
      cases got
      refine ⟨rfl, ?_⟩
      rintro _ ⟨⟩
      rw [Classical.not_and_iff_not_or_not, not_not, Bool.not_eq_true] at free
      exact free

theorem acquireLease_refused (refused : acquireLease args pidExists row = (false, next)) : next = row := by
  unfold acquireLease at refused
  split at refused
  next => cases refused
  next =>
    split at refused
    next => cases refused; rfl
    next => cases refused

theorem heartbeatLease_kept (kept : heartbeatLease ownerId ttlS now row = (true, next)) :
    ∃ lease after, row = some lease ∧ next = some after ∧ lease.ownerId = ownerId ∧ after.ownerId = lease.ownerId ∧
      after.pid = lease.pid := by
  unfold heartbeatLease at kept
  split at kept
  next => cases kept
  next lease =>
    split at kept
    next own =>
      cases kept
      exact ⟨lease, _, rfl, rfl, own, rfl, rfl⟩
    next => cases kept

theorem heartbeatLease_failed (failed : heartbeatLease ownerId ttlS now row = (false, next)) :
    next = row ∧ ∀ lease, row = some lease → lease.ownerId ≠ ownerId := by
  unfold heartbeatLease at failed
  split at failed
  next => cases failed; exact ⟨rfl, nofun⟩
  next lease =>
    split at failed
    next => cases failed
    next other =>
      cases failed
      refine ⟨rfl, ?_⟩
      rintro _ ⟨⟩
      exact other

theorem releaseLease_some {lease : ChatLease} :
    releaseLease ownerId row = some lease ↔ row = some lease ∧ lease.ownerId ≠ ownerId := by
  simp [releaseLease, Option.filter_eq_some_iff]

end Store

/-- The same processes later. One that has ended stays so. -/
def Follows (before after : List Worker) : Prop :=
  List.Forall₂ (fun old new => new.owner = old.owner ∧ new.pid = old.pid ∧ (new.running = true → old.running = true))
    before after

namespace Follows
variable {before after : List Worker} {worker next : Worker} {index : Nat}

theorem refl (workers : List Worker) : Follows workers workers :=
  List.forall₂_same.mpr (fun _ _ => ⟨rfl, rfl, id⟩)

theorem set (seated : before[index]? = some worker) (owner : next.owner = worker.owner) (pid : next.pid = worker.pid)
    (running : next.running = true → worker.running = true) : Follows before (before.set index next) := by
  induction before generalizing index with
  | nil => cases seated
  | cons head tail ih =>
    cases index with
    | zero =>
      cases seated
      exact .cons ⟨owner, pid, running⟩ (refl tail)
    | succ index => exact .cons ⟨rfl, rfl, id⟩ (ih seated)

theorem map {change : Worker → Worker}
    (kept : ∀ worker, (change worker).owner = worker.owner ∧ (change worker).pid = worker.pid ∧
      ((change worker).running = true → worker.running = true)) : Follows before (before.map change) := by
  induction before with
  | nil => exact .nil
  | cons head tail ih => exact .cons (kept head) ih

theorem owners (follows : Follows before after) : after.map (·.owner) = before.map (·.owner) := by
  induction follows with
  | nil => rfl
  | cons head _ ih => rw [List.map_cons, List.map_cons, head.1, ih]

theorem back (follows : Follows before after) (member : next ∈ after) :
    ∃ worker ∈ before, next.owner = worker.owner ∧ next.pid = worker.pid ∧
      (next.running = true → worker.running = true) := by
  induction follows with
  | nil => cases member
  | cons head _ ih =>
    rcases List.mem_cons.mp member with rfl | later
    · exact ⟨_, List.mem_cons_self, head⟩
    · obtain ⟨worker, earlier, same⟩ := ih later
      exact ⟨worker, List.mem_cons_of_mem _ earlier, same⟩

end Follows

/-- A pair of a token and a process identifier that no worker contradicts. -/
def Matches (workers : List Worker) (lease : ChatLease) : Prop :=
  ∀ worker ∈ workers, worker.owner = lease.ownerId → worker.pid = lease.pid

def Gone (workers : List Worker) (ownerId : String) : Prop :=
  ∀ worker ∈ workers, worker.owner = ownerId → worker.running = false

/-- What a client has read or decided is still true. -/
def ClientPhase.Sound (workers : List Worker) (drawn : List String) : ClientPhase → Prop
  | .checking lease => lease.ownerId ∈ drawn ∧ Matches workers lease
  | .clearing ownerId => ownerId ∈ drawn ∧ Gone workers ownerId
  | _ => True

/-- What keeps two workers from being engaged at once. -/
structure Fenced (room : Room) : Prop where
  drawn : ∀ worker ∈ room.workers, worker.owner ∈ room.drawn
  distinct : (room.workers.map (·.owner)).Nodup
  positive : ∀ worker ∈ room.workers, 0 < worker.pid
  lease : ∀ lease, room.lease = some lease → lease.ownerId ∈ room.drawn ∧ Matches room.workers lease
  held : ∀ worker ∈ room.workers, Worker.Engaged worker → ∃ lease, room.lease = some lease ∧ lease.ownerId = worker.owner
  clients : ∀ client ∈ room.clients, ClientPhase.Sound room.workers room.drawn client.phase

section Fences
variable {before after : List Worker} {drawn : List String} {lease : ChatLease} {ownerId : String}

theorem Matches.follows (matching : Matches before lease) (follows : Follows before after) : Matches after lease := by
  intro worker member own
  obtain ⟨old, earlier, owner, pid, _⟩ := follows.back member
  rw [pid]
  exact matching old earlier (owner ▸ own)

theorem Gone.follows (gone : Gone before ownerId) (follows : Follows before after) : Gone after ownerId := by
  intro worker member own
  obtain ⟨old, earlier, owner, _, running⟩ := follows.back member
  rw [← Bool.not_eq_true]
  intro runs
  have ended := gone old earlier (owner ▸ own)
  rw [running runs] at ended
  cases ended

theorem Sound.follows {phase : ClientPhase} (sound : ClientPhase.Sound before drawn phase) (follows : Follows before after) :
    ClientPhase.Sound after drawn phase := by
  cases phase with
  | checking lease => exact ⟨sound.1, sound.2.follows follows⟩
  | clearing ownerId => exact ⟨sound.1, sound.2.follows follows⟩
  | _ => trivial

variable {room next : Room}

/-- The workers have gone on, and the lease is one that they allow. -/
theorem Fenced.follows (fenced : Fenced room) (follows : Follows room.workers next.workers)
    (drawn : next.drawn = room.drawn)
    (lease : ∀ lease, next.lease = some lease → lease.ownerId ∈ room.drawn ∧ Matches room.workers lease)
    (held : ∀ worker ∈ next.workers, Worker.Engaged worker → ∃ lease, next.lease = some lease ∧ lease.ownerId = worker.owner)
    (clients : ∀ client ∈ next.clients, ClientPhase.Sound room.workers room.drawn client.phase) : Fenced next := by
  constructor
  case drawn =>
    intro worker member
    obtain ⟨old, earlier, owner, _⟩ := follows.back member
    rw [owner, drawn]
    exact fenced.drawn old earlier
  case distinct =>
    rw [follows.owners]
    exact fenced.distinct
  case positive =>
    intro worker member
    obtain ⟨old, earlier, _, pid, _⟩ := follows.back member
    rw [pid]
    exact fenced.positive old earlier
  case lease =>
    intro row found
    rw [drawn]
    exact ⟨(lease row found).1, (lease row found).2.follows follows⟩
  case held => exact held
  case clients =>
    intro client member
    rw [drawn]
    exact Sound.follows (clients client member) follows

/-- The lease row of a worker that runs fences. -/
theorem Fenced.fences (fenced : Fenced room) {worker : Worker} {lease : ChatLease} {now : Time}
    (member : worker ∈ room.workers) (running : worker.running = true) (found : room.lease = some lease)
    (own : lease.ownerId = worker.owner) : lease.fences now room.pidExists = true := by
  have pid := (fenced.lease lease found).2 worker member own.symm
  have exists' : room.pidExists lease.pid = true := by
    simp only [Room.pidExists, Bool.or_eq_true, List.any_eq_true, Bool.and_eq_true, beq_iff_eq]
    exact Or.inl ⟨worker, member, running, pid⟩
  simp only [ChatLease.fences, Bool.or_eq_true, Bool.and_eq_true, decide_eq_true_eq]
  exact Or.inr ⟨pid ▸ fenced.positive worker member, exists'⟩

theorem Fenced.same (fenced : Fenced room) {one two : Worker} (first : one ∈ room.workers) (second : two ∈ room.workers)
    (owners : one.owner = two.owner) : one = two := List.inj_on_of_nodup_map fenced.distinct first second owners

end Fences

section Steps
variable {room : Room} {worker next : Worker} {index : Nat} {row : Option ChatLease}

/-- The other workers have other tokens. -/
theorem Fenced.mem_set (fenced : Fenced room) (seated : room.workers[index]? = some worker) {other : Worker}
    (there : other ∈ room.workers.set index next) :
    other = next ∨ other ∈ room.workers ∧ other.owner ≠ worker.owner := by
  obtain ⟨place, at'⟩ := List.mem_iff_getElem?.mp there
  rw [List.getElem?_set] at at'
  split at at'
  next =>
    split at at'
    next => exact Or.inl (Option.some.inj at').symm
    next => cases at'
  next differ =>
    refine Or.inr ⟨List.mem_of_getElem? at', fun same => differ ?_⟩
    -- Two places with one token are one place.
    have equal : (room.workers.map (·.owner))[index]? = (room.workers.map (·.owner))[place]? := by
      rw [List.getElem?_map, List.getElem?_map, seated, at', Option.map_some, Option.map_some, same]
    have bound : index < (room.workers.map (·.owner)).length := by
      rw [List.length_map]
      exact (List.getElem?_eq_some_iff.mp seated).1
    exact (List.getElem?_inj bound fenced.distinct).mp equal

/-- A worker goes on and leaves a lease that still holds the token of every engaged worker. -/
theorem Fenced.work (fenced : Fenced room) (seated : room.workers[index]? = some worker)
    (owner : next.owner = worker.owner) (pid : next.pid = worker.pid) (running : next.running = true → worker.running = true)
    (lease : ∀ lease, row = some lease → lease.ownerId ∈ room.drawn ∧ Matches room.workers lease)
    (own : Worker.Engaged next → ∃ lease, row = some lease ∧ lease.ownerId = worker.owner)
    (others : ∀ other ∈ room.workers, other.owner ≠ worker.owner → Worker.Engaged other →
      ∃ lease, row = some lease ∧ lease.ownerId = other.owner) :
    Fenced ({ room with lease := row }.setWorker index next) := by
  refine fenced.follows (.set seated owner pid running) rfl lease ?_ fenced.clients
  intro other there engaged
  rcases fenced.mem_set seated there with rfl | ⟨known, differ⟩
  · rw [owner]
    exact own engaged
  · exact others other known differ engaged

/-- A worker goes on and leaves the lease alone. -/
theorem Fenced.move (fenced : Fenced room) (seated : room.workers[index]? = some worker)
    (owner : next.owner = worker.owner) (pid : next.pid = worker.pid) (running : next.running = true → worker.running = true)
    (engaged : Worker.Engaged next → Worker.Engaged worker) : Fenced (room.setWorker index next) :=
  fenced.work seated owner pid running fenced.lease
    (fun still => fenced.held worker (List.mem_of_getElem? seated) (engaged still))
    (fun other member _ => fenced.held other member)

theorem Fenced.withStore (fenced : Fenced room) (store : ChatStore) : Fenced { room with store } :=
  ⟨fenced.drawn, fenced.distinct, fenced.positive, fenced.lease, fenced.held, fenced.clients⟩

theorem Fenced.workerStep (fenced : Fenced room) (seated : room.workers[index]? = some worker) (turn : Turn) :
    Fenced (room.workerStep index worker turn) := by
  have member : worker ∈ room.workers := List.mem_of_getElem? seated
  unfold Room.workerStep
  split
  case h_1 _ _ _ now starting =>
    dsimp only
    generalize acquired : acquireLease _ room.pidExists room.lease = answer
    obtain ⟨got, lease⟩ := answer
    cases got with
    | false =>
      rw [acquireLease_refused acquired]
      exact fenced.move seated rfl rfl nofun nofun
    | true =>
      obtain ⟨rfl, free⟩ := acquireLease_got acquired
      refine fenced.work seated rfl rfl (fun _ => by simp [Worker.running, starting]) ?_ ?_ ?_
      · rintro _ ⟨⟩
        refine ⟨fenced.drawn worker member, fun other there own => ?_⟩
        rw [fenced.same there member own]
        rfl
      · exact fun _ => ⟨_, rfl, rfl⟩
      · intro other there differ engaged
        obtain ⟨lease, found, own⟩ := fenced.held other there engaged
        rcases free lease found with same | open'
        · exact absurd (own.symm.trans same) differ
        · rw [fenced.fences there engaged.running found own] at open'
          cases open'
  case h_2 _ _ _ now looping =>
    dsimp only
    generalize beaten : heartbeatLease worker.owner defaultLeaseTtlS now room.lease = answer
    obtain ⟨kept, lease⟩ := answer
    cases kept with
    | false =>
      rw [(heartbeatLease_failed beaten).1]
      exact fenced.move seated rfl rfl (fun _ => by simp [Worker.running, looping]) (fun engaged => absurd rfl engaged)
    | true =>
      obtain ⟨before, after, found, rfl, own, owner, pid⟩ := heartbeatLease_kept beaten
      have known := fenced.lease before found
      refine fenced.work seated rfl rfl (fun _ => by simp [Worker.running, looping]) ?_ ?_ ?_
      · rintro _ ⟨⟩
        refine ⟨owner ▸ known.1, fun other there same => ?_⟩
        rw [pid]
        exact known.2 other there (same.trans owner)
      · exact fun _ => ⟨after, rfl, owner.trans own⟩
      · intro other there differ engaged
        obtain ⟨lease, held, mine⟩ := fenced.held other there engaged
        rw [found] at held
        cases held
        exact absurd (mine.symm.trans own) differ
  case h_16 _ _ _ code leaving =>
    refine fenced.work seated rfl rfl nofun (fun lease left => fenced.lease lease (releaseLease_some.mp left).1) nofun ?_
    intro other there differ engaged
    obtain ⟨lease, held, own⟩ := fenced.held other there engaged
    exact ⟨lease, releaseLease_some.mpr ⟨held, own ▸ differ⟩, own⟩
  case h_3 =>
    split
    next => exact fenced.withStore _
    next => exact fenced
  case h_6 _ _ _ now jobs counting =>
    split
    all_goals
      exact fenced.move seated rfl rfl (fun _ => by simp [Worker.running, counting]) (fun _ => by simp [Worker.Engaged, counting])
  case h_9 => exact fenced.move seated rfl rfl nofun nofun
  case h_17 =>
    split
    next => exact fenced.move seated rfl rfl nofun nofun
    next => exact fenced
  case h_18 => exact fenced
  all_goals
    next phase =>
      exact fenced.move seated rfl rfl (fun _ => by simp [Worker.running, phase]) (fun _ => by simp [Worker.Engaged, phase])

theorem Fenced.clientsSet (fenced : Fenced room) {client : Client} (index : Nat)
    (sound : ClientPhase.Sound room.workers room.drawn client.phase) : Fenced (room.setClient index client) := by
  refine ⟨fenced.drawn, fenced.distinct, fenced.positive, fenced.lease, fenced.held, fun other member => ?_⟩
  rcases List.mem_or_eq_of_mem_set member with there | rfl
  · exact fenced.clients other there
  · exact sound

theorem Fenced.commit (fenced : Fenced room) (dispatchId : String) : Fenced (room.commit dispatchId) := by
  refine fenced.follows (.map fun worker => ?_) rfl fenced.lease ?_ fenced.clients
  · split
    next => exact ⟨rfl, rfl, id⟩
    next => exact ⟨rfl, rfl, id⟩
  · intro other member engaged
    obtain ⟨worker, there, rfl⟩ := List.mem_map.mp member
    split at engaged
    next => exact fenced.held worker there engaged
    next => exact fenced.held worker there engaged

theorem Fenced.clear (fenced : Fenced room) {ownerId : String} (gone : Gone room.workers ownerId) :
    Fenced { room with lease := releaseLease ownerId room.lease } := by
  refine ⟨fenced.drawn, fenced.distinct, fenced.positive, fun lease left => fenced.lease lease (releaseLease_some.mp left).1,
    fun worker member engaged => ?_, fenced.clients⟩
  obtain ⟨lease, held, own⟩ := fenced.held worker member engaged
  refine ⟨lease, releaseLease_some.mpr ⟨held, fun same => ?_⟩, own⟩
  have ended := gone worker member (own.symm.trans same)
  rw [engaged.running] at ended
  cases ended

theorem Fenced.clientStep (fenced : Fenced room) {client : Client} (seated : room.clients[index]? = some client)
    (turn : Turn) : Fenced (room.clientStep index client turn) := by
  have sound := fenced.clients client (List.mem_of_getElem? seated)
  unfold Room.clientStep
  split
  case h_1 =>
    split
    next => exact fenced.clientsSet index trivial
    next => exact (fenced.withStore _).clientsSet index trivial
    next => exact ((fenced.withStore _).commit _).clientsSet index trivial
  case h_2 =>
    refine fenced.clientsSet index ?_
    cases found : room.lease with
    | none => trivial
    | some lease => exact fenced.lease lease found
  case h_3 _ _ _ lease checking =>
    rw [checking] at sound
    refine fenced.clientsSet index ?_
    dsimp only
    split
    next => trivial
    next ended =>
      refine ⟨sound.1, fun worker member own => ?_⟩
      have pid := sound.2 worker member own
      rw [← Bool.not_eq_true]
      intro running
      refine ended ?_
      simp only [Room.pidExists, Bool.and_eq_true, decide_eq_true_eq, Bool.or_eq_true, List.any_eq_true, beq_iff_eq]
      exact ⟨pid ▸ fenced.positive worker member, Or.inl ⟨worker, member, running, pid⟩⟩
  case h_4 _ _ _ ownerId clearing =>
    rw [clearing] at sound
    exact (fenced.clear sound.2).clientsSet index trivial
  case h_5 => exact fenced.clientsSet index trivial
  case h_6 => exact fenced

theorem Fenced.startStep (fenced : Fenced room) (owner : String) (pid maxWindows : Int) (idleCloseS : Time) :
    Fenced (room.startStep owner pid maxWindows idleCloseS) := by
  unfold Room.startStep
  split
  next => exact fenced
  next fresh =>
    rw [not_or, not_or, not_le] at fresh
    obtain ⟨new, positive, _⟩ := fresh
    have apart (worker : Worker) (member : worker ∈ room.workers) : worker.owner ≠ owner :=
      fun same => new (same ▸ fenced.drawn worker member)
    obtain ⟨added, addedEq⟩ : ∃ added : Worker, added =
      { owner, pid, maxWindows, idleCloseS, missed := jobIds room.store } := ⟨_, rfl⟩
    have token : added.owner = owner := by rw [addedEq]
    rw [← addedEq]
    have either {worker : Worker} (member : worker ∈ room.workers ++ [added]) :
        worker ∈ room.workers ∨ worker = added := by
      rw [List.mem_append, List.mem_singleton] at member
      exact member
    -- Nobody has read a lease under the new token.
    have matching {lease : ChatLease} (known : lease.ownerId ∈ room.drawn ∧ Matches room.workers lease) :
        lease.ownerId ∈ owner :: room.drawn ∧ Matches (room.workers ++ [added]) lease := by
      refine ⟨List.mem_cons_of_mem _ known.1, fun worker member own => ?_⟩
      rcases either member with there | rfl
      · exact known.2 worker there own
      · exact absurd (own.symm.trans token ▸ known.1) new
    constructor
    case drawn =>
      intro worker member
      rcases either member with there | rfl
      · exact List.mem_cons_of_mem _ (fenced.drawn worker there)
      · rw [token]
        exact List.mem_cons_self
    case distinct =>
      rw [List.map_append, List.nodup_append]
      refine ⟨fenced.distinct, List.nodup_singleton _, fun one first two second same => ?_⟩
      obtain ⟨worker, there, rfl⟩ := List.mem_map.mp first
      rw [List.map_singleton, List.mem_singleton] at second
      exact apart worker there (same.trans (second.trans token))
    case positive =>
      intro worker member
      rcases either member with there | rfl
      · exact fenced.positive worker there
      · rw [addedEq]
        exact positive
    case lease => exact fun lease found => matching (fenced.lease lease found)
    case held =>
      intro worker member engaged
      rcases either member with there | rfl
      · exact fenced.held worker there engaged
      · rw [addedEq] at engaged
        cases engaged
    case clients =>
      intro client member
      have sound := fenced.clients client member
      cases phase : client.phase with
      | checking lease =>
        rw [phase] at sound
        exact matching sound
      | clearing ownerId =>
        rw [phase] at sound
        refine ⟨List.mem_cons_of_mem _ sound.1, fun worker there own => ?_⟩
        rcases either there with there | rfl
        · exact sound.2 worker there own
        · exact absurd (own.symm.trans token ▸ sound.1) new
      | _ => trivial

theorem Fenced.step (fenced : Fenced room) (turn : Turn) : Fenced (room.step turn) := by
  have work (index : Nat) : Fenced (room.workers[index]?.elim room (fun worker => room.workerStep index worker turn)) := by
    cases seated : room.workers[index]? with
    | none => exact fenced
    | some worker => exact fenced.workerStep seated turn
  have serve (index : Nat) : Fenced (room.clients[index]?.elim room (fun client => room.clientStep index client turn)) := by
    cases seated : room.clients[index]? with
    | none => exact fenced
    | some client => exact fenced.clientStep seated turn
  cases turn with
  | others pids => exact ⟨fenced.drawn, fenced.distinct, fenced.positive, fenced.lease, fenced.held, fenced.clients⟩
  | start owner pid maxWindows idleCloseS => exact fenced.startStep owner pid maxWindows idleCloseS
  | arrive request =>
    refine ⟨fenced.drawn, fenced.distinct, fenced.positive, fenced.lease, fenced.held, fun client member => ?_⟩
    rcases List.mem_append.mp member with there | new
    · exact fenced.clients client there
    · cases List.mem_singleton.mp new
      cases request <;> trivial
  | enqueue client => exact serve client
  | readLease client => exact serve client
  | checkLease client => exact serve client
  | clearLease client => exact serve client
  | launch client => exact serve client
  | _ index => exact work index

theorem fenced_opened (store : ChatStore) (lease : Option ChatLease) : Fenced (Room.opened store lease) := by
  refine ⟨nofun, List.nodup_nil, nofun, ?_, nofun, nofun⟩
  rintro row rfl
  exact ⟨by simp [Room.opened], nofun⟩

theorem fenced_run (store : ChatStore) (lease : Option ChatLease) (turns : List Turn) :
    Fenced (run Room.step (Room.opened store lease) turns) :=
  run_invariant Room.step (fun _ turn fenced => fenced.step turn) _ turns (fenced_opened store lease)

end Steps

/-- Two workers that are engaged at once are the same process. -/
def OneEngaged (room : Room) : Prop :=
  ∀ (first second : Nat) (one two : Worker), room.workers[first]? = some one → room.workers[second]? = some two →
    Worker.Engaged one → Worker.Engaged two → first = second

theorem Fenced.oneEngaged {room : Room} (fenced : Fenced room) : OneEngaged room := by
  intro first second one two here there engaged other
  obtain ⟨row, found, own⟩ := fenced.held one (List.mem_of_getElem? here) engaged
  obtain ⟨row', found', own'⟩ := fenced.held two (List.mem_of_getElem? there) other
  rw [found] at found'
  cases found'
  have same := fenced.same (List.mem_of_getElem? here) (List.mem_of_getElem? there) (own.symm.trans own')
  subst same
  have bound := (List.getElem?_eq_some_iff.mp here).1
  exact (List.getElem?_inj bound (List.Nodup.of_map _ fenced.distinct)).mp (here.trans there.symm)

/-- At most one worker is engaged at any time, however processes take turns, stall or end. -/
theorem one_engaged_worker (store : ChatStore) (lease : Option ChatLease) (turns : List Turn) :
    OneEngaged (run Room.step (Room.opened store lease) turns) := (fenced_run store lease turns).oneEngaged

/-- The worker has seen a heartbeat fail, for which its exit code is 3. -/
def Worker.Ousted (worker : Worker) : Prop := worker.phase = .leaving (some 3) ∨ worker.phase = .returned (some 3)

/-- Nobody has been ousted. -/
def Unbeaten (room : Room) : Prop := ∀ worker ∈ room.workers, ¬ Worker.Ousted worker

section Unbeaten
variable {room : Room} {worker next : Worker} {index : Nat}

private theorem Unbeaten.set (unbeaten : Unbeaten room) {row : Option ChatLease} (kept : ¬ Worker.Ousted next) :
    Unbeaten ({ room with lease := row }.setWorker index next) := by
  intro other there
  rcases List.mem_or_eq_of_mem_set there with known | rfl
  · exact unbeaten other known
  · exact kept

theorem Unbeaten.workerStep (unbeaten : Unbeaten room) (fenced : Fenced room)
    (seated : room.workers[index]? = some worker) (turn : Turn) : Unbeaten (room.workerStep index worker turn) := by
  have member : worker ∈ room.workers := List.mem_of_getElem? seated
  unfold Room.workerStep
  split
  case h_1 =>
    dsimp only
    generalize acquireLease _ room.pidExists room.lease = answer
    obtain ⟨got, lease⟩ := answer
    refine unbeaten.set ?_
    cases got <;> simp [Worker.Ousted]
  case h_2 _ _ _ now looping =>
    dsimp only
    generalize beaten : heartbeatLease worker.owner defaultLeaseTtlS now room.lease = answer
    obtain ⟨kept, lease⟩ := answer
    cases kept with
    | true => exact unbeaten.set (by simp [Worker.Ousted])
    | false =>
      -- The row still has the token of an engaged worker.
      obtain ⟨held, found, own⟩ := fenced.held worker member (by simp [Worker.Engaged, looping])
      exact absurd own ((heartbeatLease_failed beaten).2 held found)
  case h_3 =>
    split
    next => exact unbeaten
    next => exact unbeaten
  case h_6 =>
    split
    next =>
      refine unbeaten.set ?_
      unfold Worker.Ousted Room.afterExit
      split <;> simp
    next => exact unbeaten.set (by simp [Worker.Ousted])
  case h_7 =>
    refine unbeaten.set ?_
    unfold Worker.Ousted Room.afterExit
    split <;> simp
  case h_16 _ _ _ code leaving =>
    refine unbeaten.set ?_
    rintro (left | left)
    · cases left
    · injection left with code
      exact unbeaten worker member (Or.inl (leaving.trans (congrArg WorkerPhase.leaving code)))
  case h_17 =>
    split
    next => exact unbeaten.set (by simp [Worker.Ousted])
    next => exact unbeaten
  case h_18 => exact unbeaten
  all_goals exact unbeaten.set (by simp [Worker.Ousted])

theorem Unbeaten.clientStep (unbeaten : Unbeaten room) (client : Client) (turn : Turn) :
    Unbeaten (room.clientStep index client turn) := by
  unfold Room.clientStep
  split
  case h_1 =>
    split
    next => exact unbeaten
    next => exact unbeaten
    next =>
      intro other there
      obtain ⟨worker, member, rfl⟩ := List.mem_map.mp there
      unfold Worker.Ousted
      split <;> exact unbeaten worker member
  all_goals exact unbeaten

theorem Unbeaten.step (unbeaten : Unbeaten room) (fenced : Fenced room) (turn : Turn) : Unbeaten (room.step turn) := by
  have work (index : Nat) : Unbeaten (room.workers[index]?.elim room (fun worker => room.workerStep index worker turn)) := by
    cases seated : room.workers[index]? with
    | none => exact unbeaten
    | some worker => exact unbeaten.workerStep fenced seated turn
  have serve (index : Nat) : Unbeaten (room.clients[index]?.elim room (fun client => room.clientStep index client turn)) := by
    cases room.clients[index]? with
    | none => exact unbeaten
    | some client => exact unbeaten.clientStep client turn
  cases turn with
  | others pids => exact unbeaten
  | start owner pid maxWindows idleCloseS =>
    change Unbeaten (room.startStep owner pid maxWindows idleCloseS)
    unfold Room.startStep
    split
    next => exact unbeaten
    next =>
      intro worker member
      rcases List.mem_append.mp member with there | new
      · exact unbeaten worker there
      · rw [List.mem_singleton.mp new]
        simp [Worker.Ousted]
  | arrive request => exact unbeaten
  | enqueue client => exact serve client
  | readLease client => exact serve client
  | checkLease client => exact serve client
  | clearLease client => exact serve client
  | launch client => exact serve client
  | _ index => exact work index

end Unbeaten

/-- No worker ever loses its lease: however long it stalls, its next heartbeat succeeds. -/
theorem no_worker_ousted (store : ChatStore) (lease : Option ChatLease) (turns : List Turn) :
    Unbeaten (run Room.step (Room.opened store lease) turns) :=
  (@run_invariant _ _ Room.step (fun room => Fenced room ∧ Unbeaten room)
    (fun _ turn both => ⟨both.1.step turn, both.2.step both.1 turn⟩) _ turns ⟨fenced_opened store lease, nofun⟩).2

section Example

private def firstLease : List Turn := [.start "one" 71 4 90, .acquire 0 1000]

/-- The second worker comes long after the lease has expired, and a third one when the
first has ended. -/
private def lateTurns : List Turn :=
  firstLease ++ [.start "two" 72 4 90, .acquire 1 5000, .crash 0, .start "three" 73 4 90, .acquire 2 5001]

example : ((run Room.step (Room.opened {} none) lateTurns).lease.map (·.ownerId)) = some "three" := by decide +kernel

end Example

end WebSupervisor.ChatWorker.Proofs

