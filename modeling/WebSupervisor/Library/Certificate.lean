import WebSupervisor.Library.Program

/-! Safety of concurrent programs. A contract names the invariant of the store
and the log, what a process may rely on between two of its steps, and what its
own steps guarantee. A certificate follows the program: at every state that the
process can find, its next step keeps the contract. -/

namespace WebSupervisor.Library

variable {σ ρ : Type} {ω : ρ → Type} {κ α β γ : Type}

section Certificates
variable (valid : Shared σ ω α → Prop) (rely guarantee : Shared σ ω α → Shared σ ω α → Prop) (pid : Nat)

/-- The step from one shared state to the next keeps the contract. -/
def Keeps (before after : Shared σ ω α) : Prop := valid after ∧ guarantee before after

def Certified (post : β → Shared σ ω α → Prop) : Program σ ω β → Shared σ ω α → Prop
  | .pure value, seen => ∀ now, valid now → rely seen now → post value now
  | .atomic effect next, seen => ∀ now, valid now → rely seen now →
    Keeps valid guarantee now (now.commit pid effect) ∧ Certified post (next now.store) (now.commit pid effect)
  | .call request next, seen => ∀ now, valid now → rely seen now →
    Keeps valid guarantee now (now.issue pid request) ∧
    ∀ later, valid later → rely (now.issue pid request) later → ∀ answer,
      Keeps valid guarantee later (later.record (.answered pid request answer)) ∧
      Certified post (next answer) (later.record (.answered pid request answer))

variable {valid rely guarantee pid}

theorem Certified.weaken {first second : β → Shared σ ω α → Prop} {program : Program σ ω β} {seen : Shared σ ω α}
    (certified : Certified valid rely guarantee pid first program seen)
    (implies : ∀ value now, valid now → first value now → second value now) :
    Certified valid rely guarantee pid second program seen := by
  induction program generalizing seen with
  | pure value => exact fun now kept related => implies value now kept (certified now kept related)
  | atomic effect next ih =>
    intro now kept related
    obtain ⟨step, rest⟩ := certified now kept related
    exact ⟨step, ih _ rest⟩
  | call request next ih =>
    intro now kept related
    obtain ⟨step, rest⟩ := certified now kept related
    refine ⟨step, fun later lateKept lateRelated answer => ?_⟩
    obtain ⟨received, tail⟩ := rest later lateKept lateRelated answer
    exact ⟨received, ih answer tail⟩

/-- A sequence is certified through the assertion in the middle. -/
theorem Certified.bind {middle : β → Shared σ ω α → Prop} {post : γ → Shared σ ω α → Prop}
    {program : Program σ ω β} {next : β → Program σ ω γ} {seen : Shared σ ω α}
    (refl : ∀ shared, rely shared shared) (kept : valid seen)
    (certified : Certified valid rely guarantee pid middle program seen)
    (rest : ∀ value now, valid now → middle value now → Certified valid rely guarantee pid post (next value) now) :
    Certified valid rely guarantee pid post (program.bind next) seen := by
  induction program generalizing seen with
  | pure value => exact rest value seen kept (certified seen kept (refl seen))
  | atomic effect tail ih =>
    intro now nowKept related
    obtain ⟨step, later⟩ := certified now nowKept related
    exact ⟨step, ih _ step.1 later⟩
  | call request tail ih =>
    intro now nowKept related
    obtain ⟨step, later⟩ := certified now nowKept related
    refine ⟨step, fun after afterKept afterRelated answer => ?_⟩
    obtain ⟨received, last⟩ := later after afterKept afterRelated answer
    exact ⟨received, ih answer received.1 last⟩

variable {ε : Type}

theorem Certified.map {post : γ → Shared σ ω α → Prop} {program : Program σ ω β} {convert : β → γ}
    {seen : Shared σ ω α}
    (certified : Certified valid rely guarantee pid (fun value => post (convert value)) program seen) :
    Certified valid rely guarantee pid post (convert <$> program) seen := by
  induction program generalizing seen with
  | pure value => exact certified
  | atomic effect next ih =>
    intro now kept related
    obtain ⟨step, rest⟩ := certified now kept related
    exact ⟨step, ih _ rest⟩
  | call request next ih =>
    intro now kept related
    obtain ⟨step, rest⟩ := certified now kept related
    refine ⟨step, fun later lateKept lateRelated answer => ?_⟩
    obtain ⟨received, tail⟩ := rest later lateKept lateRelated answer
    exact ⟨received, ih answer tail⟩

/-- A transaction keeps the contract whether it commits or is rolled back. -/
theorem Certified.transaction {work : σ → Except ε (β × σ)} {post : Except ε β → Shared σ ω α → Prop}
    {seen : Shared σ ω α}
    (step : ∀ now, valid now → rely seen now →
      (∀ value after, work now.store = .ok (value, after) → Keeps valid guarantee now (now.became pid after) ∧
        ∀ last, valid last → rely (now.became pid after) last → post (.ok value) last) ∧
      ∀ error, work now.store = .error error → Keeps valid guarantee now (now.became pid now.store) ∧
        ∀ last, valid last → rely (now.became pid now.store) last → post (.error error) last) :
    Certified valid rely guarantee pid post (Program.transaction work).run seen := by
  intro now kept related
  obtain ⟨committed, refused⟩ := step now kept related
  cases result : work now.store with
  | error error =>
    obtain ⟨keeps, rest⟩ := refused error result
    simp only [Shared.commit, result, Except.map]
    exact ⟨keeps, rest⟩
  | ok pair =>
    obtain ⟨keeps, rest⟩ := committed pair.1 pair.2 result
    simp only [Shared.commit, result, Except.map]
    exact ⟨keeps, rest⟩

theorem Certified.check {view : σ → Except ε β} {post : Except ε β → Shared σ ω α → Prop} {seen : Shared σ ω α}
    (step : ∀ now, valid now → rely seen now → Keeps valid guarantee now (now.became pid now.store) ∧
      ∀ last, valid last → rely (now.became pid now.store) last → post (view now.store) last) :
    Certified valid rely guarantee pid post (Program.check view).run seen :=
  step

/-- A sequence that begins with a read goes on from the store that was read. -/
theorem Certified.checked {view : σ → Except ε β} {next : β → ExceptT ε (Program σ ω) γ}
    {post : Except ε γ → Shared σ ω α → Prop} {seen : Shared σ ω α}
    (step : ∀ now, valid now → rely seen now → Keeps valid guarantee now (now.became pid now.store) ∧
      (∀ value, view now.store = .ok value →
        Certified valid rely guarantee pid post (next value).run (now.became pid now.store)) ∧
      ∀ error, view now.store = .error error →
        Certified valid rely guarantee pid post (.pure (.error error)) (now.became pid now.store)) :
    Certified valid rely guarantee pid post (Program.check view >>= next).run seen := by
  intro now kept related
  obtain ⟨keeps, rest, raised⟩ := step now kept related
  refine ⟨keeps, ?_⟩
  change Certified valid rely guarantee pid post (ExceptT.bindCont next (view now.store)) (now.became pid now.store)
  cases found : view now.store with
  | error error => exact raised error found
  | ok value => exact rest value found

theorem Certified.ask {request : ρ} {receive : ω request → Except ε β} {post : Except ε β → Shared σ ω α → Prop}
    {seen : Shared σ ω α}
    (step : ∀ now, valid now → rely seen now → Keeps valid guarantee now (now.issue pid request) ∧
      ∀ later, valid later → rely (now.issue pid request) later → ∀ answer,
        Keeps valid guarantee later (later.record (.answered pid request answer)) ∧
        ∀ last, valid last → rely (later.record (.answered pid request answer)) last → post (receive answer) last) :
    Certified valid rely guarantee pid post (Program.ask request receive).run seen :=
  step

/-- A raising sequence goes on after a value and stops at an error. -/
theorem Certified.andThen {post : Except ε γ → Shared σ ω α → Prop} {program : ExceptT ε (Program σ ω) β}
    {next : β → ExceptT ε (Program σ ω) γ} {seen : Shared σ ω α} (refl : ∀ shared, rely shared shared)
    (kept : valid seen) {middle : Except ε β → Shared σ ω α → Prop}
    (certified : Certified valid rely guarantee pid middle program.run seen)
    (rest : ∀ value now, valid now → middle (.ok value) now →
      Certified valid rely guarantee pid post (next value).run now)
    (raised : ∀ error now, valid now → middle (.error error) now →
      Certified valid rely guarantee pid post (.pure (.error error)) now) :
    Certified valid rely guarantee pid post (program >>= next).run seen := by
  refine Certified.bind refl kept certified ?_
  rintro (error | value) now nowKept reached
  · exact raised error now nowKept reached
  · exact rest value now nowKept reached

theorem Certified.attempt {post : Except ε β → Shared σ ω α → Prop} {program : ExceptT ε (Program σ ω) β}
    {seen : Shared σ ω α} (certified : Certified valid rely guarantee pid post program.run seen) :
    Certified valid rely guarantee pid (fun result now => ∃ outcome, result = .ok outcome ∧ post outcome now)
      (Program.attempt program).run seen := by
  have mapped : Certified valid rely guarantee pid (fun result now => ∃ outcome, result = .ok outcome ∧ post outcome now)
      ((.ok : Except ε β → Except ε (Except ε β)) <$> program.run) seen :=
    Certified.map (certified.weaken (fun outcome _ _ reached => ⟨outcome, rfl, reached⟩))
  exact mapped

/-- A computation of the program alone takes no step. -/
theorem Certified.ensure {post : Except ε γ → Shared σ ω α → Prop} {result : Except ε β}
    {next : β → ExceptT ε (Program σ ω) γ} {seen : Shared σ ω α}
    (rest : ∀ value, result = .ok value → Certified valid rely guarantee pid post (next value).run seen)
    (raised : ∀ error, result = .error error → Certified valid rely guarantee pid post (.pure (.error error)) seen) :
    Certified valid rely guarantee pid post (Program.ensure result >>= next).run seen := by
  cases result with
  | error error => exact raised error rfl
  | ok value => exact rest value rfl

end Certificates

/-- Others only add their own events after the last step of a process. -/
structure Follows (pid : Nat) (seen now : Shared σ ω α) : Prop where
  log : seen.log <:+ now.log
  own : now.log.filter (·.pid == pid) = seen.log.filter (·.pid == pid)

theorem Follows.refl (pid : Nat) (shared : Shared σ ω α) : Follows pid shared shared := ⟨List.suffix_rfl, rfl⟩

/-- What is new is from others. -/
theorem Follows.newer {pid : Nat} {seen now : Shared σ ω α} (follows : Follows pid seen now) :
    ∃ newer, now.log = newer ++ seen.log ∧ ∀ event ∈ newer, event.pid ≠ pid := by
  obtain ⟨newer, same⟩ := follows.log
  refine ⟨newer, same.symm, fun event member own => ?_⟩
  have none := follows.own
  rw [← same, List.filter_append, List.append_left_eq_self] at none
  exact List.filter_eq_nil_iff.mp none event member (by simpa using own)

private theorem Follows.other {pid : Nat} {seen now shared : Shared σ ω α} {event : Event σ ω α}
    (follows : Follows pid seen now) (added : shared.log = event :: now.log) (other : event.pid ≠ pid) :
    Follows pid seen shared := by
  refine ⟨added ▸ follows.log.trans (List.suffix_cons _ _), ?_⟩
  rw [added, List.filter_cons_of_neg (by simpa using other), follows.own]

/-- The process that moves finds a state it can rely on. -/
def Undisturbed (rely : Nat → κ → Shared σ ω α → Shared σ ω α → Prop) (world : World σ ω κ α) : Move ω κ → Prop
  | .step pid | .answer pid _ => ∀ process : Process σ ω κ α, world.processes[pid]? = some process →
    process.live = true → rely pid process.call process.seen world.toShared
  | .start _ | .crash _ => True

/-- Every move of a run finds its process undisturbed. -/
def UndisturbedRun (rely : Nat → κ → Shared σ ω α → Shared σ ω α → Prop) (machine : Machine σ ω κ α)
    (world : World σ ω κ α) : List (Move ω κ) → Prop
  | [] => True
  | move :: moves => Undisturbed rely world move ∧ UndisturbedRun rely machine (machine.move world move) moves

theorem UndisturbedRun.left {rely : Nat → κ → Shared σ ω α → Shared σ ω α → Prop} {machine : Machine σ ω κ α}
    {world : World σ ω κ α} {first rest : List (Move ω κ)}
    (undisturbed : UndisturbedRun rely machine world (first ++ rest)) : UndisturbedRun rely machine world first := by
  induction first generalizing world with
  | nil => trivial
  | cons move first ih => exact ⟨undisturbed.1, ih undisturbed.2⟩

structure Contract (σ : Type) {ρ : Type} (ω : ρ → Type) (κ α : Type) where
  valid : Shared σ ω α → Prop
  rely : Nat → κ → Shared σ ω α → Shared σ ω α → Prop
  guarantee : Nat → κ → Shared σ ω α → Shared σ ω α → Prop

namespace Contract
variable (contract : Contract σ ω κ α)

/-- What a process knows when it finds `now` after it left `seen`. -/
def Finds (pid : Nat) (call : κ) (seen now : Shared σ ω α) : Prop :=
  Follows pid seen now ∧ contract.rely pid call seen now

/-- Returning keeps the contract as well. -/
def Returns (pid : Nat) (call : κ) (value : α) (now : Shared σ ω α) : Prop :=
  Keeps contract.valid (contract.guarantee pid call) now (now.record (.returned pid value))

/-- The certificate of a part of a call. -/
abbrev Safe (pid : Nat) (call : κ) (post : β → Shared σ ω α → Prop) (program : Program σ ω β) (seen : Shared σ ω α) :
    Prop :=
  Certified contract.valid (contract.Finds pid call) (contract.guarantee pid call) pid post program seen

def CertifiedPhase (pid : Nat) (call : κ) (seen : Shared σ ω α) : Phase σ ω α → Prop
  | .running program => contract.Safe pid call (contract.Returns pid call) program seen
  | .waiting request next => ∀ later, contract.valid later → contract.Finds pid call seen later → ∀ answer,
    Keeps contract.valid (contract.guarantee pid call) later (later.record (.answered pid request answer)) ∧
    contract.Safe pid call (contract.Returns pid call) (next answer) (later.record (.answered pid request answer))
  | .ended => True

/-- Every call keeps the contract from any valid state that its process has left
no event in. -/
def Certifies (machine : Machine σ ω κ α) : Prop :=
  ∀ pid call seen, contract.valid seen → (∀ event ∈ seen.log, event.pid ≠ pid) →
    contract.CertifiedPhase pid call seen (.running (machine.body call))

structure Holds (world : World σ ω κ α) : Prop where
  valid : contract.valid world.toShared
  named : ∀ event ∈ world.log, event.pid < world.processes.length
  follows : ∀ (pid : Nat) (process : Process σ ω κ α), world.processes[pid]? = some process →
    Follows pid process.seen world.toShared
  certified : ∀ (pid : Nat) (process : Process σ ω κ α), world.processes[pid]? = some process →
    contract.CertifiedPhase pid process.call process.seen process.phase

variable {contract}

private theorem phase_step {pid : Nat} {call : κ} {seen now shared : Shared σ ω α} {before after : Phase σ ω α}
    (kept : contract.valid now) (certified : contract.CertifiedPhase pid call seen before)
    (found : contract.Finds pid call seen now) (stepped : Process.step pid now before = some (after, shared)) :
    Keeps contract.valid (contract.guarantee pid call) now shared ∧ contract.CertifiedPhase pid call shared after ∧
      ∃ event, shared.log = event :: now.log ∧ event.pid = pid := by
  cases before with
  | running program =>
    cases program with
    | pure value =>
      cases stepped
      exact ⟨certified now kept found, trivial, _, rfl, rfl⟩
    | atomic effect next =>
      cases stepped
      obtain ⟨step, rest⟩ := certified now kept found
      exact ⟨step, rest, _, rfl, rfl⟩
    | call request next =>
      cases stepped
      obtain ⟨step, rest⟩ := certified now kept found
      exact ⟨step, rest, _, rfl, rfl⟩
  | waiting request next => cases stepped
  | ended => cases stepped

private theorem phase_receive {pid : Nat} {call : κ} {seen now shared : Shared σ ω α} {before after : Phase σ ω α}
    {reply : ∀ request, ω request} (kept : contract.valid now)
    (certified : contract.CertifiedPhase pid call seen before) (found : contract.Finds pid call seen now)
    (received : Process.receive pid reply now before = some (after, shared)) :
    Keeps contract.valid (contract.guarantee pid call) now shared ∧ contract.CertifiedPhase pid call shared after ∧
      ∃ event, shared.log = event :: now.log ∧ event.pid = pid := by
  cases before with
  | waiting request next =>
    cases received
    obtain ⟨step, rest⟩ := certified now kept found (reply request)
    exact ⟨step, rest, _, rfl, rfl⟩
  | running program => cases received
  | ended => cases received

private theorem set_origin {τ : Type} {items : List τ} {index other : Nat} {item found : τ}
    (present : (items.set index item)[other]? = some found) :
    other = index ∧ found = item ∨ other ≠ index ∧ items[other]? = some found := by
  by_cases same : index = other
  · subst same
    have inside : index < items.length := by simpa using (List.getElem?_eq_some_iff.mp present).choose
    rw [List.getElem?_set_self inside] at present
    exact Or.inl ⟨rfl, (Option.some.inj present).symm⟩
  · rw [List.getElem?_set_ne same] at present
    exact Or.inr ⟨fun equal => same equal.symm, present⟩

private theorem snoc_place {τ : Type} {items : List τ} {index : Nat} {item found : τ}
    (present : (items ++ [item])[index]? = some found) :
    items[index]? = some found ∨ index = items.length ∧ found = item := by
  rw [List.getElem?_append] at present
  split at present
  next => exact Or.inl present
  next beyond =>
    obtain ⟨inside, same⟩ := List.getElem?_eq_some_iff.mp present
    simp only [List.length_singleton] at inside
    refine Or.inr ⟨by omega, ?_⟩
    rw [← same]
    simp

private theorem advance_holds {world : World σ ω κ α} (holds : contract.Holds world) {pid : Nat}
    {change : Shared σ ω α → Phase σ ω α → Option (Phase σ ω α × Shared σ ω α)}
    (kept : ∀ process phase shared, world.processes[pid]? = some process →
      change world.toShared process.phase = some (phase, shared) →
      contract.valid shared ∧ contract.CertifiedPhase pid process.call shared phase ∧
      (shared = world.toShared ∨ ∃ event, shared.log = event :: world.log ∧ event.pid = pid)) :
    contract.Holds (world.advance pid change) := by
  unfold World.advance
  cases found : world.processes[pid]? with
  | none => exact holds
  | some process =>
    have inside : pid < world.processes.length := (List.getElem?_eq_some_iff.mp found).choose
    cases changed : change world.toShared process.phase with
    | none => simpa only [changed] using holds
    | some pair =>
      obtain ⟨phase, shared⟩ := pair
      obtain ⟨valid, certified, events⟩ := kept process phase shared found changed
      simp only [changed]
      refine ⟨valid, ?_, ?_, ?_⟩
      · intro event member
        rw [List.length_set]
        rcases events with rfl | ⟨new, added, own⟩
        · exact holds.named event member
        · rcases List.mem_cons.mp (added ▸ member) with rfl | old
          · exact own ▸ inside
          · exact holds.named event old
      · intro other moved present
        rcases set_origin present with ⟨rfl, rfl⟩ | ⟨different, old⟩
        · exact .refl _ _
        · have before := holds.follows other moved old
          rcases events with rfl | ⟨new, added, own⟩
          · exact before
          · exact before.other added (own.symm ▸ Ne.symm different)
      · intro other moved present
        rcases set_origin present with ⟨rfl, rfl⟩ | ⟨_, old⟩
        · exact certified
        · exact holds.certified other moved old

private theorem stepped_live {pid : Nat} {shared : Shared σ ω α} {process : Process σ ω κ α}
    {next : Phase σ ω α × Shared σ ω α} (stepped : Process.step pid shared process.phase = some next) :
    process.live = true := by
  unfold Process.live
  cases current : process.phase <;> simp_all [Process.step]

private theorem received_live {pid : Nat} {reply : ∀ request, ω request} {shared : Shared σ ω α}
    {process : Process σ ω κ α} {next : Phase σ ω α × Shared σ ω α}
    (received : Process.receive pid reply shared process.phase = some next) : process.live = true := by
  unfold Process.live
  cases current : process.phase <;> simp_all [Process.receive]

theorem move_holds {machine : Machine σ ω κ α} (certifies : contract.Certifies machine) {world : World σ ω κ α}
    (holds : contract.Holds world) (move : Move ω κ) (undisturbed : Undisturbed contract.rely world move) :
    contract.Holds (machine.move world move) := by
  cases move with
  | start call =>
    simp only [Machine.move]
    split
    next =>
      refine ⟨holds.valid, fun event member => ?_, ?_, ?_⟩
      · have old := holds.named event member
        simp only [List.length_append, List.length_singleton]
        omega
      · intro pid process present
        rcases snoc_place present with old | ⟨rfl, rfl⟩
        · exact holds.follows pid process old
        · exact .refl _ _
      · intro pid process present
        rcases snoc_place present with old | ⟨rfl, rfl⟩
        · exact holds.certified pid process old
        · refine certifies _ call _ holds.valid (fun event member => ?_)
          exact Nat.ne_of_lt (holds.named event member)
    next => exact holds
  | step pid =>
    refine advance_holds holds (fun process phase shared found stepped => ?_)
    obtain ⟨step, certified, events⟩ := phase_step holds.valid (holds.certified pid process found)
      ⟨holds.follows pid process found, undisturbed process found (stepped_live stepped)⟩ stepped
    exact ⟨step.1, certified, Or.inr events⟩
  | answer pid reply =>
    refine advance_holds holds (fun process phase shared found received => ?_)
    obtain ⟨step, certified, events⟩ := phase_receive holds.valid (holds.certified pid process found)
      ⟨holds.follows pid process found, undisturbed process found (received_live received)⟩ received
    exact ⟨step.1, certified, Or.inr events⟩
  | crash pid =>
    simp only [Machine.move]
    refine advance_holds holds (fun process phase shared found ended => ?_)
    cases ended
    exact ⟨holds.valid, trivial, Or.inl rfl⟩

theorem run_holds {machine : Machine σ ω κ α} (certifies : contract.Certifies machine) {world : World σ ω κ α}
    (holds : contract.Holds world) (moves : List (Move ω κ))
    (undisturbed : UndisturbedRun contract.rely machine world moves) :
    contract.Holds (run machine.move world moves) := by
  induction moves generalizing world with
  | nil => exact holds
  | cons move moves ih => exact ih (move_holds certifies holds move undisturbed.1) undisturbed.2

theorem Holds.initial {shared : Shared σ ω α} (valid : contract.valid shared) (quiet : shared.log = []) :
    contract.Holds { toShared := shared } :=
  ⟨valid, by simp [quiet], by simp, by simp⟩

/-- What other processes do is what a process may rely on. -/
structure Isolated (contract : Contract σ ω κ α) (machine : Machine σ ω κ α) : Prop where
  refl : ∀ pid call shared, contract.rely pid call shared shared
  trans : ∀ {pid call first second third}, contract.rely pid call first second →
    contract.rely pid call second third → contract.rely pid call first third
  cover : ∀ {pid other call beside before after}, pid ≠ other →
    machine.compatible call beside = true ∨ machine.compatible beside call = true →
    contract.guarantee pid call before after → contract.rely other beside before after

/-- Live processes run beside compatible calls and find what they rely on. -/
structure Settled (contract : Contract σ ω κ α) (machine : Machine σ ω κ α) (world : World σ ω κ α) : Prop where
  holds : contract.Holds world
  beside : ∀ (pid other : Nat) (first second : Process σ ω κ α), world.processes[pid]? = some first →
    world.processes[other]? = some second → first.live = true → second.live = true → pid < other →
    machine.compatible first.call second.call = true
  related : ∀ (pid : Nat) (process : Process σ ω κ α), world.processes[pid]? = some process → process.live = true →
    contract.rely pid process.call process.seen world.toShared

variable {machine : Machine σ ω κ α} {world : World σ ω κ α}

private theorem Settled.undisturbed (settled : Settled contract machine world) (move : Move ω κ) :
    Undisturbed contract.rely world move := by
  cases move with
  | start call => trivial
  | step pid => exact settled.related pid
  | answer pid reply => exact settled.related pid
  | crash pid => trivial

private theorem Settled.start (isolated : Isolated contract machine) (certifies : contract.Certifies machine)
    (settled : Settled contract machine world) (call : κ) : Settled contract machine (machine.move world (.start call)) := by
  have holds := move_holds certifies settled.holds (.start call) trivial
  simp only [Machine.move] at holds ⊢
  split
  next admitted =>
    rw [if_pos admitted] at holds
    refine ⟨holds, ?_, ?_⟩
    · intro pid other first second firstFound secondFound firstLive secondLive below
      rcases snoc_place secondFound with old | ⟨rfl, rfl⟩
      · rcases snoc_place firstFound with older | ⟨rfl, rfl⟩
        · exact settled.beside pid other first second older old firstLive secondLive below
        · have inside := (List.getElem?_eq_some_iff.mp old).choose
          omega
      · rcases snoc_place firstFound with older | ⟨rfl, rfl⟩
        · refine List.all_eq_true.mp admitted first.call (List.mem_map.mpr ⟨first, ?_, rfl⟩)
          exact List.mem_filter.mpr ⟨List.mem_of_getElem? older, firstLive⟩
        · omega
    · intro pid process found live
      rcases snoc_place found with old | ⟨rfl, rfl⟩
      · exact settled.related pid process old live
      · exact isolated.refl _ _ _
  next => exact settled

private theorem Settled.advance (isolated : Isolated contract machine) (settled : Settled contract machine world)
    {pid : Nat} {change : Shared σ ω α → Phase σ ω α → Option (Phase σ ω α × Shared σ ω α)}
    (holds : contract.Holds (world.advance pid change))
    (kept : ∀ process phase shared, world.processes[pid]? = some process →
      change world.toShared process.phase = some (phase, shared) → phase = .ended ∧ shared = world.toShared ∨
      process.live = true ∧ contract.guarantee pid process.call world.toShared shared) :
    Settled contract machine (world.advance pid change) := by
  unfold World.advance at holds ⊢
  cases found : world.processes[pid]? with
  | none => exact settled
  | some process =>
    cases changed : change world.toShared process.phase with
    | none => simpa only [changed] using settled
    | some pair =>
      obtain ⟨phase, shared⟩ := pair
      simp only [found, changed] at holds ⊢
      -- A process that is live after the change was live before it.
      have lived {other : Nat} {moved : Process σ ω κ α}
          (present : (world.processes.set pid { process with phase, seen := shared })[other]? = some moved)
          (live : moved.live = true) : ∃ before, world.processes[other]? = some before ∧ before.live = true ∧
            before.call = moved.call := by
        rcases set_origin present with ⟨rfl, rfl⟩ | ⟨_, old⟩
        · rcases kept process phase shared found changed with ⟨rfl, _⟩ | ⟨alive, _⟩
          · cases live
          · exact ⟨process, found, alive, rfl⟩
        · exact ⟨moved, old, live, rfl⟩
      refine ⟨holds, ?_, ?_⟩
      · intro first second one two oneFound twoFound oneLive twoLive below
        obtain ⟨oneBefore, oneOld, oneAlive, oneCall⟩ := lived oneFound oneLive
        obtain ⟨twoBefore, twoOld, twoAlive, twoCall⟩ := lived twoFound twoLive
        rw [← oneCall, ← twoCall]
        exact settled.beside first second _ _ oneOld twoOld oneAlive twoAlive below
      · intro other moved present live
        rcases set_origin present with ⟨rfl, rfl⟩ | ⟨different, old⟩
        · exact isolated.refl _ _ _
        · have before := settled.related other moved old live
          rcases kept process phase shared found changed with ⟨_, rfl⟩ | ⟨alive, guaranteed⟩
          · exact before
          · refine isolated.trans before (isolated.cover (Ne.symm different) ?_ guaranteed)
            rcases Nat.lt_or_gt_of_ne different with below | above
            · exact Or.inr (settled.beside other pid _ _ old found live alive below)
            · exact Or.inl (settled.beside pid other _ _ found old alive live above)

theorem Settled.move (isolated : Isolated contract machine) (certifies : contract.Certifies machine)
    (settled : Settled contract machine world) (move : Move ω κ) : Settled contract machine (machine.move world move) := by
  have holds := move_holds certifies settled.holds move (settled.undisturbed move)
  cases move with
  | start call => exact settled.start isolated certifies call
  | step pid =>
    refine settled.advance isolated holds (fun process phase shared found stepped => Or.inr ?_)
    have related := settled.related pid process found (stepped_live stepped)
    exact ⟨stepped_live stepped, (phase_step settled.holds.valid (settled.holds.certified pid process found)
      ⟨settled.holds.follows pid process found, related⟩ stepped).1.2⟩
  | answer pid reply =>
    refine settled.advance isolated holds (fun process phase shared found received => Or.inr ?_)
    have related := settled.related pid process found (received_live received)
    exact ⟨received_live received, (phase_receive settled.holds.valid (settled.holds.certified pid process found)
      ⟨settled.holds.follows pid process found, related⟩ received).1.2⟩
  | crash pid =>
    simp only [Machine.move] at holds ⊢
    refine settled.advance isolated holds (fun process phase shared found ended => Or.inl ?_)
    cases ended
    exact ⟨rfl, rfl⟩

/-- The invariant of an isolated contract holds after every run. -/
theorem run_valid (isolated : Isolated contract machine) (certifies : contract.Certifies machine)
    {shared : Shared σ ω α} (valid : contract.valid shared) (quiet : shared.log = []) (moves : List (Move ω κ)) :
    contract.valid (run machine.move { toShared := shared } moves).toShared := by
  have initial : Settled contract machine { toShared := shared } := ⟨.initial valid quiet, by simp, by simp⟩
  exact (run_invariant machine.move (fun _ move settled => settled.move isolated certifies move) _ moves
    initial).holds.valid

end Contract

end WebSupervisor.Library
