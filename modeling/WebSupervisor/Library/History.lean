import WebSupervisor.Library.Program

/-! Logs as histories of the store. The commits of a log lead from the store a
run started with to the present one, so that whatever has changed has been
changed by a commit of the log. -/

namespace WebSupervisor.Library

variable {σ ρ : Type} {ω : ρ → Type} {κ α : Type}

def Linked (start : σ) : List (Event σ ω α) → σ → Prop
  | [], store => store = start
  | .committed _ before after :: log, store => store = after ∧ Linked start log before
  | .issued _ _ found :: log, store => found = store ∧ Linked start log store
  | .answered .. :: log, store => Linked start log store
  | .returned .. :: log, store => Linked start log store

/-- The store before and after an event. -/
def Event.Leads : Event σ ω α → σ → σ → Prop
  | .committed _ before after, first, last => first = before ∧ last = after
  | .issued _ _ found, first, last => first = found ∧ last = found
  | .answered .., first, last => first = last
  | .returned .., first, last => first = last

namespace Linked
variable {start store : σ} {log newer older : List (Event σ ω α)}

theorem became {shared : Shared σ ω α} (linked : Linked start shared.log shared.store) (pid : Nat) (after : σ) :
    Linked start (shared.became pid after).log (shared.became pid after).store :=
  ⟨rfl, linked⟩

theorem issue {shared : Shared σ ω α} (linked : Linked start shared.log shared.store) (pid : Nat) (request : ρ) :
    Linked start (shared.issue pid request).log (shared.issue pid request).store :=
  ⟨rfl, linked⟩

/-- A log can be cut at any event. -/
theorem split (linked : Linked start (newer ++ older) store) :
    ∃ middle, Linked start older middle ∧ Linked middle newer store := by
  induction newer generalizing store with
  | nil => exact ⟨store, linked, rfl⟩
  | cons event newer ih =>
    cases event with
    | committed pid before after =>
      obtain ⟨same, rest⟩ := linked
      obtain ⟨middle, first, last⟩ := ih rest
      exact ⟨middle, first, same, last⟩
    | issued pid request found =>
      obtain ⟨same, rest⟩ := linked
      obtain ⟨middle, first, last⟩ := ih rest
      exact ⟨middle, first, same, last⟩
    | answered pid request answer => exact ih linked
    | returned pid value => exact ih linked

/-- What no commit of the log makes false stays true. -/
theorem stays {holds : σ → Prop} (linked : Linked start log store) (initial : holds start)
    (kept : ∀ pid before after, .committed pid before after ∈ log → holds before → holds after) : holds store := by
  induction log generalizing store with
  | nil => exact linked ▸ initial
  | cons event log ih =>
    have earlier {middle : σ} (rest : Linked start log middle) : holds middle :=
      ih rest (fun pid before after member => kept pid before after (List.mem_cons_of_mem _ member))
    cases event with
    | committed pid before after =>
      obtain ⟨rfl, rest⟩ := linked
      exact kept pid before _ (List.mem_cons_self ..) (earlier rest)
    | issued pid request found => exact earlier linked.2
    | answered pid request answer => exact earlier linked
    | returned pid value => exact earlier linked

/-- What was true and is false has been made false by a commit. -/
theorem crossing {holds : σ → Prop} (linked : Linked start log store) (initial : holds start) (fails : ¬ holds store) :
    ∃ pid before after, .committed pid before after ∈ log ∧ holds before ∧ ¬ holds after := by
  by_contra none
  refine fails (linked.stays initial (fun pid before after member earlier => ?_))
  by_contra broken
  exact none ⟨pid, before, after, member, earlier, broken⟩

/-- From a commit to the present. -/
theorem since {pid : Nat} {before after : σ} (linked : Linked start (newer ++ .committed pid before after :: older) store) :
    Linked after newer store := by
  obtain ⟨middle, ⟨same, _⟩, rest⟩ := linked.split
  exact same ▸ rest

/-- From one commit to the next. -/
theorem between {first second : Nat} {before after found left : σ} {middle : List (Event σ ω α)}
    (linked : Linked start
      (newer ++ .committed second found left :: (middle ++ .committed first before after :: older)) store) :
    Linked after middle found := by
  obtain ⟨_, ⟨_, rest⟩, _⟩ := linked.split
  exact rest.since

/-- A log leads to one store. -/
theorem unique {first second : σ} (one : Linked start log first) (two : Linked start log second) : first = second := by
  induction log with
  | nil => exact one.trans two.symm
  | cons event log ih =>
    cases event with
    | committed pid before after => exact one.1.trans two.1.symm
    | issued pid request found => exact one.1.symm.trans two.1
    | answered pid request answer => exact ih one two
    | returned pid value => exact ih one two

/-- From an earlier moment to a later one. -/
theorem resume {first : σ} (earlier : Linked start older first) (later : Linked start (newer ++ older) store) :
    Linked first newer store := by
  obtain ⟨middle, reached, rest⟩ := later.split
  exact earlier.unique reached ▸ rest

/-- What every newer event carries on holds at the end. -/
theorem carry {knows : σ → List (Event σ ω α) → Prop} {first : σ} (earlier : Linked start older first)
    (later : Linked start (newer ++ older) store) (initial : knows first older)
    (step : ∀ event ∈ newer, ∀ log before after, event.Leads before after → knows before log →
      knows after (event :: log)) : knows store (newer ++ older) := by
  induction newer generalizing store with
  | nil => exact earlier.unique later ▸ initial
  | cons event newer ih =>
    have before {middle : σ} (rest : Linked start (newer ++ older) middle) : knows middle (newer ++ older) :=
      ih rest (fun event member => step event (List.mem_cons_of_mem _ member))
    have last := step event (List.mem_cons_self ..) (newer ++ older)
    cases event with
    | committed pid found left =>
      obtain ⟨rfl, rest⟩ := later
      exact last found store ⟨rfl, rfl⟩ (before rest)
    | issued pid request found =>
      obtain ⟨rfl, rest⟩ := later
      exact last found found ⟨rfl, rfl⟩ (before rest)
    | answered pid request answer => exact last store store rfl (before later)
    | returned pid value => exact last store store rfl (before later)

end Linked

section Extends
variable {machine : Machine σ ω κ α}

private theorem advance_extends (world : World σ ω κ α) (pid : Nat)
    {change : Shared σ ω α → Phase σ ω α → Option (Phase σ ω α × Shared σ ω α)}
    (grows : ∀ phase next shared, change world.toShared phase = some (next, shared) → world.log <:+ shared.log) :
    world.log <:+ (world.advance pid change).log := by
  unfold World.advance
  split
  next => exact List.suffix_rfl
  next process found =>
    split
    next => exact List.suffix_rfl
    next phase shared changed => exact grows process.phase phase shared changed

theorem move_extends (world : World σ ω κ α) (move : Move ω κ) : world.log <:+ (machine.move world move).log := by
  cases move with
  | start call =>
    simp only [Machine.move]
    split <;> exact List.suffix_rfl
  | step pid =>
    refine advance_extends world pid (fun phase next shared stepped => ?_)
    unfold Process.step at stepped
    split at stepped <;> cases stepped <;> exact List.suffix_cons ..
  | answer pid reply =>
    refine advance_extends world pid (fun phase next shared received => ?_)
    unfold Process.receive at received
    split at received <;> cases received
    exact List.suffix_cons ..
  | crash pid =>
    refine advance_extends world pid (fun phase next shared ended => ?_)
    cases ended
    exact List.suffix_rfl

/-- A run only adds to the log. -/
theorem run_extends (world : World σ ω κ α) (moves : List (Move ω κ)) :
    world.log <:+ (run machine.move world moves).log :=
  @run_grows _ _ machine.move (fun _ => True) (fun before after => before.log <:+ after.log)
    (fun _ => List.suffix_rfl) (fun one two => one.trans two) (fun _ _ _ => trivial)
    (fun world move _ => move_extends world move) world moves trivial

end Extends

/-- Every event finds its reason in the events before it. -/
def Justified {τ : Type} (reason : τ → List τ → Prop) (log : List τ) : Prop :=
  ∀ newer event older, log = newer ++ event :: older → reason event older

namespace Justified
variable {τ : Type} {reason : τ → List τ → Prop} {log : List τ} {event : τ}

theorem nil : Justified reason [] := by
  intro newer event older split
  simp at split

theorem cons (justified : Justified reason log) (new : reason event log) : Justified reason (event :: log) := by
  intro newer found older split
  cases newer with
  | nil =>
    cases split
    exact new
  | cons head newer =>
    cases split
    exact justified newer found older rfl

theorem cons_iff : Justified reason (event :: log) ↔ reason event log ∧ Justified reason log := by
  refine ⟨fun justified => ⟨justified [] event log rfl, fun newer found older split => ?_⟩, fun both => cons both.2 both.1⟩
  exact justified (event :: newer) found older (by rw [split]; rfl)

instance decidable [∀ event older, Decidable (reason event older)] : (log : List τ) → Decidable (Justified reason log)
  | [] => .isTrue nil
  | event :: log =>
    have := decidable log
    decidable_of_iff (reason event log ∧ Justified reason log) cons_iff.symm

theorem of_append {newer older : List τ} (justified : Justified reason (newer ++ older)) : Justified reason older := by
  induction newer with
  | nil => exact justified
  | cons event newer ih => exact ih (cons_iff.mp justified).2

theorem of_mem (justified : Justified reason log) (member : event ∈ log) :
    ∃ newer older, log = newer ++ event :: older ∧ reason event older := by
  obtain ⟨newer, older, split⟩ := List.append_of_mem member
  exact ⟨newer, older, split, justified newer event older split⟩

/-- An event that needs that none of its kind came before happens once. -/
theorem once {kind : τ → Bool} (justified : Justified reason log)
    (first : ∀ event older, reason event older → kind event = true → ∀ old ∈ older, kind old = false) :
    log.countP kind ≤ 1 := by
  induction log with
  | nil => simp
  | cons event log ih =>
    have rest := ih (cons_iff.mp justified).2
    by_cases matching : kind event = true
    · have none : log.countP kind = 0 := by
        rw [List.countP_eq_zero]
        intro old member
        simp [first event log (justified [] event log rfl) matching old member]
      have one := List.countP_cons_of_pos (l := log) matching
      omega
    · rw [List.countP_cons_of_neg matching]
      exact rest

end Justified

end WebSupervisor.Library
