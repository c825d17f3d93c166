import WebSupervisor.Library.History

/-! Services whose calls are atomic: a call commits and returns a value, or it
raises and leaves the store as it was. A journal keeps what every call has
returned, latest first. -/

namespace WebSupervisor.Library

variable {σ κ ε α : Type}

structure Entry (κ ε α : Type) where
  call : κ
  result : Except ε α

structure Journaled (σ κ ε α : Type) where
  store : σ
  journal : List (Entry κ ε α) := []

namespace Journaled

/-- Make one call and note its result. -/
def perform (work : κ → σ → Except ε (α × σ)) (state : Journaled σ κ ε α) (call : κ) : Journaled σ κ ε α :=
  match work call state.store with
  | .ok (value, next) => { store := next, journal := { call, result := .ok value } :: state.journal }
  | .error error => { store := state.store, journal := { call, result := .error error } :: state.journal }

variable {work : κ → σ → Except ε (α × σ)} {state : Journaled σ κ ε α} {call : κ}

/-- What holds before a call holds after it when both outcomes keep it. -/
theorem perform_keeps {valid : Journaled σ κ ε α → Prop}
    (committed : ∀ value next, work call state.store = .ok (value, next) →
      valid { store := next, journal := { call, result := .ok value } :: state.journal })
    (raised : ∀ error, work call state.store = .error error →
      valid { store := state.store, journal := { call, result := .error error } :: state.journal }) :
    valid (state.perform work call) := by
  unfold perform
  cases result : work call state.store with
  | error error => exact raised error result
  | ok pair => exact committed pair.1 pair.2 result

variable (work)

/-- The entry is what the call did between the two stores. -/
def Did (before : σ) (entry : Entry κ ε α) (after : σ) : Prop :=
  (∃ value, work entry.call before = .ok (value, after) ∧ entry.result = .ok value) ∨
    ∃ error, work entry.call before = .error error ∧ entry.result = .error error ∧ after = before

/-- The entries lead from one store to another. -/
def Led (start : σ) : List (Entry κ ε α) → σ → Prop
  | [], store => store = start
  | entry :: older, store => ∃ before, Did work before entry store ∧ Led start older before

theorem run_led (start : σ) (calls : List κ) :
    Led work start (run (perform work) { store := start } calls).journal
      (run (perform work) { store := start } calls).store := by
  refine @run_invariant _ _ (perform work) (fun state => Led work start state.journal state.store)
    (fun state call led => ?_) _ calls rfl
  refine @perform_keeps _ _ _ _ work state call (fun state => Led work start state.journal state.store)
    (fun value next done => ?_) (fun error raised => ?_)
  · exact ⟨state.store, Or.inl ⟨value, done, rfl⟩, led⟩
  · exact ⟨state.store, Or.inr ⟨error, raised, rfl, rfl⟩, led⟩

/-- The journal names the calls, latest first. -/
theorem run_calls (start : σ) (calls : List κ) :
    (run (perform work) { store := start } calls).journal.map (·.call) = calls.reverse := by
  have general (state : Journaled σ κ ε α) : (run (perform work) state calls).journal.map (·.call) =
      calls.reverse ++ state.journal.map (·.call) := by
    induction calls generalizing state with
    | nil => rfl
    | cons call calls ih =>
      rw [run_cons, ih, List.reverse_cons, List.append_assoc, List.singleton_append]
      congr 1
      unfold perform
      split <;> rfl
  rw [general, List.map_nil, List.append_nil]

variable {work} {start store : σ} {journal newer older : List (Entry κ ε α)}

theorem Led.split (led : Led work start (newer ++ older) store) :
    ∃ middle, Led work start older middle ∧ Led work middle newer store := by
  induction newer generalizing store with
  | nil => exact ⟨store, led, rfl⟩
  | cons entry newer ih =>
    obtain ⟨before, done, rest⟩ := led
    obtain ⟨middle, first, last⟩ := ih rest
    exact ⟨middle, first, before, done, last⟩

/-- The stores around an entry and around a later one. -/
theorem Led.between {middle : List (Entry κ ε α)} {first second : Entry κ ε α}
    (led : Led work start (newer ++ second :: (middle ++ first :: older)) store) :
    ∃ before after found left, Did work before first after ∧ Led work after middle found ∧ Did work found second left := by
  obtain ⟨left, ⟨found, last, rest⟩, _⟩ := led.split
  obtain ⟨after, ⟨before, done, _⟩, between⟩ := rest.split
  exact ⟨before, after, found, left, done, between, last⟩

/-- What no longer holds was ended by an entry. -/
theorem Led.ended {holds : σ → Prop} (led : Led work start journal store) (initial : holds start) :
    holds store ∨ ∃ newer entry older before after, journal = newer ++ entry :: older ∧ holds before ∧
      Did work before entry after ∧ ¬ holds after ∧ Led work after newer store := by
  induction journal generalizing store with
  | nil =>
    cases led
    exact Or.inl initial
  | cons entry older ih =>
    obtain ⟨before, done, rest⟩ := led
    rcases ih rest with held | ⟨newer, first, oldest, found, left, rfl, held, ended, gone, later⟩
    · by_cases still : holds store
      · exact Or.inl still
      · exact Or.inr ⟨[], entry, older, before, store, rfl, held, done, still, rfl⟩
    · exact Or.inr ⟨entry :: newer, first, oldest, found, left, rfl, held, ended, gone, before, done, later⟩

end Journaled

end WebSupervisor.Library
