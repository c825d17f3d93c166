import Mathlib.Tactic.Common

/-! Runs of a machine whose calls are total on states: a failed call returns
the state it was given. Invariants and orders proved for one call extend to
every run, and a run can be cut at any point. -/

namespace WebSupervisor.Library

variable {σ κ : Type} (step : σ → κ → σ)

def run (state : σ) (calls : List κ) : σ := calls.foldl step state

@[simp]
theorem run_nil (state : σ) : run step state [] = state := rfl

@[simp]
theorem run_cons (state : σ) (call : κ) (calls : List κ) :
    run step state (call :: calls) = run step (step state call) calls := rfl

@[simp]
theorem run_append (state : σ) (first last : List κ) :
    run step state (first ++ last) = run step (run step state first) last :=
  List.foldl_append ..

theorem run_invariant {valid : σ → Prop} (kept : ∀ state call, valid state → valid (step state call))
    (state : σ) (calls : List κ) (initial : valid state) : valid (run step state calls) := by
  induction calls generalizing state with
  | nil => exact initial
  | cons call calls ih => exact ih (step state call) (kept state call initial)

/-- A reflexive and transitive relation that every call respects from a valid
state relates the two ends of a run. -/
theorem run_grows {valid : σ → Prop} {grows : σ → σ → Prop}
    (refl : ∀ state, grows state state)
    (trans : ∀ {a b c}, grows a b → grows b c → grows a c)
    (kept : ∀ state call, valid state → valid (step state call))
    (growth : ∀ state call, valid state → grows state (step state call))
    (state : σ) (calls : List κ) (initial : valid state) : grows state (run step state calls) := by
  induction calls generalizing state with
  | nil => exact refl state
  | cons call calls ih =>
    exact trans (growth state call initial) (ih (step state call) (kept state call initial))

end WebSupervisor.Library
