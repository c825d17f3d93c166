import Mathlib.Tactic.Common

/-! Checked computations. A function that raises is a value of `Except`; a guard
that raises is `refuse`, and a search for an early answer is `answerOr`. -/

namespace WebSupervisor.Library

variable {ε α β : Type}

/-- Raise `error` when the condition holds. -/
def refuse (bad : Prop) [Decidable bad] (error : ε) : Except ε Unit :=
  if bad then .error error else .ok ()

/-- Return the answer that an earlier check has found, otherwise continue. -/
def answerOr (found : Except ε (Option α)) (rest : Except ε α) : Except ε α :=
  match found with
  | .error error => .error error
  | .ok (some answer) => .ok answer
  | .ok none => rest

@[simp]
theorem refuse_eq_ok (bad : Prop) [Decidable bad] (error : ε) (value : Unit) :
    refuse bad error = .ok value ↔ ¬ bad := by
  unfold refuse
  split <;> simp_all

@[simp]
theorem refuse_eq_error (bad : Prop) [Decidable bad] (error raised : ε) :
    refuse bad error = .error raised ↔ bad ∧ error = raised := by
  unfold refuse
  split <;> simp_all

@[simp]
theorem bind_eq_ok (first : Except ε α) (next : α → Except ε β) (value : β) :
    (first >>= next) = .ok value ↔ ∃ middle, first = .ok middle ∧ next middle = .ok value := by
  cases first <;> simp [bind, Except.bind]

@[simp]
theorem bind_eq_error (first : Except ε α) (next : α → Except ε β) (raised : ε) :
    (first >>= next) = .error raised ↔
      first = .error raised ∨ ∃ middle, first = .ok middle ∧ next middle = .error raised := by
  cases first <;> simp [bind, Except.bind]

/-- A loop of checks passes when every round does. -/
theorem forM_eq_ok {items : List α} {check : α → Except ε Unit} :
    items.forM check = .ok () ↔ ∀ item ∈ items, check item = .ok () := by
  induction items with
  | nil => simp [pure, Except.pure]
  | cons item items ih =>
    rw [List.forall_mem_cons, ← ih]
    refine (bind_eq_ok (check item) (fun _ => items.forM check) ()).trans ?_
    exact ⟨fun ⟨⟨⟩, first, rest⟩ => ⟨first, rest⟩, fun ⟨first, rest⟩ => ⟨(), first, rest⟩⟩

/-- A loop that maps each item has an image for every item and no other. -/
theorem mapM_eq_ok {items : List α} {convert : α → Except ε β} {images : List β}
    (mapped : items.mapM convert = .ok images) :
    (∀ item ∈ items, ∃ image ∈ images, convert item = .ok image) ∧
    ∀ image ∈ images, ∃ item ∈ items, convert item = .ok image := by
  induction items generalizing images with
  | nil =>
    rw [List.mapM_nil] at mapped
    cases mapped
    simp
  | cons item items ih =>
    rw [List.mapM_cons, bind_eq_ok] at mapped
    obtain ⟨image, first, rest⟩ := mapped
    rw [bind_eq_ok] at rest
    obtain ⟨images, looped, same⟩ := rest
    cases same
    obtain ⟨forward, backward⟩ := ih looped
    refine ⟨List.forall_mem_cons.mpr ⟨⟨image, List.mem_cons_self, first⟩, fun other member => ?_⟩,
      List.forall_mem_cons.mpr ⟨⟨item, List.mem_cons_self, first⟩, fun other member => ?_⟩⟩
    · obtain ⟨found, inside, converted⟩ := forward other member
      exact ⟨found, List.mem_cons_of_mem _ inside, converted⟩
    · obtain ⟨found, inside, converted⟩ := backward other member
      exact ⟨found, List.mem_cons_of_mem _ inside, converted⟩

end WebSupervisor.Library
