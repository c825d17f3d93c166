import Mathlib.Logic.Relation
import Mathlib.Tactic.Common

/-! Items with at most one parent each. The parents form a forest when following
them never comes back to an item. -/

namespace WebSupervisor.Library

open Relation

variable {κ : Type} {parent grown : κ → Option κ} {item : κ}

/-- One step from an item to its parent. -/
def ParentOf (parent : κ → Option κ) (child above : κ) : Prop := parent child = some above

def Forest (parent : κ → Option κ) : Prop := ∀ item, ¬ TransGen (ParentOf parent) item item

private theorem above_before (others : ∀ other, other ≠ item → grown other = parent other) {start : κ}
    (path : ReflTransGen (ParentOf grown) start item) : ReflTransGen (ParentOf parent) start item := by
  induction path using ReflTransGen.head_induction_on with
  | refl => exact .refl
  | @head first second step _ ih =>
    by_cases same : first = item
    · exact same ▸ .refl
    · exact .head ((others first same).symm.trans step) ih

private theorem path_cases (others : ∀ other, other ≠ item → grown other = parent other) {start last : κ}
    (path : TransGen (ParentOf grown) start last) :
    TransGen (ParentOf parent) start last ∨
      ReflTransGen (ParentOf grown) start item ∧
        ∃ above, grown item = some above ∧ ReflTransGen (ParentOf grown) above last := by
  induction path using TransGen.head_induction_on with
  | @single first step =>
    by_cases same : first = item
    · subst same
      exact Or.inr ⟨.refl, last, step, .refl⟩
    · exact Or.inl (.single ((others first same).symm.trans step))
  | @head first second step rest ih =>
    by_cases same : first = item
    · subst same
      exact Or.inr ⟨.refl, second, step, rest.to_reflTransGen⟩
    · rcases ih with old | ⟨toItem, fromItem⟩
      · exact Or.inl (.head ((others first same).symm.trans step) old)
      · exact Or.inr ⟨.head step toItem, fromItem⟩

/-- An item gets a parent from which the old parents do not lead back to it. -/
theorem Forest.grow (forest : Forest parent) (others : ∀ other, other ≠ item → grown other = parent other)
    (apart : ∀ above, grown item = some above → ¬ ReflTransGen (ParentOf parent) above item) : Forest grown := by
  intro start cycle
  rcases path_cases others cycle with old | ⟨toItem, above, chosen, back⟩
  · exact forest start old
  · exact apart above chosen (above_before others (back.trans toItem))

/-- Nothing leads to an item that is nobody's parent. -/
theorem not_above_of_unused (unused : ∀ child, parent child ≠ some item) {start : κ} (other : start ≠ item) :
    ¬ ReflTransGen (ParentOf parent) start item := by
  intro path
  rcases path.cases_tail with same | ⟨child, _, step⟩
  · exact other same.symm
  · exact unused child step

/-- Nothing but itself is above an item without a parent. -/
theorem not_above_of_top {start : κ} (top : parent start = none) (other : start ≠ item) :
    ¬ ReflTransGen (ParentOf parent) start item := by
  intro path
  rcases path.cases_head with same | ⟨above, step, _⟩
  · exact other same
  · cases top.symm.trans step

end WebSupervisor.Library
