import Mathlib.Data.List.Sort

/-! A bounded selection by age, and rounds of it. An item that is served is young
afterwards, so that no contender is passed over between two services of another. -/

namespace WebSupervisor.Library

section Cut
variable {α κ : Type} [LinearOrder κ] {key : α → κ} {count : Nat} {items : List α} {first second : α}

/-- The items with the smallest keys, `count` of them where there are as many. -/
def oldest (key : α → κ) (count : Nat) (items : List α) : List α :=
  (items.insertionSort (fun first second => key first ≤ key second)).take count

@[simp]
theorem length_oldest : (oldest key count items).length = min count items.length := by
  simp [oldest]

theorem mem_of_oldest (chosen : first ∈ oldest key count items) : first ∈ items :=
  (List.mem_insertionSort _).mp (List.mem_of_mem_take chosen)

theorem oldest_nodup (distinct : items.Nodup) : (oldest key count items).Nodup :=
  ((List.perm_insertionSort _ items).nodup_iff.mpr distinct).sublist (List.take_sublist _ _)

theorem oldest_le (chosen : first ∈ oldest key count items) (member : second ∈ items)
    (left : second ∉ oldest key count items) : key first ≤ key second := by
  have sorted := List.pairwise_insertionSort (fun first second => key first ≤ key second) items
  have later : second ∈ (items.insertionSort (fun first second => key first ≤ key second)).drop count := by
    rw [← List.mem_insertionSort (fun first second => key first ≤ key second),
      ← List.take_append_drop count (items.insertionSort _), List.mem_append] at member
    exact member.resolve_left left
  rw [← List.take_append_drop count (items.insertionSort _), List.pairwise_append] at sorted
  exact sorted.2.2 first chosen second later

/-- As many items as are to be selected, each with a smaller key than every other
item, are the selection. -/
theorem mem_oldest_of_cut {chosen : List α} (unique : items.Nodup) (distinct : chosen.Nodup) (inside : chosen ⊆ items)
    (many : chosen.length = min count items.length)
    (cut : ∀ first ∈ chosen, ∀ second ∈ items, second ∉ chosen → key first < key second) :
    first ∈ oldest key count items ↔ first ∈ chosen := by
  have size : (oldest key count items).length = chosen.length := by rw [length_oldest, many]
  have covered : chosen ⊆ oldest key count items := by
    -- An item that is left out leaves its place to one that was not chosen.
    by_contra uncovered
    obtain ⟨missing, wanted, left⟩ : ∃ missing ∈ chosen, missing ∉ oldest key count items := by
      simpa [List.subset_def] using uncovered
    have within : oldest key count items ⊆ chosen := by
      intro taken member
      by_contra other
      exact absurd (oldest_le member (inside wanted) left)
        (not_le.mpr (cut missing wanted taken (mem_of_oldest member) other))
    exact left (((List.subperm_of_subset (oldest_nodup unique) within).perm_of_length_le size.ge).mem_iff.mpr wanted)
  exact ((List.subperm_of_subset distinct covered).perm_of_length_le size.le).mem_iff.symm

end Cut

/-- One round: its time, the items that ask to be served, and those that are. -/
structure Round (ι τ : Type) where
  now : τ
  contends : ι → Prop
  serves : ι → Prop

section Rounds
variable {ι τ : Type} [LinearOrder τ]

/-- Contenders were last served before the round, and none is passed over for a
younger one. -/
structure Round.Fair (round : Round ι τ) (stamp : ι → τ) : Prop where
  past : ∀ item, round.contends item → stamp item < round.now
  oldest : ∀ first second, round.serves first → round.contends second → ¬ round.serves second → stamp first ≤ stamp second

/-- The stamps after the round: those served bear its time. -/
def Round.Stamped (round : Round ι τ) (before after : ι → τ) : Prop :=
  ∀ item, (round.serves item → after item = round.now) ∧ (¬ round.serves item → after item = before item)

def FairRun (stamp : ι → τ) : List (Round ι τ) → Prop
  | [] => True
  | round :: rest => round.Fair stamp ∧ ∃ next, round.Stamped stamp next ∧ FairRun next rest

variable {stamp : ι → τ} {first last : Round ι τ} {between rest : List (Round ι τ)} {item other : ι}

theorem FairRun.drop {before : List (Round ι τ)} (fair : FairRun stamp (before ++ rest)) : ∃ next, FairRun next rest := by
  induction before generalizing stamp with
  | nil => exact ⟨stamp, fair⟩
  | cons round before ih =>
    obtain ⟨_, next, _, later⟩ := fair
    exact ih later

private theorem older_first {mark : τ} (fair : FairRun stamp (between ++ last :: rest)) (old : stamp other < mark)
    (young : mark ≤ stamp item) (later : ∀ round ∈ between, mark ≤ round.now)
    (waits : ∀ round ∈ between ++ [last], round.contends other ∧ ¬ round.serves other) : ¬ last.serves item := by
  induction between generalizing stamp with
  | nil =>
    intro served
    obtain ⟨contends, unserved⟩ := waits last (by simp)
    exact absurd (fair.1.oldest item other served contends unserved) (not_le.mpr (lt_of_lt_of_le old young))
  | cons round between ih =>
    obtain ⟨_, next, stamped, fair⟩ := fair
    obtain ⟨_, unserved⟩ := waits round (by simp)
    refine ih fair ?_ ?_ (fun round member => later round (by simp [member])) (fun round member => waits round (by simp_all))
    · rw [(stamped other).2 unserved]
      exact old
    · by_cases served : round.serves item
      · rw [(stamped item).1 served]
        exact later round (by simp)
      · rw [(stamped item).2 served]
        exact young

/-- Between two services of one item, every other item that contends all the time is
served as well. -/
theorem FairRun.served_between (fair : FairRun stamp (first :: between ++ last :: rest))
    (later : ∀ round ∈ between, first.now ≤ round.now) (served : first.serves item) (again : last.serves item)
    (contends : ∀ round ∈ first :: between ++ [last], round.contends other) :
    ∃ round ∈ first :: between ++ [last], round.serves other := by
  by_contra none
  push Not at none
  obtain ⟨start, next, stamped, fair⟩ := fair
  refine older_first fair ?_ (le_of_eq ((stamped item).1 served).symm) later
    (fun round member => ⟨contends round (by simp_all), none round (by simp_all)⟩) again
  rw [(stamped other).2 (none first (by simp))]
  exact start.past other (contends first (by simp))

end Rounds

end WebSupervisor.Library
