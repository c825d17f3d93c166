import Mathlib.Data.List.DropRight
import Mathlib.Data.List.Sort

/-! A table of samples that keeps the newest rows of each entity. Rows stand in
the order in which they were inserted; a sample is newer than another one by its
time, and by its place where the times are equal. -/

namespace WebSupervisor.Library

section
variable {ρ κ τ : Type} [DecidableEq κ] [LinearOrder τ] (entity : ρ → κ) (time : ρ → τ)

/-- The samples of one entity, oldest first. -/
def samples (wanted : κ) (rows : List ρ) : List ρ := rows.filter (fun row => entity row = wanted)

/-- The samples of one entity with their places. -/
def placed (wanted : κ) (rows : List ρ) : List (ρ × Nat) :=
  rows.zipIdx.filter (fun row => entity row.1 = wanted)

def newestFirst (rows : List (ρ × Nat)) : List (ρ × Nat) :=
  rows.reverse.insertionSort (fun first second => time second.1 ≤ time first.1)

/-- `SELECT … ORDER BY time DESC, id DESC LIMIT limit`. -/
def newest (wanted : κ) (limit : Nat) (rows : List ρ) : List ρ :=
  ((newestFirst time (placed entity wanted rows)).take limit).map Prod.fst

/-- `DELETE` of the samples of the entity that are not among the newest. -/
def retain (wanted : κ) (limit : Nat) (rows : List ρ) : List ρ :=
  let kept := ((newestFirst time (placed entity wanted rows)).take limit).map Prod.snd
  (rows.zipIdx.filter (fun row => entity row.1 ≠ wanted ∨ row.2 ∈ kept)).map Prod.fst

/-- Insert a sample and delete what is too old of its entity. -/
def record (limit : Nat) (rows : List ρ) (row : ρ) : List ρ := retain entity time (entity row) limit (rows ++ [row])

end

variable {ρ κ τ : Type} [DecidableEq κ] [LinearOrder τ] {entity : ρ → κ} {time : ρ → τ} {wanted : κ} {rows : List ρ}
  {limit : Nat}

/-- Every sample of the list is newer than the ones before it. -/
def Increasing (time : ρ → τ) (rows : List ρ) : Prop := rows.Pairwise (fun first second => time first < time second)

private theorem filter_places (test : ρ → Bool) :
    (rows.zipIdx.filter (fun row => test row.1)).map Prod.fst = rows.filter test := by
  conv_rhs => rw [← List.zipIdx_map_fst 0 rows, List.filter_map]
  rfl

instance increasingDecidable : Decidable (Increasing time rows) :=
  inferInstanceAs (Decidable (rows.Pairwise (fun first second => time first < time second)))

theorem placed_samples : (placed entity wanted rows).map Prod.fst = samples entity wanted rows :=
  filter_places (fun row => decide (entity row = wanted))

theorem newestFirst_increasing (increasing : Increasing time (samples entity wanted rows)) :
    newestFirst time (placed entity wanted rows) = (placed entity wanted rows).reverse := by
  rw [← placed_samples, Increasing, List.pairwise_map] at increasing
  refine List.Pairwise.insertionSort_eq ?_
  rw [List.pairwise_reverse]
  exact increasing.imp le_of_lt

theorem newest_increasing (increasing : Increasing time (samples entity wanted rows)) :
    newest entity time wanted limit rows = (samples entity wanted rows).reverse.take limit := by
  unfold newest
  rw [newestFirst_increasing increasing, List.map_take, List.map_reverse, placed_samples]

private theorem samples_deleted (other : κ) (kept : List Nat) :
    samples entity other ((rows.zipIdx.filter (fun row => entity row.1 ≠ wanted ∨ row.2 ∈ kept)).map Prod.fst) =
      ((placed entity other rows).filter (fun row => entity row.1 ≠ wanted ∨ row.2 ∈ kept)).map Prod.fst := by
  unfold samples placed
  rw [List.filter_map, List.filter_filter, List.filter_filter]
  congr 2
  funext row
  rw [Bool.and_comm]
  rfl

/-- Samples of other entities stay. -/
theorem samples_retain_other {other : κ} (different : other ≠ wanted) :
    samples entity other (retain entity time wanted limit rows) = samples entity other rows := by
  unfold retain
  rw [samples_deleted, List.filter_eq_self.mpr, placed_samples]
  intro row member
  have own : entity row.1 = other := by simpa using (List.mem_filter.mp member).2
  simp [own, different]

private theorem placed_nodup : ((placed entity wanted rows).map Prod.snd).Nodup := by
  have sub := (List.filter_sublist (p := fun row => decide (entity row.1 = wanted)) (l := rows.zipIdx)).map Prod.snd
  refine List.Nodup.sublist sub ?_
  rw [List.zipIdx_map_snd]
  exact List.nodup_range'

private theorem filter_last {places : List (ρ × Nat)} (distinct : (places.map Prod.snd).Nodup) :
    places.filter (fun row => row.2 ∈ (places.reverse.take limit).map Prod.snd) = places.rtake limit := by
  set back := places.rtake limit with backIs
  have split : places.rdrop limit ++ back = places := List.take_append_drop _ _
  have last : places.reverse.take limit = back.reverse := by
    rw [backIs, List.rtake_eq_reverse_take_reverse, List.reverse_reverse]
  rw [last]
  conv_lhs => rw [← split]
  rw [← split, List.map_append] at distinct
  have apart := (List.nodup_append.mp distinct).2.2
  rw [List.filter_append, List.filter_eq_nil_iff.mpr, List.filter_eq_self.mpr, List.nil_append]
  · intro row member
    simp only [decide_eq_true_eq]
    exact List.mem_map.mpr ⟨row, List.mem_reverse.mpr member, rfl⟩
  · intro row member found
    simp only [decide_eq_true_eq] at found
    obtain ⟨other, present, same⟩ := List.mem_map.mp found
    exact apart row.2 (List.mem_map.mpr ⟨row, member, rfl⟩) other.2
      (List.mem_map.mpr ⟨other, List.mem_reverse.mp present, rfl⟩) same.symm

/-- Of the entity itself the newest samples stay. -/
theorem samples_retain (increasing : Increasing time (samples entity wanted rows)) :
    samples entity wanted (retain entity time wanted limit rows) = (samples entity wanted rows).rtake limit := by
  unfold retain
  rw [samples_deleted, newestFirst_increasing increasing]
  have own : (placed entity wanted rows).filter (fun row => entity row.1 ≠ wanted ∨
      row.2 ∈ ((placed entity wanted rows).reverse.take limit).map Prod.snd) =
      (placed entity wanted rows).filter
        (fun row => row.2 ∈ ((placed entity wanted rows).reverse.take limit).map Prod.snd) := by
    refine List.filter_congr (fun row member => ?_)
    have named : entity row.1 = wanted := by simpa using (List.mem_filter.mp member).2
    simp [named]
  rw [own, filter_last placed_nodup, ← placed_samples, List.rtake, List.rtake, List.map_drop, List.length_map]

private theorem rtake_rtake_concat (seen : List ρ) (row : ρ) :
    (seen.rtake limit ++ [row]).rtake limit = (seen ++ [row]).rtake limit := by
  rcases limit with _ | limit
  · simp
  · rw [List.rtake_concat_succ, List.rtake_concat_succ, List.rtake_eq_reverse_take_reverse,
      List.rtake_eq_reverse_take_reverse, List.rtake_eq_reverse_take_reverse, List.reverse_reverse, List.take_take,
      Nat.min_eq_left (Nat.le_succ limit)]

/-- After any number of records, an entity whose samples came in order has its
newest ones, whatever was recorded for others. -/
theorem samples_recorded {start calls : List ρ} (fresh : samples entity wanted start = [])
    (increasing : Increasing time (samples entity wanted calls)) :
    samples entity wanted (calls.foldl (record entity time limit) start) = (samples entity wanted calls).rtake limit := by
  induction calls using List.reverseRecOn with
  | nil => simpa [samples] using fresh
  | append_singleton calls row ih =>
    have appended : samples entity wanted (calls ++ [row]) =
        samples entity wanted calls ++ samples entity wanted [row] := List.filter_append ..
    rw [appended] at increasing ⊢
    have before := ih (List.pairwise_append.mp increasing).1
    rw [List.foldl_concat, record]
    have grown : samples entity wanted (calls.foldl (record entity time limit) start ++ [row]) =
        (samples entity wanted calls).rtake limit ++ samples entity wanted [row] := by
      rw [← before]
      exact List.filter_append ..
    by_cases own : entity row = wanted
    · have single : samples entity wanted [row] = [row] := by simp [samples, own]
      rw [single] at grown increasing ⊢
      rw [own, samples_retain, grown, rtake_rtake_concat]
      rw [grown]
      exact increasing.sublist (List.Sublist.append_right (List.drop_sublist _ _) _)
    · have none : samples entity wanted [row] = [] := by simp [samples, own]
      rw [samples_retain_other (Ne.symm own), grown, none, List.append_nil, List.append_nil]

end WebSupervisor.Library
