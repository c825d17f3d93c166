import WebSupervisor.BrowserPool
import WebSupervisor.Library.Runs

/-! The rotation of the probe targets. Those of the highest priority take turns: while
the clock goes on, as many probes in a row as there are of them visit each one once.
The others are not visited. -/

namespace WebSupervisor.BrowserPool.Proofs
open Library

/-- The targets that no other one exceeds in priority. -/
def foremostTargets (pool : PagePool) : List ProbeTarget :=
  pool.probeTargets.rows.filter (fun target => ∀ other ∈ pool.probeTargets.rows, other.priority ≤ target.priority)

def foremost (pool : PagePool) : List String := (foremostTargets pool).map (·.workerId)

/-- The time of the last probe, before every time when there was none. -/
def stamp (target : ProbeTarget) : WithBot Time := target.lastProbedAt

variable {pool : PagePool} {target other : ProbeTarget} {workerId : String} {now mark : Time}

private theorem probeKey_priority (higher : other.priority < target.priority) : probeKey target < probeKey other := by
  refine Prod.Lex.toLex_lt_toLex.mpr (.inl ?_)
  simp only
  omega

private theorem probeKey_stamp (same : target.priority = other.priority) (older : stamp target < stamp other) :
    probeKey target < probeKey other := by
  refine Prod.Lex.toLex_lt_toLex.mpr (.inr ⟨by rw [same], ?_⟩)
  cases recent : other.lastProbedAt with
  | none =>
    rw [stamp, stamp, recent] at older
    exact absurd older not_lt_bot
  | some last =>
    cases past : target.lastProbedAt with
    | none => exact Prod.Lex.toLex_lt_toLex.mpr (.inl (by simp))
    | some first =>
      rw [stamp, stamp, recent, past] at older
      exact Prod.Lex.toLex_lt_toLex.mpr (.inr ⟨rfl, Prod.Lex.toLex_lt_toLex.mpr (.inl older)⟩)

theorem nextProbeTarget_least (next : nextProbeTarget pool = some target) :
    target ∈ pool.probeTargets ∧ ∀ other ∈ pool.probeTargets, probeKey target ≤ probeKey other := by
  have first : target ∈ oldest probeKey 1 pool.probeTargets.rows := List.mem_of_head? next
  refine ⟨mem_of_oldest first, fun other member => ?_⟩
  by_cases chosen : other ∈ oldest probeKey 1 pool.probeTargets.rows
  · obtain ⟨rest, alone⟩ := List.head?_eq_some_iff.mp next
    have few : (oldest probeKey 1 pool.probeTargets.rows).length ≤ 1 := by simp
    rw [alone, List.length_cons] at few
    have nothing : rest = [] := List.length_eq_zero_iff.mp (by omega)
    rw [alone, nothing, List.mem_singleton] at chosen
    exact le_of_eq (congrArg probeKey chosen.symm)
  · exact oldest_le first member chosen

theorem nextProbeTarget_none (next : nextProbeTarget pool = none) : target ∉ pool.probeTargets := by
  intro member
  have empty : (oldest probeKey 1 pool.probeTargets.rows).length = 0 := by
    rw [List.head?_eq_none_iff.mp next, List.length_nil]
  rw [length_oldest] at empty
  have some : 0 < pool.probeTargets.rows.length := List.length_pos_of_mem member
  omega

theorem mem_foremost : workerId ∈ foremost pool ↔
    ∃ target ∈ pool.probeTargets, target.workerId = workerId ∧
      ∀ other ∈ pool.probeTargets, other.priority ≤ target.priority := by
  simp only [foremost, foremostTargets, List.mem_map, List.mem_filter, decide_eq_true_eq, Table.mem_def]
  constructor
  · rintro ⟨target, ⟨member, top⟩, named⟩
    exact ⟨target, member, named, top⟩
  · rintro ⟨target, member, named, top⟩
    exact ⟨target, ⟨member, top⟩, named⟩

theorem foremost_nodup (pool : PagePool) : (foremost pool).Nodup :=
  (List.filter_sublist.map _).nodup pool.probeTargets.distinct

/-- The next target is one of the highest priority. -/
theorem next_foremost (next : nextProbeTarget pool = some target) : target.workerId ∈ foremost pool := by
  obtain ⟨member, least⟩ := nextProbeTarget_least next
  refine mem_foremost.mpr ⟨target, member, rfl, fun other present => not_lt.mp fun higher => ?_⟩
  exact absurd (least other present) (not_le.mpr (probeKey_priority higher))

/-- A probe leaves the targets with a new time for the one that it visits. -/
theorem mem_probe (next : nextProbeTarget pool = some target) :
    other ∈ (probe pool now).probeTargets ↔
      other = { target with lastProbedAt := some now } ∨
        other ∈ pool.probeTargets ∧ other.workerId ≠ target.workerId := by
  have found : pool.probeTargets.find? target.workerId = some target :=
    Table.find?_some.mpr ⟨(nextProbeTarget_least next).1, rfl⟩
  simp only [probe, next, markProbed, found]
  exact Table.mem_upsert

theorem mem_foremost_probe (pool : PagePool) (now : Time) :
    workerId ∈ foremost (probe pool now) ↔ workerId ∈ foremost pool := by
  cases next : nextProbeTarget pool with
  | none => simp only [probe, next]
  | some target =>
    have member := (nextProbeTarget_least next).1
    have priorities (bound : Int) : (∀ other ∈ (probe pool now).probeTargets, other.priority ≤ bound) ↔
        ∀ other ∈ pool.probeTargets, other.priority ≤ bound := by
      constructor
      · intro below other present
        by_cases own : other.workerId = target.workerId
        · rw [Table.eq_of_key present member own]
          exact below { target with lastProbedAt := some now } ((mem_probe next).mpr (.inl rfl))
        · exact below other ((mem_probe next).mpr (.inr ⟨present, own⟩))
      · intro below other present
        rcases (mem_probe next).mp present with rfl | ⟨old, _⟩
        · exact below target member
        · exact below other old
    simp only [mem_foremost, priorities]
    constructor
    · rintro ⟨other, present, named, top⟩
      rcases (mem_probe next).mp present with rfl | ⟨old, _⟩
      · exact ⟨target, member, named, top⟩
      · exact ⟨other, old, named, top⟩
    · rintro ⟨other, present, named, top⟩
      by_cases own : other.workerId = target.workerId
      · rw [Table.eq_of_key present member own] at named top
        exact ⟨_, (mem_probe next).mpr (.inl rfl), named, top⟩
      · exact ⟨other, (mem_probe next).mpr (.inr ⟨present, own⟩), named, top⟩

theorem foremost_probe (pool : PagePool) (now : Time) : (foremost (probe pool now)).Perm (foremost pool) :=
  (List.perm_ext_iff_of_nodup (foremost_nodup _) (foremost_nodup _)).mpr fun _ => mem_foremost_probe pool now

/-- Where a turn stands: the workers in `served` were visited since the time `mark`, and
no other target was. -/
structure Turn (pool : PagePool) (served : List String) (mark : Time) : Prop where
  once : served.Nodup
  inside : served ⊆ foremost pool
  recent : ∀ target ∈ pool.probeTargets, target.workerId ∈ served → mark ≤ stamp target
  waiting : ∀ target ∈ pool.probeTargets, target.workerId ∉ served → stamp target < mark

/-- While somebody waits, the next visit is to one of those who do. -/
theorem Turn.next_waits {served : List String} (turn : Turn pool served mark)
    (few : served.length < (foremost pool).length) :
    ∃ target, nextProbeTarget pool = some target ∧ target.workerId ∉ served := by
  obtain ⟨workerId, wanted, left⟩ : ∃ workerId ∈ foremost pool, workerId ∉ served := by
    by_contra none
    push Not at none
    have covered := ((foremost_nodup pool).subperm none).length_le
    omega
  obtain ⟨waiting, member, rfl, top⟩ := mem_foremost.mp wanted
  cases next : nextProbeTarget pool with
  | none => exact absurd member (nextProbeTarget_none next)
  | some target =>
    refine ⟨target, rfl, fun again => ?_⟩
    obtain ⟨present, least⟩ := nextProbeTarget_least next
    have level : waiting.priority = target.priority := by
      refine le_antisymm (not_lt.mp fun higher => ?_) (top target present)
      exact absurd (least waiting member) (not_le.mpr (probeKey_priority higher))
    have older : stamp waiting < stamp target :=
      lt_of_lt_of_le (turn.waiting waiting member left) (turn.recent target present again)
    exact absurd (least waiting member) (not_le.mpr (probeKey_stamp level older))

theorem Turn.probe {served : List String} (turn : Turn pool served mark) (next : nextProbeTarget pool = some target)
    (fresh : target.workerId ∉ served) (later : mark ≤ now) :
    Turn (probe pool now) (served ++ [target.workerId]) mark where
  once := List.nodup_append_comm.mp (List.nodup_cons.mpr ⟨fresh, turn.once⟩)
  inside := by
    intro workerId member
    rw [mem_foremost_probe]
    rcases List.mem_append.mp member with old | own
    · exact turn.inside old
    · rw [List.mem_singleton.mp own]
      exact next_foremost next
  recent := by
    intro other present member
    rcases (mem_probe next).mp present with rfl | ⟨old, different⟩
    · exact WithBot.coe_le_coe.mpr later
    · rcases List.mem_append.mp member with before | own
      · exact turn.recent other old before
      · exact absurd (List.mem_singleton.mp own) different
  waiting := by
    intro other present left
    rcases (mem_probe next).mp present with rfl | ⟨old, _⟩
    · exact absurd (List.mem_append.mpr (.inr (List.mem_singleton.mpr rfl))) left
    · exact turn.waiting other old fun before => left (List.mem_append.mpr (.inl before))

/-- The rest of a turn visits whom it has not visited yet. -/
theorem Turn.visits {served : List String} (turn : Turn pool served mark) (times : List Time)
    (later : ∀ now ∈ times, mark ≤ now) (many : served.length + times.length = (foremost pool).length) :
    (served ++ visited pool times).Perm (foremost pool) := by
  induction times generalizing pool served with
  | nil =>
    rw [visited, List.append_nil]
    exact (turn.once.subperm turn.inside).perm_of_length_le (by simpa using many.ge)
  | cons now times ih =>
    rw [List.length_cons] at many
    obtain ⟨target, next, fresh⟩ := turn.next_waits (by omega)
    have rest := ih (turn.probe next fresh (later now (by simp))) (fun now member => later now (by simp [member]))
      (by rw [(foremost_probe pool now).length_eq, List.length_append, List.length_singleton]; omega)
    rw [List.append_assoc] at rest
    simpa only [visited, next, Option.map_some, Option.toList_some] using rest.trans (foremost_probe pool now)

theorem visited_foremost (pool : PagePool) (times : List Time) : visited pool times ⊆ foremost pool := by
  induction times generalizing pool with
  | nil => exact List.nil_subset _
  | cons now times ih =>
    intro workerId member
    rcases List.mem_append.mp member with first | rest
    · cases next : nextProbeTarget pool with
      | none => simp [next] at first
      | some target =>
        rw [next, Option.map_some, Option.toList_some, List.mem_singleton] at first
        exact first ▸ next_foremost next
    · exact (mem_foremost_probe pool now).mp (ih _ rest)

/-- Every probe so far was before the given time. -/
def Past (pool : PagePool) (now : Time) : Prop := ∀ target ∈ pool.probeTargets, stamp target < now

theorem Past.probe {later : Time} (past : Past pool later) (before : now < later) : Past (probe pool now) later := by
  intro other present
  cases next : nextProbeTarget pool with
  | none =>
    rw [BrowserPool.probe, next] at present
    exact past other present
  | some target =>
    rcases (mem_probe next).mp present with rfl | ⟨old, _⟩
    · exact WithBot.coe_lt_coe.mpr before
    · exact past other old

theorem Past.run {later : Time} (past : Past pool later) {times : List Time} (before : ∀ now ∈ times, now < later) :
    Past (run BrowserPool.probe pool times) later := by
  induction times generalizing pool with
  | nil => exact past
  | cons now times ih =>
    exact ih (past.probe (before now (by simp))) (fun now member => before now (by simp [member]))

theorem run_foremost (pool : PagePool) (times : List Time) :
    (foremost (run probe pool times)).Perm (foremost pool) := by
  induction times generalizing pool with
  | nil => exact .refl _
  | cons now times ih =>
    exact (ih _).trans (foremost_probe pool now)

/-- Only targets of the highest priority are visited, and as many probes in a row as
there are of them visit each one once. -/
theorem probes_rotate (pool : PagePool) (times : List Time) (ordered : times.Pairwise (· < ·))
    (past : ∀ now ∈ times, Past pool now) :
    visited pool times ⊆ foremost pool ∧
    ∀ before turn after, times = before ++ turn ++ after → turn.length = (foremost pool).length →
      (visited (run probe pool before) turn).Perm (foremost pool) := by
  refine ⟨visited_foremost pool times, ?_⟩
  rintro before turn after rfl many
  have same := run_foremost pool before
  cases turn with
  | nil =>
    have nobody : foremost pool = [] := List.length_eq_zero_iff.mp many.symm
    rw [nobody]
    exact .refl _
  | cons mark rest =>
    simp only [List.append_assoc, List.cons_append, List.pairwise_append, List.pairwise_cons] at ordered
    obtain ⟨_, ⟨onwards, _⟩, earlier⟩ := ordered
    have start : Turn (run probe pool before) [] mark :=
      ⟨List.nodup_nil, List.nil_subset _, fun _ _ member => absurd member (by simp),
        fun target member _ =>
          Past.run (past mark (by simp)) (fun now member => earlier now member mark (by simp)) target member⟩
    have visits := start.visits (mark :: rest)
      (fun now member => by
        rcases List.mem_cons.mp member with rfl | later
        · exact le_refl _
        · exact le_of_lt (onwards now (by simp [later])))
      (by rw [same.length_eq, ← many]; simp)
    exact visits.trans same

/-- Two targets of a high priority, one of them visited before, and one of a low priority. -/
def threeTargets : PagePool :=
  { maxActivePages := 4, maxProbePages := 1,
    probeTargets := ((Table.single { workerId := "w1", conversationUrl := "https://web.example/c/1" }).upsert
      { workerId := "w2", conversationUrl := "https://web.example/c/2", lastProbedAt := some 20, priority := 1 }).upsert
      { workerId := "w3", conversationUrl := "https://web.example/c/3", priority := 1 } }

theorem probes_rotate_three :
    visited threeTargets [30, 31, 32] ⊆ foremost threeTargets ∧
    ∀ before turn after, [30, 31, 32] = before ++ turn ++ after → turn.length = (foremost threeTargets).length →
      (visited (run probe threeTargets before) turn).Perm (foremost threeTargets) :=
  probes_rotate threeTargets [30, 31, 32] (by decide +kernel) (by unfold Past; decide +kernel)

example : visited threeTargets [30, 31, 32] = ["w3", "w2", "w3"] := by decide +kernel

end WebSupervisor.BrowserPool.Proofs
