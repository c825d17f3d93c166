import WebSupervisor.BrowserPool
import WebSupervisor.Library.Runs

/-! The pages of the pool full whole runs. No role is ever over its capacity, a refused
call leaves the pool as it was, and a page leaves the pool only by its release. -/

namespace WebSupervisor.BrowserPool.Proofs
open Library

section Rows
variable {ρ κ : Type} {key : ρ → κ} [DecidableEq κ] {table : Table ρ key} {row other : ρ}

omit [DecidableEq κ] in
private theorem rows_nodup (table : Table ρ key) : table.rows.Nodup := .of_map key table.distinct

private theorem upsert_perm (table : Table ρ key) (row : ρ) :
    (table.upsert row).rows.Perm (row :: (table.delete (key row)).rows) := by
  have fresh : row ∉ (table.delete (key row)).rows := fun member => (Table.mem_delete.mp member).2 rfl
  refine (List.perm_ext_iff_of_nodup (rows_nodup _) (List.nodup_cons.mpr ⟨fresh, rows_nodup _⟩)).mpr fun other => ?_
  rw [List.mem_cons, ← Table.mem_def, ← Table.mem_def, Table.mem_upsert, Table.mem_delete]

private theorem upsert_held (held : ∃ old ∈ table, key old = key row) : table.upsert row = table.replace row := by
  rw [Table.upsert, Table.insert?_none.mpr held, Option.getD_none]

private theorem upsert_back (held : row ∈ table) (same : key other = key row) :
    (table.upsert other).upsert row = table := by
  have present : ∃ old ∈ table.upsert other, key old = key row := ⟨other, Table.mem_upsert.mpr (.inl rfl), same⟩
  rw [upsert_held present, upsert_held ⟨row, held, same.symm⟩]
  refine Table.ext_rows ?_
  simp only [Table.replace, List.map_map]
  refine (List.map_congr_left fun old member => ?_).trans (List.map_id _)
  by_cases own : key old = key row
  · have equal : old = row := Table.eq_of_key member held own
    simp [equal, same]
  · simp [same, own]

private theorem upsert_delete (absent : table.find? (key row) = none) :
    (table.upsert row).delete (key row) = table := by
  have fresh := Table.find?_none.mp absent
  cases inserted : table.insert? row with
  | none =>
    obtain ⟨old, member, same⟩ := Table.insert?_none.mp inserted
    exact absurd same (fresh old member)
  | some after =>
    refine Table.ext_rows ?_
    have kept : table.rows.filter (fun old => key old ≠ key row) = table.rows :=
      List.filter_eq_self.mpr fun old member => by simpa using fresh old member
    simp only [Table.upsert, inserted, Option.getD_some, Table.delete, (Table.insert?_some.mp inserted).2,
      List.filter_append, kept]
    simp

end Rows

/-- No role holds more pages than its capacity. -/
def WithinCapacity (pool : PagePool) : Prop := ∀ role, (pool.held role).length ≤ pool.capacity role

/-- The pages of a role, without the given one. -/
def others (pool : PagePool) (role : PageRole) (pageId : String) : List PageLease :=
  (pool.leases.delete pageId).rows.filter (fun lease => lease.role = role)

variable {pool : PagePool} {lease : PageLease} {role : PageRole} {pageId : String}

private theorem others_sublist : (others pool role pageId).Sublist (pool.held role) :=
  List.filter_sublist.filter _

private theorem length_others_lt (held : lease ∈ pool.leases) :
    (others pool lease.role lease.pageId).length < (pool.held lease.role).length := by
  have inside : lease ∈ pool.held lease.role := List.mem_filter.mpr ⟨held, by simp⟩
  have outside : lease ∉ others pool lease.role lease.pageId := by
    intro member
    exact (Table.mem_delete.mp (List.mem_filter.mp member).1).2 rfl
  refine lt_of_le_of_ne others_sublist.length_le fun same => ?_
  exact outside (others_sublist.eq_of_length same ▸ inside)

theorem length_held_setLease :
    ((pool.setLease lease).held role).length =
      (others pool role lease.pageId).length + if lease.role = role then 1 else 0 := by
  have counted := ((upsert_perm pool.leases lease).filter (fun lease => lease.role = role)).length_eq
  rw [PagePool.held, PagePool.setLease, counted, List.filter_cons, others]
  split <;> simp_all

/-- A page fits exactly when the other pages of its role leave it a place. -/
theorem setLease_within (within : WithinCapacity pool) :
    WithinCapacity (pool.setLease lease) ↔ (others pool lease.role lease.pageId).length < pool.capacity lease.role := by
  have limits (role : PageRole) : (pool.setLease lease).capacity role = pool.capacity role := by cases role <;> rfl
  constructor
  · intro fits
    have own := fits lease.role
    rw [length_held_setLease, if_pos rfl, limits] at own
    omega
  · intro free role
    rw [length_held_setLease, limits]
    split
    next same =>
      subst same
      omega
    next =>
      have below := within role
      have fewer : (others pool role lease.pageId).length ≤ (pool.held role).length := others_sublist.length_le
      omega

theorem enforceCapacity_ok : enforceCapacity pool = .ok () ↔ WithinCapacity pool := by
  unfold enforceCapacity
  constructor
  · intro passed role
    split at passed
    next => cases passed
    next active =>
      split at passed
      next => cases passed
      next probes =>
        cases role with
        | active => exact not_lt.mp active
        | probe => exact not_lt.mp probes
  · intro within
    have active : (pool.held .active).length ≤ pool.maxActivePages := within .active
    have probes : (pool.held .probe).length ≤ pool.maxProbePages := within .probe
    rw [if_neg (not_lt.mpr active), if_neg (not_lt.mpr probes)]

theorem enforceCapacity_error (full : ¬ WithinCapacity pool) : ∃ error, enforceCapacity pool = .error error := by
  cases checked : enforceCapacity pool with
  | error error => exact ⟨error, rfl⟩
  | ok => exact absurd (enforceCapacity_ok.mp checked) full

/-- A registration writes the page with its new role, or leaves the pool as it was. -/
structure Registers (pool : PagePool) (lease : PageLease) (done : Except SupervisorError PageLease × PagePool) :
    Prop where
  opened : ∀ existing ∈ pool.leases, existing.pageId = lease.pageId → lease.openedAt = existing.openedAt
  accepted : WithinCapacity (pool.setLease lease) → done = (.ok lease, pool.setLease lease)
  refused : ¬ WithinCapacity (pool.setLease lease) → ∃ error, done = (.error error, pool)

theorem registerPage_registers (pool : PagePool) (pageId : String) (role : PageRole) (workerId : Option String)
    (now : Time) :
    ∃ lease : PageLease, lease.pageId = pageId ∧ lease.role = role ∧
      Registers pool lease (registerPage pageId role workerId now pool) := by
  unfold registerPage
  cases found : pool.leases.find? pageId with
  | some existing =>
    obtain ⟨held, named⟩ := Table.find?_some.mp found
    subst named
    refine ⟨{ existing with role, workerId, lastUsedAt := now }, rfl, rfl, ⟨?_, ?_, ?_⟩⟩
    · intro other member same
      have equal : existing = other := Table.eq_of_key held member same.symm
      rw [equal]
    · intro within
      simp only [enforceCapacity_ok.mpr within]
    · intro full
      obtain ⟨error, raised⟩ := enforceCapacity_error full
      have back :
          (pool.leases.upsert { existing with role, workerId, lastUsedAt := now }).upsert existing = pool.leases :=
        upsert_back held rfl
      refine ⟨error, ?_⟩
      simp only [raised]
      simp only [PagePool.setLease, back]
  | none =>
    refine ⟨{ pageId, role, workerId, openedAt := now, lastUsedAt := now }, rfl, rfl, ⟨?_, ?_, ?_⟩⟩
    · intro existing member same
      exact absurd same (Table.find?_none.mp found existing member)
    · intro within
      simp only [enforceCapacity_ok.mpr within]
    · intro full
      obtain ⟨error, raised⟩ := enforceCapacity_error full
      have back : (pool.leases.upsert { pageId, role, workerId, openedAt := now, lastUsedAt := now }).delete pageId =
          pool.leases :=
        upsert_delete found
      refine ⟨error, ?_⟩
      simp only [raised]
      simp only [PagePool.setLease, back]

theorem touch_cases (pool : PagePool) (pageId : String) (now : Time) :
    (∃ lease ∈ pool.leases, touch pageId now pool = (.ok (), pool.setLease { lease with lastUsedAt := now })) ∨
      touch pageId now pool = (.error (.runtime ("unknown page lease: " ++ pageId)), pool) := by
  unfold touch
  cases found : pool.leases.find? pageId with
  | none => exact .inr rfl
  | some lease => exact .inl ⟨lease, (Table.find?_some.mp found).1, rfl⟩

theorem markProbed_cases (pool : PagePool) (workerId : String) (now : Time) :
    (∃ target ∈ pool.probeTargets, markProbed workerId now pool =
      (.ok (), { pool with probeTargets := pool.probeTargets.upsert { target with lastProbedAt := some now } })) ∨
      markProbed workerId now pool = (.error (.runtime ("unknown probe target: " ++ workerId)), pool) := by
  unfold markProbed
  cases found : pool.probeTargets.find? workerId with
  | none => exact .inr rfl
  | some target => exact .inl ⟨target, (Table.find?_some.mp found).1, rfl⟩

/-- What one call does to the pages. -/
inductive Changes (pool : PagePool) (call : PoolCall) (done : Except SupervisorError Unit × PagePool) : Prop where
  | refused (error : SupervisorError) (same : done = (.error error, pool))
  | targets (after : Table ProbeTarget ProbeTarget.workerId)
      (same : done = (.ok (), { pool with probeTargets := after }))
  | released (pageId : String) (own : call = .releasePage pageId)
      (same : done = (.ok (), { pool with leases := pool.leases.delete pageId }))
  | written (lease : PageLease) (same : done = (.ok (), pool.setLease lease))
      (within : WithinCapacity (pool.setLease lease))
      (opened : ∀ existing ∈ pool.leases, existing.pageId = lease.pageId → lease.openedAt = existing.openedAt)

theorem perform_changes (within : WithinCapacity pool) (call : PoolCall) : Changes pool call (call.perform pool) := by
  cases call with
  | registerPage pageId role workerId now =>
    obtain ⟨lease, _, _, registers⟩ := registerPage_registers pool pageId role workerId now
    by_cases fits : WithinCapacity (pool.setLease lease)
    · refine .written lease ?_ fits registers.opened
      simp only [PoolCall.perform, registers.accepted fits]
      rfl
    · obtain ⟨error, done⟩ := registers.refused fits
      refine .refused error ?_
      simp only [PoolCall.perform, done]
      rfl
  | touch pageId now =>
    rcases touch_cases pool pageId now with ⟨lease, held, done⟩ | done
    · refine .written { lease with lastUsedAt := now } done ((setLease_within within).mpr ?_) ?_
      · have fewer := length_others_lt held
        have below := within lease.role
        simp only
        omega
      · intro existing member same
        have equal : existing = lease := Table.eq_of_key member held same
        rw [equal]
    · exact .refused _ done
  | releasePage pageId => exact .released pageId rfl rfl
  | registerProbeTarget target => exact .targets _ rfl
  | removeProbeTarget workerId => exact .targets _ rfl
  | markProbed workerId now =>
    rcases markProbed_cases pool workerId now with ⟨target, _, done⟩ | done
    · exact .targets _ done
    · exact .refused _ done

theorem step_within (within : WithinCapacity pool) (call : PoolCall) : WithinCapacity (step pool call) := by
  unfold step
  cases perform_changes within call with
  | refused error same => rwa [same]
  | targets after same =>
    rw [same]
    exact fun role => by cases role <;> exact within _
  | released pageId own same =>
    rw [same]
    intro role
    have fewer : (others pool role pageId).length ≤ (pool.held role).length := others_sublist.length_le
    have below := within role
    have limits : PagePool.capacity { pool with leases := pool.leases.delete pageId } role = pool.capacity role := by
      cases role <;> rfl
    rw [limits]
    exact le_trans (Int.ofNat_le.mpr fewer) below
  | written lease same fits _ => rwa [same]

theorem step_limits (within : WithinCapacity pool) (call : PoolCall) :
    (step pool call).maxActivePages = pool.maxActivePages ∧ (step pool call).maxProbePages = pool.maxProbePages := by
  unfold step
  cases perform_changes within call with
  | refused _ same | targets _ same | released _ _ same | written _ same => exact same ▸ ⟨rfl, rfl⟩

/-- A call leaves a page with the time at which it was opened, except for its release. -/
theorem step_keeps (within : WithinCapacity pool) {call : PoolCall} (held : lease ∈ pool.leases)
    (stays : call ≠ .releasePage lease.pageId) :
    ∃ after ∈ (step pool call).leases, after.pageId = lease.pageId ∧ after.openedAt = lease.openedAt := by
  unfold step
  cases perform_changes within call with
  | refused _ same | targets _ same =>
    rw [same]
    exact ⟨lease, held, rfl, rfl⟩
  | released pageId own same =>
    rw [same]
    exact ⟨lease, Table.mem_delete.mpr ⟨held, fun named => stays (named ▸ own)⟩, rfl, rfl⟩
  | written written same _ opened =>
    rw [same]
    by_cases own : lease.pageId = written.pageId
    · exact ⟨written, Table.mem_upsert.mpr (.inl rfl), own.symm, opened lease held own⟩
    · exact ⟨lease, Table.mem_upsert.mpr (.inr ⟨held, own⟩), rfl, rfl⟩

theorem run_within (within : WithinCapacity pool) (calls : List PoolCall) : WithinCapacity (run step pool calls) :=
  @run_invariant _ _ step WithinCapacity (fun _ call held => step_within held call) pool calls within

theorem run_keeps (within : WithinCapacity pool) (calls : List PoolCall) (held : lease ∈ pool.leases)
    (stays : .releasePage lease.pageId ∉ calls) :
    ∃ after ∈ (run step pool calls).leases, after.pageId = lease.pageId ∧ after.openedAt = lease.openedAt := by
  induction calls generalizing pool lease with
  | nil => exact ⟨lease, held, rfl, rfl⟩
  | cons call calls ih =>
    simp only [List.mem_cons, not_or] at stays
    obtain ⟨first, later⟩ := stays
    obtain ⟨moved, member, named, opened⟩ := step_keeps within held (Ne.symm first)
    obtain ⟨after, present, same, kept⟩ := ih (step_within within call) member (named ▸ later)
    exact ⟨after, present, same.trans named, kept.trans opened⟩

theorem run_limits (within : WithinCapacity pool) (calls : List PoolCall) (role : PageRole) :
    (run step pool calls).capacity role = pool.capacity role := by
  induction calls generalizing pool with
  | nil => rfl
  | cons call calls ih =>
    obtain ⟨active, probes⟩ := step_limits within call
    rw [run_cons, ih (step_within within call)]
    cases role with
    | active => exact active
    | probe => exact probes

theorem make_within (maxActivePages maxProbePages : Int) : WithinCapacity (.make maxActivePages maxProbePages) := by
  intro role
  cases role <;> simp [PagePool.held, PagePool.make, PagePool.capacity, Table.empty]

theorem registerPage_refused_iff (within : WithinCapacity pool) (pageId : String) (role : PageRole)
    (workerId : Option String) (now : Time) :
    (∃ error, (registerPage pageId role workerId now pool).1 = .error error) ↔
      pool.capacity role ≤ (others pool role pageId).length := by
  obtain ⟨lease, rfl, rfl, registers⟩ := registerPage_registers pool pageId role workerId now
  rw [← not_lt, ← setLease_within within]
  constructor
  · rintro ⟨error, raised⟩ fits
    rw [registers.accepted fits] at raised
    cases raised
  · intro full
    obtain ⟨error, done⟩ := registers.refused full
    exact ⟨error, by rw [done]⟩

theorem refused_unchanged (within : WithinCapacity pool) {call : PoolCall} {error : SupervisorError}
    (raised : (call.perform pool).1 = .error error) : (call.perform pool).2 = pool := by
  cases perform_changes within call with
  | refused _ same => rw [same]
  | targets _ same | released _ _ same | written _ same =>
    rw [same] at raised
    cases raised

/-- What holds of a pool with the given capacities, and of every run from it on. -/
structure Sound (maxActivePages maxProbePages : Int) (pool : PagePool) : Prop where
  active : (pool.held .active).length ≤ max 1 maxActivePages
  probes : (pool.held .probe).length ≤ max 1 maxProbePages
  unchanged : ∀ call error, (PoolCall.perform pool call).1 = .error error → (PoolCall.perform pool call).2 = pool
  refused : ∀ pageId role workerId now, (∃ error, (registerPage pageId role workerId now pool).1 = .error error) ↔
    pool.capacity role ≤ (others pool role pageId).length
  kept : ∀ lease ∈ pool.leases, ∀ later, .releasePage lease.pageId ∉ later →
    ∃ after ∈ (run step pool later).leases, after.pageId = lease.pageId ∧ after.openedAt = lease.openedAt

theorem pages_within_capacity (maxActivePages maxProbePages : Int) (calls : List PoolCall) :
    Sound maxActivePages maxProbePages (run step (.make maxActivePages maxProbePages) calls) := by
  have initial := make_within maxActivePages maxProbePages
  have within := run_within initial calls
  have limits := run_limits initial calls
  refine ⟨?_, ?_, ?_, ?_, ?_⟩
  · have bound := within .active
    rwa [limits] at bound
  · have bound := within .probe
    rwa [limits] at bound
  · exact fun call error raised => refused_unchanged within raised
  · exact registerPage_refused_iff within
  · exact fun lease held later stays => run_keeps within later held stays

end WebSupervisor.BrowserPool.Proofs
