import WebSupervisor.Library.Effects
import WebSupervisor.Library.Triple

/-! Authority that a call takes by moving the store. A call reads that it is
entitled, and later makes the write by which it takes what it is entitled to.
Nothing holds the store in between. As long as the entitlement stays until the
write, every call that returns with authority has made a crossing of its own. -/

namespace WebSupervisor.Library

variable {σ ρ : Type} {ω : ρ → Type} {κ α β ι ε : Type}

/-- What the calls take. `earns` is the authority that a returned value carries
and `wants` the one that a call is made for. -/
structure Authority (σ κ α ι : Type) where
  entitled : ι → σ → Prop
  crosses : ι → σ → σ → Bool
  wants : κ → Option ι
  earns : α → Option ι

namespace Authority
variable (authority : Authority σ κ α ι)

def crossing (item : ι) : Event σ ω α → Bool
  | .committed _ before after => authority.crosses item before after
  | _ => false

def Crossed (pid : Nat) (item : ι) (log : List (Event σ ω α)) : Prop :=
  ∃ event ∈ log, event.pid = pid ∧ authority.crossing item event = true

/-- A call that has started and has not made its crossing finds the entitlement
that it has found before. -/
def StaysEntitled (pid : Nat) (call : κ) (seen now : Shared σ ω α) : Prop :=
  ∀ item, authority.wants call = some item → (∃ event ∈ seen.log, event.pid = pid) →
    ¬ authority.Crossed pid item seen.log → authority.entitled item seen.store → authority.entitled item now.store

/-- Authority is returned by those who have crossed. -/
def Earned (shared : Shared σ ω α) : Prop :=
  ∀ pid value item, .returned pid value ∈ shared.log → authority.earns value = some item →
    authority.Crossed pid item shared.log

def contract : Contract σ ω κ α where
  valid := authority.Earned
  rely := authority.StaysEntitled
  guarantee _ _ _ _ := True

variable {authority} {pid : Nat} {call : κ} {item : ι} {seen now : Shared σ ω α}

theorem Crossed.mono {older newer : List (Event σ ω α)} (crossed : authority.Crossed pid item older)
    (grown : older <:+ newer) : authority.Crossed pid item newer := by
  obtain ⟨event, member, own, crossing⟩ := crossed
  exact ⟨event, grown.subset member, own, crossing⟩

theorem staysEntitled_refl (pid : Nat) (call : κ) (shared : Shared σ ω α) :
    authority.contract.rely pid call shared shared :=
  fun _ _ _ _ entitled => entitled

private theorem Earned.cons {event : Event σ ω α} {shared : Shared σ ω α} (earned : authority.Earned now)
    (log : shared.log = event :: now.log)
    (own : ∀ pid value item, event = .returned pid value → authority.earns value = some item →
      authority.Crossed pid item now.log) : authority.Earned shared := by
  intro other value item member earns
  have grown : now.log <:+ shared.log := log ▸ List.suffix_cons ..
  rw [log] at member
  rcases List.mem_cons.mp member with same | old
  · exact (own other value item same.symm earns).mono grown
  · exact (earned other value item old earns).mono grown

theorem keeps_became (earned : authority.Earned now) (after : σ) :
    Keeps authority.contract.valid (authority.contract.guarantee pid call) now (now.became pid after) :=
  ⟨earned.cons rfl (fun _ _ _ => nofun), trivial⟩

theorem returns (earned : authority.Earned now) {value : α}
    (crossed : ∀ item, authority.earns value = some item → authority.Crossed pid item now.log) :
    authority.contract.Returns pid call value now := by
  refine ⟨earned.cons rfl (fun other returned item same earns => ?_), trivial⟩
  cases same
  exact crossed item earns

/-- A program that never returns authority is safe whatever it does. -/
theorem safe_free (program : Program σ ω β) (seen : Shared σ ω α) :
    authority.contract.Safe pid call (fun _ _ => True) program seen := by
  induction program generalizing seen with
  | pure value => exact fun _ _ _ => trivial
  | atomic effect next ih => exact fun now earned _ => ⟨keeps_became earned _, ih _ _⟩
  | call request next ih =>
    refine fun now earned _ => ⟨⟨earned.cons rfl (fun _ _ _ => nofun), trivial⟩, fun later laterEarned _ answer => ?_⟩
    exact ⟨⟨laterEarned.cons rfl (fun _ _ _ => nofun), trivial⟩, ih answer _⟩

/-- The call has found its entitlement and has not crossed. -/
def Ready (authority : Authority σ κ α ι) (pid : Nat) (item : ι) (now : Shared σ ω α) : Prop :=
  (∃ event ∈ now.log, event.pid = pid) ∧ ¬ authority.Crossed pid item now.log ∧ authority.entitled item now.store

private theorem not_crossed_later (found : authority.contract.Finds pid call seen now)
    (fresh : ¬ authority.Crossed pid item seen.log) : ¬ authority.Crossed pid item now.log := by
  rintro ⟨event, member, own, crossing⟩
  obtain ⟨newer, same, others⟩ := found.1.newer
  rw [same] at member
  rcases List.mem_append.mp member with new | old
  · exact others event new own
  · exact fresh ⟨event, old, own, crossing⟩

theorem stable_ready (wants : authority.wants call = some item) :
    authority.contract.Stable pid call (authority.Ready (ω := ω) pid item) := by
  intro seen now _ _ found ready
  obtain ⟨⟨event, member, own⟩, fresh, entitled⟩ := ready
  refine ⟨⟨event, found.1.log.subset member, own⟩, not_crossed_later found fresh, ?_⟩
  exact found.2 item wants ⟨event, member, own⟩ fresh entitled

theorem stable_fresh : authority.contract.Stable pid call (fun now : Shared σ ω α => ¬ authority.Crossed pid item now.log) :=
  fun _ _ _ _ found fresh => not_crossed_later found fresh

theorem stable_crossed : authority.contract.Stable pid call (fun now : Shared σ ω α => authority.Crossed pid item now.log) :=
  fun _ _ _ _ found crossed => crossed.mono found.1.log

theorem not_crossed_became (fresh : ¬ authority.Crossed pid item now.log) {after : σ}
    (still : authority.crosses item now.store after = false) :
    ¬ authority.Crossed pid item (now.became pid after).log := by
  rintro ⟨event, member, own, crossing⟩
  rcases List.mem_cons.mp member with rfl | old
  · rw [Authority.crossing, still] at crossing
    cases crossing
  · exact fresh ⟨event, old, own, crossing⟩

/-- A first read that finds the entitlement. -/
theorem first_read {view : σ → Except ε β}
    (still : ∀ store, authority.crosses item store store = false) (wants : authority.wants call = some item) :
    authority.contract.Triple pid call (fun now : Shared σ ω α => ¬ authority.Crossed pid item now.log)
      (Program.check view) (fun result now => ¬ authority.Crossed pid item now.log ∧
        ((∀ store, view store = result → authority.entitled item store) → authority.Ready pid item now)) := by
  refine .check stable_fresh (fun result => stable_fresh.and (.imp (stable_ready wants))) (fun now earned fresh => ?_)
  have later := not_crossed_became fresh (still now.store)
  exact ⟨keeps_became earned _, later, fun finds => ⟨⟨_, List.mem_cons_self .., rfl⟩, later, finds now.store rfl⟩⟩

/-- A later read by a call that is ready. -/
theorem later_read {view : σ → Except ε β}
    (still : ∀ store, authority.crosses item store store = false) (wants : authority.wants call = some item) :
    authority.contract.Triple pid call (authority.Ready (ω := ω) pid item) (Program.check view)
      (fun result now => authority.Ready pid item now ∧ ∃ store, authority.entitled item store ∧ view store = result) := by
  refine .check (stable_ready wants) (fun result => (stable_ready wants).and Contract.stable_const) (fun now earned ready => ?_)
  obtain ⟨started, fresh, entitled⟩ := ready
  refine ⟨keeps_became earned _, ⟨⟨_, List.mem_cons_self .., rfl⟩, not_crossed_became fresh (still _), entitled⟩, ?_⟩
  exact ⟨now.store, entitled, rfl⟩

/-- The write by which a call that is ready takes its authority. -/
theorem write {work : σ → Except ε (β × σ)} (wants : authority.wants call = some item)
    (crosses : ∀ store value after, authority.entitled item store → work store = .ok (value, after) →
      authority.crosses item store after = true) :
    authority.contract.Triple pid call (authority.Ready (ω := ω) pid item) (Program.transaction work)
      (fun result now => ∀ value, result = .ok value → authority.Crossed pid item now.log) := by
  refine .transaction (stable_ready wants) (fun result => .forall (fun value => .imp stable_crossed)) ?_ ?_
  · intro now value after earned ready done
    refine ⟨keeps_became earned _, fun _ _ => ⟨_, List.mem_cons_self .., rfl, ?_⟩⟩
    exact crosses now.store value after ready.2.2 done
  · intro now error earned _ refused
    exact ⟨keeps_became earned _, nofun⟩

/-- Reads after the crossing. -/
theorem crossed_read {view : σ → Except ε β} :
    authority.contract.Triple pid call (fun now : Shared σ ω α => authority.Crossed pid item now.log)
      (Program.check view) (fun result now => authority.Crossed pid item now.log ∧ ∃ store, view store = result) :=
  .check stable_crossed (fun _ => stable_crossed.and Contract.stable_const) (fun now earned crossed =>
    ⟨keeps_became earned _, crossed.mono (List.suffix_cons ..), now.store, rfl⟩)

/-- A call that starts has not crossed. -/
theorem fresh_start (fresh : ∀ event ∈ seen.log, event.pid ≠ pid) : ¬ authority.Crossed pid item seen.log := by
  rintro ⟨event, member, own, _⟩
  exact fresh event member own

section Count
variable [DecidableEq ι]

def granting (authority : Authority σ κ α ι) (item : ι) : Event σ ω α → Bool
  | .returned _ value => authority.earns value = some item
  | _ => false

private theorem granting_pids (item : ι) (log : List (Event σ ω α)) :
    ((log.filter (authority.granting item)).map Event.pid).Sublist (returnedPids log) := by
  induction log with
  | nil => exact List.Sublist.slnil
  | cons event log ih =>
    cases event with
    | returned pid value =>
      change (((Event.returned pid value :: log).filter _).map _).Sublist (pid :: returnedPids log)
      rw [List.filter_cons]
      split
      · exact ih.cons_cons pid
      · exact ih.cons pid
    | committed pid before after => exact ih
    | issued pid request store => exact ih
    | answered pid request answer => exact ih

/-- No more calls return with an authority than there are crossings. -/
theorem Earned.granting_le {shared : Shared σ ω α} (earned : authority.Earned shared)
    (once : (returnedPids shared.log).Nodup) (item : ι) :
    shared.log.countP (authority.granting item) ≤ shared.log.countP (authority.crossing item) := by
  rw [List.countP_eq_length_filter, List.countP_eq_length_filter]
  have distinct : ((shared.log.filter (authority.granting item)).map Event.pid).Nodup :=
    (granting_pids item shared.log).nodup once
  have covered : (shared.log.filter (authority.granting item)).map Event.pid ⊆
      (shared.log.filter (authority.crossing item)).map Event.pid := by
    intro pid member
    obtain ⟨event, inside, rfl⟩ := List.mem_map.mp member
    obtain ⟨present, grants⟩ := List.mem_filter.mp inside
    cases event with
    | returned pid value =>
      obtain ⟨commit, found, own, crossing⟩ := earned pid value item present (by simpa [granting] using grants)
      exact List.mem_map.mpr ⟨commit, List.mem_filter.mpr ⟨found, crossing⟩, own⟩
    | committed pid before after => simp [granting] at grants
    | issued pid request store => simp [granting] at grants
    | answered pid request answer => simp [granting] at grants
  have bound := List.Nodup.length_le_of_subset distinct covered
  rwa [List.length_map, List.length_map] at bound

/-- In a run in which entitlements stay until they are used, no more calls
return with an authority than there are crossings. -/
theorem run_granting_le {machine : Machine σ ω κ α} (certifies : authority.contract.Certifies machine) (start : σ)
    (moves : List (Move ω κ))
    (undisturbed : UndisturbedRun authority.StaysEntitled machine { store := start, log := [] } moves) (item : ι) :
    let log := (run machine.move { store := start, log := [] } moves).log
    log.countP (authority.granting item) ≤ log.countP (authority.crossing item) := by
  have empty : authority.Earned (⟨start, []⟩ : Shared σ ω α) := by
    intro pid value item member
    simp at member
  have earned : authority.Earned (run machine.move { store := start, log := [] } moves).toShared :=
    (Contract.run_holds certifies (.initial empty rfl) moves undisturbed).valid
  exact earned.granting_le (run_returns_once machine start moves) item

end Count

/-- What is never entitled again once it is not is crossed at most once. -/
theorem crossing_le_one {start store : σ} {log : List (Event σ ω α)} (item : ι) (linked : Linked start log store)
    (takes : ∀ before after, authority.crosses item before after = true →
      authority.entitled item before ∧ ¬ authority.entitled item after)
    (final : ∀ pid before after, .committed pid before after ∈ log → ¬ authority.entitled item before →
      ¬ authority.entitled item after) :
    log.countP (authority.crossing item) ≤ 1 ∧
      (authority.entitled item store → log.countP (authority.crossing item) = 0) := by
  induction log generalizing store with
  | nil => simp
  | cons event log ih =>
    have rest {middle : σ} (earlier : Linked start log middle) := ih earlier
      (fun pid before after member => final pid before after (List.mem_cons_of_mem _ member))
    cases event with
    | committed pid before after =>
      obtain ⟨rfl, earlier⟩ := linked
      obtain ⟨bound, none⟩ := rest earlier
      by_cases crosses : authority.crossing item (Event.committed pid before store : Event σ ω α) = true
      · obtain ⟨entitled, lost⟩ := takes before store crosses
        rw [List.countP_cons_of_pos crosses, none entitled]
        exact ⟨Nat.le_refl 1, fun again => absurd again lost⟩
      · rw [List.countP_cons_of_neg crosses]
        refine ⟨bound, fun entitled => none ?_⟩
        by_contra lost
        exact final pid before store (List.mem_cons_self ..) lost entitled
    | issued pid request found => exact (rest linked.2)
    | answered pid request answer => exact (rest linked)
    | returned pid value => exact (rest linked)

end Authority

end WebSupervisor.Library
