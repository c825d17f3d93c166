import WebSupervisor.Library.Runs
import WebSupervisor.Proofs.ProbeAgreement
import WebSupervisor.ProbeOperator

/-! The times of the evidence that operators submit. The parser takes evidence from a
few minutes ahead, and the registry moves the operation to its time: until that time
has come, evidence of the present is refused as too old. -/

namespace WebSupervisor.ProbeOperator.Proofs
open Library Registry Registry.Proofs

section Names
variable {name : String}

/-- Every error of the check begins with the name of what is checked. -/
def Names {α : Type} (name : String) (result : Except String α) : Prop :=
  ∀ error, result = .error error → ∃ rest, error = name ++ rest

private theorem Names.error {α : Type} {name : String} (rest : String) :
    Names name (.error (name ++ rest) : Except String α) := by
  rintro _ ⟨⟩
  exact ⟨rest, rfl⟩

private theorem Names.ok {α : Type} (value : α) : Names name (.ok value) := nofun

private theorem Names.longer {α : Type} {result : Except String α} {more : String} (names : Names (name ++ more) result) :
    Names name result := by
  intro error raised
  obtain ⟨rest, rfl⟩ := names error raised
  exact ⟨more ++ rest, String.append_assoc ..⟩

private theorem Names.bind {α β : Type} {first : Except String α} {next : α → Except String β} (one : Names name first)
    (two : ∀ value, first = .ok value → Names name (next value)) : Names name (first >>= next) := by
  intro error raised
  rw [bind_eq_error] at raised
  rcases raised with here | ⟨value, done, there⟩
  · exact one error here
  · exact two value done error there

private theorem Names.refuse {bad : Prop} [Decidable bad] {rest : String} : Names name (refuse bad (name ++ rest)) := by
  intro error raised
  rw [refuse_eq_error] at raised
  exact ⟨rest, raised.2.symm⟩

theorem boundedText_names (value : Payload) : Names name (boundedText value name) := by
  unfold boundedText
  split
  next =>
    split
    next => exact .error _
    next =>
      split
      next => exact .error _
      next => exact .ok _
  next => exact .error _

theorem positiveInt_names (value : Payload) : Names name (positiveInt value name) := by
  unfold positiveInt
  split
  next =>
    split
    next => exact .error _
    next => exact .ok _
  next => exact .error _

theorem parseMatch_names (raw : Payload) (expectedUrl : Option String) : Names name (parseMatch raw name expectedUrl) := by
  unfold parseMatch
  split
  next entries =>
    split
    next detail _ =>
      rw [String.append_assoc]
      exact .error _
    next =>
      refine .bind (boundedText_names _).longer (fun _ _ => ?_)
      split
      next => exact .error _
      next =>
        refine .bind .refuse (fun _ _ => .bind (positiveInt_names _).longer (fun _ _ => ?_))
        exact .bind (positiveInt_names _).longer (fun _ _ => .bind (boundedText_names _).longer (fun _ _ => .ok _))
  next => exact .error _

theorem parseMatches_names (expectedUrl : Option String) (index : Nat) (items : List Payload) :
    Names name (parseMatches name expectedUrl index items) := by
  induction items generalizing index with
  | nil => exact .ok _
  | cons item items ih =>
    refine .bind ?_ (fun _ _ => .bind (ih (index + 1)) (fun _ _ => .ok _))
    have whole : name ++ "[" ++ toString index ++ "]" = name ++ ("[" ++ toString index ++ "]") := by
      simp only [String.append_assoc]
    rw [whole]
    exact (parseMatch_names item expectedUrl).longer

theorem parseMatchList_names (raw : Payload) (expectedUrl : Option String) :
    Names name (parseMatchList raw name expectedUrl) := by
  unfold parseMatchList
  split
  next =>
    split
    next =>
      rw [String.append_assoc, String.append_assoc]
      exact .error _
    next items _ => exact parseMatches_names expectedUrl 0 items
  next => exact .error _

end Names

section Parser
variable {payload : Payload} {operation : ProbeMutationOperation} {now : Time}

/-- The time that the evidence gives. -/
def observedAt? : Payload → Option Time
  | .object entries => (Payload.field entries "observed_at").time?
  | _ => none

private theorem named_apart {α : Type} {name : String} {result : Except String α} (names : Names name result)
    (apart : ¬ name.toList <+: predates.toList) : result ≠ .error predates := by
  intro raised
  obtain ⟨rest, same⟩ := names _ raised
  refine apart ⟨rest.toList, ?_⟩
  rw [← String.toList_append, ← same]

private theorem parseObservedAt_predates {value : Payload} (raised : parseObservedAt value operation now = .error predates) :
    ∃ observedAt, value.time? = some observedAt ∧ observedAt < operation.updatedAt := by
  unfold parseObservedAt at raised
  split at raised
  next => exact absurd raised (by decide)
  next observedAt given =>
    simp only [bind_eq_error, refuse_eq_error] at raised
    rcases raised with ⟨_, early⟩ | ⟨_, _, ⟨old, _⟩ | ⟨_, _, ⟨_, late⟩ | ⟨_, _, raised⟩⟩⟩
    · exact absurd early (by decide)
    · exact ⟨observedAt, given, old⟩
    · exact absurd late (by decide)
    · cases raised

/-- Evidence is refused as too old only when it is older than the operation's last change. -/
theorem parse_predates (raised : parseProbeReconciliationEvidence payload operation now = .error predates) :
    ∃ observedAt, observedAt? payload = some observedAt ∧ observedAt < operation.updatedAt := by
  unfold parseProbeReconciliationEvidence at raised
  split at raised
  next entries =>
    split at raised
    next detail _ =>
      exact absurd raised (named_apart (.error detail) (by decide))
    next =>
      simp only [bind_eq_error, refuse_eq_error] at raised
      rcases raised with early | ⟨operationId, _, raised⟩
      · exact absurd early (named_apart (boundedText_names _) (by decide))
      rcases raised with early | ⟨ownerToken, _, raised⟩
      · exact absurd early (named_apart (boundedText_names _) (by decide))
      rcases raised with ⟨_, early⟩ | ⟨_, _, raised⟩
      · exact absurd early (by decide)
      rcases raised with ⟨_, early⟩ | ⟨_, _, raised⟩
      · exact absurd early (by decide)
      rcases raised with here | ⟨time, _, raised⟩
      · exact parseObservedAt_predates here
      · -- The time is accepted, and what follows names other fields.
        split at raised
        next complete _ =>
          simp only [bind_eq_error] at raised
          rcases raised with early | ⟨_, _, early | ⟨_, _, raised⟩⟩
          · exact absurd early (named_apart (parseMatchList_names _ _) (by decide))
          · exact absurd early (named_apart (parseMatchList_names _ _) (by decide))
          · cases raised
        next => exact absurd raised (by decide)
  next => exact absurd raised (by decide)

/-- The observation has the time that the evidence gives. -/
theorem parse_observedAt {observation : ProbeMutationObservation}
    (parsed : parseProbeReconciliationEvidence payload operation now = .ok observation) :
    observedAt? payload = some observation.observedAt := by
  unfold parseProbeReconciliationEvidence at parsed
  split at parsed
  next entries =>
    split at parsed
    next => cases parsed
    next =>
      simp only [bind_eq_ok] at parsed
      obtain ⟨_, _, _, _, _, _, _, _, observedAt, timed, parsed⟩ := parsed
      unfold parseObservedAt at timed
      split at timed
      next => cases timed
      next time given =>
        simp only [bind_eq_ok] at timed
        obtain ⟨_, _, _, _, _, _, same⟩ := timed
        cases same
        split at parsed
        next =>
          simp only [bind_eq_ok] at parsed
          obtain ⟨_, _, _, _, same⟩ := parsed
          cases same
          exact given
        next => cases parsed
  next => cases parsed

end Parser

/-- The registry, and the real time. -/
structure Timed where
  store : Database
  clock : Time

/-- The evidence is submitted, and the time is that of the decision about it. -/
def submit (casefold : String → String) (operationId : String) (state : Timed) (submission : Submission) : Timed where
  store := (reconcileFromEvidence casefold operationId submission).after state.store
  clock := submission.decidedAt

/-- The real times of the submissions do not go back. -/
def Ordered : Time → List Submission → Prop
  | _, [] => True
  | now, submission :: rest =>
    now ≤ submission.parsedAt ∧ submission.parsedAt ≤ submission.decidedAt ∧ Ordered submission.decidedAt rest

/-- The operation has not changed later than now. -/
def Timely (operationId : String) (state : Timed) : Prop :=
  ∀ operation, state.store.probeMutationOperations.find? operationId = some operation → operation.updatedAt ≤ state.clock

/-- Evidence of the present is not refused as too old. -/
def AdmitsPresent (operationId : String) (state : Timed) : Prop :=
  ∀ operation payload, state.store.probeMutationOperations.find? operationId = some operation →
    observedAt? payload = some state.clock →
    parseProbeReconciliationEvidence payload operation state.clock ≠ .error predates

/-- What is accepted about the unresolved operation is not ahead of its decision. -/
def NotAhead (operationId : String) (state : Timed) (submission : Submission) : Prop :=
  ∀ operation observation, state.store.probeMutationOperations.find? operationId = some operation →
    operation.state.Unresolved →
    parseProbeReconciliationEvidence submission.payload operation submission.parsedAt = .ok observation →
    observation.observedAt ≤ submission.decidedAt

section Steps
variable {casefold : String → String} {operationId : String} {state : Timed} {submission : Submission}
  {submissions : List Submission} {operation new : ProbeMutationOperation} {observation : ProbeMutationObservation}
  {db after : Database} {current : Time}

theorem Timely.admits (timely : Timely operationId state) : AdmitsPresent operationId state := by
  intro operation payload found present refused
  obtain ⟨observedAt, given, old⟩ := parse_predates refused
  cases present.symm.trans given
  exact absurd (timely operation found) (not_le.mpr old)

private theorem reconciled_time (found : db.probeMutationOperations.find? operation.operationId = some operation)
    (unresolved : operation.state.Unresolved)
    (applied : reconcileProbeMutationOperation casefold operation.operationId observation current db = .ok (new, after)) :
    new.updatedAt = max operation.updatedAt observation.observedAt := by
  have read : getProbeMutationOperation db operation.operationId = .ok operation := by rw [getProbeMutationOperation, found]
  unfold reconcileProbeMutationOperation at applied
  rw [read] at applied
  simp only [bind, Except.bind, if_neg (not_not.mpr unresolved)] at applied
  split at applied
  next =>
    unfold completeProbeMutationLocked at applied
    simp only [bind_eq_ok] at applied
    obtain ⟨_, _, _, _, _, _, saved⟩ := applied
    obtain ⟨rfl, _⟩ := save_ok saved
    rfl
  next =>
    obtain ⟨rfl, _⟩ := save_ok applied
    rfl

private theorem classify_terminal :
    classifyProbeOperation (some operation) ∈ ["COMPLETED", "TERMINAL"] ↔ ¬ operation.state.Unresolved := by
  simp only [classifyProbeOperation]
  cases operation.state <;> decide

private theorem timely_unresolved (found : state.store.probeMutationOperations.find? operationId = some operation)
    (timely : operation.updatedAt ≤ state.clock) (unresolved : operation.state.Unresolved)
    (parsed : parseProbeReconciliationEvidence submission.payload operation submission.parsedAt = .ok observation)
    (passed : state.clock ≤ submission.decidedAt) :
    Timely operationId (submit casefold operationId state submission) ↔ observation.observedAt ≤ submission.decidedAt := by
  obtain ⟨_, rfl⟩ := Table.find?_some.mp found
  have unfinished := mt classify_terminal.mp (not_not.mpr unresolved)
  have same : reconcileFromEvidence casefold operation.operationId submission state.store =
      reconcileProbeMutationOperation casefold operation.operationId observation submission.decidedAt state.store := by
    unfold reconcileFromEvidence
    rw [getProbeMutationOperation, found]
    simp only [bind, Except.bind, refuse, if_neg unfinished, parsed, Except.mapError]
  have store : (submit casefold operation.operationId state submission).store =
      (reconcileProbeMutationOperation casefold operation.operationId observation submission.decidedAt).after state.store := by
    unfold submit Transaction.after
    rw [same]
  unfold Timely
  rw [store]
  unfold Transaction.after
  split
  next new next applied =>
    obtain ⟨sameId, _, _, row⟩ := reconciled_row found unresolved applied
    have time := reconciled_time found unresolved applied
    constructor
    · intro kept
      exact (time ▸ le_max_right _ _).trans (kept new (sameId ▸ row))
    · intro present operation' found'
      cases (sameId ▸ row).symm.trans found'
      rw [time]
      exact max_le (timely.trans passed) present
  next error refused =>
    constructor
    · intro _
      by_contra ahead
      have future : (decideProbeReconciliation casefold operation observation submission.decidedAt).nextState =
          .reconcileRequired := by
        rw [decideProbeReconciliation, if_pos (not_le.mp ahead)]
        rfl
      obtain ⟨result, applied⟩ := reconcile_succeeds found unresolved (by rw [future]; decide)
      cases refused.symm.trans applied
    · rintro _ operation' found'
      cases found.symm.trans found'
      exact timely.trans passed

private theorem timely_unchanged (timely : Timely operationId state) (passed : state.clock ≤ submission.decidedAt)
    (unchanged : (submit casefold operationId state submission).store = state.store) :
    Timely operationId (submit casefold operationId state submission) := by
  intro operation found
  rw [unchanged] at found
  exact (timely operation found).trans passed

/-- One submission keeps the operation out of the future exactly when its evidence is not ahead. -/
theorem submit_timely (timely : Timely operationId state) (passed : state.clock ≤ submission.decidedAt) :
    Timely operationId (submit casefold operationId state submission) ↔ NotAhead operationId state submission := by
  have unchanged (error : SupervisorError) (refused : reconcileFromEvidence casefold operationId submission state.store = .error error) :
      (submit casefold operationId state submission).store = state.store := by
    unfold submit Transaction.after
    rw [refused]
  cases found : state.store.probeMutationOperations.find? operationId with
  | none =>
    refine iff_of_true (timely_unchanged timely passed (unchanged (.key ("unknown probe mutation operation: " ++ operationId)) ?_)) (fun operation _ known => ?_)
    · unfold reconcileFromEvidence
      rw [getProbeMutationOperation, found]
      rfl
    · cases found.symm.trans known
  | some operation =>
    by_cases unresolved : operation.state.Unresolved
    · cases parsed : parseProbeReconciliationEvidence submission.payload operation submission.parsedAt with
      | error error =>
        refine iff_of_true (timely_unchanged timely passed (unchanged (.value error) ?_)) ?_
        · unfold reconcileFromEvidence
          rw [getProbeMutationOperation, found]
          simp only [bind, Except.bind, refuse, if_neg (mt classify_terminal.mp (not_not.mpr unresolved)), parsed, Except.mapError]
        · intro operation' observation known _ accepted
          cases found.symm.trans known
          cases parsed.symm.trans accepted
      | ok observation =>
        rw [timely_unresolved found (timely operation found) unresolved parsed passed]
        constructor
        · intro present operation' observation' known _ accepted
          cases found.symm.trans known
          cases parsed.symm.trans accepted
          exact present
        · exact fun present => present operation observation found unresolved parsed
    · refine iff_of_true (timely_unchanged timely passed (unchanged (.value
        ("probe operation " ++ operation.operationId ++ " is terminal in state " ++ operation.state.value)) ?_)) ?_
      · unfold reconcileFromEvidence
        rw [getProbeMutationOperation, found]
        simp only [bind, Except.bind, refuse, if_pos (classify_terminal.mpr unresolved)]
      · intro operation' _ known still
        cases found.symm.trans known
        exact absurd still unresolved

private theorem every_front {P : Timed → Prop} (first : Submission) :
    (∀ earlier, earlier <+: first :: submissions → P (run (submit casefold operationId) state earlier)) ↔
      P state ∧ ∀ earlier, earlier <+: submissions →
        P (run (submit casefold operationId) (submit casefold operationId state first) earlier) := by
  constructor
  · intro every
    refine ⟨every [] (List.nil_prefix), fun earlier front => ?_⟩
    exact every (first :: earlier) (List.prefix_cons_inj first |>.mpr front)
  · rintro ⟨start, rest⟩ earlier front
    rcases List.prefix_cons_iff.mp front with rfl | ⟨later, rfl, inside⟩
    · exact start
    · exact rest later inside

private theorem every_submission {P : Timed → Submission → Prop} (first : Submission) :
    (∀ earlier later, earlier ++ [later] <+: first :: submissions →
        P (run (submit casefold operationId) state earlier) later) ↔
      P state first ∧ ∀ earlier later, earlier ++ [later] <+: submissions →
        P (run (submit casefold operationId) (submit casefold operationId state first) earlier) later := by
  constructor
  · intro every
    refine ⟨every [] first ?_, fun earlier later front => every (first :: earlier) later ?_⟩
    · exact List.prefix_cons_inj first |>.mpr List.nil_prefix
    · exact List.prefix_cons_inj first |>.mpr front
  · rintro ⟨start, rest⟩ earlier later front
    cases earlier with
    | nil =>
      obtain rfl := (List.cons_prefix_cons.mp front).1
      exact start
    | cons head earlier =>
      obtain ⟨rfl, inside⟩ := List.cons_prefix_cons.mp front
      exact rest earlier later inside

end Steps

/-- In a run of submissions the operation never lies in the future, and so never
refuses evidence of the present, exactly when it does not at the start and nothing
that is accepted while it is unresolved is ahead of its decision. -/
theorem evidence_not_locked_out (casefold : String → String) (operationId : String) (db : Database) (start : Time)
    (submissions : List Submission) (ordered : Ordered start submissions) :
    (∀ earlier, earlier <+: submissions →
      let state := run (submit casefold operationId) { store := db, clock := start } earlier
      Timely operationId state ∧ AdmitsPresent operationId state) ↔
    Timely operationId { store := db, clock := start } ∧ ∀ earlier submission, earlier ++ [submission] <+: submissions →
      NotAhead operationId (run (submit casefold operationId) { store := db, clock := start } earlier) submission := by
  have both (state : Timed) : Timely operationId state ∧ AdmitsPresent operationId state ↔ Timely operationId state :=
    ⟨And.left, fun timely => ⟨timely, timely.admits⟩⟩
  simp only [both]
  generalize same : ({ store := db, clock := start } : Timed) = state
  replace same : start = state.clock := congrArg Timed.clock same
  subst same
  clear db
  induction submissions generalizing state with
  | nil =>
    constructor
    · exact fun every => ⟨every [] List.nil_prefix, fun earlier later front => by simp at front⟩
    · rintro ⟨timely, _⟩ earlier front
      obtain rfl := List.prefix_nil.mp front
      exact timely
  | cons first rest ih =>
    obtain ⟨before, decided, later⟩ := ordered
    have tail := ih (submit casefold operationId state first) later
    rw [every_front first, every_submission first]
    constructor
    · rintro ⟨timely, next⟩
      obtain ⟨after, all⟩ := tail.mp next
      exact ⟨timely, (submit_timely timely (before.trans decided)).mp after, all⟩
    · rintro ⟨timely, present, all⟩
      exact ⟨timely, tail.mpr ⟨(submit_timely timely (before.trans decided)).mpr present, all⟩⟩

/-- Evidence about the fenced opening that shows no window. -/
def noWindow (observedAt : Int) : Payload :=
  .object [("operation_id", .text "open"), ("owner_token", .text "owner"), ("observed_at", .int observedAt),
    ("complete", .bool true), ("old_matches", .array []), ("new_matches", .array [])]

private theorem notAhead_noWindow {operationId : String} {state : Timed} {observedAt : Int} {parsedAt decidedAt : Time}
    (past : (observedAt : Time) ≤ decidedAt) :
    NotAhead operationId state ⟨noWindow observedAt, parsedAt, decidedAt⟩ := by
  intro operation observation _ _ parsed
  obtain same : some (observedAt : Time) = some observation.observedAt := parse_observedAt parsed
  rwa [← Option.some.inj same]

/-- Evidence of the present, and then of a moment ago. -/
theorem evidence_not_locked_out_present :
    AdmitsPresent "open" (run (submit id "open") { store := fencedDatabase, clock := 2 }
      [⟨noWindow 4, 4, 5⟩, ⟨noWindow 5, 6, 6⟩]) := by
  have whole := (evidence_not_locked_out id "open" fencedDatabase 2 [⟨noWindow 4, 4, 5⟩, ⟨noWindow 5, 6, 6⟩]
    ⟨by decide +kernel, by decide +kernel, by decide +kernel, by decide +kernel, trivial⟩).mpr ⟨?_, ?_⟩
  · exact (whole _ (List.prefix_refl _)).2
  · intro operation found
    have initial : ∀ operation ∈ fencedDatabase.probeMutationOperations.rows, operation.updatedAt ≤ 2 := by decide +kernel
    exact initial operation (Table.find?_some.mp found).1
  · intro earlier submission front
    have member : submission ∈ [⟨noWindow 4, 4, 5⟩, ⟨noWindow 5, 6, 6⟩] := front.subset (by simp)
    rcases List.mem_cons.mp member with rfl | member
    · exact notAhead_noWindow (by decide +kernel)
    · rw [List.mem_singleton.mp member]
      exact notAhead_noWindow (by decide +kernel)

/-- The evidence is a minute and a half ahead. It decides nothing, and from then on
evidence of the present is refused as too old. -/
theorem evidence_locked_out :
    let state := run (submit id "open") { store := fencedDatabase, clock := 2 } [⟨noWindow 95, 4, 5⟩]
    Ordered 2 [⟨noWindow 95, 4, 5⟩] ∧ Timely "open" { store := fencedDatabase, clock := 2 } ∧
      ¬ Timely "open" state ∧ ¬ AdmitsPresent "open" state := by
  have refused : ((run (submit id "open") { store := fencedDatabase, clock := 2 }
      [⟨noWindow 95, 4, 5⟩]).store.probeMutationOperations.find? "open").map
        (fun operation => parseProbeReconciliationEvidence (noWindow 5) operation 5) = some (.error predates) := by
    decide +kernel
  obtain ⟨operation, found, raised⟩ := Option.map_eq_some_iff.mp refused
  refine ⟨⟨by decide +kernel, by decide +kernel, trivial⟩, ?_, fun timely => ?_, fun admits => ?_⟩
  · intro operation found
    have initial : ∀ operation ∈ fencedDatabase.probeMutationOperations.rows, operation.updatedAt ≤ 2 := by decide +kernel
    exact initial operation (Table.find?_some.mp found).1
  · exact timely.admits operation (noWindow 5) found rfl raised
  · exact admits operation (noWindow 5) found rfl raised

end WebSupervisor.ProbeOperator.Proofs
