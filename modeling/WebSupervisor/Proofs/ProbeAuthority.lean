import WebSupervisor.Library.Journal
import WebSupervisor.Proofs.ProbeChange

/-! Mutation authority over probe windows. The journal of a run shows which
calls granted authority; the state that an operation resumes tells which of
them it has received. -/

namespace WebSupervisor.Registry.Proofs
open Library

abbrev ProbeEntry := Entry ProbeMethod SupervisorError ProbeMutationOperation

abbrev ProbeHistory := Journaled Database ProbeMethod SupervisorError ProbeMutationOperation

/-- A call of a probe mutation method, or any other writer of the registry,
which leaves the operations alone. -/
inductive ProbeCall where
  | method (method : ProbeMethod)
  | other (write : Database → Database)

def probeStep (casefold : String → String) (history : ProbeHistory) : ProbeCall → ProbeHistory
  | .method method => history.perform (ProbeMethod.transaction casefold) method
  | .other write =>
    { history with
      store :=
        { write history.store with probeMutationOperations := history.store.probeMutationOperations } }

/-- The call returned the authority to open a window. -/
def grantsOpen (operationId : String) : ProbeEntry → Bool
  | ⟨.authorizeOpen named _, .ok _⟩ => named = operationId
  | _ => false

def grantsClose (operationId : String) : ProbeEntry → Bool
  | ⟨.authorizeClose named _, .ok _⟩ => named = operationId
  | _ => false

/-- The call applied an observation that shows neither target. -/
def foundNeither (operationId : String) : ProbeEntry → Bool
  | ⟨.reconcile named observation current, .ok operation⟩ =>
    named = operationId ∧ operation.state = .readyToOpen ∧ ShowsNeither observation current
  | _ => false

section Accounts
variable (operationId : String)

def NoOpen (journal : List ProbeEntry) : Prop := ∀ entry ∈ journal, grantsOpen operationId entry = false

def NoClose (journal : List ProbeEntry) : Prop := ∀ entry ∈ journal, grantsClose operationId entry = false

/-- What the journal holds about an operation that resumes a state. -/
def Accounts (journal : List ProbeEntry) (kind : ProbeMutationKind) : ProbeMutationState → Prop
  | .armed | .failed => NoOpen operationId journal ∧ NoClose operationId journal
  | .closeSubmitted => NoOpen operationId journal
  | .readyToOpen =>
    NoOpen operationId journal ∧ kind = .rotate ∧ ∃ entry ∈ journal, foundNeither operationId entry = true
  | .openSubmitted => ∃ entry ∈ journal, grantsOpen operationId entry = true
  | .completed => kind ≠ .close → ∃ entry ∈ journal, grantsOpen operationId entry = true
  | .reconcileRequired | .cancelled => False

/-- Authority needs that none of its phase was granted before. -/
def Earned (entry : ProbeEntry) (older : List ProbeEntry) : Prop :=
  (grantsOpen operationId entry = true → NoOpen operationId older ∧
    ∀ operation, entry.result = .ok operation → operation.kind = .rotate →
      ∃ earlier ∈ older, foundNeither operationId earlier = true) ∧
  (grantsClose operationId entry = true → NoOpen operationId older ∧ NoClose operationId older)

structure Accounted (history : ProbeHistory) : Prop where
  rows : ∀ operation ∈ history.store.probeMutationOperations, operation.operationId = operationId →
    Accounts operationId history.journal operation.kind (effectiveState operation)
  absent : (∀ operation ∈ history.store.probeMutationOperations, operation.operationId ≠ operationId) →
    NoOpen operationId history.journal ∧ NoClose operationId history.journal
  earned : Justified (Earned operationId) history.journal

end Accounts

section Steps
variable {operationId : String} {journal : List ProbeEntry} {entry : ProbeEntry}

private theorem NoOpen.cons (none : NoOpen operationId journal) (quiet : grantsOpen operationId entry = false) :
    NoOpen operationId (entry :: journal) :=
  List.forall_mem_cons.mpr ⟨quiet, none⟩

private theorem NoClose.cons (none : NoClose operationId journal) (quiet : grantsClose operationId entry = false) :
    NoClose operationId (entry :: journal) :=
  List.forall_mem_cons.mpr ⟨quiet, none⟩

private theorem recalled {kind : ProbeEntry → Bool} (found : ∃ earlier ∈ journal, kind earlier = true) :
    ∃ earlier ∈ entry :: journal, kind earlier = true := by
  obtain ⟨earlier, member, holds⟩ := found
  exact ⟨earlier, List.mem_cons_of_mem _ member, holds⟩

private theorem Accounts.cons {kind : ProbeMutationKind} {state : ProbeMutationState}
    (accounts : Accounts operationId journal kind state) (noOpen : grantsOpen operationId entry = false)
    (noClose : grantsClose operationId entry = false) : Accounts operationId (entry :: journal) kind state := by
  cases state with
  | armed => exact ⟨accounts.1.cons noOpen, accounts.2.cons noClose⟩
  | failed => exact ⟨accounts.1.cons noOpen, accounts.2.cons noClose⟩
  | closeSubmitted => exact NoOpen.cons accounts noOpen
  | readyToOpen =>
    obtain ⟨none, rotate, found⟩ := accounts
    exact ⟨none.cons noOpen, rotate, recalled found⟩
  | openSubmitted => exact recalled accounts
  | completed => exact fun other => recalled (accounts other)
  | reconcileRequired => exact accounts
  | cancelled => exact accounts

private theorem earned_quiet (noOpen : grantsOpen operationId entry = false)
    (noClose : grantsClose operationId entry = false) : Earned operationId entry journal := by
  simp [Earned, noOpen, noClose]

private theorem Accounted.quiet {history : ProbeHistory} {after : Database} (accounted : Accounted operationId history)
    (noOpen : grantsOpen operationId entry = false) (noClose : grantsClose operationId entry = false)
    (rows : ∀ row, row.operationId = operationId →
      (row ∈ after.probeMutationOperations ↔ row ∈ history.store.probeMutationOperations)) :
    Accounted operationId { store := after, journal := entry :: history.journal } := by
  refine ⟨fun row member same => ?_, fun absent => ?_, accounted.earned.cons (earned_quiet noOpen noClose)⟩
  · exact (accounted.rows row ((rows row same).mp member) same).cons noOpen noClose
  · have before := accounted.absent (fun row member same => absent row ((rows row same).mpr member) same)
    exact ⟨before.1.cons noOpen, before.2.cons noClose⟩

private theorem Accounted.moved {history : ProbeHistory} {after : Database} {new : ProbeMutationOperation}
    (accounted : Accounted operationId history) (own : new.operationId = operationId)
    (saved : Saved new history.store after)
    (accounts : Accounts operationId (entry :: history.journal) new.kind (effectiveState new))
    (earned : Earned operationId entry history.journal) :
    Accounted operationId { store := after, journal := entry :: history.journal } := by
  refine ⟨fun row member same => ?_, fun absent => ?_, accounted.earned.cons earned⟩
  · rcases (saved.rows row).mp member with rfl | ⟨_, other⟩
    · exact accounts
    · exact absurd (same.trans own.symm) other
  · exact absurd own (absent new ((saved.rows new).mpr (Or.inl rfl)))

private theorem Accounts.decided {old new : ProbeMutationOperation} {observation : ProbeMutationObservation}
    {current : Time} (accounts : Accounts operationId journal old.kind (effectiveState old))
    (own : old.operationId = operationId) (sameKind : new.kind = old.kind)
    (decided : Decides old observation current new.state)
    (resumes : new.state = .reconcileRequired → effectiveState new = effectiveState old) :
    Accounts operationId (⟨.reconcile old.operationId observation current, .ok new⟩ :: journal) new.kind
      (effectiveState new) := by
  rw [sameKind]
  generalize moved : new.state = state at decided
  cases decided with
  | fenced =>
    rw [resumes moved]
    exact accounts.cons rfl rfl
  | armed armed =>
    rw [armed] at accounts
    rw [effectiveState_of_ne (by simp [moved]), moved]
    exact accounts.cons rfl rfl
  | ready kind from_ neither =>
    rw [effectiveState_of_ne (by simp [moved]), moved]
    have none : NoOpen operationId journal := by
      rcases List.mem_cons.mp from_ with armed | later
      · rw [armed] at accounts
        exact accounts.1
      · rcases List.mem_cons.mp later with closing | ready
        · rw [closing] at accounts
          exact accounts
        · rw [List.mem_singleton.mp ready] at accounts
          exact accounts.1
    exact ⟨none.cons rfl, kind, _, List.mem_cons_self .., by simp [foundNeither, own, moved, neither]⟩
  | completed authority =>
    rw [effectiveState_of_ne (by simp [moved]), moved]
    intro notClose
    have opened := accounts
    rw [authority notClose] at opened
    exact recalled opened

private theorem method_accounted {casefold : String → String} {history : ProbeHistory} {after : Database}
    {new : ProbeMutationOperation} {method : ProbeMethod} (accounted : Accounted operationId history)
    (result : method.transaction casefold history.store = .ok (new, after)) :
    Accounted operationId { store := after, journal := ⟨method, .ok new⟩ :: history.journal } := by
  cases ProbeMethod.change result with
  | same same noOpen noClose =>
    refine accounted.quiet ?_ ?_ (fun row _ => by rw [same])
    · cases method <;> first | rfl | exact absurd rfl (noOpen _ _)
    · cases method <;> first | rfl | exact absurd rfl (noClose _ _)
  | armed armed state fresh rows =>
    subst armed
    by_cases own : new.operationId = operationId
    · have before := accounted.absent (fun row member same => fresh row member (same.trans own.symm))
      refine ⟨fun row member same => ?_, fun absent => ?_, accounted.earned.cons (earned_quiet rfl rfl)⟩
      · rcases (rows row).mp member with old | rfl
        · exact absurd (same.trans own.symm) (fresh row old)
        · rw [effectiveState_of_ne (by simp [state]), state]
          exact ⟨before.1.cons rfl, before.2.cons rfl⟩
      · exact absurd own (absent new ((rows new).mpr (Or.inr rfl)))
    · refine accounted.quiet rfl rfl (fun row same => ?_)
      rw [rows row, or_iff_left]
      rintro rfl
      exact own same
  | advanced old member sameId sameKind unresolved saved advances =>
    by_cases own : old.operationId = operationId
    · have before := accounted.rows old member own
      cases advances with
      | opened now ready moved =>
        have state : effectiveState new = .openSubmitted := (effectiveState_of_ne (by simp [moved])).trans moved
        have none : NoOpen operationId history.journal ∧ (old.kind = .rotate →
            ∃ earlier ∈ history.journal, foundNeither operationId earlier = true) := by
          rcases ready with ⟨kind, armed⟩ | ⟨_, waiting⟩
          · rw [effectiveState_of_ne (by simp [armed]), armed] at before
            exact ⟨before.1, fun rotate => by simp [kind] at rotate⟩
          · rw [effectiveState_of_ne (by simp [waiting]), waiting] at before
            exact ⟨before.1, fun _ => before.2.2⟩
        refine accounted.moved (sameId.trans own) saved ?_ ⟨fun _ => ⟨none.1, ?_⟩, by simp [grantsClose]⟩
        · rw [state]
          exact ⟨_, List.mem_cons_self .., by simp [grantsOpen, own]⟩
        · intro operation returned rotate
          cases returned
          exact none.2 (sameKind.symm.trans rotate)
      | closed now kind ready moved =>
        rw [effectiveState_of_ne (by simp [ready]), ready] at before
        refine accounted.moved (sameId.trans own) saved ?_ ⟨by simp [grantsOpen], fun _ => before⟩
        rw [effectiveState_of_ne (by simp [moved]), moved]
        exact before.1.cons rfl
      | failed reason now ready moved =>
        rw [effectiveState_of_ne (by simp [ready]), ready] at before
        refine accounted.moved (sameId.trans own) saved ?_ (earned_quiet rfl rfl)
        rw [effectiveState_of_ne (by simp [moved]), moved]
        exact ⟨before.1.cons rfl, before.2.cons rfl⟩
      | completed binding now outcome authority moved =>
        refine accounted.moved (sameId.trans own) saved ?_ (earned_quiet rfl rfl)
        rw [effectiveState_of_ne (by simp [moved]), moved, sameKind]
        intro notClose
        rw [effectiveState_of_ne (by simp [authority notClose]), authority notClose] at before
        exact recalled before
      | reconciled observation current decided resumes =>
        exact accounted.moved (sameId.trans own) saved (before.decided own sameKind decided resumes)
          (earned_quiet rfl rfl)
    · -- Another operation moves.
      refine accounted.quiet ?_ ?_ (fun row same => ?_)
      · cases advances <;> simp [grantsOpen, own]
      · cases advances <;> simp [grantsClose, own]
      · rw [saved.rows row, sameId]
        constructor
        · rintro (rfl | ⟨present, _⟩)
          · exact absurd (sameId.symm.trans same) own
          · exact present
        · exact fun present => Or.inr ⟨present, fun equal => own (equal.symm.trans same)⟩

theorem probeStep_accounted (casefold : String → String) (operationId : String) (history : ProbeHistory)
    (call : ProbeCall) (accounted : Accounted operationId history) :
    Accounted operationId (probeStep casefold history call) := by
  cases call with
  | other write => exact ⟨accounted.rows, accounted.absent, accounted.earned⟩
  | method method =>
    refine Journaled.perform_keeps (fun new after result => method_accounted accounted result) (fun error raised => ?_)
    refine accounted.quiet ?_ ?_ (fun row _ => Iff.rfl)
    · cases method <;> rfl
    · cases method <;> rfl

end Steps

/-- Authority over an operation that is not yet recorded at the start, in every
run of the probe mutation methods. The operation receives at most one OPEN and
one CLOSE authority. A ROTATE receives OPEN authority only after an applied
observation that shows neither target; after OPEN authority nothing more is
granted. An OPEN or ROTATE operation is completed only after its OPEN authority,
and a failed operation has received none. -/
theorem probe_authority_once (casefold : String → String) (operationId : String) (start : Database)
    (fresh : ∀ operation ∈ start.probeMutationOperations, operation.operationId ≠ operationId)
    (calls : List ProbeCall) :
    let final := run (probeStep casefold) { store := start } calls
    final.journal.countP (grantsOpen operationId) ≤ 1 ∧
    final.journal.countP (grantsClose operationId) ≤ 1 ∧
    (∀ newer entry older, final.journal = newer ++ entry :: older → grantsOpen operationId entry = true →
      (∀ later ∈ newer, grantsOpen operationId later = false ∧ grantsClose operationId later = false) ∧
      ∀ operation, entry.result = .ok operation → operation.kind = .rotate →
        ∃ earlier ∈ older, foundNeither operationId earlier = true) ∧
    ∀ operation ∈ final.store.probeMutationOperations, operation.operationId = operationId →
      (operation.kind ≠ .close → operation.state = .completed →
        ∃ entry ∈ final.journal, grantsOpen operationId entry = true) ∧
      (operation.state = .failed → ∀ entry ∈ final.journal,
        grantsOpen operationId entry = false ∧ grantsClose operationId entry = false) := by
  intro final
  have initial : Accounted operationId { store := start } :=
    ⟨fun operation member same => absurd same (fresh operation member), fun _ => by simp [NoOpen, NoClose], .nil⟩
  have accounted : Accounted operationId final :=
    run_invariant (probeStep casefold) (probeStep_accounted casefold operationId) _ calls initial
  refine ⟨?_, ?_, ?_, ?_⟩
  · exact accounted.earned.once (fun entry older earned grants => (earned.1 grants).1)
  · exact accounted.earned.once (fun entry older earned grants => (earned.2 grants).2)
  · intro newer entry older split grants
    refine ⟨fun later member => ?_, ((accounted.earned newer entry older split).1 grants).2⟩
    -- A later grant would need that none was given before it.
    obtain ⟨last, middle, rfl⟩ := List.append_of_mem member
    have earned := accounted.earned last later (middle ++ entry :: older) (by rw [split]; simp)
    have inside : entry ∈ middle ++ entry :: older := by simp
    constructor
    · by_contra grantsAgain
      have none := (earned.1 (by simpa using grantsAgain)).1 entry inside
      rw [grants] at none
      cases none
    · by_contra grantsAgain
      have none := (earned.2 (by simpa using grantsAgain)).1 entry inside
      rw [grants] at none
      cases none
  · intro operation member same
    have accounts := accounted.rows operation member same
    constructor
    · intro notClose completed
      rw [effectiveState_of_ne (by simp [completed]), completed] at accounts
      exact accounts notClose
    · intro failed entry inside
      rw [effectiveState_of_ne (by simp [failed]), failed] at accounts
      exact ⟨accounts.1 entry inside, accounts.2 entry inside⟩

def probedSlot : ProbeWindowSlotBinding where
  slotId := "probe:default"
  ownerToken := "owner"
  targetWorkerId := "old"
  targetConversationUrl := "https://chatgpt.com/c/1"
  actualUrl := "https://chatgpt.com/c/1#lws"
  windowHandle := 1
  browserPid := 2
  chromeExecutable := "chrome"
  source := "windows_uia_lws_probe"
  boundAt := 0
  observedAt := 0
  expiresAt := 120

/-- A parked worker and the durable slot of another one. -/
def probedDatabase : Database where
  tasks := .single { taskId := "task", state := .running }
  workers := ⟨[{ workerId := "worker", taskId := "task", conversationUrl := "https://chatgpt.com/c/2",
                 status := .parked, startedAt := 0 }], by decide⟩
  probeWindowSlots := ⟨[probedSlot], by decide⟩

def rotation : ProbeMutationOperation where
  operationId := "rotate"
  nonce := "nonce"
  kind := .rotate
  state := .armed
  slotId := "probe:default"
  targetTaskId := "task"
  targetWorkerId := "worker"
  targetConversationUrl := "https://chatgpt.com/c/2"
  ownerToken := "owner"
  expectedActualUrl := "https://chatgpt.com/c/2#lws"
  expectedChromeExecutable := "chrome"
  source := "windows_uia_lws_probe"
  priorSlot := some probedSlot
  createdAt := 1
  updatedAt := 1

/-- The old window is closed, found absent, and the new one opened and adopted. -/
theorem probe_authority_once_rotation :
    let calls : List ProbeCall :=
      [.method (.arm rotation), .method (.authorizeOpen "rotate" 2), .method (.authorizeClose "rotate" 3),
       .method (.reconcile "rotate" { observedAt := 4 } 5), .method (.authorizeOpen "rotate" 6),
       .method (.authorizeOpen "rotate" 7),
       .method (.reconcile "rotate"
         { observedAt := 8, newMatches := [⟨3, 4, "chrome", "https://chatgpt.com/c/2#lws/"⟩] } 9)]
    let final := run (probeStep id) { store := probedDatabase } calls
    final.journal.countP (grantsOpen "rotate") = 1 ∧ final.journal.countP (grantsClose "rotate") = 1 ∧
      (final.store.probeMutationOperations.find? "rotate").map (·.state) = some .completed ∧
      ∀ newer entry older, final.journal = newer ++ entry :: older → grantsOpen "rotate" entry = true →
        (∀ later ∈ newer, grantsOpen "rotate" later = false ∧ grantsClose "rotate" later = false) ∧
        ∀ operation, entry.result = .ok operation → operation.kind = .rotate →
          ∃ earlier ∈ older, foundNeither "rotate" earlier = true := by
  refine ⟨by decide +kernel, by decide +kernel, by decide +kernel, ?_⟩
  exact (probe_authority_once id "rotate" probedDatabase (by decide +kernel) _).2.2.1

end WebSupervisor.Registry.Proofs
