import WebSupervisor.Proofs.ChatContract

/-! The engine keeps the contract of the chat queue. Most of its statements
concern pages and conversations and keep whatever it knows about its job. -/

namespace WebSupervisor.ChatDispatch.Proofs
open Library Library.Program

/-- What a part of an engine run needs and leaves. -/
abbrev Does (start : ChatStore) (pid : Nat) (engine : ChatDispatchEngine) {β : Type} (pre : Knowledge)
    (program : Engine β) (post : Except Raised β → Knowledge) : Prop :=
  (dispatching start).Triple pid (.runOnce engine) (fun now => pre now.store now.log) program
    (fun result now => post result now.store now.log)

/-- The part keeps everything that others leave alone. -/
def Quiet (start : ChatStore) (pid : Nat) (engine : ChatDispatchEngine) {β : Type} (program : Engine β) : Prop :=
  ∀ knows, Steady pid knows → Does start pid engine knows program (fun _ => knows)

variable {start : ChatStore} {pid : Nat} {engine : ChatDispatchEngine} {β γ : Type}
  {knows : Knowledge} {post : Except Raised β → Knowledge}

theorem Steady.stable (steady : Steady pid knows) :
    (dispatching start).Stable pid (.runOnce engine) (fun now => knows now.store now.log) :=
  fun _ _ earlier later found known => steady.later earlier later found.2 known

section Rules

theorem does_weaken {strong weak : Knowledge} {program : Engine β} {other : Except Raised β → Knowledge}
    (does : Does start pid engine weak program post) (before : ∀ store log, strong store log → weak store log)
    (after : ∀ result store log, post result store log → other result store log) :
    Does start pid engine strong program other :=
  does.weaken (fun _ _ => before _ _) (fun result _ _ => after result _ _)

theorem does_given {condition : Prop} {program : Engine β} (implies : ∀ store log, knows store log → condition)
    (does : condition → Does start pid engine knows program post) : Does start pid engine knows program post :=
  fun seen valid held => does (implies _ _ held) seen valid held

theorem does_ensure {result : Except Raised β} (steady : Steady pid (post result))
    (implies : ∀ store log, knows store log → post result store log) :
    Does start pid engine knows (ensure result) post :=
  Contract.Triple.ensure steady.stable (fun _ _ => implies _ _)

theorem does_pure {value : β} (steady : Steady pid (post (.ok value)))
    (implies : ∀ store log, knows store log → post (.ok value) store log) :
    Does start pid engine knows (pure value) post :=
  does_ensure steady implies

theorem does_bind {middle : Except Raised γ → Knowledge} {program : Engine γ} {next : γ → Engine β}
    (first : Does start pid engine knows program middle)
    (rest : ∀ value, Does start pid engine (middle (.ok value)) (next value) post)
    (steady : ∀ error, Steady pid (post (.error error)))
    (raised : ∀ error store log, middle (.error error) store log → post (.error error) store log) :
    Does start pid engine knows (program >>= next) post :=
  Contract.Triple.bind (.refl pid) first rest (fun error => (steady error).stable) (fun error _ _ => raised error _ _)

theorem quiet_bind {program : Engine γ} {next : γ → Engine β} (first : Quiet start pid engine program)
    (rest : ∀ value, Quiet start pid engine (next value)) : Quiet start pid engine (program >>= next) :=
  fun knows steady => does_bind (first knows steady) (fun value => rest value knows steady) (fun _ => steady)
    (fun _ _ _ held => held)

theorem quiet_pure (value : β) : Quiet start pid engine (pure value) :=
  fun _ steady => does_pure steady (fun _ _ known => known)

theorem quiet_ensure (result : Except Raised β) : Quiet start pid engine (ensure result) :=
  fun _ steady => does_ensure steady (fun _ _ known => known)

theorem does_map {program : Engine γ} (convert : γ → β)
    (does : Does start pid engine knows program (fun result => post (result.map convert)))
    (steady : ∀ result, Steady pid (post result)) : Does start pid engine knows (convert <$> program) post :=
  Contract.Triple.map (.refl pid) does (fun result => (steady result).stable)

theorem quiet_map {program : Engine γ} (convert : γ → β) (quiet : Quiet start pid engine program) :
    Quiet start pid engine (convert <$> program) :=
  fun knows steady => does_map convert (quiet knows steady) (fun _ => steady)

/-- A quiet part in front. -/
theorem does_after {program : Engine γ} {next : γ → Engine β} (first : Quiet start pid engine program)
    (steady : Steady pid knows) (rest : ∀ value, Does start pid engine knows (next value) post)
    (lasting : ∀ error, Steady pid (post (.error error)))
    (raised : ∀ error store log, knows store log → post (.error error) store log) :
    Does start pid engine knows (program >>= next) post :=
  does_bind (first knows steady) rest lasting raised

end Rules

section Statements

/-- A read, and what it tells. -/
theorem does_check {view : ChatStore → Except Raised β} (before : Steady pid knows)
    (after : ∀ result, Steady pid (post result))
    (gives : ∀ now, Orderly start now → knows now.store now.log → post (view now.store) now.store now.log) :
    Does start pid engine knows (check view) post := by
  refine Contract.Triple.check before.stable (fun result => (after result).stable) (fun now orderly known => ?_)
  exact ⟨⟨orderly.read, trivial⟩, after _ _ _ _ _ ⟨rfl, rfl⟩ ((SameQueue.of_jobs rfl).beside pid pid) (gives now orderly known)⟩

theorem quiet_check (view : ChatStore → Except Raised β) : Quiet start pid engine (check view) :=
  fun _ steady => does_check steady (fun _ => steady) (fun _ _ known => known)

theorem quiet_query (view : ChatStore → β) : Quiet start pid engine (query view) := quiet_check _

theorem quiet_transaction {work : ChatStore → Except Raised (β × ChatStore)}
    (same : ∀ store value after, work store = .ok (value, after) → SameQueue store after)
    (pages : ∀ store value after log, work store = .ok (value, after) → Paged store log → Paged after log) :
    Quiet start pid engine (transaction work) := by
  intro knows steady
  refine Contract.Triple.transaction steady.stable (fun _ => steady.stable) ?_ ?_
  · intro now value after orderly known done
    have kept := same _ _ _ done
    exact ⟨⟨orderly.keep kept.change kept.states kept.attempts (fun _ => pages _ _ _ _ done), trivial⟩,
      steady _ _ _ _ ⟨rfl, rfl⟩ (kept.beside pid pid) known⟩
  · intro now error orderly known _
    exact ⟨⟨orderly.read, trivial⟩,
      steady _ _ _ _ ⟨rfl, rfl⟩ ((SameQueue.of_jobs rfl).beside pid pid) known⟩

theorem quiet_write {change : ChatStore → ChatStore} (jobs : ∀ store, (change store).jobs = store.jobs)
    (pages : ∀ store log, Paged store log → Paged (change store) log) :
    Quiet start pid engine (write change) := by
  refine quiet_transaction (fun store value after done => ?_) (fun store value after log done => ?_)
  · cases done
    exact .of_jobs (jobs store)
  · cases done
    exact pages store log

private theorem beside_issue {request : Request} {store : ChatStore} (unsent : sentJob request = none) :
    Beside pid (.issued pid request store) := fun _ => ⟨unsent, trivial, trivial⟩

theorem beside_answer {other : Nat} {request : Request} {answer : Answer request} :
    Beside pid (.answered other request answer) := fun _ => ⟨trivial, trivial, trivial⟩

/-- A request that sends nothing and closes nothing, and what its answer tells. -/
theorem does_ask {request : Request} {receive : Answer request → Except Raised β} (unsent : sentJob request = none)
    (kept : ∀ page, request ≠ .closePage page) (before : Steady pid knows)
    (after : ∀ result, Steady pid (post result))
    (gives : ∀ store log answer, knows store log →
      post (receive answer) store (.answered pid request answer :: log)) :
    Does start pid engine knows (ask request receive) post := by
  refine Contract.Triple.ask before.stable before.stable (fun result => (after result).stable) ?_ ?_
  · intro now orderly known
    refine ⟨⟨orderly.issue unsent (fun page same => absurd same (kept page)), trivial⟩, ?_⟩
    exact before _ _ _ _ ⟨rfl, rfl⟩ (beside_issue unsent) known
  · intro now answer orderly known
    exact ⟨⟨orderly.answer request answer, trivial⟩, gives _ _ answer known⟩

theorem quiet_ask {request : Request} (receive : Answer request → Except Raised β) (unsent : sentJob request = none)
    (kept : ∀ page, request ≠ .closePage page) : Quiet start pid engine (ask request receive) :=
  fun _ steady => does_ask unsent kept steady (fun _ => steady)
    (fun _ _ _ known => steady _ _ _ _ rfl beside_answer known)

theorem quiet_clock : Quiet start pid engine clock := quiet_ask _ rfl (by simp)

end Statements

section Pages

theorem quiet_updatePage {pageId : String} {change : ChatPage → ChatPage}
    {kept : ∀ page, (change page).pageId = page.pageId} (window : ∀ page, ChatPage.window (change page) = ChatPage.window page)
    (owned : ∀ page, (change page).owned = page.owned) :
    Quiet start pid engine (write (updatePage pageId change kept)) :=
  quiet_write (fun _ => rfl) (fun _ _ => updatePage_paged window owned)

theorem quiet_setPageClosed (pageId : String) (ambiguous : Bool) (error : Option String) :
    Quiet start pid engine (setPageClosed pageId ambiguous error) :=
  quiet_bind (quiet_updatePage (fun _ => rfl) (fun _ => rfl)) (fun _ => quiet_bind (quiet_check _) (fun _ => quiet_pure _))

theorem quiet_setPageUrl (pageId conversationUrl : String) :
    Quiet start pid engine (setPageUrl pageId conversationUrl) :=
  quiet_bind quiet_clock (fun _ =>
    quiet_bind (quiet_updatePage (fun _ => rfl) (fun _ => rfl)) (fun _ => quiet_check _))

theorem quiet_setPageOpen (pageId : String) : Quiet start pid engine (setPageOpen pageId) :=
  quiet_bind quiet_clock (fun _ =>
    quiet_bind (quiet_updatePage (fun _ => rfl) (fun _ => rfl)) (fun _ => quiet_check _))

theorem quiet_setPageIdle (pageId : String) (idleCloseS now : Time) :
    Quiet start pid engine (setPageIdle pageId idleCloseS now) :=
  quiet_bind (quiet_check _) (fun _ => quiet_bind (quiet_updatePage (fun _ => rfl) (fun _ => rfl))
    (fun _ => quiet_bind (quiet_check _) (fun _ => quiet_pure _)))

theorem bindConversation_jobs {conversationKey conversationUrl : String} {now : Time} {store after : ChatStore}
    (bound : bindConversation conversationKey conversationUrl now store = .ok ((), after)) :
    after.pages = store.pages ∧ after.jobs = store.jobs.update
      (fun job => job.conversationKey = conversationKey ∧ job.conversationUrl = none)
      (fun job => { job with conversationUrl := some conversationUrl, updatedAt := now }) (fun _ => rfl) (fun _ => rfl) := by
  unfold bindConversation at bound
  split at bound
  next => cases bound
  next =>
    dsimp only at bound
    split at bound
    next =>
      cases bound
      exact ⟨rfl, rfl⟩
    next =>
      split at bound
      next => cases bound
      next =>
        cases bound
        exact ⟨rfl, rfl⟩

theorem bindConversation_same {conversationKey conversationUrl : String} {now : Time} {store after : ChatStore}
    (bound : bindConversation conversationKey conversationUrl now store = .ok ((), after)) : SameQueue store after := by
  let revise : ChatDispatchJob → ChatDispatchJob := fun job =>
    if job.conversationKey = conversationKey ∧ job.conversationUrl = none then
      { job with conversationUrl := some conversationUrl, updatedAt := now }
    else job
  have rows : after.jobs.rows = store.jobs.rows.map revise := by
    simp [(bindConversation_jobs bound).2, revise, IndexedTable.update, Table.update]
  have keeps {δ : Type} (field : ChatDispatchJob → δ) (job : ChatDispatchJob)
      (same : field { job with conversationUrl := some conversationUrl, updatedAt := now } = field job) :
      field (revise job) = field job := by
    dsimp only [revise]
    split
    · exact same
    · rfl
  have sameId (job : ChatDispatchJob) := keeps (·.dispatchId) job rfl
  have sameState (job : ChatDispatchJob) := keeps (·.state) job rfl
  have sameAttempts (job : ChatDispatchJob) := keeps (·.attempts) job rfl
  exact ⟨.kept revise sameId (fun job => keeps (·.conversationKey) job rfl) sameState sameAttempts rows,
    fun _ => stateOf_kept sameId sameState rows, fun _ => attemptsOf_kept sameId sameAttempts rows⟩

theorem quiet_bindKey (conversationKey conversationUrl : String) :
    Quiet start pid engine (bindKey conversationKey conversationUrl) := by
  refine quiet_bind quiet_clock (fun now => quiet_transaction (fun _ _ _ => bindConversation_same) ?_)
  intro store value after log bound paged page member
  rw [(bindConversation_jobs bound).1] at member
  exact paged page member

theorem quiet_pageShows (job : ChatDispatchJob) (page : ChatPage) (current : String) :
    Quiet start pid engine (pageShows job page current) := by
  unfold pageShows
  dsimp only
  split
  · split
    · exact quiet_map _ (quiet_setPageUrl _ _)
    · exact quiet_pure _
  · split
    · exact quiet_pure _
    · exact quiet_bind (quiet_setPageClosed _ _ _) (fun _ => quiet_pure _)

theorem quiet_pageOf (job : ChatDispatchJob) : Quiet start pid engine (pageOf job) := by
  refine quiet_bind (quiet_query _) (fun found => ?_)
  cases found with
  | none => exact quiet_pure _
  | some page =>
    refine quiet_bind (quiet_ask _ rfl (by simp)) (fun shown => ?_)
    cases shown with
    | none => exact quiet_bind (quiet_setPageClosed _ _ _) (fun _ => quiet_pure _)
    | some current => exact quiet_pageShows job page current

end Pages

end WebSupervisor.ChatDispatch.Proofs
