import Mathlib.Algebra.Order.BigOperators.Group.List
import Mathlib.Data.List.Chain
import WebSupervisor.Proofs.ChatCalls

/-! The addresses that an enqueue takes. It looks for a `/c/` segment anywhere in
the text; a later enqueue of the same key and a repeated dispatch key compare
addresses as the project-scoped grammar reads them. What they compare with is
what the store keeps at that time, and the engine rebinds a key to whatever
address the browser shows. -/

namespace WebSupervisor

theorem conversationUrlMatches_iff {left right : String} :
    conversationUrlMatches left right = true ↔
      (conversationIdentity right).isSome ∧ conversationIdentity left = conversationIdentity right := by
  unfold conversationUrlMatches
  rw [Bool.and_eq_true, beq_iff_eq]
  generalize conversationIdentity left = first
  generalize conversationIdentity right = second
  exact and_congr_left (fun same => by rw [same])

end WebSupervisor

namespace WebSupervisor.ChatDispatch.Proofs
open Library

/-- An https address of the host. -/
def OnChatGpt (url : String) : Prop :=
  ∃ parsed, urlsplit (strip url) = some parsed ∧ parsed.scheme = "https" ∧ parsed.hostname = "chatgpt.com"

/-- A statement of any process on the store. -/
inductive StoreStep : ChatStore → ChatStore → Prop where
  | enqueue {store after : ChatStore} (request : Enqueue) (result : Enqueued)
      (done : enqueueTransaction request store = .ok (result, after)) : StoreStep store after
  | bind {store after : ChatStore} (conversationKey address : String) (now : Time)
      (done : bindConversation conversationKey address now store = .ok ((), after)) : StoreStep store after
  | job {store : ChatStore} (dispatchId : String) (change : JobChange) (now : Time) :
      StoreStep store (updateJobRow dispatchId change now store)
  | page {store : ChatStore} (pages : Table ChatPage ChatPage.pageId) : StoreStep store { store with pages }

/-- The job and the dispatch key of the request are new. -/
def Fresh (request : Enqueue) (store : ChatStore) : Prop :=
  ∀ job ∈ store.jobs, job.dispatchId ≠ "chat_" ++ request.dispatchSuffix ∧
    (stripped request.dispatchKey ≠ none → job.dispatchKey ≠ stripped request.dispatchKey)

/-- The arguments that a caller gives are the same. -/
structure SameArguments (first again : Enqueue) : Prop where
  prompt : again.prompt = first.prompt
  conversationKey : again.conversationKey = first.conversationKey
  conversationUrl : again.conversationUrl = first.conversationUrl
  projectUrl : again.projectUrl = first.projectUrl
  dispatchKey : again.dispatchKey = first.dispatchKey
  idleCloseS : again.idleCloseS = first.idleCloseS
  maxWindows : again.maxWindows = first.maxWindows

/-- A stored address that is not blank names the conversation of `url`. -/
def Fits (url : String) (stored : Option String) : Prop :=
  isSet stored → conversationUrlMatches (stored.getD "") url = true

section Host
variable {url : String}

theorem OnChatGpt.stripped (host : OnChatGpt url) :
    ChatDispatch.stripped (some url) = some (strip url) ∧ isSet (some (strip url)) := by
  have text : strip url ≠ "" := by
    intro blank
    obtain ⟨parsed, found, https, _⟩ := host
    have split : urlsplit "" = some ⟨"", "", "", "", ""⟩ := by decide +kernel
    rw [blank, split] at found
    cases found
    exact absurd https (by decide)
  have given : url ≠ "" := by
    rintro rfl
    exact text (by decide)
  simp [ChatDispatch.stripped, isSet, text, given]

theorem Fits.names {stored : Option String} (fits : Fits url stored) (set : isSet stored) :
    (conversationIdentity url).isSome :=
  (conversationUrlMatches_iff.mp (fits set)).1

end Host

/-- The key has an address, a blank one perhaps. -/
def Bound (key : String) (store : ChatStore) : Prop :=
  ∃ row ∈ store.conversations, row.conversationKey = key ∧ row.conversationUrl ≠ none

/-- The job of the first enqueue, with all but the address that a repeated one is
compared with. -/
def Kept (first : Enqueue) (dispatchId : String) (store : ChatStore) : Prop :=
  ∃ job ∈ store.jobs, job.dispatchId = dispatchId ∧ job.dispatchKey = stripped first.dispatchKey ∧
    job.promptSha256 = sha256 first.prompt ∧ job.conversationKey = first.key ∧
    (isSet (stripped first.projectUrl) → job.projectUrl = stripped first.projectUrl)

/-- What an enqueue that adds a job does. -/
theorem enqueueTransaction_added {request : Enqueue} {store after : ChatStore} {dispatchId : String}
    (done : enqueueTransaction request store = .ok (.added dispatchId, after)) :
    request.validate = .ok () ∧ dispatchId = "chat_" ++ request.dispatchSuffix ∧
    ∃ url middle, request.resolveUrl (store.conversations.find? request.key) = .ok url ∧
      upsertConversation store
        { conversationKey := request.key, conversationUrl := url,
          projectUrl := request.resolveProject (store.conversations.find? request.key),
          createdAt := request.now, updatedAt := request.now } = .ok middle ∧
      insertJob middle (request.job url (request.resolveProject (store.conversations.find? request.key))) = .ok after := by
  simp only [enqueueTransaction, bind_eq_ok] at done
  obtain ⟨⟨⟩, valid, done⟩ := done
  split at done
  next =>
    rw [bind_eq_ok] at done
    obtain ⟨_, _, impossible⟩ := done
    cases impossible
  next =>
    simp only [enqueueNew, bind_eq_ok] at done
    obtain ⟨⟨job, added⟩, ⟨url, resolved, _, _, middle, upserted, last, inserted, pair⟩, same⟩ := done
    cases pair
    cases same
    exact ⟨valid, rfl, url, middle, resolved, upserted, inserted⟩

theorem insertJob_conversations {store after : ChatStore} {job : ChatDispatchJob} (done : insertJob store job = .ok after) :
    after.conversations = store.conversations := by
  unfold insertJob at done
  split at done
  next => cases done
  next => cases done
  next =>
    cases done
    rfl

section Step
variable {key : String} {store after : ChatStore}

private theorem Bound.conversations (bound : Bound key store) (same : after.conversations = store.conversations) :
    Bound key after := by
  obtain ⟨row, member, stored⟩ := bound
  exact ⟨row, by rwa [same], stored⟩

private theorem Bound.replaced (bound : Bound key store) {old row : ChatConversation} (member : old ∈ store.conversations)
    (rows : after.conversations.toTable = store.conversations.toTable.replace row)
    (sameKey : row.conversationKey = old.conversationKey)
    (kept : old.conversationUrl ≠ none → row.conversationUrl ≠ none) : Bound key after := by
  obtain ⟨bearer, present, named, stored⟩ := bound
  by_cases touched : bearer.conversationKey = old.conversationKey
  · obtain rfl := Table.eq_of_key present member touched
    refine ⟨row, ?_, sameKey.trans named, kept stored⟩
    rw [IndexedTable.mem_toTable, rows, Table.mem_replace]
    exact Or.inl ⟨rfl, bearer, member, sameKey.symm⟩
  · refine ⟨bearer, ?_, named, stored⟩
    rw [IndexedTable.mem_toTable, rows, Table.mem_replace]
    exact Or.inr ⟨present, by rwa [sameKey]⟩

private theorem Bound.upsertConversation (bound : Bound key store) {row : ChatConversation}
    (done : upsertConversation store row = .ok after) : Bound key after := by
  unfold ChatDispatch.upsertConversation at done
  split at done
  next =>
    split at done
    next => cases done
    next conversations inserted =>
      cases done
      obtain ⟨bearer, member, stored⟩ := bound
      exact ⟨bearer, (Table.mem_insert? (IndexedTable.insert_ok inserted)).mpr (.inl member), stored⟩
  next old found =>
    dsimp only at done
    split at done
    next => cases done
    next conversations replaced =>
      cases done
      refine bound.replaced (Table.find?_some.mp found).1 (IndexedTable.replace?_some replaced) rfl ?_
      intro stored
      simp [stored]

private theorem Bound.enqueue (bound : Bound key store) {request : Enqueue} {result : Enqueued}
    (done : enqueueTransaction request store = .ok (result, after)) : Bound key after := by
  cases result with
  | existing job =>
    rcases enqueueTransaction_ok done with ⟨_, _, _, rfl⟩ | ⟨_, impossible, _⟩
    · exact bound
    · cases impossible
  | added dispatchId =>
    obtain ⟨_, _, _, middle, _, upserted, inserted⟩ := enqueueTransaction_added done
    exact (bound.upsertConversation upserted).conversations (insertJob_conversations inserted)

private theorem Bound.bindConversation (bound : Bound key store) {conversationKey address : String} {now : Time}
    (done : bindConversation conversationKey address now store = .ok ((), after)) : Bound key after := by
  unfold ChatDispatch.bindConversation at done
  split at done
  next => cases done
  next =>
    dsimp only at done
    split at done
    next =>
      cases done
      exact bound.conversations rfl
    next old found =>
      split at done
      next => cases done
      next conversations replaced =>
        cases done
        exact bound.replaced (Table.find?_some.mp found).1 (IndexedTable.replace?_some replaced) rfl
          (fun _ => by simp)

private theorem Bound.step (bound : Bound key store) (step : StoreStep store after) : Bound key after := by
  cases step with
  | enqueue request result done => exact bound.enqueue done
  | bind conversationKey address now done => exact bound.bindConversation done
  | job dispatchId change now => exact bound.conversations rfl
  | page pages => exact bound.conversations rfl

section Job
variable {first : Enqueue} {dispatchId : String}

private theorem Kept.rows (kept : Kept first dispatchId store) (same : ∀ job ∈ store.jobs, job ∈ after.jobs) :
    Kept first dispatchId after := by
  obtain ⟨job, member, stored⟩ := kept
  exact ⟨job, same job member, stored⟩

private theorem Kept.update (kept : Kept first dispatchId store) {select : ChatDispatchJob → Bool}
    {change : ChatDispatchJob → ChatDispatchJob} (jobs : after.jobs.rows = store.jobs.rows.map (fun job =>
      if select job then change job else job))
    (same : ∀ job, (change job).dispatchId = job.dispatchId ∧ (change job).dispatchKey = job.dispatchKey ∧
      (change job).promptSha256 = job.promptSha256 ∧ (change job).conversationKey = job.conversationKey ∧
      (change job).projectUrl = job.projectUrl) : Kept first dispatchId after := by
  obtain ⟨job, member, named, dispatchKey, digest, key, project⟩ := kept
  obtain ⟨sameId, sameDispatchKey, sameDigest, sameKey, sameProject⟩ := same job
  have written : (if select job then change job else job) ∈ after.jobs := by
    rw [IndexedTable.mem_toTable, Table.mem_def, jobs]
    exact List.mem_map_of_mem member
  refine ⟨_, written, ?_⟩
  split
  next => exact ⟨sameId.trans named, sameDispatchKey.trans dispatchKey, sameDigest.trans digest, sameKey.trans key,
    fun set => sameProject.trans (project set)⟩
  next => exact ⟨named, dispatchKey, digest, key, project⟩

private theorem Kept.bindConversation (kept : Kept first dispatchId store) {conversationKey address : String}
    {now : Time} (done : bindConversation conversationKey address now store = .ok ((), after)) :
    Kept first dispatchId after := by
  unfold ChatDispatch.bindConversation at done
  split at done
  next => cases done
  next =>
    dsimp only at done
    split at done
    next =>
      cases done
      exact kept.update rfl (fun _ => ⟨rfl, rfl, rfl, rfl, rfl⟩)
    next =>
      split at done
      next => cases done
      next =>
        cases done
        exact kept.update rfl (fun _ => ⟨rfl, rfl, rfl, rfl, rfl⟩)

private theorem Kept.step (kept : Kept first dispatchId store) (step : StoreStep store after) :
    Kept first dispatchId after := by
  cases step with
  | enqueue request result done =>
    refine kept.rows (fun job member => ?_)
    rcases enqueueTransaction_ok done with ⟨_, _, _, rfl⟩ | ⟨_, _, _, inserted, _⟩
    · exact member
    · exact (Table.mem_insert? inserted).mpr (Or.inl member)
  | bind conversationKey address now done => exact kept.bindConversation done
  | job updated change now => exact kept.update rfl (fun _ => ⟨rfl, rfl, rfl, rfl, rfl⟩)
  | page pages => exact kept.rows (fun _ member => member)

end Job

end Step

section First
variable {first : Enqueue} {url dispatchId : String} {store added : ChatStore}

end First

section Again
variable {first again : Enqueue} {url : String} {store : ChatStore}

theorem Fresh.existing (fresh : Fresh again store) : again.existing store = none := by
  unfold Enqueue.existing
  dsimp only
  split
  next set =>
    rw [List.find?_eq_none]
    intro job member
    have given : stripped again.dispatchKey ≠ none := by
      intro none
      simp [none, isSet] at set
    simpa using (fresh job member).2 given
  next => rfl

theorem SameArguments.validate (same : SameArguments first again) : again.validate = first.validate := by
  obtain ⟨prompt, conversationKey, conversationUrl, projectUrl, dispatchKey, _, _⟩ := same
  unfold Enqueue.validate Enqueue.requestedKey
  rw [prompt, conversationKey, conversationUrl, projectUrl, dispatchKey]

end Again

section Run
variable {first : Enqueue} {url dispatchId : String} {store added : ChatStore} {path : List ChatStore}

end Run

section Example

end Example

end WebSupervisor.ChatDispatch.Proofs
