import WebSupervisor.Library.Journal
import WebSupervisor.Registry.Watchdog

/-! The watchdog lease. A lease stays as it is until its owner takes it again or
releases it, a stop takes it over, or somebody finds it expired; a stop token is
nobody's owner id, so that it stays until it expires or is cleared. -/

namespace WebSupervisor.Registry.Proofs
open Library Journaled

abbrev WatchdogEntry := Entry WatchdogCall SupervisorError WatchdogAnswer

section Entries

/-- The name, the owner and the new expiry of a successful acquire or heartbeat. -/
def granted : WatchdogEntry → Option (String × String × Time)
  | ⟨.acquire name ownerId .., .ok (.lease true lease)⟩ => some (name, ownerId, lease.expiresAt)
  | ⟨.heartbeat name ownerId ttl now, .ok (.done true)⟩ => some (name, ownerId, now + max 1 ttl)
  | _ => none

def acquired : WatchdogEntry → Option (String × String)
  | ⟨.acquire name ownerId .., .ok (.lease true _)⟩ => some (name, ownerId)
  | _ => none

def released : WatchdogEntry → Option (String × String)
  | ⟨.release name ownerId, .ok (.done true)⟩ => some (name, ownerId)
  | _ => none

def cleared : WatchdogEntry → Option (String × String)
  | ⟨.clearStop name stopOwnerId, .ok (.done true)⟩ => some (name, stopOwnerId)
  | _ => none

/-- The name, the owner that a stop has replaced, and the lease of its token. -/
def stopped : WatchdogEntry → Option (String × String × WatchdogLease)
  | ⟨.requestStop name .., .ok (.stop (.replaced previousOwnerId lease))⟩ => some (name, previousOwnerId, lease)
  | _ => none

/-- The stop that a request has found or made. -/
def fencing : WatchdogEntry → Option (String × WatchdogLease)
  | ⟨.requestStop name .., .ok (.stop (.pending lease))⟩ => some (name, lease)
  | ⟨.requestStop name .., .ok (.stop (.replaced _ lease))⟩ => some (name, lease)
  | _ => none

end Entries

/-- Owner ids do not look like stop tokens. -/
def OwnersApart (calls : List WatchdogCall) : Prop :=
  ∀ ownerId ∈ calls.filterMap (·.owner), isStopToken ownerId = false

/-- The clock does not go back. -/
def ClockForward (calls : List WatchdogCall) : Prop := (calls.filterMap (·.time)).Pairwise (· ≤ ·)

def leaseOf (db : Database) (name : String) : Option WatchdogLease := db.watchdogLeases.find? name

theorem isStopToken_made (hex : String) : isStopToken ("stop:" ++ hex) = true := by
  simp [isStopToken]

section Specs
variable {name ownerId wanted : String} {db after : Database}

private theorem leaseOf_replace {row lease : WatchdogLease} (found : leaseOf db lease.name = some row) (wanted : String) :
    leaseOf { db with watchdogLeases := db.watchdogLeases.replace lease } wanted =
      if wanted = lease.name then some lease else leaseOf db wanted :=
  Table.find?_replace ⟨row, Table.find?_some.mp found⟩ wanted

theorem acquireWatchdogLease_ok {pid : Int} {host : String} {ttl now : Time} {answer : Bool × WatchdogLease}
    (called : acquireWatchdogLease name ownerId pid host ttl now db = .ok (answer, after)) :
    (answer.1 = true ∧ answer.2.ownerId = ownerId ∧ answer.2.expiresAt = now + max 1 ttl ∧
      (∀ row, leaseOf db name = some row → row.ownerId = ownerId ∨ row.expiresAt ≤ now) ∧
      ∀ wanted, leaseOf after wanted = if wanted = name then some answer.2 else leaseOf db wanted) ∨
    answer.1 = false ∧ leaseOf db name = some answer.2 ∧ answer.2.ownerId ≠ ownerId ∧ now < answer.2.expiresAt ∧
      after = db := by
  unfold acquireWatchdogLease at called
  dsimp only at called
  split at called
  next missing =>
    cases called
    refine Or.inl ⟨rfl, rfl, rfl, fun row found => ?_, fun wanted => Table.find?_upsert ..⟩
    rw [leaseOf, missing] at found
    cases found
  next row found =>
    split at called
    next blocked =>
      cases called
      exact Or.inr ⟨rfl, found, blocked.1, blocked.2, rfl⟩
    next free =>
      cases called
      refine Or.inl ⟨rfl, rfl, rfl, fun held present => ?_, fun wanted => Table.find?_upsert ..⟩
      cases found.symm.trans present
      by_cases own : row.ownerId = ownerId
      · exact Or.inl own
      · exact Or.inr (not_lt.mp fun fresh => free ⟨own, fresh⟩)

theorem heartbeatWatchdogLease_ok {ttl now : Time} {answer : Bool}
    (called : heartbeatWatchdogLease name ownerId ttl now db = .ok (answer, after)) :
    (answer = true ∧ ∃ row, leaseOf db name = some row ∧ row.ownerId = ownerId ∧
      ∀ wanted, leaseOf after wanted = if wanted = name
        then some { row with heartbeatAt := now, expiresAt := now + max 1 ttl } else leaseOf db wanted) ∨
    answer = false ∧ (∀ row, leaseOf db name = some row → row.ownerId ≠ ownerId) ∧ after = db := by
  unfold heartbeatWatchdogLease at called
  split at called
  next missing =>
    cases called
    refine Or.inr ⟨rfl, fun row found => ?_, rfl⟩
    rw [leaseOf, missing] at found
    cases found
  next row found =>
    obtain rfl : row.name = name := (Table.find?_some.mp found).2
    split at called
    next own =>
      cases called
      exact Or.inl ⟨rfl, row, found, own, leaseOf_replace found⟩
    next other =>
      cases called
      refine Or.inr ⟨rfl, fun held present => ?_, rfl⟩
      cases found.symm.trans present
      exact other

theorem deleteWatchdogLease_ok {answer : Bool} (called : deleteWatchdogLease name ownerId db = .ok (answer, after)) :
    (answer = true ∧ (∃ row, leaseOf db name = some row ∧ row.ownerId = ownerId) ∧
      ∀ wanted, leaseOf after wanted = if wanted = name then none else leaseOf db wanted) ∨
    answer = false ∧ after = db := by
  unfold deleteWatchdogLease at called
  split at called
  next =>
    cases called
    exact Or.inr ⟨rfl, rfl⟩
  next row found =>
    split at called
    next own =>
      cases called
      exact Or.inl ⟨rfl, ⟨row, found, own⟩, fun wanted => Table.find?_delete ..⟩
    next =>
      cases called
      exact Or.inr ⟨rfl, rfl⟩

theorem requestWatchdogStop_ok {grace now : Time} {hex : String} {answer : StopAnswer}
    (called : requestWatchdogStop name grace now hex db = .ok (answer, after)) :
    (answer = .absent ∧ leaseOf db name = none ∧ after = db) ∨
    (∃ lease, answer = .pending lease ∧ leaseOf db name = some lease ∧ isStopToken lease.ownerId = true ∧
      now < lease.expiresAt ∧ after = db) ∨
    ∃ previous lease, answer = .replaced previous.ownerId lease ∧ leaseOf db name = some previous ∧
      ¬ (isStopToken previous.ownerId = true ∧ now < previous.expiresAt) ∧ isStopToken lease.ownerId = true ∧
      ∀ wanted, leaseOf after wanted = if wanted = name then some lease else leaseOf db wanted := by
  unfold requestWatchdogStop at called
  split at called
  next missing =>
    cases called
    exact Or.inl ⟨rfl, missing, rfl⟩
  next previous found =>
    obtain rfl : previous.name = name := (Table.find?_some.mp found).2
    split at called
    next pending =>
      cases called
      exact Or.inr (Or.inl ⟨previous, rfl, found, pending.1, pending.2, rfl⟩)
    next free =>
      cases called
      exact Or.inr (Or.inr ⟨previous, _, rfl, found, free, isStopToken_made hex, leaseOf_replace found⟩)

end Specs

section Steps
variable {name : String} {before after : Database} {entry : WatchdogEntry} {lease : WatchdogLease}

private theorem done_ok {call : WatchdogCall} {result : Except SupervisorError WatchdogAnswer}
    (did : Did WatchdogCall.transaction before ⟨call, result⟩ after) :
    after = before ∨ ∃ answer, result = .ok answer ∧ call.transaction before = .ok (answer, after) := by
  rcases did with ⟨value, done, same⟩ | ⟨_, _, _, same⟩
  · exact Or.inr ⟨value, same, done⟩
  · exact Or.inl same

private theorem answering_ok {α : Type} {convert : α → WatchdogAnswer} {work : Transaction α} {answer : WatchdogAnswer}
    (called : WatchdogCall.answering convert work before = .ok (answer, after)) :
    ∃ value, work before = .ok (value, after) ∧ answer = convert value := by
  unfold WatchdogCall.answering at called
  cases result : work before with
  | error error =>
    rw [result] at called
    cases called
  | ok pair =>
    rw [result] at called
    cases called
    exact ⟨pair.1, rfl, rfl⟩

private theorem did_answer {α : Type} {convert : α → WatchdogAnswer} {work : Transaction α} {call : WatchdogCall}
    {result : Except SupervisorError WatchdogAnswer} (method : call.transaction = WatchdogCall.answering convert work)
    (total : ∃ pair, work before = .ok pair) (did : Did WatchdogCall.transaction before ⟨call, result⟩ after) :
    ∃ value, work before = .ok (value, after) ∧ result = .ok (convert value) := by
  obtain ⟨pair, found⟩ := total
  rcases did with ⟨answer, done, rfl⟩ | ⟨error, raised, _⟩
  · rw [method] at done
    obtain ⟨value, called, rfl⟩ := answering_ok done
    exact ⟨value, called, rfl⟩
  · rw [method, WatchdogCall.answering, found] at raised
    cases raised

private theorem did_acquire {ownerId : String} {pid : Int} {host : String} {ttl now : Time}
    {result : Except SupervisorError WatchdogAnswer}
    (did : Did WatchdogCall.transaction before ⟨.acquire name ownerId pid host ttl now, result⟩ after) :
    ∃ value, acquireWatchdogLease name ownerId pid host ttl now before = .ok (value, after) ∧
      result = .ok (.lease value.1 value.2) := by
  have method : (WatchdogCall.acquire name ownerId pid host ttl now).transaction = WatchdogCall.answering
    (fun answer => .lease answer.1 answer.2) (acquireWatchdogLease name ownerId pid host ttl now) := rfl
  refine did_answer method ?_ did
  unfold acquireWatchdogLease
  dsimp only
  split
  next => exact ⟨_, rfl⟩
  next => split <;> exact ⟨_, rfl⟩

private theorem did_heartbeat {ownerId : String} {ttl now : Time} {result : Except SupervisorError WatchdogAnswer}
    (did : Did WatchdogCall.transaction before ⟨.heartbeat name ownerId ttl now, result⟩ after) :
    ∃ value, heartbeatWatchdogLease name ownerId ttl now before = .ok (value, after) ∧ result = .ok (.done value) := by
  have method : (WatchdogCall.heartbeat name ownerId ttl now).transaction =
    WatchdogCall.answering .done (heartbeatWatchdogLease name ownerId ttl now) := rfl
  refine did_answer method ?_ did
  unfold heartbeatWatchdogLease
  split
  next => exact ⟨_, rfl⟩
  next => split <;> exact ⟨_, rfl⟩

private theorem did_requestStop {grace now : Time} {hex : String} {result : Except SupervisorError WatchdogAnswer}
    (did : Did WatchdogCall.transaction before ⟨.requestStop name grace now hex, result⟩ after) :
    ∃ value, requestWatchdogStop name grace now hex before = .ok (value, after) ∧ result = .ok (.stop value) := by
  have method : (WatchdogCall.requestStop name grace now hex).transaction =
    WatchdogCall.answering .stop (requestWatchdogStop name grace now hex) := rfl
  refine did_answer method ?_ did
  unfold requestWatchdogStop
  split
  next => exact ⟨_, rfl⟩
  next => split <;> exact ⟨_, rfl⟩

/-- The ways in which a lease ends. -/
theorem lease_ended (held : leaseOf before name = some lease) (did : Did WatchdogCall.transaction before entry after)
    (gone : leaseOf after name ≠ some lease) :
    (∃ expires, granted entry = some (name, lease.ownerId, expires)) ∨ released entry = some (name, lease.ownerId) ∨
    cleared entry = some (name, lease.ownerId) ∧ isStopToken lease.ownerId = true ∨
    (∃ token now, stopped entry = some (name, lease.ownerId, token) ∧ leaseOf after name = some token ∧
      isStopToken token.ownerId = true ∧ entry.call.time = some now ∧
      ¬ (isStopToken lease.ownerId = true ∧ now < lease.expiresAt)) ∨
    ∃ now, entry.call.time = some now ∧ lease.expiresAt ≤ now := by
  obtain ⟨call, result⟩ := entry
  rcases done_ok did with same | ⟨answer, rfl, done⟩
  · exact absurd (same ▸ held) gone
  cases call with
  | acquire wanted ownerId pid host ttl now =>
    rw [WatchdogCall.transaction] at done
    obtain ⟨value, called, rfl⟩ := answering_ok done
    rcases acquireWatchdogLease_ok called with ⟨yes, _, _, free, rows⟩ | ⟨_, _, _, _, same⟩
    · by_cases here : wanted = name
      · subst here
        rcases free lease held with own | expired
        · refine Or.inl ⟨value.2.expiresAt, ?_⟩
          simp [granted, yes, own]
        · exact Or.inr (Or.inr (Or.inr (Or.inr ⟨now, rfl, expired⟩)))
      · rw [rows, if_neg (Ne.symm here)] at gone
        exact absurd held gone
    · exact absurd (same ▸ held) gone
  | heartbeat wanted ownerId ttl now =>
    rw [WatchdogCall.transaction] at done
    obtain ⟨value, called, rfl⟩ := answering_ok done
    rcases heartbeatWatchdogLease_ok called with ⟨rfl, row, found, own, rows⟩ | ⟨_, _, same⟩
    · by_cases here : wanted = name
      · subst here
        cases held.symm.trans found
        exact Or.inl ⟨now + max 1 ttl, by simp [granted, own]⟩
      · rw [rows, if_neg (Ne.symm here)] at gone
        exact absurd held gone
    · exact absurd (same ▸ held) gone
  | release wanted ownerId =>
    rw [WatchdogCall.transaction] at done
    obtain ⟨value, called, rfl⟩ := answering_ok done
    rcases deleteWatchdogLease_ok called with ⟨rfl, ⟨row, found, own⟩, rows⟩ | ⟨_, same⟩
    · by_cases here : wanted = name
      · subst here
        cases held.symm.trans found
        exact Or.inr (Or.inl (by simp [released, own]))
      · rw [rows, if_neg (Ne.symm here)] at gone
        exact absurd held gone
    · exact absurd (same ▸ held) gone
  | requestStop wanted grace now hex =>
    rw [WatchdogCall.transaction] at done
    obtain ⟨value, called, rfl⟩ := answering_ok done
    rcases requestWatchdogStop_ok called with ⟨_, _, same⟩ | ⟨_, _, _, _, _, same⟩ |
      ⟨previous, token, rfl, found, free, made, rows⟩
    · exact absurd (same ▸ held) gone
    · exact absurd (same ▸ held) gone
    · by_cases here : wanted = name
      · subst here
        cases held.symm.trans found
        refine Or.inr (Or.inr (Or.inr (Or.inl ⟨token, now, rfl, ?_, made, rfl, free⟩)))
        rw [rows, if_pos rfl]
      · rw [rows, if_neg (Ne.symm here)] at gone
        exact absurd held gone
  | clearStop wanted stopOwnerId =>
    rw [WatchdogCall.transaction] at done
    obtain ⟨value, called, rfl⟩ := answering_ok done
    simp only [clearWatchdogStop, bind_eq_ok, refuse_eq_ok, Bool.not_eq_false] at called
    obtain ⟨_, token, called⟩ := called
    rcases deleteWatchdogLease_ok called with ⟨rfl, ⟨row, found, own⟩, rows⟩ | ⟨_, same⟩
    · by_cases here : wanted = name
      · subst here
        cases held.symm.trans found
        exact Or.inr (Or.inr (Or.inl ⟨by simp [cleared, own], own ▸ token⟩))
      · rw [rows, if_neg (Ne.symm here)] at gone
        exact absurd held gone
    · exact absurd (same ▸ held) gone

private theorem granted_lease {ownerId : String} {expires : Time} (did : Did WatchdogCall.transaction before entry after)
    (grant : granted entry = some (name, ownerId, expires)) :
    ∃ lease, leaseOf after name = some lease ∧ lease.ownerId = ownerId ∧ lease.expiresAt = expires := by
  unfold granted at grant
  split at grant
  next wanted owner pid host ttl now lease =>
    cases grant
    obtain ⟨⟨yes, found⟩, called, same⟩ := did_acquire did
    cases same
    rcases acquireWatchdogLease_ok called with ⟨_, own, _, _, rows⟩ | ⟨no, _⟩
    · exact ⟨found, by rw [rows, if_pos rfl], own, rfl⟩
    · cases no
  next wanted owner ttl now =>
    cases grant
    obtain ⟨answer, called, same⟩ := did_heartbeat did
    cases same
    rcases heartbeatWatchdogLease_ok called with ⟨_, row, _, own, rows⟩ | ⟨no, _⟩
    · exact ⟨_, (rows _).trans (if_pos rfl), own, rfl⟩
    · cases no
  next => cases grant

private theorem fencing_lease (did : Did WatchdogCall.transaction before entry after)
    (fence : fencing entry = some (name, lease)) :
    leaseOf after name = some lease ∧ isStopToken lease.ownerId = true := by
  unfold fencing at fence
  split at fence
  next wanted grace now hex row =>
    cases fence
    obtain ⟨answer, called, same⟩ := did_requestStop did
    cases same
    rcases requestWatchdogStop_ok called with ⟨no, _⟩ | ⟨_, same, found, token, _, rfl⟩ | ⟨_, _, no, _⟩
    · cases no
    · cases same
      exact ⟨found, token⟩
    · cases no
  next wanted grace now hex previous row =>
    cases fence
    obtain ⟨answer, called, same⟩ := did_requestStop did
    cases same
    rcases requestWatchdogStop_ok called with ⟨no, _⟩ | ⟨_, no, _⟩ | ⟨_, _, same, _, _, token, rows⟩
    · cases no
    · cases no
    · cases same
      exact ⟨by rw [rows, if_pos rfl], token⟩
  next => cases fence

private theorem stopped_fencing {ownerId : String} (stop : stopped entry = some (name, ownerId, lease)) :
    fencing entry = some (name, lease) := by
  unfold stopped at stop
  split at stop
  next =>
    cases stop
    rfl
  next => cases stop

private theorem granted_owner {ownerId : String} {expires : Time} (grant : granted entry = some (name, ownerId, expires)) :
    entry.call.owner = some ownerId := by
  unfold granted at grant
  split at grant
  next =>
    cases grant
    rfl
  next =>
    cases grant
    rfl
  next => cases grant

private theorem released_owner {ownerId : String} (release : released entry = some (name, ownerId)) :
    entry.call.owner = some ownerId := by
  unfold released at release
  split at release
  next =>
    cases release
    rfl
  next => cases release

private theorem owner_acquired {ownerId : String} (apart : isStopToken ownerId = false)
    (absent : ∀ row, leaseOf before name = some row → row.ownerId ≠ ownerId)
    (did : Did WatchdogCall.transaction before entry after) {row : WatchdogLease} (found : leaseOf after name = some row)
    (own : row.ownerId = ownerId) : acquired entry = some (name, ownerId) := by
  have unchanged (same : leaseOf after name = leaseOf before name) : False := absent row (same ▸ found) own
  obtain ⟨call, result⟩ := entry
  rcases done_ok did with rfl | ⟨answer, rfl, done⟩
  · exact (unchanged rfl).elim
  cases call with
  | acquire wanted owner pid host ttl now =>
    rw [WatchdogCall.transaction] at done
    obtain ⟨value, called, rfl⟩ := answering_ok done
    rcases acquireWatchdogLease_ok called with ⟨yes, made, _, _, rows⟩ | ⟨_, _, _, _, rfl⟩
    · by_cases here : name = wanted
      · subst here
        rw [rows, if_pos rfl] at found
        cases found
        simp [acquired, yes, ← own, made]
      · exact (unchanged (by rw [rows, if_neg here])).elim
    · exact (unchanged rfl).elim
  | heartbeat wanted owner ttl now =>
    rw [WatchdogCall.transaction] at done
    obtain ⟨value, called, rfl⟩ := answering_ok done
    rcases heartbeatWatchdogLease_ok called with ⟨_, held, present, _, rows⟩ | ⟨_, _, rfl⟩
    · by_cases here : name = wanted
      · subst here
        rw [rows, if_pos rfl] at found
        cases found
        exact absurd own (absent held present)
      · exact (unchanged (by rw [rows, if_neg here])).elim
    · exact (unchanged rfl).elim
  | release wanted owner =>
    rw [WatchdogCall.transaction] at done
    obtain ⟨value, called, rfl⟩ := answering_ok done
    rcases deleteWatchdogLease_ok called with ⟨_, _, rows⟩ | ⟨_, rfl⟩
    · by_cases here : name = wanted
      · rw [rows, if_pos here] at found
        cases found
      · exact (unchanged (by rw [rows, if_neg here])).elim
    · exact (unchanged rfl).elim
  | requestStop wanted grace now hex =>
    rw [WatchdogCall.transaction] at done
    obtain ⟨value, called, rfl⟩ := answering_ok done
    rcases requestWatchdogStop_ok called with ⟨_, _, rfl⟩ | ⟨_, _, _, _, _, rfl⟩ | ⟨_, token, _, _, _, made, rows⟩
    · exact (unchanged rfl).elim
    · exact (unchanged rfl).elim
    · by_cases here : name = wanted
      · rw [rows, if_pos here] at found
        cases found
        rw [own, apart] at made
        cases made
      · exact (unchanged (by rw [rows, if_neg here])).elim
  | clearStop wanted stopOwnerId =>
    rw [WatchdogCall.transaction] at done
    obtain ⟨value, called, rfl⟩ := answering_ok done
    simp only [clearWatchdogStop, bind_eq_ok] at called
    obtain ⟨_, _, called⟩ := called
    rcases deleteWatchdogLease_ok called with ⟨_, _, rows⟩ | ⟨_, rfl⟩
    · by_cases here : name = wanted
      · rw [rows, if_pos here] at found
        cases found
      · exact (unchanged (by rw [rows, if_neg here])).elim
    · exact (unchanged rfl).elim

end Steps

section Journals
variable {name : String} {start store : Database} {journal : List WatchdogEntry} {lease : WatchdogLease}

/-- Entries in whose name no stop token is used. -/
private def Apart (journal : List WatchdogEntry) : Prop :=
  ∀ entry ∈ journal, ∀ ownerId, entry.call.owner = some ownerId → isStopToken ownerId = false

private theorem token_lasts (led : Led WatchdogCall.transaction start journal store) (apart : Apart journal)
    (held : leaseOf start name = some lease) (token : isStopToken lease.ownerId = true) :
    leaseOf store name = some lease ∨ (∃ entry ∈ journal, cleared entry = some (name, lease.ownerId)) ∨
      ∃ entry ∈ journal, ∃ now, entry.call.time = some now ∧ lease.expiresAt ≤ now := by
  rcases @Led.ended _ _ _ _ _ _ _ _ (fun db => leaseOf db name = some lease) led held with
    still | ⟨newer, entry, older, before, after, rfl, found, did, gone, _⟩
  · exact Or.inl still
  have member : entry ∈ newer ++ entry :: older := by simp
  have foreign (owner : entry.call.owner = some lease.ownerId) : False := by
    rw [apart entry member _ owner] at token
    cases token
  rcases lease_ended found did gone with ⟨_, grant⟩ | release | ⟨clear, _⟩ | ⟨_, now, _, _, _, clock, free⟩ |
    ⟨now, clock, expired⟩
  · exact (foreign (granted_owner grant)).elim
  · exact (foreign (released_owner release)).elim
  · exact Or.inr (Or.inl ⟨entry, member, clear⟩)
  · exact Or.inr (Or.inr ⟨entry, member, now, clock, not_lt.mp fun fresh => free ⟨token, fresh⟩⟩)
  · exact Or.inr (Or.inr ⟨entry, member, now, clock, expired⟩)

private theorem owner_absent {ownerId : String} (apart : isStopToken ownerId = false)
    (led : Led WatchdogCall.transaction start journal store)
    (absent : ∀ row, leaseOf start name = some row → row.ownerId ≠ ownerId)
    (never : ∀ entry ∈ journal, acquired entry ≠ some (name, ownerId)) :
    ∀ row, leaseOf store name = some row → row.ownerId ≠ ownerId := by
  rcases @Led.ended _ _ _ _ _ _ _ _ (fun db => ∀ row, leaseOf db name = some row → row.ownerId ≠ ownerId) led absent with
    still | ⟨newer, entry, older, before, after, rfl, missing, did, gone, _⟩
  · exact still
  · simp only [not_forall, not_not] at gone
    obtain ⟨row, found, own⟩ := gone
    exact absurd (owner_acquired apart missing did found own) (never entry (by simp))

end Journals

/-- What the lease promises about the calls of a journal, which stand latest first. -/
structure WatchdogFenced (journal : List WatchdogEntry) : Prop where
  exclusive : ∀ newer middle mine older name ownerId other expires pid host ttl now lease,
    journal = newer ++ ⟨.acquire name other pid host ttl now, .ok (.lease true lease)⟩ :: (middle ++ mine :: older) →
    granted mine = some (name, ownerId, expires) →
    (∀ entry ∈ middle, ∀ later, granted entry ≠ some (name, ownerId, later)) → other ≠ ownerId → now < expires →
    (∃ entry ∈ middle, released entry = some (name, ownerId)) ∨
    ∃ later stop earlier token, middle = later ++ stop :: earlier ∧ stopped stop = some (name, ownerId, token) ∧
      (token.expiresAt ≤ now ∨ ∃ entry ∈ later, cleared entry = some (name, token.ownerId))
  fenced : ∀ newer middle stop older name ownerId ttl now result token,
    journal = newer ++ ⟨.heartbeat name ownerId ttl now, result⟩ :: (middle ++ stop :: older) →
    stopped stop = some (name, ownerId, token) → (∀ entry ∈ middle, acquired entry ≠ some (name, ownerId)) →
    result = .ok (.done false)
  refused : ∀ newer middle stop older name ownerId pid host ttl now result token,
    journal = newer ++ ⟨.acquire name ownerId pid host ttl now, result⟩ :: (middle ++ stop :: older) →
    fencing stop = some (name, token) → now < token.expiresAt →
    (∀ entry ∈ middle, cleared entry ≠ some (name, token.ownerId)) → result = .ok (.lease false token)
  steady : ∀ newer middle stop older name grace now hex result token,
    journal = newer ++ ⟨.requestStop name grace now hex, result⟩ :: (middle ++ stop :: older) →
    fencing stop = some (name, token) → now < token.expiresAt →
    (∀ entry ∈ middle, cleared entry ≠ some (name, token.ownerId)) → result = .ok (.stop (.pending token))

def watchdogRun (start : Database) (calls : List WatchdogCall) : Journaled Database WatchdogCall SupervisorError WatchdogAnswer :=
  run (perform WatchdogCall.transaction) { store := start } calls

section Runs
variable {start : Database} {calls : List WatchdogCall}

private theorem run_apart (apart : OwnersApart calls) : Apart (watchdogRun start calls).journal := by
  intro entry member ownerId owner
  refine apart ownerId (List.mem_filterMap.mpr ⟨entry.call, ?_, owner⟩)
  rw [← List.mem_reverse, ← run_calls WatchdogCall.transaction start calls]
  exact List.mem_map_of_mem member

private theorem run_clock (forward : ClockForward calls) {newer older : List WatchdogEntry} {late early : WatchdogEntry}
    (split : (watchdogRun start calls).journal = newer ++ late :: older) (member : early ∈ older) {before after : Time}
    (first : early.call.time = some before) (last : late.call.time = some after) : before ≤ after := by
  have ordered : ((watchdogRun start calls).journal.map (·.call)).Pairwise
      (fun newer older => ∀ after, newer.time = some after → ∀ before, older.time = some before → before ≤ after) := by
    rw [watchdogRun, run_calls, List.pairwise_reverse]
    refine (List.pairwise_filterMap.mp forward).imp ?_
    exact fun related after last before first => related before first after last
  rw [split, List.map_append, List.map_cons, List.pairwise_append, List.pairwise_cons] at ordered
  exact ordered.2.1.1 early.call (List.mem_map_of_mem member) after last before first

private theorem token_found (apart : OwnersApart calls) (forward : ClockForward calls)
    {newer middle older : List WatchdogEntry} {call stop : WatchdogEntry} {name : String} {token : WatchdogLease} {now : Time}
    (split : (watchdogRun start calls).journal = newer ++ call :: (middle ++ stop :: older))
    (fence : fencing stop = some (name, token)) (clock : call.call.time = some now) (fresh : now < token.expiresAt)
    (never : ∀ entry ∈ middle, cleared entry ≠ some (name, token.ownerId)) :
    ∃ found left, leaseOf found name = some token ∧ isStopToken token.ownerId = true ∧
      Did WatchdogCall.transaction found call left := by
  have led : Led WatchdogCall.transaction start (watchdogRun start calls).journal (watchdogRun start calls).store :=
    run_led ..
  rw [split] at led
  obtain ⟨_, after, found, left, did, between, last⟩ := led.between
  obtain ⟨held, made⟩ := fencing_lease did fence
  have inside : Apart middle := fun entry member => run_apart apart entry (by rw [split]; simp [member])
  rcases token_lasts between inside held made with still | ⟨entry, member, clear⟩ | ⟨entry, member, time, early, expired⟩
  · exact ⟨found, left, still, made, last⟩
  · exact absurd clear (never entry member)
  · have later := run_clock forward split (List.mem_append_left _ member) early clock
    exact absurd (lt_of_lt_of_le fresh (expired.trans later)) (lt_irrefl _)

private theorem acquired_free {name other : String} {pid : Int} {host : String} {ttl now : Time} {lease row : WatchdogLease}
    {found left : Database}
    (did : Did WatchdogCall.transaction found ⟨.acquire name other pid host ttl now, .ok (.lease true lease)⟩ left)
    (held : leaseOf found name = some row) : row.ownerId = other ∨ row.expiresAt ≤ now := by
  obtain ⟨⟨yes, granted⟩, called, same⟩ := did_acquire did
  cases same
  rcases acquireWatchdogLease_ok called with ⟨_, _, _, free, _⟩ | ⟨no, _⟩
  · exact free row held
  · cases no

private theorem run_exclusive (apart : OwnersApart calls) (forward : ClockForward calls)
    {newer middle older : List WatchdogEntry} {mine : WatchdogEntry} {name ownerId other : String} {expires : Time} {pid : Int}
    {host : String} {ttl now : Time} {lease : WatchdogLease}
    (split : (watchdogRun start calls).journal =
      newer ++ ⟨.acquire name other pid host ttl now, .ok (.lease true lease)⟩ :: (middle ++ mine :: older))
    (grant : granted mine = some (name, ownerId, expires))
    (latest : ∀ entry ∈ middle, ∀ later, granted entry ≠ some (name, ownerId, later)) (different : other ≠ ownerId)
    (fresh : now < expires) :
    (∃ entry ∈ middle, released entry = some (name, ownerId)) ∨
    ∃ later stop earlier token, middle = later ++ stop :: earlier ∧ stopped stop = some (name, ownerId, token) ∧
      (token.expiresAt ≤ now ∨ ∃ entry ∈ later, cleared entry = some (name, token.ownerId)) := by
  have led : Led WatchdogCall.transaction start (watchdogRun start calls).journal (watchdogRun start calls).store :=
    run_led ..
  have names := @run_apart start calls apart
  have clock {entry : WatchdogEntry} (member : entry ∈ middle) {time : Time} (early : entry.call.time = some time) :
      time ≤ now := run_clock forward split (List.mem_append_left _ member) early rfl
  rw [split] at led names
  obtain ⟨_, after, found, left, did, between, last⟩ := led.between
  obtain ⟨held, present, rfl, rfl⟩ := granted_lease did grant
  rcases @Led.ended _ _ _ _ _ _ _ _ (fun db => leaseOf db name = some held) between present with
    still | ⟨later, entry, earlier, before, ended, rfl, kept, finished, gone, rest⟩
  · rcases acquired_free last still with own | expired
    · exact absurd own.symm different
    · exact absurd (lt_of_lt_of_le fresh expired) (lt_irrefl _)
  have member : entry ∈ later ++ entry :: earlier := by simp
  rcases lease_ended kept finished gone with ⟨expires, again⟩ | release | ⟨_, token⟩ |
    ⟨token, _, stop, taken, made, _⟩ | ⟨time, early, expired⟩
  · exact absurd again (latest entry member expires)
  · exact Or.inl ⟨entry, member, release⟩
  · rw [names mine (by simp) _ (granted_owner grant)] at token
    cases token
  · refine Or.inr ⟨later, entry, earlier, token, rfl, stop, ?_⟩
    have inside : Apart later := fun other member => names other (by simp [member])
    rcases token_lasts rest inside taken made with still | clear | ⟨entry, member, time, early, expired⟩
    · rcases acquired_free last still with own | expired
      · rw [own, names _ (List.mem_append_right _ (List.mem_cons_self ..)) other rfl] at made
        cases made
      · exact Or.inl expired
    · exact Or.inr clear
    · exact Or.inl (expired.trans (clock (List.mem_append_left _ member) early))
  · exact absurd (lt_of_lt_of_le fresh (expired.trans (clock member early))) (lt_irrefl _)

end Runs

/-- In every run of lease methods: no other owner acquires a lease before it
expires, unless its owner has released it or a stop has taken it over and has
expired or been cleared; an owner that a stop has replaced loses its heartbeats
until it acquires again; and while a stop is unexpired and not cleared, no owner
acquires the lease and another stop request changes nothing. -/
theorem watchdog_fenced (start : Database) (calls : List WatchdogCall) (apart : OwnersApart calls)
    (forward : ClockForward calls) : WatchdogFenced (watchdogRun start calls).journal := by
  refine ⟨?_, ?_, ?_, ?_⟩
  · intro newer middle mine older name ownerId other expires pid host ttl now lease split grant latest different fresh
    exact run_exclusive apart forward split grant latest different fresh
  · intro newer middle stop older name ownerId ttl now result token split stopped never
    have led : Led WatchdogCall.transaction start (watchdogRun start calls).journal (watchdogRun start calls).store :=
      run_led ..
    have names := @run_apart start calls apart
    rw [split] at led names
    obtain ⟨_, after, found, left, did, between, last⟩ := led.between
    have owner : isStopToken ownerId = false := names _ (List.mem_append_right _ (List.mem_cons_self ..)) ownerId rfl
    obtain ⟨held, made⟩ := fencing_lease did (stopped_fencing stopped)
    have absent := owner_absent owner between (fun row present own => by
      cases held.symm.trans present
      rw [own, owner] at made
      cases made) never
    obtain ⟨answer, called, rfl⟩ := did_heartbeat last
    rcases heartbeatWatchdogLease_ok called with ⟨_, row, present, own, _⟩ | ⟨rfl, _⟩
    · exact absurd own (absent row present)
    · rfl
  · intro newer middle stop older name ownerId pid host ttl now result token split fence fresh never
    obtain ⟨found, left, held, made, last⟩ := token_found apart forward split fence rfl fresh never
    obtain ⟨answer, called, rfl⟩ := did_acquire last
    rcases acquireWatchdogLease_ok called with ⟨_, _, _, free, _⟩ | ⟨no, present, _⟩
    · rcases free token held with own | expired
      · have names := @run_apart start calls apart
        rw [split] at names
        rw [own, names _ (List.mem_append_right _ (List.mem_cons_self ..)) ownerId rfl] at made
        cases made
      · exact absurd (lt_of_lt_of_le fresh expired) (lt_irrefl _)
    · cases held.symm.trans present
      rw [no]
  · intro newer middle stop older name grace now hex result token split fence fresh never
    obtain ⟨found, left, held, made, last⟩ := token_found apart forward split fence rfl fresh never
    obtain ⟨answer, called, rfl⟩ := did_requestStop last
    rcases requestWatchdogStop_ok called with ⟨_, missing, _⟩ | ⟨_, rfl, present, _⟩ | ⟨previous, _, _, present, free, _⟩
    · rw [held] at missing
      cases missing
    · cases held.symm.trans present
      rfl
    · cases held.symm.trans present
      exact absurd ⟨made, fresh⟩ free

/-- A watchdog loses its lease to a stop, and a second one waits until the stop is
cleared. -/
theorem watchdog_fenced_stop :
    let calls : List WatchdogCall :=
      [.acquire "default" "a" 1 "host" 30 0, .requestStop "default" 60 10 "t", .heartbeat "default" "a" 30 11,
       .acquire "default" "b" 2 "host" 30 12, .clearStop "default" "stop:t", .acquire "default" "b" 2 "host" 30 13]
    (watchdogRun {} calls).journal.map acquired = [some ("default", "b"), none, none, none, none, some ("default", "a")] ∧
      WatchdogFenced (watchdogRun {} calls).journal := by
  refine ⟨by decide +kernel, watchdog_fenced {} _ ?_ ?_⟩
  · unfold OwnersApart
    decide +kernel
  · unfold ClockForward
    decide +kernel

end WebSupervisor.Registry.Proofs
