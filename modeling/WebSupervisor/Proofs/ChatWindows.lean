import Mathlib.Data.List.Infix
import WebSupervisor.Proofs.ChatCancel

/-! Closing of windows. A page is closed only under a pair of window handle and
process that the dispatcher has opened at some time. Whether the window behind
the pair is still the one it opened is up to the operating system. -/

namespace WebSupervisor.ChatDispatch.Proofs
open Library

/-- Which window stands behind a pair at a moment of the run. Windows are told
apart by numbers that are never reused. -/
abbrev Desktop := List ChatEvent → Int × Int → Option Nat

/-- The dispatcher has opened this window. -/
def OpenedItself (desktop : Desktop) (pair : Int × Int) (window : Nat) (log : List ChatEvent) : Prop :=
  ∃ newer event older, log = newer ++ event :: older ∧ opens event = some pair ∧
    desktop (event :: older) pair = some window

/-- A pair under which the dispatcher has opened a window never goes to a window
that somebody else has opened. -/
def PairsKept (desktop : Desktop) (log : List ChatEvent) : Prop :=
  ∀ newer moment pair window, log = newer ++ moment → Opened pair moment → desktop moment pair = some window →
    OpenedItself desktop pair window moment

/-- The window that is closed is one that the dispatcher has opened. -/
def ClosesOwn (desktop : Desktop) (log : List ChatEvent) : Prop :=
  ∀ newer pid page found older window, log = newer ++ .issued pid (.closePage page) found :: older →
    desktop (.issued pid (.closePage page) found :: older) (ChatPage.window page) = some window →
    OpenedItself desktop (ChatPage.window page) window (.issued pid (.closePage page) found :: older)

theorem borrowed_window_stays (start : ChatStore) (fresh : start.pages.rows = []) (moves : List (Move Answer ChatCall))
    (desktop : Desktop) (kept : PairsKept desktop (chatRun start moves).log) :
    ClosesOwn desktop (chatRun start moves).log := by
  intro newer pid page found older window split behind
  obtain ⟨_, close⟩ := (chat_orderly start moves).justified newer _ _ split
  exact kept newer _ _ window split (close page rfl fresh).cons behind

section Runs

def knownConversation : String := "https://chatgpt.com/c/0123456789abcdef"

def knownPrompt : Enqueue :=
  { prompt := "hello", conversationUrl := some knownConversation, now := 0, keySuffix := "k", dispatchSuffix := "d"
    nonce := "n" }

/-- A browser that sends and acknowledges everything. -/
def obligingReply (time : Time) (existing : Option FoundPage) (current : Option String) : ∀ request, Answer request
  | .time => time
  | .findExisting _ => .ok existing
  | .openExisting _ => .ok { projectWindow with conversationUrl := knownConversation }
  | .openNew .. => .ok projectWindow
  | .recoverNew .. => .ok none
  | .sendExisting .. => .ok ⟨true, true, "", none, false⟩
  | .sendNew .. => .ok ⟨true, true, "", none, false⟩
  | .observeAck .. => .ok ⟨true, 1, some false⟩
  | .currentUrl _ => .ok current
  | .closePage _ => .ok ⟨true, false, ""⟩

/-- The window of the user under the pair that the dispatcher had before. -/
def userWindow : FoundPage := ⟨knownConversation, 1, 1, "chrome.exe"⟩

/-- The prompt is acknowledged, and the idle page is closed after its time. -/
def acknowledgeAndClose (pid : Nat) : List (Move Answer ChatCall) :=
  .start (.runOnce (.make 4 90 60)) :: finish pid (obligingReply 0 none (some knownConversation)) 15 ++
    finish pid (obligingReply 1000 none none) 9

/-- The dispatcher opens a window, sends there, and closes it. -/
def ownWindow : List (Move Answer ChatCall) :=
  .start (.enqueue knownPrompt) :: finish 0 (obligingReply 0 none none) 3 ++
    .start (.runOnce (.make 4 90 60)) :: finish 1 (obligingReply 0 none none) 34 ++ acknowledgeAndClose 2

/-- The dispatcher opens a window and crashes. The window is closed, its pair goes
to a window of the user, who shows the conversation in it, and the prompt is sent
there. -/
def reusedPair : List (Move Answer ChatCall) :=
  .start (.enqueue knownPrompt) :: finish 0 (obligingReply 0 none none) 3 ++
    .start (.runOnce (.make 4 90 60)) :: finish 1 (obligingReply 0 none none) 12 ++ .crash 1 ::
    .start (.runOnce (.make 4 90 60)) :: finish 2 (obligingReply 0 (some userWindow) none) 36 ++ acknowledgeAndClose 3

def findsWindow : ChatEvent → Bool
  | .answered _ (.findExisting _) (.ok (some _)) => true
  | _ => false

/-- The user has opened window 2 when it is found for the first time. -/
def reusedDesktop : Desktop := fun log _ => if log.any findsWindow then some 2 else some 1

def closes : ChatEvent → Bool
  | .issued _ (.closePage _) _ => true
  | _ => false

/-- The first window is closed while it stands behind its pair. -/
theorem borrowed_window_stays_own : (chatRun {} ownWindow).log.any closes = true ∧
    ClosesOwn (fun _ _ => some 1) (chatRun {} ownWindow).log := by
  refine ⟨by decide +kernel, borrowed_window_stays {} rfl ownWindow _ ?_⟩
  rintro newer moment pair window split ⟨event, member, same⟩ ⟨⟩
  obtain ⟨front, back, rfl⟩ := List.append_of_mem member
  exact ⟨front, event, back, rfl, same, rfl⟩

/-- The moment at which the user's window is closed. -/
private def closesUserWindow : List ChatEvent → Bool
  | .issued pid (.closePage page) found :: older =>
    ChatPage.window page = (1, 1) ∧ reusedDesktop (.issued pid (.closePage page) found :: older) (1, 1) = some 2
  | _ => false

/-- The dispatcher opens nothing at this moment, or not the user's window. -/
private def opensOther : List ChatEvent → Bool
  | event :: older => opens event ≠ some (1, 1) ∨ reusedDesktop (event :: older) (1, 1) ≠ some 2
  | [] => true

/-- The page row of the first window is still marked as owned, so that the
window of the user is closed with it. -/
theorem borrowed_window_closed : ¬ ClosesOwn reusedDesktop (chatRun {} reusedPair).log := by
  intro own
  have checked : (chatRun {} reusedPair).log.tails.any closesUserWindow = true ∧
      (chatRun {} reusedPair).log.tails.all opensOther = true := by
    decide +kernel
  rw [List.any_eq_true, List.all_eq_true] at checked
  obtain ⟨⟨moment, inside, closing⟩, other⟩ := checked
  obtain ⟨newer, split⟩ := (List.mem_tails _ _).mp inside
  unfold closesUserWindow at closing
  split at closing
  next pid page found older =>
    simp only [Bool.decide_and, Bool.and_eq_true, decide_eq_true_eq] at closing
    obtain ⟨front, event, back, same, opened, window⟩ := own newer pid page found older 2 split.symm
      (by rw [closing.1]; exact closing.2)
    have harmless := other (event :: back) ((List.mem_tails _ _).mpr ?_)
    · rw [closing.1] at opened window
      simp [opensOther, opened, window] at harmless
    · rw [← split, same, ← List.append_assoc]
      exact List.suffix_append ..
  next => cases closing

end Runs

end WebSupervisor.ChatDispatch.Proofs
