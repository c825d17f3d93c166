import Mathlib.Tactic.Common

/-! A database connection under implicit transaction control: a statement that
changes rows opens a transaction when none is open, and it stays open until a
commit. Other statements join the open transaction or take effect at once. -/

namespace WebSupervisor.Library

/-- `file` is what is committed. `pending` is what the open transaction would
commit. -/
structure Connection (φ : Type) where
  file : φ
  pending : Option φ := none

namespace Connection
variable {φ : Type}

/-- What the connection reads. -/
def content (connection : Connection φ) : φ := connection.pending.getD connection.file

def inTransaction (connection : Connection φ) : Bool := connection.pending.isSome

/-- A statement that changes no rows. -/
def execute (connection : Connection φ) (change : φ → φ) : Connection φ :=
  match connection.pending with
  | none => { connection with file := change connection.file }
  | some pending => { connection with pending := some (change pending) }

/-- `INSERT`, `UPDATE`, `DELETE` or `REPLACE`, whether or not a row matches. -/
def executeRows (connection : Connection φ) (change : φ → φ) : Connection φ :=
  { connection with pending := some (change connection.content) }

def commit (connection : Connection φ) : Connection φ := { file := connection.content }

/-- A script of statements that change no rows. It commits first. -/
def executescript (connection : Connection φ) (changes : List (φ → φ)) : Connection φ :=
  changes.foldl execute connection.commit

def beginImmediate (connection : Connection φ) : Except String (Connection φ) :=
  if connection.inTransaction then
    .error "cannot start a transaction within a transaction"
  else
    .ok { connection with pending := some connection.file }

@[simp]
theorem content_commit (connection : Connection φ) : connection.commit.content = connection.content := rfl

@[simp]
theorem content_executeRows (connection : Connection φ) (change : φ → φ) :
    (connection.executeRows change).content = change connection.content := rfl

@[simp]
theorem inTransaction_executeRows (connection : Connection φ) (change : φ → φ) :
    (connection.executeRows change).inTransaction = true := rfl

@[simp]
theorem inTransaction_commit (connection : Connection φ) : connection.commit.inTransaction = false := rfl

@[simp]
theorem execute_committed (file : φ) (change : φ → φ) :
    ({ file } : Connection φ).execute change = { file := change file } := rfl

theorem executescript_committed (file : φ) (changes : List (φ → φ)) :
    ({ file } : Connection φ).executescript changes = { file := changes.foldl (fun file change => change file) file } := by
  have loop : ∀ (changes : List (φ → φ)) (file : φ), changes.foldl execute ({ file } : Connection φ) =
      { file := changes.foldl (fun file change => change file) file } := by
    intro changes
    induction changes with
    | nil => exact fun _ => rfl
    | cons change changes ih => exact fun file => ih (change file)
  exact loop changes file

theorem beginImmediate_ok_iff (connection : Connection φ) :
    connection.beginImmediate.isOk = true ↔ connection.inTransaction = false := by
  unfold beginImmediate
  cases open_ : connection.inTransaction <;> simp [Except.isOk, Except.toBool]

end Connection

end WebSupervisor.Library
