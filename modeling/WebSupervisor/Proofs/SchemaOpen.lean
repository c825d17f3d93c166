import WebSupervisor.Schema

/-! Opening a registry file again and again. Every opening reads the same content:
the rows of the file, with the provider-neutral column filled. The copy of a
leftover column opens a transaction in every opening, and only the opening that
raises the version commits it. -/

namespace WebSupervisor.Schema.Proofs
open Library

/-- The file after the script of the schema. -/
def created (file : RegistryFile) : RegistryFile := (schema.map createTable).foldl (fun file change => change file) file

/-- The file with the provider-neutral column. -/
def prepared (file : RegistryFile) : RegistryFile :=
  if webColumn ∈ tableInfo childDispatches (created file) then created file
  else addColumn childDispatches webColumn (created file)

/-- The table of the dispatches still has the provider-named column. -/
def Leftover (file : RegistryFile) : Prop := legacyColumn ∈ tableInfo childDispatches file

instance leftoverDecidable (file : RegistryFile) : Decidable (Leftover file) := inferInstanceAs (Decidable (_ ∈ _))

section Tables
variable {file : RegistryFile}

theorem find_createTable (definition : TableDefinition) (name : String) :
    (createTable definition file).tables.find? name = (file.tables.find? name).or
      (if definition.name = name then some { name := definition.name, columns := definition.columns } else none) := by
  unfold createTable
  cases inserted : file.tables.insert? { name := definition.name, columns := definition.columns } with
  | some after => exact Table.find?_insert? inserted name
  | none =>
    obtain ⟨old, present, same⟩ := Table.insert?_none.mp inserted
    rw [Option.getD_none]
    split
    next own =>
      rw [Table.find?_some.mpr ⟨present, same.trans own⟩]
      rfl
    next => rw [Option.or_none]

theorem createTable_present {definition : TableDefinition} (present : file.tables.find? definition.name ≠ none) :
    createTable definition file = file := by
  obtain ⟨table, found⟩ := Option.ne_none_iff_exists'.mp present
  obtain ⟨member, named⟩ := Table.find?_some.mp found
  have refused : file.tables.insert? { name := definition.name, columns := definition.columns } = none :=
    Table.insert?_none.mpr ⟨table, member, named⟩
  unfold createTable
  rw [refused]
  rfl

/-- A table that is there stays as it is; a missing one is made by its definition. -/
theorem find_created (file : RegistryFile) (name : String) :
    (created file).tables.find? name = (file.tables.find? name).or
      ((schema.find? (·.name == name)).map (fun definition => { name, columns := definition.columns })) := by
  unfold created
  generalize schema = definitions
  induction definitions generalizing file with
  | nil => exact (Option.or_none ..).symm
  | cons definition definitions ih =>
    rw [List.map_cons, List.foldl_cons, ih, find_createTable, List.find?_cons, Option.or_assoc]
    congr 1
    by_cases own : definition.name = name
    · subst own
      simp
    · have other : (definition.name == name) = false := by simpa using own
      simp [own, other]

/-- All tables of the schema and the provider-neutral column are there. -/
structure Ready (file : RegistryFile) : Prop where
  tables : ∀ definition ∈ schema, file.tables.find? definition.name ≠ none
  web : webColumn ∈ tableInfo childDispatches file

theorem created_present (tables : ∀ definition ∈ schema, file.tables.find? definition.name ≠ none) :
    created file = file := by
  unfold created
  generalize schema = definitions at tables
  induction definitions with
  | nil => rfl
  | cons definition definitions ih =>
    obtain ⟨first, rest⟩ := List.forall_mem_cons.mp tables
    rw [List.map_cons, List.foldl_cons, createTable_present first]
    exact ih rest

theorem Ready.prepared (ready : Ready file) : prepared file = file := by
  have same := created_present ready.tables
  rw [Proofs.prepared, same, if_pos ready.web]

private theorem find_changeTable {name : String} {change : SqlTable → SqlTable}
    {kept : ∀ table, (change table).name = table.name} (file : RegistryFile) (wanted : String) :
    (changeTable name change kept file).tables.find? wanted =
      (file.tables.find? wanted).map (fun found => if found.name == name then change found else found) :=
  @Table.find?_update _ _ _ _ _ _ _ kept wanted

theorem find_addColumn (file : RegistryFile) (table column name : String) :
    (addColumn table column file).tables.find? name = (file.tables.find? name).map (fun found =>
      if found.name == table then { found with columns := found.columns ++ [column] } else found) :=
  find_changeTable file name

theorem find_copyLegacy (file : RegistryFile) (name : String) :
    (copyLegacy file).tables.find? name = (file.tables.find? name).map (fun found =>
      if found.name == childDispatches then { found with rows := found.rows.map copyRow } else found) :=
  find_changeTable file name

theorem created_tables (file : RegistryFile) :
    ∀ definition ∈ schema, (created file).tables.find? definition.name ≠ none := by
  intro definition member
  rw [find_created, ne_eq, Option.or_eq_none_iff, Option.map_eq_none_iff, List.find?_eq_none]
  rintro ⟨_, none⟩
  exact none definition member (beq_self_eq_true _)

/-- The table of the dispatches is the old one or a new one without the leftover
column. -/
theorem dispatches_created (file : RegistryFile) :
    ∃ table, (created file).tables.find? childDispatches = some table ∧ table.name = childDispatches ∧
      (legacyColumn ∈ table.columns ↔ Leftover file) := by
  rw [find_created, Leftover, tableInfo]
  cases found : file.tables.find? childDispatches with
  | none => exact ⟨_, rfl, rfl, by decide⟩
  | some table => exact ⟨table, rfl, (Table.find?_some.mp found).2, Iff.rfl⟩

theorem prepared_ready (file : RegistryFile) : Ready (prepared file) := by
  unfold prepared
  split
  next present => exact ⟨created_tables file, present⟩
  next =>
    refine ⟨fun definition member => ?_, ?_⟩
    · rw [find_addColumn, ne_eq, Option.map_eq_none_iff]
      exact created_tables file definition member
    · obtain ⟨table, found, named, _⟩ := dispatches_created file
      rw [tableInfo, find_addColumn, found]
      simp [named]

private theorem created_version (file : RegistryFile) : (created file).userVersion = file.userVersion := by
  unfold created
  generalize schema = definitions
  induction definitions generalizing file with
  | nil => rfl
  | cons definition definitions ih => exact ih _

theorem prepared_version (file : RegistryFile) : (prepared file).userVersion = file.userVersion := by
  unfold prepared
  split
  · exact created_version file
  · exact created_version file

theorem leftover_created (file : RegistryFile) : Leftover (created file) ↔ Leftover file := by
  obtain ⟨table, found, _, same⟩ := dispatches_created file
  rw [Leftover, tableInfo, found]
  exact same

theorem leftover_prepared (file : RegistryFile) : Leftover (prepared file) ↔ Leftover file := by
  unfold prepared
  split
  · exact leftover_created file
  · obtain ⟨table, found, named, same⟩ := dispatches_created file
    rw [Leftover, tableInfo, find_addColumn, found]
    simp only [Option.map_some, Option.getD_some, named, beq_self_eq_true, if_true, List.mem_append, List.mem_singleton]
    rw [same]
    exact or_iff_left (by decide)

private theorem tableInfo_copyLegacy (file : RegistryFile) (name : String) :
    tableInfo name (copyLegacy file) = tableInfo name file := by
  rw [tableInfo, find_copyLegacy, tableInfo]
  cases file.tables.find? name with
  | none => rfl
  | some table =>
    simp only [Option.map_some, Option.getD_some]
    split <;> rfl

theorem Ready.copyLegacy (ready : Ready file) : Ready (copyLegacy file) := by
  refine ⟨fun definition member => ?_, ?_⟩
  · rw [find_copyLegacy, ne_eq, Option.map_eq_none_iff]
    exact ready.tables definition member
  · rw [tableInfo_copyLegacy]
    exact ready.web

theorem leftover_copyLegacy (file : RegistryFile) : Leftover (copyLegacy file) ↔ Leftover file := by
  rw [Leftover, tableInfo_copyLegacy, Leftover]

theorem Ready.setUserVersion (ready : Ready file) (version : Int) : Ready (setUserVersion version file) :=
  ⟨ready.tables, ready.web⟩

theorem leftover_setUserVersion (file : RegistryFile) (version : Int) :
    Leftover (setUserVersion version file) ↔ Leftover file := Iff.rfl

theorem copyRow_twice (row : SqlRow) : copyRow (copyRow row) = copyRow row := by
  by_cases copies : row.get webColumn = .null ∧ row.get legacyColumn ≠ .null
  · have filled : (row.set webColumn (row.get legacyColumn)).get webColumn = row.get legacyColumn := by
      simp [SqlRow.get, SqlRow.set]
    rw [copyRow, copyRow, if_pos copies, if_neg]
    rw [filled]
    exact fun both => copies.2 both.1
  · rw [copyRow, copyRow, if_neg copies, if_neg copies]

theorem copyLegacy_twice (file : RegistryFile) : Schema.copyLegacy (Schema.copyLegacy file) = Schema.copyLegacy file := by
  have tables : (Schema.copyLegacy (Schema.copyLegacy file)).tables = (Schema.copyLegacy file).tables := by
    apply Table.ext_rows
    simp only [Schema.copyLegacy, changeTable, Table.update, List.map_map]
    apply List.map_congr_left
    intro table _
    by_cases own : table.name = childDispatches
    · simp [own, Function.comp_def, copyRow_twice]
    · simp [own]
  unfold Schema.copyLegacy changeTable at tables ⊢
  simp only [RegistryFile.mk.injEq, true_and]
  exact tables

theorem copyLegacy_setUserVersion (file : RegistryFile) (version : Int) :
    Schema.copyLegacy (Schema.setUserVersion version file) = Schema.setUserVersion version (Schema.copyLegacy file) := rfl

end Tables

-- The proofs below go through the lemmas above and never compute the schema.
attribute [irreducible] created prepared

/-- What every opening of the file reads. -/
def opened (file : RegistryFile) : RegistryFile :=
  setUserVersion schemaVersion (if Leftover file then copyLegacy (prepared file) else prepared file)

/-- A file that an opening has left behind. -/
structure Settled (file : RegistryFile) : Prop where
  ready : Ready file
  version : file.userVersion = schemaVersion

section Openings
variable {file : RegistryFile}

theorem setUserVersion_self (version : file.userVersion = schemaVersion) : setUserVersion schemaVersion file = file := by
  rw [← version]
  rfl

/-- The statements of one opening. -/
theorem connect_eq (supported : 0 ≤ file.userVersion ∧ file.userVersion ≤ schemaVersion) :
    connect file = .ok (if file.userVersion < schemaVersion then { file := opened file }
      else if Leftover file then { file := prepared file, pending := some (copyLegacy (prepared file)) }
      else { file := prepared file }) := by
  have allowed : ¬ (file.userVersion < 0 ∨ file.userVersion > schemaVersion) := by omega
  have script : ({ file } : Connection RegistryFile).executescript (schema.map createTable) = { file := created file } := by
    rw [Connection.executescript_committed, created]
  have prepares : (if webColumn ∈ tableInfo childDispatches (created file) then ({ file := created file } : Connection _)
      else ({ file := created file } : Connection _).execute (addColumn childDispatches webColumn)) =
        { file := prepared file } := by
    unfold prepared
    split <;> rfl
  have copies : (legacyColumn ∈ tableInfo childDispatches (created file)) = Leftover file :=
    propext (leftover_created file)
  simp only [connect, if_neg allowed, script, Connection.content, Option.getD_none, prepares, copies]
  by_cases leftover : Leftover file <;>
    simp only [opened, leftover, if_true, if_false, Connection.executeRows, Connection.execute, Connection.commit,
      Connection.content, Option.getD_some, Option.getD_none]

theorem connect_settled (settled : Settled file) :
    connect file = .ok (if Leftover file then { file, pending := some (copyLegacy file) } else { file }) := by
  have current : ¬ file.userVersion < schemaVersion := by
    rw [settled.version]
    exact lt_irrefl _
  rw [connect_eq ⟨by rw [settled.version]; decide, settled.version.le⟩, if_neg current, settled.ready.prepared]

/-- An opening reads what every opening reads, leaves a settled file behind, and
has a transaction open exactly when it copies without raising the version. -/
theorem connect_spec (supported : 0 ≤ file.userVersion ∧ file.userVersion ≤ schemaVersion) :
    ∃ conn, connect file = .ok conn ∧ conn.content = opened file ∧ Settled conn.file ∧
      (Leftover conn.file ↔ Leftover file) ∧ opened conn.file = opened file ∧
      (conn.inTransaction = true ↔ Leftover file ∧ file.userVersion = schemaVersion) := by
  have ready := prepared_ready file
  refine ⟨_, connect_eq supported, ?_⟩
  by_cases older : file.userVersion < schemaVersion
  · have settled : Settled (opened file) := by
      unfold opened
      split
      · exact ⟨ready.copyLegacy.setUserVersion _, rfl⟩
      · exact ⟨ready.setUserVersion _, rfl⟩
    have leftover : Leftover (opened file) ↔ Leftover file := by
      unfold opened
      split
      · rw [leftover_setUserVersion, leftover_copyLegacy, leftover_prepared]
      · rw [leftover_setUserVersion, leftover_prepared]
    have again : opened (opened file) = opened file := by
      rw [opened, settled.ready.prepared]
      simp only [leftover]
      by_cases present : Leftover file
      · rw [if_pos present, opened, if_pos present, copyLegacy_setUserVersion, copyLegacy_twice]
        rfl
      · rw [if_neg present]
        exact setUserVersion_self settled.version
    rw [if_pos older]
    refine ⟨rfl, settled, leftover, again, ?_⟩
    simp only [Connection.inTransaction, Option.isSome_none, Bool.false_eq_true, false_iff]
    exact fun both => older.ne both.2
  · have version : file.userVersion = schemaVersion := le_antisymm supported.2 (not_lt.mp older)
    have stored : (prepared file).userVersion = schemaVersion := (prepared_version file).trans version
    have same : opened (prepared file) = opened file := by
      rw [opened, opened, ready.prepared]
      simp only [leftover_prepared]
    rw [if_neg older]
    by_cases leftover : Leftover file
    · rw [if_pos leftover]
      refine ⟨?_, ⟨ready, stored⟩, leftover_prepared file, same, by simp [Connection.inTransaction, leftover, version]⟩
      have copied : (copyLegacy (prepared file)).userVersion = schemaVersion := stored
      rw [opened, if_pos leftover]
      exact (setUserVersion_self copied).symm
    · rw [if_neg leftover]
      refine ⟨?_, ⟨ready, stored⟩, leftover_prepared file, same, by simp [Connection.inTransaction, leftover]⟩
      rw [opened, if_neg leftover]
      exact (setUserVersion_self stored).symm

/-- Every later opening copies again. -/
theorem reopen_spec (supported : 0 ≤ file.userVersion ∧ file.userVersion ≤ schemaVersion) (count : Nat) :
    ∃ conn, reopen file count = .ok conn ∧ conn.content = opened file ∧ Settled conn.file ∧
      (Leftover conn.file ↔ Leftover file) ∧ opened conn.file = opened file ∧
      (conn.inTransaction = true ↔ Leftover file ∧ (0 < count ∨ file.userVersion = schemaVersion)) := by
  induction count with
  | zero => simpa only [reopen, lt_irrefl, false_or] using connect_spec supported
  | succ count ih =>
    obtain ⟨conn, before, _, settled, leftover, same, _⟩ := ih
    have current : 0 ≤ conn.file.userVersion ∧ conn.file.userVersion ≤ schemaVersion :=
      ⟨by rw [settled.version]; decide, settled.version.le⟩
    obtain ⟨next, returned, content, later, kept, unchanged, busy⟩ := connect_spec current
    refine ⟨next, ?_, content.trans same, later, kept.trans leftover, unchanged.trans same, ?_⟩
    · rw [reopen, before]
      exact returned
    · rw [busy, leftover]
      simp [settled.version]

/-- The row in a table of this name and these columns, before and after an opening. -/
def SameValues (table : SqlTable) (old new : SqlRow) : Prop :=
  ∀ column, new.get column =
    if column = webColumn ∧ table.name = childDispatches ∧ legacyColumn ∈ table.columns ∧ old.get webColumn = .null then
      old.get legacyColumn
    else
      old.get column

/-- Every table of the file is kept, with its columns and the values of its rows. -/
def KeepsRows (file after : RegistryFile) : Prop :=
  ∀ table ∈ file.tables, ∃ later ∈ after.tables, later.name = table.name ∧ table.columns <+: later.columns ∧
    List.Forall₂ (SameValues table) table.rows later.rows

private theorem find_prepared {name : String} {table : SqlTable} (found : file.tables.find? name = some table) :
    ∃ later, (prepared file).tables.find? name = some later ∧ later.name = table.name ∧
      table.columns <+: later.columns ∧ later.rows = table.rows := by
  have present : (created file).tables.find? name = some table := by
    rw [find_created, found]
    rfl
  unfold prepared
  split
  · exact ⟨table, present, rfl, List.prefix_refl _, rfl⟩
  · rw [find_addColumn, present, Option.map_some]
    refine ⟨_, rfl, ?_⟩
    split
    · exact ⟨rfl, List.prefix_append .., rfl⟩
    · exact ⟨rfl, List.prefix_refl _, rfl⟩

private theorem copyRow_values {table : SqlTable} (named : table.name = childDispatches)
    (leftover : legacyColumn ∈ table.columns) (row : SqlRow) : SameValues table row (copyRow row) := by
  intro column
  simp only [named, leftover, true_and]
  by_cases copies : row.get webColumn = .null ∧ row.get legacyColumn ≠ .null
  · rw [copyRow, if_pos copies]
    by_cases own : column = webColumn
    · subst own
      rw [if_pos ⟨rfl, copies.1⟩]
      simp [SqlRow.set, SqlRow.get]
    · have other : (column == webColumn) = false := by simpa using own
      simp [own, other, SqlRow.set, SqlRow.get, List.lookup_cons]
  · rw [copyRow, if_neg copies]
    split
    next both =>
      -- The leftover value is NULL too.
      obtain ⟨rfl, missing⟩ := both
      have empty : row.get legacyColumn = .null := by
        by_contra some
        exact copies ⟨missing, some⟩
      rw [missing, empty]
    next => rfl

theorem opened_keeps (file : RegistryFile) : KeepsRows file (opened file) := by
  intro table member
  have found : file.tables.find? table.name = some table := Table.find?_some.mpr ⟨member, rfl⟩
  obtain ⟨later, present, named, columns, rows⟩ := find_prepared found
  have unchanged (other : ¬ (table.name = childDispatches ∧ legacyColumn ∈ table.columns)) :
      List.Forall₂ (SameValues table) table.rows table.rows := by
    refine List.forall₂_same.mpr (fun row _ column => ?_)
    rw [if_neg (fun all => other ⟨all.2.1, all.2.2.1⟩)]
  by_cases leftover : Leftover file
  · have copied := find_copyLegacy (prepared file) table.name
    rw [present, Option.map_some, named] at copied
    have inside {copy : SqlTable} (stored : (copyLegacy (prepared file)).tables.find? table.name = some copy) :
        copy ∈ (opened file).tables := by
      rw [opened, if_pos leftover]
      exact (Table.find?_some.mp stored).1
    by_cases own : table.name = childDispatches
    · have held : legacyColumn ∈ table.columns := by
        rw [Leftover, tableInfo, ← own, found] at leftover
        exact leftover
      rw [if_pos (by rw [own]; exact beq_self_eq_true _)] at copied
      refine ⟨_, inside copied, rfl, columns, ?_⟩
      rw [rows]
      exact List.forall₂_map_right_iff.mpr (List.forall₂_same.mpr fun row _ => copyRow_values own held row)
    · rw [if_neg (by simpa using own)] at copied
      refine ⟨later, inside copied, named, columns, ?_⟩
      rw [rows]
      exact unchanged (fun both => own both.1)
  · refine ⟨later, ?_, named, columns, ?_⟩
    · rw [opened, if_neg leftover]
      exact (Table.find?_some.mp present).1
    · rw [rows]
      refine unchanged (fun both => leftover ?_)
      rw [Leftover, tableInfo, ← both.1, found]
      exact both.2

end Openings

/-- Every opening of a supported file succeeds, reads version 10 and the old rows,
and leaves nothing for a later opening to change. Its first `BEGIN IMMEDIATE`
succeeds exactly when the file has no leftover column or this is the opening that
raises the version. -/
theorem registry_opens_clean (file : RegistryFile)
    (supported : 0 ≤ file.userVersion ∧ file.userVersion ≤ schemaVersion) (count : Nat) :
    ∃ conn, reopen file count = .ok conn ∧
      conn.content.userVersion = schemaVersion ∧ KeepsRows file conn.content ∧
      (∃ next, reopen file (count + 1) = .ok next ∧ next.file = conn.file ∧ next.content = conn.content) ∧
      (conn.inTransaction = false ∧ conn.beginImmediate.isOk = true ↔
        ¬ Leftover file ∨ count = 0 ∧ file.userVersion < schemaVersion) := by
  obtain ⟨conn, returned, content, settled, leftover, same, busy⟩ := reopen_spec supported count
  refine ⟨conn, returned, ?_, ?_, ?_, ?_⟩
  · rw [content]
    rfl
  · rw [content]
    exact opened_keeps file
  · have again := connect_settled settled
    refine ⟨_, by rw [reopen, returned]; exact again, ?_, ?_⟩
    · split <;> rfl
    · have copied : (copyLegacy conn.file).userVersion = schemaVersion := settled.version
      rw [content, ← same, opened, settled.ready.prepared]
      split
      · exact (setUserVersion_self copied).symm
      · exact (setUserVersion_self settled.version).symm
  · rw [Connection.beginImmediate_ok_iff, and_self, ← Bool.not_eq_true, busy]
    have bound := supported.2
    by_cases present : Leftover file
    · simp only [present, true_and, not_true_eq_false, false_or]
      omega
    · simp [present]

/-- A version 8 registry with the provider-named column and one dispatch. -/
def legacyV8 : RegistryFile :=
  let row : SqlRow := [("dispatch_id", .text "d8"), (legacyColumn, .text "https://chatgpt.com/g/g-p-1/project")]
  let tables := ((schemaV5 ++ schemaV6 ++ schemaV7 ++ schemaV8).map createTable).foldl (fun file change => change file)
    { userVersion := 8 }
  changeTable childDispatches (fun table => { table with rows := [row] }) (fun _ => rfl)
    (addColumn childDispatches legacyColumn tables)

/-- The opening that migrates the file commits its copy. -/
theorem registry_opens_clean_migration :
    ∃ conn, reopen legacyV8 0 = .ok conn ∧ conn.inTransaction = false ∧ conn.beginImmediate.isOk = true ∧
      conn.content.userVersion = schemaVersion := by
  obtain ⟨conn, returned, version, _, _, clean⟩ := registry_opens_clean legacyV8 (by decide +kernel) 0
  obtain ⟨quiet, begins⟩ := clean.mpr (Or.inr (by decide +kernel))
  exact ⟨conn, returned, quiet, begins, version⟩

/-- The next opening of the migrated file copies nothing, leaves its transaction
open, and cannot begin one. -/
theorem registry_opens_clean_second :
    (reopen legacyV8 1).map (fun conn => (conn.inTransaction, conn.beginImmediate.isOk)) = .ok (true, false) := by
  decide +kernel

end WebSupervisor.Schema.Proofs
