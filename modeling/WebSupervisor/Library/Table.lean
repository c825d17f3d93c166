import Mathlib.Data.List.Nodup
import Mathlib.Data.List.Dedup

/-! Tables with a primary key. Rows stand in insertion order and no key occurs
twice; an insert that would repeat a key gives no table. A unique index over
part of the rows is a second constraint of the same kind. -/

namespace WebSupervisor.Library

variable {ρ κ ι : Type}

structure Table (ρ : Type) (key : ρ → κ) where
  rows : List ρ
  distinct : (rows.map key).Nodup

namespace Table
variable {key : ρ → κ}

def empty : Table ρ key := ⟨[], List.nodup_nil⟩

def single (row : ρ) : Table ρ key := ⟨[row], List.nodup_singleton _⟩

instance : Membership ρ (Table ρ key) := ⟨fun table row => row ∈ table.rows⟩

instance (row : ρ) (table : Table ρ key) [DecidableEq ρ] : Decidable (row ∈ table) :=
  inferInstanceAs (Decidable (row ∈ table.rows))

theorem mem_def {table : Table ρ key} {row : ρ} : row ∈ table ↔ row ∈ table.rows := Iff.rfl

theorem eq_of_key {table : Table ρ key} {first second : ρ} (firstMember : first ∈ table)
    (secondMember : second ∈ table) (same : key first = key second) : first = second :=
  List.inj_on_of_nodup_map table.distinct firstMember secondMember same

@[ext]
theorem ext_rows {first second : Table ρ key} (same : first.rows = second.rows) : first = second := by
  cases first
  cases second
  cases same
  rfl

variable [DecidableEq κ]

def find? (table : Table ρ key) (wanted : κ) : Option ρ :=
  table.rows.find? (fun row => key row = wanted)

theorem find?_some {table : Table ρ key} {wanted : κ} {row : ρ} :
    table.find? wanted = some row ↔ row ∈ table ∧ key row = wanted := by
  constructor
  · intro found
    exact ⟨List.mem_of_find?_eq_some found, by simpa using List.find?_some found⟩
  · rintro ⟨member, rfl⟩
    cases found : table.find? (key row) with
    | none =>
      have absent := List.find?_eq_none.mp found row member
      simp at absent
    | some other =>
      have present : other ∈ table := List.mem_of_find?_eq_some found
      have same : key other = key row := by simpa using List.find?_some found
      rw [eq_of_key present member same]

theorem find?_none {table : Table ρ key} {wanted : κ} :
    table.find? wanted = none ↔ ∀ row ∈ table, key row ≠ wanted := by
  rw [find?, List.find?_eq_none]
  simp only [decide_eq_true_eq]
  rfl

/-- `INSERT`. There is no result when the key is taken. -/
def insert? (table : Table ρ key) (row : ρ) : Option (Table ρ key) :=
  if taken : key row ∈ table.rows.map key then
    none
  else
    some ⟨table.rows ++ [row], by
      rw [List.map_append, List.map_singleton]
      exact List.nodup_append_comm.mp (List.nodup_cons.mpr ⟨taken, table.distinct⟩)⟩

theorem insert?_some {table after : Table ρ key} {row : ρ} :
    table.insert? row = some after ↔ (∀ old ∈ table, key old ≠ key row) ∧ after.rows = table.rows ++ [row] := by
  have taken : key row ∈ table.rows.map key ↔ ∃ old ∈ table, key old = key row := List.mem_map
  unfold insert?
  split
  next clash =>
    obtain ⟨old, member, same⟩ := taken.mp clash
    simp only [reduceCtorEq, false_iff, not_and]
    exact fun fresh => absurd same (fresh old member)
  next fresh =>
    have free : ∀ old ∈ table, key old ≠ key row := fun old member same => fresh (taken.mpr ⟨old, member, same⟩)
    simp only [Option.some.injEq]
    constructor
    · rintro rfl
      exact ⟨free, rfl⟩
    · rintro ⟨_, same⟩
      exact ext_rows same.symm

theorem insert?_none {table : Table ρ key} {row : ρ} :
    table.insert? row = none ↔ ∃ old ∈ table, key old = key row := by
  unfold insert?
  split
  next clash => exact ⟨fun _ => List.mem_map.mp clash, fun _ => rfl⟩
  next fresh =>
    simp only [reduceCtorEq, false_iff]
    exact fun clash => fresh (List.mem_map.mpr clash)

theorem mem_insert? {table after : Table ρ key} {row other : ρ} (inserted : table.insert? row = some after) :
    other ∈ after ↔ other ∈ table ∨ other = row := by
  rw [mem_def, (insert?_some.mp inserted).2]
  simp [mem_def]

/-- `UPDATE … WHERE key = …`. Nothing happens when no row has the key. -/
def replace (table : Table ρ key) (row : ρ) : Table ρ key :=
  ⟨table.rows.map (fun old => if key old = key row then row else old), by
    have kept : (table.rows.map (fun old => if key old = key row then row else old)).map key = table.rows.map key := by
      rw [List.map_map]
      apply List.map_congr_left
      intro old _
      simp only [Function.comp_apply]
      split <;> simp_all
    rw [kept]
    exact table.distinct⟩

theorem mem_replace {table : Table ρ key} {row other : ρ} :
    other ∈ table.replace row ↔
      other = row ∧ (∃ old ∈ table, key old = key row) ∨ other ∈ table ∧ key other ≠ key row := by
  simp only [mem_def, replace, List.mem_map]
  constructor
  · rintro ⟨old, member, same⟩
    split at same
    next equal => exact Or.inl ⟨same.symm, old, member, equal⟩
    next different => exact Or.inr ⟨same ▸ member, same ▸ different⟩
  · rintro (⟨rfl, old, member, equal⟩ | ⟨member, different⟩)
    · exact ⟨old, member, by simp [equal]⟩
    · exact ⟨other, member, by simp [different]⟩

theorem find?_replace {table : Table ρ key} {row : ρ} (held : ∃ old ∈ table, key old = key row) (wanted : κ) :
    (table.replace row).find? wanted = if wanted = key row then some row else table.find? wanted := by
  apply Option.ext
  intro found
  rw [find?_some, mem_replace, and_iff_left held]
  split
  next same =>
    rw [Option.some.injEq]
    constructor
    · rintro ⟨rfl | ⟨_, other⟩, named⟩
      · rfl
      · exact absurd (named.trans same) other
    · rintro rfl
      exact ⟨Or.inl rfl, same.symm⟩
  next different =>
    rw [find?_some]
    constructor
    · rintro ⟨rfl | ⟨member, _⟩, named⟩
      · exact absurd named.symm different
      · exact ⟨member, named⟩
    · rintro ⟨member, rfl⟩
      exact ⟨Or.inr ⟨member, different⟩, rfl⟩

/-- `INSERT … ON CONFLICT DO UPDATE` of every column. -/
def upsert (table : Table ρ key) (row : ρ) : Table ρ key :=
  (table.insert? row).getD (table.replace row)

theorem mem_upsert {table : Table ρ key} {row other : ρ} :
    other ∈ table.upsert row ↔ other = row ∨ other ∈ table ∧ key other ≠ key row := by
  cases inserted : table.insert? row with
  | none =>
    rw [upsert, inserted, Option.getD_none, mem_replace, and_iff_left (insert?_none.mp inserted)]
  | some after =>
    simp only [upsert, inserted, Option.getD_some, mem_insert? inserted]
    have fresh := (insert?_some.mp inserted).1
    constructor
    · rintro (member | same)
      · exact Or.inr ⟨member, fresh other member⟩
      · exact Or.inl same
    · rintro (same | ⟨member, _⟩)
      · exact Or.inr same
      · exact Or.inl member

theorem find?_upsert (table : Table ρ key) (row : ρ) (wanted : κ) :
    (table.upsert row).find? wanted = if wanted = key row then some row else table.find? wanted := by
  split
  next own => exact find?_some.mpr ⟨mem_upsert.mpr (Or.inl rfl), own.symm⟩
  next other =>
    ext found
    rw [find?_some, mem_upsert, find?_some]
    constructor
    · rintro ⟨rfl | ⟨member, _⟩, rfl⟩
      · exact absurd rfl other
      · exact ⟨member, rfl⟩
    · rintro ⟨member, rfl⟩
      exact ⟨Or.inr ⟨member, other⟩, rfl⟩

def delete (table : Table ρ key) (unwanted : κ) : Table ρ key :=
  ⟨table.rows.filter (fun row => key row ≠ unwanted),
    (List.filter_sublist.map key).nodup table.distinct⟩

theorem mem_delete {table : Table ρ key} {unwanted : κ} {row : ρ} :
    row ∈ table.delete unwanted ↔ row ∈ table ∧ key row ≠ unwanted := by
  simp [mem_def, delete]

theorem find?_delete (table : Table ρ key) (unwanted wanted : κ) :
    (table.delete unwanted).find? wanted = if wanted = unwanted then none else table.find? wanted := by
  split
  next own =>
    rw [find?_none]
    rintro row member rfl
    exact (mem_delete.mp member).2 own
  next other =>
    ext found
    rw [find?_some, mem_delete, find?_some]
    constructor
    · rintro ⟨⟨member, _⟩, named⟩
      exact ⟨member, named⟩
    · rintro ⟨member, rfl⟩
      exact ⟨⟨member, other⟩, rfl⟩

omit [DecidableEq κ] in
private theorem map_update {τ : Type} {column : ρ → τ} {select : ρ → Bool} {change : ρ → ρ}
    (kept : ∀ row, column (change row) = column row) (rows : List ρ) :
    (rows.map (fun row => if select row then change row else row)).map column = rows.map column := by
  rw [List.map_map]
  apply List.map_congr_left
  intro row _
  simp only [Function.comp_apply]
  split
  · exact kept row
  · rfl

/-- `UPDATE … WHERE …` of columns outside of the key. -/
def update (table : Table ρ key) (select : ρ → Bool) (change : ρ → ρ) (kept : ∀ row, key (change row) = key row) :
    Table ρ key :=
  ⟨table.rows.map (fun row => if select row then change row else row), by
    rw [map_update kept]
    exact table.distinct⟩

omit [DecidableEq κ] in
theorem mem_update {table : Table ρ key} {select : ρ → Bool} {change : ρ → ρ}
    {kept : ∀ row, key (change row) = key row} {row : ρ} :
    row ∈ table.update select change kept ↔ ∃ old ∈ table, row = if select old then change old else old := by
  simp only [mem_def, update, List.mem_map, eq_comm]

theorem find?_update {table : Table ρ key} {select : ρ → Bool} {change : ρ → ρ}
    {kept : ∀ row, key (change row) = key row} (wanted : κ) :
    (table.update select change kept).find? wanted =
      (table.find? wanted).map (fun row => if select row then change row else row) := by
  have sameKey (row : ρ) : key (if select row then change row else row) = key row := by
    split
    · exact kept row
    · rfl
  simp only [find?, update, List.find?_map]
  congr 2
  funext row
  simp only [Function.comp_apply, sameKey]

theorem find?_insert? {table after : Table ρ key} {row : ρ} (inserted : table.insert? row = some after) (wanted : κ) :
    after.find? wanted = (table.find? wanted).or (if key row = wanted then some row else none) := by
  simp only [find?, (insert?_some.mp inserted).2, List.find?_append, List.find?_cons, List.find?_nil]
  congr 1
  split <;> simp_all

end Table

/-- A table with a partial unique index: `index` is the indexed value of a row,
and `none` for a row outside of the index. -/
structure IndexedTable (ρ : Type) (key : ρ → κ) (index : ρ → Option ι) extends Table ρ key where
  single : ∀ first ∈ rows, ∀ second ∈ rows, index first ≠ none → index first = index second → first = second

/-- The constraint that refuses a row. -/
inductive Conflict where
  | key
  | index

namespace IndexedTable
variable {key : ρ → κ} {index : ρ → Option ι}

def empty : IndexedTable ρ key index := ⟨.empty, by simp [Table.empty]⟩

instance : Membership ρ (IndexedTable ρ key index) := ⟨fun table row => row ∈ table.toTable⟩

theorem mem_toTable {table : IndexedTable ρ key index} {row : ρ} : row ∈ table ↔ row ∈ table.toTable := Iff.rfl

theorem eq_of_index {table : IndexedTable ρ key index} {first second : ρ} (firstMember : first ∈ table)
    (secondMember : second ∈ table) (indexed : index first ≠ none) (same : index first = index second) :
    first = second :=
  table.single first firstMember second secondMember indexed same

variable [DecidableEq κ] [DecidableEq ι]

def insert (table : IndexedTable ρ key index) (row : ρ) : Except Conflict (IndexedTable ρ key index) :=
  match inserted : table.toTable.insert? row with
  | none => .error .key
  | some after =>
    if clash : index row ≠ none ∧ ∃ old ∈ table.rows, index old = index row then
      .error .index
    else
      .ok ⟨after, by
        intro first firstMember second secondMember indexed same
        have free : ∀ old ∈ table.rows, index row ≠ none → index old ≠ index row :=
          fun old member partOf equal => clash ⟨partOf, old, member, equal⟩
        rcases (Table.mem_insert? inserted).mp firstMember with firstOld | rfl
        · rcases (Table.mem_insert? inserted).mp secondMember with secondOld | rfl
          · exact table.single first firstOld second secondOld indexed same
          · exact absurd same (free first firstOld (same ▸ indexed))
        · rcases (Table.mem_insert? inserted).mp secondMember with secondOld | rfl
          · exact absurd same.symm (free second secondOld indexed)
          · rfl⟩

theorem insert_ok {table after : IndexedTable ρ key index} {row : ρ} (inserted : table.insert row = .ok after) :
    table.toTable.insert? row = some after.toTable := by
  unfold insert at inserted
  split at inserted
  next => cases inserted
  next grown grew =>
    split at inserted
    next => cases inserted
    next =>
      cases inserted
      exact grew

/-- `UPDATE … WHERE key = …` of the row that has the key. There is no result
when another row has the same indexed value. -/
def replace? (table : IndexedTable ρ key index) (row : ρ) : Option (IndexedTable ρ key index) :=
  if clash : index row ≠ none ∧ ∃ old ∈ table.rows, key old ≠ key row ∧ index old = index row then
    none
  else
    some ⟨table.toTable.replace row, by
      intro first firstMember second secondMember indexed same
      have free : ∀ old ∈ table.rows, key old ≠ key row → index row ≠ none → index old ≠ index row :=
        fun old member other partOf equal => clash ⟨partOf, old, member, other, equal⟩
      rcases Table.mem_replace.mp firstMember with ⟨rfl, _⟩ | ⟨firstOld, firstOther⟩
      · rcases Table.mem_replace.mp secondMember with ⟨rfl, _⟩ | ⟨secondOld, secondOther⟩
        · rfl
        · exact absurd same.symm (free second secondOld secondOther indexed)
      · rcases Table.mem_replace.mp secondMember with ⟨rfl, _⟩ | ⟨secondOld, secondOther⟩
        · exact absurd same (free first firstOld firstOther (same ▸ indexed))
        · exact table.single first firstOld second secondOld indexed same⟩

theorem replace?_some {table after : IndexedTable ρ key index} {row : ρ} (replaced : table.replace? row = some after) :
    after.toTable = table.toTable.replace row := by
  unfold replace? at replaced
  split at replaced
  next => cases replaced
  next =>
    cases replaced
    rfl

theorem replace?_same_index {table : IndexedTable ρ key index} {old row : ρ} (member : old ∈ table)
    (sameKey : key old = key row) (sameIndex : index old = index row) : ∃ after, table.replace? row = some after := by
  unfold replace?
  split
  next clash =>
    obtain ⟨indexed, other, present, different, same⟩ := clash
    have one := table.single other present old member (by rwa [same]) (same.trans sameIndex.symm)
    exact absurd (one ▸ sameKey) different
  next => exact ⟨_, rfl⟩

/-- `UPDATE … WHERE …` of columns outside of the key and the index. -/
def update (table : IndexedTable ρ key index) (select : ρ → Bool) (change : ρ → ρ)
    (kept : ∀ row, key (change row) = key row) (indexKept : ∀ row, index (change row) = index row) :
    IndexedTable ρ key index :=
  ⟨table.toTable.update select change kept, by
    have indexOf (row : ρ) : index (if select row then change row else row) = index row := by
      split
      · exact indexKept row
      · rfl
    intro first firstMember second secondMember indexed same
    obtain ⟨firstOld, firstPresent, rfl⟩ := Table.mem_update.mp firstMember
    obtain ⟨secondOld, secondPresent, rfl⟩ := Table.mem_update.mp secondMember
    rw [indexOf] at indexed
    rw [indexOf, indexOf] at same
    rw [table.single firstOld firstPresent secondOld secondPresent indexed same]⟩

end IndexedTable

end WebSupervisor.Library
