import Mathlib.Data.List.Basic
import Mathlib.Data.List.InsertIdx
import Mathlib.Logic.Function.Basic
import Aegis.Lib.Python

/-!
# Relational schemas and their migrations

A `Database` has tables, with named columns and with rows, and indexes; a unique constraint is an
index as well.  Tables and indexes share their names.  A `Ddl` statement changes the database or
is refused, and a script of them is one transaction.

Two rules are about what scripts do to data.  `undo_runAll`: a script that only adds things is
taken back by the inverse statements in reverse order, rows included.  `rows_runAll`: a table
that a script does not drop, and of which it drops no column, keeps its rows, each with the
defaults of the new columns at its end.
-/

namespace Aegis.Lib

/-! ## Tables -/

inductive ColumnType where
  | string
  | text
  | integer
  | float
  | boolean
  | dateTime
  deriving DecidableEq

/-- A column whose cells are of the type `V`, or null. -/
structure Column (V : Type) where
  name : String
  type : ColumnType
  nullable : Bool
  serverDefault : Option V

/-- The rows list their cells in the order of the columns. -/
@[ext]
structure Table (V : Type) where
  columns : List (Column V)
  rows : List (List (Option V))
  rectangular : ∀ row ∈ rows, row.length = columns.length

variable {V : Type}

theorem mem_of_lookup {entries : List (String × List String)} {name : String}
    {columns : List String} (found : entries.lookup name = some columns) :
    (name, columns) ∈ entries := by
  obtain ⟨early, late, rfl, _⟩ := List.lookup_eq_some_iff.mp found
  exact List.mem_append_right _ List.mem_cons_self

namespace Table

def names (table : Table V) : List String := table.columns.map (·.name)

def empty (columns : List (Column V)) : Table V := ⟨columns, [], nofun⟩

/-- `ADD COLUMN`: the rows that are there take the default. -/
def addColumn (table : Table V) (column : Column V) : Table V where
  columns := table.columns ++ [column]
  rows := table.rows.map (· ++ [column.serverDefault])
  rectangular := by
    intro row member
    obtain ⟨old, held, rfl⟩ := List.mem_map.mp member
    rw [List.length_append, List.length_append, table.rectangular old held]
    rfl

/-- `DROP COLUMN`. -/
def dropColumn (table : Table V) (name : String) : Table V where
  columns := table.columns.eraseIdx (table.names.idxOf name)
  rows := table.rows.map (·.eraseIdx (table.names.idxOf name))
  rectangular := by
    intro row member
    obtain ⟨old, held, rfl⟩ := List.mem_map.mp member
    rw [List.length_eraseIdx, List.length_eraseIdx, table.rectangular old held]

/-- The cells of a row in some of the columns. -/
def project (table : Table V) (columns : List String) (row : List (Option V)) : List (Option V) :=
  columns.map fun column => (row.getD (table.names.idxOf column) none)

/-- No two rows agree on the columns; a null agrees with nothing. -/
def UniqueOn (table : Table V) (columns : List String) : Prop :=
  table.rows.Pairwise fun a b =>
    table.project columns a = table.project columns b → none ∈ table.project columns a

instance [DecidableEq V] (table : Table V) (columns : List String) :
    Decidable (table.UniqueOn columns) := by
  unfold UniqueOn
  infer_instance

@[simp]
theorem names_addColumn (table : Table V) (column : Column V) :
    (table.addColumn column).names = table.names ++ [column.name] := List.map_append

@[simp]
theorem names_dropColumn (table : Table V) (name : String) :
    (table.dropColumn name).names = table.names.erase name := by
  unfold names dropColumn
  rw [← List.eraseIdx_map, ← names, List.eraseIdx_idxOf_eq_erase]

theorem dropColumn_addColumn {table : Table V} {column : Column V}
    (new : column.name ∉ table.names) :
    (table.addColumn column).dropColumn column.name = table := by
  have position : (table.addColumn column).names.idxOf column.name = table.columns.length := by
    rw [names_addColumn, List.idxOf_append_of_notMem new, List.idxOf_cons_self, names,
      List.length_map, Nat.add_zero]
  apply Table.ext
  · unfold dropColumn
    dsimp only
    rw [position]
    unfold addColumn
    rw [List.eraseIdx_append_of_length_le (Nat.le_refl _), Nat.sub_self, List.eraseIdx_cons_zero,
      List.append_nil]
  · unfold dropColumn
    dsimp only
    rw [position]
    unfold addColumn
    rw [List.map_map]
    conv_rhs => rw [← List.map_id table.rows]
    refine List.map_congr_left fun row held => ?_
    have long := Nat.le_of_eq (table.rectangular row held)
    rw [Function.comp_apply, List.eraseIdx_append_of_length_le long,
      table.rectangular row held, Nat.sub_self, List.eraseIdx_cons_zero, List.append_nil, id]

end Table

/-! ## Databases -/

/-- An index; those of constraints go away with their constraint only. -/
structure Index where
  table : String
  columns : List String
  unique : Bool
  constraint : Bool
  deriving DecidableEq

@[ext]
structure Database (V : Type) where
  tables : String → Option (Table V)
  indexes : String → Option Index
  grounded : ∀ name index, indexes name = some index →
    ∃ table, tables index.table = some table ∧ index.columns ⊆ table.names

inductive DbError where
  | duplicateTable
  | undefinedTable
  | duplicateColumn
  | undefinedColumn
  | duplicateObject
  | undefinedObject
  | notNullViolation
  | uniqueViolation
  deriving DecidableEq

/-- A statement.  An index is dropped by its name alone. -/
inductive Ddl (V : Type) where
  | createTable (name : String) (columns : List (Column V))
      (constraints : List (String × List String))
  | dropTable (name : String)
  | addColumn (table : String) (column : Column V)
  | dropColumn (table column : String)
  | createIndex (name table : String) (columns : List String) (unique : Bool)
  | dropIndex (name : String)
  | createUniqueConstraint (name table : String) (columns : List String)
  | dropConstraint (name table : String)

namespace Database

variable (db : Database V)

def Free (name : String) : Prop := db.tables name = none ∧ db.indexes name = none

instance (name : String) : Decidable (db.Free name) :=
  decidable_of_iff (((db.tables name).isNone && (db.indexes name).isNone) = true) (by
    rw [Bool.and_eq_true, Option.isNone_iff_eq_none, Option.isNone_iff_eq_none, Free])

/-- The indexes of a new table: those of its primary key and unique constraints. -/
def constraintIndexes (name : String) (constraints : List (String × List String)) :
    String → Option Index :=
  fun indexName => (constraints.lookup indexName).map fun columns => ⟨name, columns, true, true⟩

/-- The database without a table, and without the indexes of that table. -/
def without (name : String) : Database V where
  tables := Function.update db.tables name none
  indexes indexName := (db.indexes indexName).filter (·.table ≠ name)
  grounded := by
    intro indexName index kept
    obtain ⟨held, other⟩ := Option.filter_eq_some_iff.mp kept
    rw [Function.update_of_ne (of_decide_eq_true other)]
    exact db.grounded indexName index held

/-- Another table under the name, with at least the same columns. -/
def replace (name : String) (table : Table V)
    (keeps : ∀ old, db.tables name = some old → old.names ⊆ table.names) : Database V where
  tables := Function.update db.tables name (some table)
  indexes := db.indexes
  grounded := by
    intro indexName index held
    obtain ⟨old, found, within⟩ := db.grounded indexName index held
    by_cases same : index.table = name
    · rw [same] at found ⊢
      exact ⟨table, Function.update_self _ _ _, List.Subset.trans within (keeps old found)⟩
    · rw [Function.update_of_ne same]
      exact ⟨old, found, within⟩

def addIndex (name : String) (index : Index)
    (onTable : ∃ table, db.tables index.table = some table ∧ index.columns ⊆ table.names) :
    Database V where
  tables := db.tables
  indexes := Function.update db.indexes name (some index)
  grounded := by
    intro indexName other held
    by_cases same : indexName = name
    · rw [same, Function.update_self] at held
      cases held
      exact onTable
    · rw [Function.update_of_ne same] at held
      exact db.grounded indexName other held

def removeIndex (name : String) : Database V where
  tables := db.tables
  indexes := Function.update db.indexes name none
  grounded := by
    intro indexName other held
    by_cases same : indexName = name
    · rw [same, Function.update_self] at held
      cases held
    · rw [Function.update_of_ne same] at held
      exact db.grounded indexName other held

@[simp]
theorem tables_without (name : String) :
    (db.without name).tables = Function.update db.tables name none := rfl

@[simp]
theorem indexes_without (name : String) :
    (db.without name).indexes = fun indexName => (db.indexes indexName).filter (·.table ≠ name) :=
  rfl

section

variable {name : String} {index : Index}
  {onTable : ∃ table, db.tables index.table = some table ∧ index.columns ⊆ table.names}

@[simp]
theorem tables_addIndex : (db.addIndex name index onTable).tables = db.tables := rfl

@[simp]
theorem indexes_addIndex :
    (db.addIndex name index onTable).indexes = Function.update db.indexes name (some index) := rfl

end

@[simp]
theorem tables_removeIndex (name : String) : (db.removeIndex name).tables = db.tables := rfl

@[simp]
theorem indexes_removeIndex (name : String) :
    (db.removeIndex name).indexes = Function.update db.indexes name none := rfl

/-! ## Statements -/

def createTable (name : String) (columns : List (Column V))
    (constraints : List (String × List String)) : Except DbError (Database V) :=
  if taken : ¬ db.Free name then .error .duplicateTable
  else if ¬ (columns.map (·.name)).Nodup then .error .duplicateColumn
  else if ¬ (name :: constraints.map (·.1)).Nodup ∨ ∃ entry ∈ constraints, ¬ db.Free entry.1 then
    .error .duplicateObject
  else if within : ∀ entry ∈ constraints, entry.2 ⊆ columns.map (·.name) then
    .ok {
      tables := Function.update db.tables name (some (.empty columns))
      indexes indexName := (constraintIndexes name constraints indexName).or (db.indexes indexName)
      grounded := by
        intro indexName index held
        rcases Option.or_eq_some_iff.mp held with new | ⟨_, old⟩
        · obtain ⟨cells, found, rfl⟩ := Option.map_eq_some_iff.mp new
          exact ⟨.empty columns, Function.update_self _ _ _,
            within (indexName, cells) (mem_of_lookup found)⟩
        · obtain ⟨table, found, inside⟩ := db.grounded indexName index old
          have apart : index.table ≠ name := by
            intro same
            rw [same, (not_not.mp taken).1] at found
            cases found
          rw [Function.update_of_ne apart]
          exact ⟨table, found, inside⟩ }
  else .error .undefinedColumn

def dropTable (name : String) : Except DbError (Database V) :=
  match db.tables name with
  | none => .error .undefinedTable
  | some _ => .ok (db.without name)

/-- A column that may not be null needs a default for the rows that are there. -/
def addColumn (name : String) (column : Column V) : Except DbError (Database V) :=
  match found : db.tables name with
  | none => .error .undefinedTable
  | some table =>
      if column.name ∈ table.names then .error .duplicateColumn
      else if ¬ column.nullable ∧ column.serverDefault.isNone ∧ table.rows ≠ [] then
        .error .notNullViolation
      else
        .ok (db.replace name (table.addColumn column) (by
          intro old same
          rw [found] at same
          cases same
          rw [Table.names_addColumn]
          exact List.subset_append_left _ _))

/-- The indexes over the column go away with it. -/
def dropColumn (name column : String) : Except DbError (Database V) :=
  match found : db.tables name with
  | none => .error .undefinedTable
  | some table =>
      if column ∈ table.names then
        .ok {
          tables := Function.update db.tables name (some (table.dropColumn column))
          indexes indexName := (db.indexes indexName).filter fun index =>
            ¬ (index.table = name ∧ column ∈ index.columns)
          grounded := by
            intro indexName index kept
            obtain ⟨held, other⟩ := Option.filter_eq_some_iff.mp kept
            obtain ⟨old, first, within⟩ := db.grounded indexName index held
            by_cases same : index.table = name
            · rw [same, found] at first
              cases first
              rw [same]
              refine ⟨_, Function.update_self _ _ _, fun cell member => ?_⟩
              have apart : cell ≠ column := by
                intro equal
                rw [equal] at member
                exact of_decide_eq_true other ⟨same, member⟩
              rw [Table.names_dropColumn]
              exact (List.mem_erase_of_ne apart).mpr (within member)
            · rw [Function.update_of_ne same]
              exact ⟨old, first, within⟩ }
      else .error .undefinedColumn

/-- An index, of a constraint or not. -/
def createIndexOn [DecidableEq V] (name : String) (index : Index) :
    Except DbError (Database V) :=
  match found : db.tables index.table with
  | none => .error .undefinedTable
  | some table =>
      if ¬ db.Free name then .error .duplicateObject
      else if index.unique ∧ ¬ table.UniqueOn index.columns then .error .uniqueViolation
      else if within : index.columns ⊆ table.names then
        .ok (db.addIndex name index ⟨table, found, within⟩)
      else .error .undefinedColumn

def dropIndex (name : String) : Except DbError (Database V) :=
  match db.indexes name with
  | none => .error .undefinedObject
  | some index => if index.constraint then .error .undefinedObject else .ok (db.removeIndex name)

def dropConstraint (name table : String) : Except DbError (Database V) :=
  match db.indexes name with
  | none => .error .undefinedObject
  | some index =>
      if index.constraint ∧ index.table = table then .ok (db.removeIndex name)
      else .error .undefinedObject

end Database

def Ddl.run [DecidableEq V] (db : Database V) : Ddl V → Except DbError (Database V)
  | createTable name columns constraints => db.createTable name columns constraints
  | dropTable name => db.dropTable name
  | addColumn table column => db.addColumn table column
  | dropColumn table column => db.dropColumn table column
  | createIndex name table columns unique => db.createIndexOn name ⟨table, columns, unique, false⟩
  | dropIndex name => db.dropIndex name
  | createUniqueConstraint name table columns =>
      db.createIndexOn name ⟨table, columns, true, true⟩
  | dropConstraint name table => db.dropConstraint name table

/-- A script, as one transaction. -/
def runAll [DecidableEq V] (db : Database V) : List (Ddl V) → Except DbError (Database V)
  | [] => .ok db
  | statement :: rest => statement.run db >>= (runAll · rest)

/-! ## What a statement has done -/

section Done

variable {db after : Database V} {name : String}

/-- Nothing is over a table that is not there. -/
theorem Database.index_table_ne {indexName : String} {index : Index}
    (missing : db.tables name = none) (held : db.indexes indexName = some index) :
    index.table ≠ name := by
  obtain ⟨table, found, _⟩ := db.grounded indexName index held
  intro same
  rw [same, missing] at found
  cases found

theorem Database.createTable_eq_ok {columns : List (Column V)}
    {constraints : List (String × List String)}
    (created : db.createTable name columns constraints = .ok after) :
    db.Free name ∧ (∀ entry ∈ constraints, db.Free entry.1) ∧
      after.tables = Function.update db.tables name (some (.empty columns)) ∧
      after.indexes = fun indexName =>
        (constraintIndexes name constraints indexName).or (db.indexes indexName) := by
  unfold createTable at created
  split at created
  · cases created
  next taken =>
    split at created
    · cases created
    · split at created
      · cases created
      next named =>
        have free : ∀ entry ∈ constraints, db.Free entry.1 := fun entry member =>
          not_not.mp fun used => named (.inr ⟨entry, member, used⟩)
        split at created
        · cases created
          exact ⟨not_not.mp taken, free, rfl, rfl⟩
        · cases created

theorem Database.createTable_ok {columns : List (Column V)}
    {constraints : List (String × List String)} (unused : db.Free name)
    (distinct : (columns.map (·.name)).Nodup) (named : (name :: constraints.map (·.1)).Nodup)
    (free : ∀ entry ∈ constraints, db.Free entry.1)
    (within : ∀ entry ∈ constraints, entry.2 ⊆ columns.map (·.name)) :
    ∃ after, db.createTable name columns constraints = .ok after := by
  have accepted : ¬ (¬ (name :: constraints.map (·.1)).Nodup ∨
      ∃ entry ∈ constraints, ¬ db.Free entry.1) := by
    intro either
    rcases either with repeated | ⟨entry, member, used⟩
    · exact repeated named
    · exact used (free entry member)
  unfold createTable
  rw [dif_neg (not_not.mpr unused), if_neg (not_not.mpr distinct), if_neg accepted, dif_pos within]
  exact ⟨_, rfl⟩

theorem Database.dropTable_eq_ok (dropped : db.dropTable name = .ok after) :
    after = db.without name := by
  unfold dropTable at dropped
  split at dropped
  · cases dropped
  · cases dropped
    rfl

theorem Database.addColumn_eq_ok {column : Column V}
    (added : db.addColumn name column = .ok after) :
    ∃ table, db.tables name = some table ∧ column.name ∉ table.names ∧
      after.tables = Function.update db.tables name (some (table.addColumn column)) ∧
      after.indexes = db.indexes := by
  unfold addColumn at added
  split at added
  · cases added
  next table found =>
    split at added
    · cases added
    next new =>
      split at added
      · cases added
      · cases added
        exact ⟨table, found, new, rfl, rfl⟩

theorem Database.dropColumn_eq_ok {column : String}
    (dropped : db.dropColumn name column = .ok after) :
    ∃ table, db.tables name = some table ∧
      after.tables = Function.update db.tables name (some (table.dropColumn column)) := by
  unfold dropColumn at dropped
  split at dropped
  · cases dropped
  next table found =>
    split at dropped
    · cases dropped
      exact ⟨table, found, rfl⟩
    · cases dropped

theorem Database.dropColumn_ok {table : Table V} {column : String}
    (found : db.tables name = some table) (member : column ∈ table.names) :
    ∃ after, db.dropColumn name column = .ok after ∧
      after.tables = Function.update db.tables name (some (table.dropColumn column)) ∧
      after.indexes = fun indexName => (db.indexes indexName).filter fun index =>
        ¬ (index.table = name ∧ column ∈ index.columns) := by
  unfold dropColumn
  split
  next missing =>
    rw [found] at missing
    cases missing
  next other held =>
    rw [found] at held
    cases held
    rw [if_pos member]
    exact ⟨_, rfl, rfl, rfl⟩

theorem Database.createIndexOn_eq_ok [DecidableEq V] {index : Index}
    (created : db.createIndexOn name index = .ok after) :
    db.Free name ∧ ∃ onTable, after = db.addIndex name index onTable := by
  unfold createIndexOn at created
  split at created
  · cases created
  next table found =>
    split at created
    · cases created
    next free =>
      split at created
      · cases created
      · split at created
        next within =>
          cases created
          exact ⟨not_not.mp free, ⟨table, found, within⟩, rfl⟩
        next => cases created

theorem Database.dropIndex_eq_ok (dropped : db.dropIndex name = .ok after) :
    after = db.removeIndex name := by
  unfold dropIndex at dropped
  split at dropped
  · cases dropped
  · split at dropped
    · cases dropped
    · cases dropped
      rfl

theorem Database.dropConstraint_eq_ok {table : String}
    (dropped : db.dropConstraint name table = .ok after) : after = db.removeIndex name := by
  unfold dropConstraint at dropped
  split at dropped
  · cases dropped
  · split at dropped
    · cases dropped
      rfl
    · cases dropped

end Done

/-! ## Taking a script back -/

/-- The statement that takes this one back; nothing brings back what was dropped. -/
def Ddl.inverse : Ddl V → Option (Ddl V)
  | createTable name _ _ => some (dropTable name)
  | addColumn table column => some (dropColumn table column.name)
  | createIndex name _ _ _ => some (dropIndex name)
  | createUniqueConstraint name table _ => some (dropConstraint name table)
  | dropTable _ | dropColumn _ _ | dropIndex _ | dropConstraint _ _ => none

section Undo

variable {db after : Database V} {name : String}

theorem Database.dropTable_createTable {columns : List (Column V)}
    {constraints : List (String × List String)}
    (created : db.createTable name columns constraints = .ok after) :
    after.dropTable name = .ok db := by
  obtain ⟨unused, free, tables, indexes⟩ := createTable_eq_ok created
  have found : after.tables name = some (.empty columns) := by
    rw [tables, Function.update_self]
  have same : after.without name = db := by
    apply Database.ext
    · rw [tables_without, tables, Function.update_idem, ← unused.1, Function.update_eq_self]
    · funext indexName
      rw [indexes_without, indexes]
      dsimp only
      cases new : constraintIndexes name constraints indexName with
      | some index =>
          obtain ⟨cells, member, rfl⟩ := Option.map_eq_some_iff.mp new
          rw [Option.some_or, (free _ (mem_of_lookup member)).2, Option.filter_some,
            if_neg (by simp)]
      | none =>
          rw [Option.none_or]
          cases held : db.indexes indexName with
          | none => rfl
          | some index =>
              rw [Option.filter_some, if_pos (decide_eq_true (index_table_ne unused.1 held))]
  unfold dropTable
  rw [found]
  exact congrArg Except.ok same

/-- No index is over a column that is not there. -/
theorem Database.not_mentions {table : Table V} {column indexName : String} {index : Index}
    (found : db.tables name = some table) (missing : column ∉ table.names)
    (held : db.indexes indexName = some index) :
    ¬ (index.table = name ∧ column ∈ index.columns) := by
  obtain ⟨old, first, within⟩ := db.grounded indexName index held
  intro mentions
  rw [mentions.1, found] at first
  cases first
  exact missing (within mentions.2)

theorem Database.dropColumn_addColumn {column : Column V}
    (added : db.addColumn name column = .ok after) :
    after.dropColumn name column.name = .ok db := by
  obtain ⟨table, found, new, tables, indexes⟩ := addColumn_eq_ok added
  have extended : after.tables name = some (table.addColumn column) := by
    rw [tables, Function.update_self]
  have member : column.name ∈ (table.addColumn column).names := by
    rw [Table.names_addColumn]
    exact List.mem_append_right _ (List.mem_singleton_self _)
  obtain ⟨back, dropped, backTables, backIndexes⟩ := dropColumn_ok extended member
  rw [dropped]
  congr 1
  apply Database.ext
  · rw [backTables, tables, Function.update_idem, Table.dropColumn_addColumn new, ← found,
      Function.update_eq_self]
  · funext indexName
    rw [backIndexes, indexes]
    dsimp only
    cases held : db.indexes indexName with
    | none => rfl
    | some index =>
        exact Option.filter_eq_some_iff.mpr ⟨rfl, decide_eq_true (not_mentions found new held)⟩

section

variable {index : Index}
  {onTable : ∃ table, db.tables index.table = some table ∧ index.columns ⊆ table.names}

theorem Database.removeIndex_addIndex (unused : db.indexes name = none) :
    (db.addIndex name index onTable).removeIndex name = db := by
  apply Database.ext
  · rfl
  · rw [indexes_removeIndex, indexes_addIndex, Function.update_idem, ← unused,
      Function.update_eq_self]

theorem Database.dropIndex_addIndex (unused : db.indexes name = none) (free : ¬ index.constraint) :
    (db.addIndex name index onTable).dropIndex name = .ok db := by
  have held : (db.addIndex name index onTable).indexes name = some index := by
    rw [indexes_addIndex, Function.update_self]
  unfold dropIndex
  rw [held]
  dsimp only
  rw [if_neg free, removeIndex_addIndex unused]

/-- An index does not outlive its table. -/
theorem Database.dropTable_addIndex
    (onTable : ∃ table, db.tables index.table = some table ∧ index.columns ⊆ table.names)
    (unused : db.indexes name = none) :
    (db.addIndex name index onTable).dropTable index.table = db.dropTable index.table := by
  have same : (db.addIndex name index onTable).without index.table = db.without index.table := by
    apply Database.ext
    · rfl
    · funext indexName
      rw [indexes_without, indexes_without, indexes_addIndex]
      dsimp only
      by_cases own : indexName = name
      · rw [own, Function.update_self, unused, Option.filter_some, if_neg (by simp),
          Option.filter_none]
      · rw [Function.update_of_ne own]
  unfold dropTable
  rw [same]
  rfl

theorem Database.dropConstraint_addIndex (unused : db.indexes name = none)
    (constraint : index.constraint) :
    (db.addIndex name index onTable).dropConstraint name index.table = .ok db := by
  have held : (db.addIndex name index onTable).indexes name = some index := by
    rw [indexes_addIndex, Function.update_self]
  unfold dropConstraint
  rw [held]
  dsimp only
  rw [if_pos ⟨constraint, rfl⟩, removeIndex_addIndex unused]

end

variable [DecidableEq V]

/-- **One statement.** -/
theorem Ddl.run_inverse {statement back : Ddl V} (inverse : statement.inverse = some back)
    (ran : statement.run db = .ok after) : back.run after = .ok db := by
  cases statement with
  | createTable name columns constraints =>
      cases inverse
      exact Database.dropTable_createTable ran
  | addColumn table column =>
      cases inverse
      exact Database.dropColumn_addColumn ran
  | createIndex name table columns unique =>
      cases inverse
      obtain ⟨unused, onTable, rfl⟩ := Database.createIndexOn_eq_ok ran
      exact Database.dropIndex_addIndex unused.2 Bool.false_ne_true
  | createUniqueConstraint name table columns =>
      cases inverse
      obtain ⟨unused, onTable, rfl⟩ := Database.createIndexOn_eq_ok ran
      exact Database.dropConstraint_addIndex unused.2 rfl
  | dropTable | dropColumn | dropIndex | dropConstraint => cases inverse

theorem runAll_append (early late : List (Ddl V)) :
    runAll db (early ++ late) = runAll db early >>= (runAll · late) := by
  induction early generalizing db with
  | nil => rfl
  | cons statement rest ih =>
      rw [List.cons_append, runAll, runAll]
      cases statement.run db with
      | error e => rfl
      | ok next => exact ih

/-- **Taking back.**  A script of which each statement has an inverse is undone by them. -/
theorem undo_runAll {script backs : List (Ddl V)}
    (inverses : script.map Ddl.inverse = backs.map some)
    (ran : runAll db script = .ok after) : runAll after backs.reverse = .ok db := by
  induction script generalizing db backs with
  | nil =>
      cases ran
      rw [List.map_nil, eq_comm, List.map_eq_nil_iff] at inverses
      subst inverses
      rfl
  | cons statement rest ih =>
      obtain ⟨next, first, later⟩ := bind_eq_ok.mp ran
      rw [List.map_cons, eq_comm, List.map_eq_cons_iff] at inverses
      obtain ⟨back, others, rfl, inverse, inverses⟩ := inverses
      rw [List.reverse_cons, runAll_append, ih inverses.symm later, ok_bind, runAll,
        Ddl.run_inverse inverse.symm first, ok_bind, runAll]

end Undo

/-! ## What a script leaves of a table -/

/-- The column that a statement adds to the table, if it adds one. -/
def Ddl.adds (name : String) : Ddl V → List (Column V)
  | addColumn table column => if table = name then [column] else []
  | _ => []

def addedColumns (name : String) (script : List (Ddl V)) : List (Column V) :=
  script.flatMap (·.adds name)

/-- The table that a statement drops, or of which it drops a column. -/
def Ddl.shrinks : Ddl V → Option String
  | dropTable table => some table
  | dropColumn table _ => some table
  | _ => none

/-- The table has the columns as well, and each of its rows their defaults. -/
structure Table.Extends (table : Table V) (added : List (Column V)) (later : Table V) :
    Prop where
  columns : later.columns = table.columns ++ added
  rows : later.rows = table.rows.map (· ++ added.map (·.serverDefault))

theorem Table.Extends.refl (table : Table V) : table.Extends [] table where
  columns := (List.append_nil _).symm
  rows := by
    rw [List.map_nil]
    simp only [List.append_nil, List.map_id']

theorem Table.Extends.trans {table middle later : Table V} {early late : List (Column V)}
    (first : table.Extends early middle) (rest : middle.Extends late later) :
    table.Extends (early ++ late) later where
  columns := by rw [rest.columns, first.columns, List.append_assoc]
  rows := by
    rw [rest.rows, first.rows, List.map_map, List.map_append]
    refine List.map_congr_left fun row _ => ?_
    rw [Function.comp_apply, List.append_assoc]

section Rows

variable [DecidableEq V] {db after : Database V} {name : String} {table : Table V}

/-- **One statement.** -/
theorem Ddl.rows_run {statement : Ddl V} (spares : statement.shrinks ≠ some name)
    (found : db.tables name = some table) (ran : statement.run db = .ok after) :
    ∃ later, after.tables name = some later ∧
      table.Extends (statement.adds name) later := by
  cases statement with
  | createTable other columns constraints =>
      obtain ⟨unused, _, tables, _⟩ := Database.createTable_eq_ok ran
      have apart : name ≠ other := by
        intro same
        rw [same, unused.1] at found
        cases found
      refine ⟨table, ?_, .refl table⟩
      rw [tables, Function.update_of_ne apart, found]
  | dropTable other =>
      refine ⟨table, ?_, .refl table⟩
      rw [Database.dropTable_eq_ok ran, Database.tables_without,
        Function.update_of_ne fun same => spares (congrArg some same.symm), found]
  | addColumn other column =>
      obtain ⟨old, held, _, tables, _⟩ := Database.addColumn_eq_ok ran
      by_cases same : other = name
      · subst same
        rw [held] at found
        cases found
        rw [tables, Function.update_self, Ddl.adds, if_pos rfl]
        exact ⟨_, rfl, rfl, rfl⟩
      · refine ⟨table, ?_, ?_⟩
        · rw [tables, Function.update_of_ne (Ne.symm same), found]
        · rw [Ddl.adds, if_neg same]
          exact .refl table
  | dropColumn other column =>
      obtain ⟨old, held, tables⟩ := Database.dropColumn_eq_ok ran
      refine ⟨table, ?_, .refl table⟩
      rw [tables, Function.update_of_ne fun same => spares (congrArg some same.symm), found]
  | createIndex | createUniqueConstraint =>
      obtain ⟨_, _, rfl⟩ := Database.createIndexOn_eq_ok ran
      exact ⟨table, found, .refl table⟩
  | dropIndex =>
      rw [Database.dropIndex_eq_ok ran]
      exact ⟨table, found, .refl table⟩
  | dropConstraint =>
      rw [Database.dropConstraint_eq_ok ran]
      exact ⟨table, found, .refl table⟩

/-- **Rows stay.** -/
theorem rows_runAll {script : List (Ddl V)}
    (spares : ∀ statement ∈ script, statement.shrinks ≠ some name)
    (found : db.tables name = some table) (ran : runAll db script = .ok after) :
    ∃ later, after.tables name = some later ∧ table.Extends (addedColumns name script) later := by
  induction script generalizing db table with
  | nil =>
      cases ran
      exact ⟨table, found, .refl table⟩
  | cons statement rest ih =>
      rw [List.forall_mem_cons] at spares
      obtain ⟨next, first, later⟩ := bind_eq_ok.mp ran
      obtain ⟨middle, held, extended⟩ := Ddl.rows_run spares.1 found first
      obtain ⟨last, kept, more⟩ := ih spares.2 held later
      exact ⟨last, kept, extended.trans more⟩

end Rows

end Aegis.Lib
