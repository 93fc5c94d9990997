import EventPipeline.Foundation.Loop
import Mathlib.Data.List.Basic

/-! # Tables of a relational database

A database is a list of tables with typed columns. Names are compared without regard to case. A
column decides by its type what it keeps of a value and which values it takes for equal; both are
left to the engine. A statement that names a column the table does not have fails, and `SELECT *`
returns the columns in the order in which they were created.
-/

namespace EventPipeline

structure SqlEngine (ColumnType Value : Type) where
  null : Value
  /-- The value that is read back from a column, or `none` when the column refuses the value. -/
  keep : ColumnType → Value → Option Value
  /-- A comparison of a stored value with a parameter. -/
  equals : ColumnType → Value → Value → Bool

structure SqlColumn (ColumnType : Type) where
  name : String
  type : ColumnType
  notNull : Bool := false
deriving DecidableEq, Repr

structure SqlTable (ColumnType Value : Type) where
  name : String
  columns : List (SqlColumn ColumnType)
  rows : List (List Value) := []
deriving DecidableEq, Repr

abbrev SqlDatabase (ColumnType Value : Type) := List (SqlTable ColumnType Value)

inductive SqlError
  | tableExists (name : String)
  | syntaxError
  | duplicateColumn (name : String)
  | noSuchTable (name : String)
  | noSuchColumn (name : String)
  | notNullConstraint (column : String)
  | uniqueConstraint (column : String)
  | refusedValue (column : String)
  | incorrectBindings
deriving DecidableEq, Repr

def lowerName (name : String) : String :=
  String.ofList (name.toList.map Char.toLower)

def sameName (first second : String) : Bool :=
  lowerName first = lowerName second

/-- The first name that occurs twice. -/
def duplicateName : List String → Option String
  | [] => none
  | name :: rest => if rest.any (sameName name) then some name else duplicateName rest

namespace SqlTable

variable {ColumnType Value : Type}

def cells (table : SqlTable ColumnType Value) (row : List Value) :
    List (SqlColumn ColumnType × Value) :=
  table.columns.zip row

def cell? (table : SqlTable ColumnType Value) (row : List Value) (name : String) :
    Option (SqlColumn ColumnType × Value) :=
  (table.cells row).find? fun cell => sameName cell.1.name name

def hasColumn (table : SqlTable ColumnType Value) (name : String) : Bool :=
  table.columns.any fun column => sameName column.name name

def missingColumn (table : SqlTable ColumnType Value) (names : List String) : Option String :=
  names.find? fun name => !table.hasColumn name

/-- `WHERE column = value AND ...` -/
def satisfies (engine : SqlEngine ColumnType Value) (table : SqlTable ColumnType Value)
    (conditions : List (String × Value)) (row : List Value) : Bool :=
  conditions.all fun condition =>
    match table.cell? row condition.1 with
    | none => false
    | some (column, value) => engine.equals column.type value condition.2

def keepValue (engine : SqlEngine ColumnType Value) [DecidableEq Value]
    (column : SqlColumn ColumnType) (value : Value) : Except SqlError Value :=
  match engine.keep column.type value with
  | none => .error (.refusedValue column.name)
  | some kept =>
      if column.notNull ∧ kept = engine.null then .error (.notNullConstraint column.name)
      else .ok kept

/-- The row of an insertion. Columns that are not named are null. -/
def newRow (engine : SqlEngine ColumnType Value) [DecidableEq Value]
    (table : SqlTable ColumnType Value) (assignments : List (String × Value)) :
    Except SqlError (List Value) :=
  table.columns.mapM fun column =>
    match assignments.find? fun assignment => sameName column.name assignment.1 with
    | none =>
        if column.notNull then .error (.notNullConstraint column.name) else .ok engine.null
    | some assignment => keepValue engine column assignment.2

def updateRow (engine : SqlEngine ColumnType Value) [DecidableEq Value]
    (table : SqlTable ColumnType Value) (assignments : List (String × Value))
    (row : List Value) : Except SqlError (List Value) :=
  (table.cells row).mapM fun cell =>
    match assignments.find? fun assignment => sameName cell.1.name assignment.1 with
    | none => .ok cell.2
    | some assignment => keepValue engine cell.1 assignment.2

end SqlTable

namespace SqlDatabase

variable {ColumnType Value : Type}

def table? (database : SqlDatabase ColumnType Value) (name : String) :
    Except SqlError (SqlTable ColumnType Value) :=
  match database.find? fun table => sameName table.name name with
  | none => .error (.noSuchTable name)
  | some table => .ok table

def replaceRows (database : SqlDatabase ColumnType Value) (name : String)
    (rows : List (List Value)) : SqlDatabase ColumnType Value :=
  database.map fun table => if sameName table.name name then { table with rows := rows } else table

/-- `CREATE TABLE name (column, ...)`; an empty column list behind the key is no SQL. -/
def createTable (database : SqlDatabase ColumnType Value) (name : String)
    (key : SqlColumn ColumnType) (columns : List (SqlColumn ColumnType)) :
    Except SqlError (SqlDatabase ColumnType Value) :=
  if columns = [] then .error .syntaxError
  else if database.any fun table => sameName table.name name then .error (.tableExists name)
  else
    match duplicateName ((key :: columns).map SqlColumn.name) with
    | some duplicate => .error (.duplicateColumn duplicate)
    | none => .ok (database ++ [⟨name, key :: columns, []⟩])

def named (database : SqlDatabase ColumnType Value) (name : String) (columns : List String) :
    Except SqlError (SqlTable ColumnType Value) := do
  let table ← database.table? name
  match table.missingColumn columns with
  | some column => .error (.noSuchColumn column)
  | none => .ok table

/-- `SELECT * FROM name WHERE ...` -/
def selectAll (engine : SqlEngine ColumnType Value) (database : SqlDatabase ColumnType Value)
    (name : String) (conditions : List (String × Value)) :
    Except SqlError (List (List Value)) := do
  let table ← database.named name (conditions.map Prod.fst)
  return table.rows.filter (table.satisfies engine conditions)

/-- `SELECT column FROM name WHERE ...` -/
def selectColumn (engine : SqlEngine ColumnType Value) (database : SqlDatabase ColumnType Value)
    (name column : String) (conditions : List (String × Value)) :
    Except SqlError (List Value) := do
  let table ← database.named name (column :: conditions.map Prod.fst)
  return (table.rows.filter (table.satisfies engine conditions)).filterMap fun row =>
    (table.cell? row column).map Prod.snd

/-- `INSERT INTO name (columns) VALUES (values)`, with a key that no other row may have. -/
def insertRow (engine : SqlEngine ColumnType Value) [DecidableEq Value]
    (database : SqlDatabase ColumnType Value) (name key : String)
    (assignments : List (String × Value)) : Except SqlError (SqlDatabase ColumnType Value) := do
  let table ← database.named name (assignments.map Prod.fst)
  match duplicateName (assignments.map Prod.fst) with
  | some duplicate => .error (.duplicateColumn duplicate)
  | none =>
      let row ← table.newRow engine assignments
      if table.rows.any fun other => (table.cell? other key).map Prod.snd =
          (table.cell? row key).map Prod.snd then
        .error (.uniqueConstraint key)
      else
        return database.replaceRows name (table.rows ++ [row])

/-- `UPDATE name SET ... WHERE ...`, with the number of rows. -/
def updateRows (engine : SqlEngine ColumnType Value) [DecidableEq Value]
    (database : SqlDatabase ColumnType Value) (name : String)
    (assignments conditions : List (String × Value)) :
    Except SqlError (SqlDatabase ColumnType Value × Nat) := do
  if assignments.isEmpty then
    throw .syntaxError
  let table ← database.named name (assignments.map Prod.fst ++ conditions.map Prod.fst)
  let rows ← table.rows.mapM fun row =>
    if table.satisfies engine conditions row then table.updateRow engine assignments row
    else .ok row
  return (database.replaceRows name rows, table.rows.countP (table.satisfies engine conditions))

/-- `DELETE FROM name WHERE ...`, with the number of rows. -/
def deleteRows (engine : SqlEngine ColumnType Value) (database : SqlDatabase ColumnType Value)
    (name : String) (conditions : List (String × Value)) :
    Except SqlError (SqlDatabase ColumnType Value × Nat) := do
  let table ← database.named name (conditions.map Prod.fst)
  let kept := table.rows.filter fun row => !table.satisfies engine conditions row
  return (database.replaceRows name kept, table.rows.countP (table.satisfies engine conditions))

/-- `INSERT ... ON CONFLICT(key) DO UPDATE SET ... WHERE ...` -/
def upsertRow (engine : SqlEngine ColumnType Value) [DecidableEq Value]
    (database : SqlDatabase ColumnType Value) (name key : String)
    (assignments updates conditions : List (String × Value)) :
    Except SqlError (SqlDatabase ColumnType Value) := do
  let _ ← database.named name
    (assignments.map Prod.fst ++ updates.map Prod.fst ++ conditions.map Prod.fst)
  match database.insertRow engine name key assignments with
  | .error (.uniqueConstraint _) =>
      return (← database.updateRows engine name updates conditions).1
  | inserted => inserted

end SqlDatabase

/-! ## What statements return and store -/

theorem duplicateName_eq_none {names : List String} (none : duplicateName names = none) :
    names.Pairwise fun first second => sameName first second = false := by
  induction names with
  | nil => exact List.Pairwise.nil
  | cons name rest induction =>
      rw [duplicateName] at none
      split at none
      · cases none
      · rename_i different
        rw [Bool.not_eq_true, List.any_eq_false] at different
        exact List.Pairwise.cons (fun other member => by simpa using different other member)
          (induction none)

theorem sameName_self (name : String) : sameName name name = true := decide_eq_true rfl

theorem sameName_trans {first second third : String} (left : sameName first second = true)
    (right : sameName first third = true) : sameName second third = true := by
  simp only [sameName, decide_eq_true_eq] at left right ⊢
  exact left.symm.trans right

section Statements

variable {ColumnType Value : Type} {engine : SqlEngine ColumnType Value}
  {database next : SqlDatabase ColumnType Value} {name : String}

theorem find?_sameName {assignments : List (String × Value)} {assignment : String × Value}
    (distinct : (assignments.map Prod.fst).Pairwise fun first second =>
      sameName first second = false) (member : assignment ∈ assignments) {column : String}
    (same : sameName column assignment.1 = true) :
    assignments.find? (fun other => sameName column other.1) = some assignment := by
  induction assignments with
  | nil => cases member
  | cons first rest induction =>
      have parts := List.pairwise_cons.mp distinct
      rcases List.mem_cons.mp member with rfl | member
      · exact List.find?_cons_of_pos same
      · rw [List.find?_cons_of_neg]
        · exact induction parts.2 member
        · intro also
          have equal := parts.1 assignment.1 (List.mem_map_of_mem member)
          rw [sameName_trans also same] at equal
          cases equal

theorem SqlDatabase.mem_of_table? {table : SqlTable ColumnType Value}
    (found : database.table? name = .ok table) : table ∈ database := by
  rw [table?] at found
  split at found
  · cases found
  · rename_i other looked
    obtain rfl := Except.ok.inj found
    exact List.mem_of_find?_eq_some looked

theorem SqlDatabase.table?_of_named {table : SqlTable ColumnType Value} {columns : List String}
    (found : database.named name columns = .ok table) : database.table? name = .ok table := by
  rw [named] at found
  cases looked : database.table? name with
  | error error =>
      rw [looked] at found
      cases found
  | ok other =>
      rw [looked] at found
      simp only [bind, Except.bind] at found
      split at found
      · cases found
      · exact found

theorem SqlDatabase.named_eq_ok {table : SqlTable ColumnType Value} {columns : List String}
    (found : database.named name columns = .ok table) : table ∈ database := by
  exact mem_of_table? (table?_of_named found)

theorem SqlDatabase.named_of_table? {table : SqlTable ColumnType Value} {columns : List String}
    (found : database.table? name = .ok table)
    (present : ∀ column ∈ columns, table.hasColumn column = true) :
    database.named name columns = .ok table := by
  have complete : table.missingColumn columns = none := by
    rw [SqlTable.missingColumn, List.find?_eq_none]
    intro column member
    simp [present column member]
  simp only [named, found, bind, Except.bind, complete]

theorem SqlDatabase.table?_replaceRows {table : SqlTable ColumnType Value}
    (found : database.table? name = .ok table) (rows : List (List Value)) :
    (database.replaceRows name rows).table? name = .ok { table with rows := rows } := by
  have looked : database.find? (fun other => sameName other.name name) = some table := by
    rw [table?] at found
    split at found
    · cases found
    · rename_i other looked
      obtain rfl := Except.ok.inj found
      exact looked
  have named : sameName table.name name = true := by
    simpa using List.find?_some looked
  have unchanged : ((fun other : SqlTable ColumnType Value => sameName other.name name) ∘
      fun other => if sameName other.name name then { other with rows := rows } else other) =
        fun other => sameName other.name name := by
    funext other
    by_cases same : sameName other.name name = true
    · simp [same]
    · simp [same]
  rw [table?, replaceRows, List.find?_map, unchanged, looked]
  simp [named]

theorem SqlDatabase.mem_rows_of_selectAll {conditions : List (String × Value)}
    {rows : List (List Value)} (selected : database.selectAll engine name conditions = .ok rows)
    {row : List Value} (member : row ∈ rows) : ∃ table ∈ database, row ∈ table.rows := by
  rw [selectAll] at selected
  cases found : database.named name (conditions.map Prod.fst) with
  | error error =>
      rw [found] at selected
      cases selected
  | ok table =>
      rw [found] at selected
      obtain rfl := Except.ok.inj selected
      exact ⟨table, named_eq_ok found, (List.mem_filter.mp member).1⟩

theorem SqlDatabase.mem_row_of_selectColumn {column : String}
    {conditions : List (String × Value)} {values : List Value}
    (selected : database.selectColumn engine name column conditions = .ok values) {value : Value}
    (member : value ∈ values) : ∃ table ∈ database, ∃ row ∈ table.rows, value ∈ row := by
  rw [selectColumn] at selected
  cases found : database.named name (column :: conditions.map Prod.fst) with
  | error error =>
      rw [found] at selected
      cases selected
  | ok table =>
      rw [found] at selected
      obtain rfl := Except.ok.inj selected
      obtain ⟨row, listed, read⟩ := List.mem_filterMap.mp member
      obtain ⟨cell, looked, rfl⟩ := Option.map_eq_some_iff.mp read
      have stored := List.mem_of_find?_eq_some looked
      exact ⟨table, named_eq_ok found, row, (List.mem_filter.mp listed).1,
        (List.of_mem_zip stored).2⟩

theorem SqlDatabase.createTable_eq_ok {key : SqlColumn ColumnType}
    {columns : List (SqlColumn ColumnType)}
    (created : database.createTable name key columns = .ok next) :
    next = database ++ [⟨name, key :: columns, []⟩] := by
  rw [createTable] at created
  split at created
  · cases created
  · split at created
    · cases created
    · split at created
      · cases created
      · exact (Except.ok.inj created).symm

theorem SqlDatabase.fresh_of_createTable {key : SqlColumn ColumnType}
    {columns : List (SqlColumn ColumnType)}
    (created : database.createTable name key columns = .ok next) :
    ∀ table ∈ database, ¬ sameName table.name name = true := by
  rw [createTable] at created
  split at created
  · cases created
  · split at created
    · cases created
    · rename_i fresh
      intro table listed same
      exact fresh (List.any_eq_true.mpr ⟨table, listed, same⟩)

variable [DecidableEq Value]

/-- An insertion adds one row, whose columns are named once each, and whose key no other row
has. -/
theorem SqlDatabase.insertRow_eq_ok {key : String} {assignments : List (String × Value)}
    (inserted : database.insertRow engine name key assignments = .ok next) :
    duplicateName (assignments.map Prod.fst) = none ∧
      ∃ table row, database.table? name = .ok table ∧
        table.newRow engine assignments = .ok row ∧
        (∀ other ∈ table.rows,
          (table.cell? other key).map Prod.snd ≠ (table.cell? row key).map Prod.snd) ∧
        next = database.replaceRows name (table.rows ++ [row]) := by
  rw [insertRow] at inserted
  cases found : database.named name (assignments.map Prod.fst) with
  | error error =>
      rw [found] at inserted
      cases inserted
  | ok table =>
      rw [found] at inserted
      simp only [bind, Except.bind] at inserted
      split at inserted
      · cases inserted
      · rename_i distinct
        cases made : table.newRow engine assignments with
        | error error =>
            rw [made] at inserted
            cases inserted
        | ok row =>
            rw [made] at inserted
            simp only at inserted
            split at inserted
            · cases inserted
            · rename_i fresh
              refine ⟨distinct, table, row, table?_of_named found, made, ?_,
                (Except.ok.inj inserted).symm⟩
              intro other listed same
              exact fresh (List.any_eq_true.mpr ⟨other, listed, decide_eq_true same⟩)

theorem SqlDatabase.duplicateName_of_uniqueConstraint {key column : String}
    {assignments : List (String × Value)}
    (refused : database.insertRow engine name key assignments =
      .error (.uniqueConstraint column)) : duplicateName (assignments.map Prod.fst) = none := by
  simp only [insertRow, named, table?, bind, Except.bind] at refused
  cases looked : database.find? (fun table => sameName table.name name) with
  | none =>
      simp only [looked] at refused
      cases refused
  | some table =>
      simp only [looked] at refused
      cases missing : table.missingColumn (assignments.map Prod.fst) with
      | some name =>
          simp only [missing] at refused
          cases refused
      | none =>
          simp only [missing] at refused
          cases distinct : duplicateName (assignments.map Prod.fst) with
          | none => rfl
          | some duplicate =>
              simp only [distinct] at refused
              cases refused

theorem SqlDatabase.updateRows_eq_ok {assignments conditions : List (String × Value)}
    {count : Nat}
    (updated : database.updateRows engine name assignments conditions = .ok (next, count)) :
    ∃ table rows, database.table? name = .ok table ∧
      table.rows.mapM (fun row =>
        if table.satisfies engine conditions row then table.updateRow engine assignments row
        else .ok row) = .ok rows ∧
      next = database.replaceRows name rows := by
  rw [updateRows] at updated
  by_cases empty : assignments.isEmpty = true
  · simp only [empty, if_true, throw, throwThe, MonadExceptOf.throw, bind, Except.bind] at updated
    cases updated
  · simp only [empty, Bool.false_eq_true, if_false, bind, Except.bind, pure,
      Except.pure] at updated
    cases found : database.named name
        (assignments.map Prod.fst ++ conditions.map Prod.fst) with
    | error error =>
        rw [found] at updated
        cases updated
    | ok table =>
        rw [found] at updated
        simp only at updated
        split at updated
        · cases updated
        · rename_i rows mapped
          exact ⟨table, rows, table?_of_named found, mapped,
            (Prod.ext_iff.mp (Except.ok.inj updated)).1.symm⟩

theorem SqlDatabase.upsertRow_eq_ok {key : String}
    {assignments updates conditions : List (String × Value)}
    (upserted : database.upsertRow engine name key assignments updates conditions = .ok next) :
    database.insertRow engine name key assignments = .ok next ∨
      duplicateName (assignments.map Prod.fst) = none ∧
        ∃ count, database.updateRows engine name updates conditions = .ok (next, count) := by
  rw [upsertRow] at upserted
  simp only [bind, Except.bind, pure, Except.pure] at upserted
  split at upserted
  · cases upserted
  · split at upserted
    · rename_i column refused
      split at upserted
      · cases upserted
      · rename_i changed updated
        obtain rfl := Except.ok.inj upserted
        exact .inr ⟨duplicateName_of_uniqueConstraint refused, changed.2, updated⟩
    · exact .inl upserted

theorem SqlTable.keepValue_eq_ok {column : SqlColumn ColumnType} {value kept : Value}
    (stored : keepValue engine column value = .ok kept) :
    engine.keep column.type value = some kept := by
  rw [keepValue] at stored
  split at stored
  · cases stored
  · rename_i other found
    split at stored
    · cases stored
    · rw [found, Except.ok.inj stored]

theorem SqlTable.mem_newRow {table : SqlTable ColumnType Value}
    {assignments : List (String × Value)} {row : List Value}
    (made : table.newRow engine assignments = .ok row) {value : Value} (member : value ∈ row) :
    value = engine.null ∨ ∃ type given, engine.keep type given = some value := by
  obtain ⟨column, -, stored⟩ := exists_of_mapM_eq_ok made member
  split at stored
  · split at stored
    · cases stored
    · exact .inl (Except.ok.inj stored).symm
  · exact .inr ⟨_, _, keepValue_eq_ok stored⟩

theorem SqlTable.head_newRow {table : SqlTable ColumnType Value} {key : SqlColumn ColumnType}
    {columns : List (SqlColumn ColumnType)} (first : table.columns = key :: columns)
    {assignments : List (String × Value)} {assignment : String × Value}
    (found : assignments.find? (fun other => sameName key.name other.1) = some assignment)
    {row : List Value} (made : table.newRow engine assignments = .ok row) :
    ∃ kept rest, row = kept :: rest ∧ engine.keep key.type assignment.2 = some kept := by
  rw [newRow, first, List.mapM_cons, found] at made
  cases stored : keepValue engine key assignment.2 with
  | error error =>
      simp only [stored] at made
      cases made
  | ok kept =>
      simp only [stored, bind, Except.bind] at made
      split at made
      · cases made
      · rename_i rest _
        exact ⟨kept, rest, (Except.ok.inj made).symm, keepValue_eq_ok stored⟩

end Statements

end EventPipeline
