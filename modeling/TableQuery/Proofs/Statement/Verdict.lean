import TableQuery.Proofs.Checks
import TableQuery.Statement.Read
import TableQuery.Statement.Write

/-!
# Verdicts on statements

Which checks a statement has to pass, in their order, and with which error it is rejected. Facts
about the table decide what is written, never whether it can be written: they have no part in any
check. Only an update that has nothing to assign depends on one of them, the stamp.
-/

namespace TableQuery

/-- The check of a condition: its column is a name, and an operator before a value is known. -/
def Condition.check (c : Condition) : Except InputError Unit :=
  if isQualifiedIdentifier c.column then
    match c.value with
    | .isNull => .ok ()
    | .notNull => .ok ()
    | .value _ =>
      match operator? c.operator with
      | none => .error (.malformedFilter c.column (.unsupportedOperator c.operator))
      | some _ => .ok ()
  else .error (.malformedFilter c.column .invalidColumn)

/-- The check of a filter: all of its conditions, in order. -/
def Filter.check (f : Filter) : Except InputError Unit :=
  f.conditions.forM Condition.check

/-- A condition is compiled exactly if it passes its check, whatever stands around it. -/
theorem Condition.verdict_compile (c : Condition) (qualifier : Option String) (types : ColumnTypes)
    (count : Nat) : verdict (c.compile qualifier types count) = c.check := by
  rw [compile, check]
  split
  · cases c.value with
    | isNull => rfl
    | notNull => rfl
    | value v => cases operator? c.operator <;> rfl
  · rfl

/-- Conditions that follow others are compiled exactly if they pass their checks. -/
theorem verdict_compileRest (qualifier : Option String) (types : ColumnTypes) (count : Nat)
    (conditions : List Condition) :
    verdict (compileRest qualifier types count conditions) =
      conditions.forM Condition.check := by
  induction conditions generalizing count with
  | nil => rfl
  | cons c rest ih =>
    have hrest : ∀ one, c.compile qualifier types count = .ok one →
        verdict (compileRest qualifier types (count + one.values.length) rest >>= fun others =>
          .ok (Compiled.mk (.text c.connective.keyword :: one.pieces ++ others.pieces)
            (one.values ++ others.values))) = rest.forM Condition.check := by
      intro one _
      rw [verdict_bind_of_ok fun _ _ => rfl]
      exact ih _
    rw [compileRest, verdict_bind hrest, Condition.verdict_compile]
    rfl

/-- The predicate of a filter is compiled exactly if the filter passes its check. -/
theorem Filter.verdict_predicate (f : Filter) (qualifier : Option String) (types : ColumnTypes)
    (count : Nat) : verdict (f.predicate qualifier types count) = f.check := by
  rw [predicate, check]
  cases f.conditions with
  | nil => rfl
  | cons c rest =>
    have hrest : ∀ one, c.compile qualifier types count = .ok one →
        verdict (compileRest qualifier types (count + one.values.length) rest >>= fun others =>
          .ok (some (Compiled.mk (one.pieces ++ others.pieces) (one.values ++ others.values)))) =
            rest.forM Condition.check := by
      intro one _
      rw [verdict_bind_of_ok fun _ _ => rfl]
      exact verdict_compileRest qualifier types _ rest
    rw [verdict_bind hrest, Condition.verdict_compile]
    rfl

/-- The clause of a filter is compiled exactly if the filter passes its check. -/
theorem Filter.verdict_clause (f : Filter) (qualifier : Option String) (types : ColumnTypes)
    (count : Nat) : verdict (f.clause qualifier types count) = f.check := by
  rw [clause, verdict_bind_of_ok, f.verdict_predicate]
  intro p _
  cases p <;> rfl

/-- The clause on rows is compiled exactly if the filter passes its check. -/
theorem verdict_whereClause (f : Filter) (qualifier : Option String) (info : TableInfo)
    (count : Nat) : verdict (whereClause f qualifier info count) = f.check := by
  rw [whereClause, verdict_bind_of_ok, f.verdict_predicate]
  intro p _
  cases info.softDelete <;> cases p <;> rfl

namespace Statement

/-- A check that a list is not empty. -/
def checkFilled (isEmpty : Bool) (parameter : String) : Except InputError Unit :=
  if isEmpty then .error (.missingParameter parameter) else .ok ()

/-- The checks of a selection. -/
def selectCheck (table : String) (columns : ColumnSpec) (options : QueryOptions) :
    Except InputError Unit := do
  checkTable table
  checkFilled columns.isEmpty "columns"
  options.filter.check
  verdict (orderPieces options.orderBy options.order)

/-- The checks of a count. -/
def countCheck (table : String) (columns : ColumnSpec) (options : QueryOptions) :
    Except InputError Unit := do
  checkTable table
  if columns.hasJoins then
    .error (.malformedSpec (Text.join "," columns.baseColumns) .joinsInCount)
  options.filter.check

/-- The checks of an insertion. -/
def insertCheck (table : String) (row : Record) (returning : Option String) :
    Except InputError Unit := do
  checkTable table
  checkFilled row.isEmpty "data"
  row.columns.forM checkColumn
  verdict (returningList returning)

/-- The checks of an update. It needs something to assign: a field, or the stamp. -/
def updateCheck (table : String) (data : Record) (options : QueryOptions) (stamped : Bool) :
    Except InputError Unit := do
  checkTable table
  data.columns.forM checkColumn
  checkFilled (data.isEmpty && !stamped) "data"
  options.filter.check
  verdict (returningList options.returning)

/-- The checks of a deletion. -/
def deleteCheck (table : String) (filter : Filter) : Except InputError Unit := do
  checkTable table
  filter.check

/-- A selection is written exactly if it passes its checks. -/
theorem verdict_select (table : String) (columns : ColumnSpec) (options : QueryOptions)
    (info : TableInfo) :
    verdict (select table columns options info) = selectCheck table columns options := by
  rw [select, selectCheck]
  cases checkTable table with
  | error e => rfl
  | ok u =>
    cases columns.isEmpty with
    | true => rfl
    | false =>
      change verdict (whereClause options.filter _ info 0 >>= _) = options.filter.check >>= _
      rw [verdict_bind, verdict_whereClause]
      intro rows _
      exact verdict_bind_of_ok fun _ _ => rfl

/-- A count is written exactly if it passes its checks. -/
theorem verdict_count (table : String) (columns : ColumnSpec) (options : QueryOptions)
    (info : TableInfo) :
    verdict (count table columns options info) = countCheck table columns options := by
  rw [count, countCheck]
  cases checkTable table with
  | error e => rfl
  | ok u =>
    cases columns.hasJoins with
    | true => rfl
    | false =>
      change verdict (whereClause options.filter none info 0 >>= _) = options.filter.check
      rw [verdict_bind_of_ok, verdict_whereClause]
      exact fun _ _ => rfl

/-- An insertion is written exactly if it passes its checks. -/
theorem verdict_insert (table : String) (row : Record) (returning : Option String)
    (types : ColumnTypes) :
    verdict (insert table row returning types) = insertCheck table row returning := by
  rw [insert, insertCheck]
  cases checkTable table with
  | error e => rfl
  | ok u =>
    cases row.isEmpty with
    | true => rfl
    | false =>
      change verdict (row.columns.forM checkColumn >>= _) = row.columns.forM checkColumn >>= _
      cases row.columns.forM checkColumn with
      | error e => rfl
      | ok u =>
        change verdict (returningList returning >>= _) = verdict (returningList returning)
        rw [verdict_bind_of_ok]
        exact fun _ _ => rfl

/-- An update has nothing to assign exactly if its record is empty and the table has no stamp. -/
theorem isEmpty_assignments (data : Record) (info : TableInfo) :
    (assignments data info).isEmpty = (data.isEmpty && !info.updatedAt) := by
  rw [assignments, Record.isEmpty, Record.get?]
  cases data.fields with
  | nil => cases info.updatedAt <;> rfl
  | cons field rest =>
    split <;> rfl

/-- An update is written exactly if it passes its checks. -/
theorem verdict_update (table : String) (data : Record) (options : QueryOptions)
    (info : TableInfo) :
    verdict (update table data options info) = updateCheck table data options info.updatedAt := by
  rw [update, updateCheck, ← isEmpty_assignments]
  cases checkTable table with
  | error e => rfl
  | ok u =>
    change verdict (data.columns.forM checkColumn >>= _) = data.columns.forM checkColumn >>= _
    cases data.columns.forM checkColumn with
    | error e => rfl
    | ok u =>
      dsimp only
      cases (assignments data info).isEmpty with
      | true => rfl
      | false =>
        change verdict (whereClause options.filter none info data.size >>= _) =
          options.filter.check >>= _
        rw [verdict_bind, verdict_whereClause]
        intro rows _
        exact verdict_bind_of_ok fun _ _ => rfl

/-- A deletion is written exactly if it passes its checks. -/
theorem verdict_delete (table : String) (filter : Filter) (types : ColumnTypes) :
    verdict (delete table filter types) = deleteCheck table filter := by
  rw [delete, deleteCheck]
  cases checkTable table with
  | error e => rfl
  | ok u =>
    change verdict (filter.clause none types 0 >>= _) = filter.check
    rw [verdict_bind_of_ok, filter.verdict_clause]
    exact fun _ _ => rfl

end Statement

/-- Whether statements can be written, and the error if not, is the same for two tables. -/
structure WrittenAlike (info info' : TableInfo) : Prop where
  /-- Selections. -/
  select : ∀ table columns options, verdict (Statement.select table columns options info) =
    verdict (Statement.select table columns options info')
  /-- Counts. -/
  count : ∀ table columns options, verdict (Statement.count table columns options info) =
    verdict (Statement.count table columns options info')
  /-- Insertions. -/
  insert : ∀ table row returning,
    verdict (Statement.insert table row returning info.columnTypes) =
      verdict (Statement.insert table row returning info'.columnTypes)
  /-- Deletions. -/
  delete : ∀ table filter, verdict (Statement.delete table filter info.columnTypes) =
    verdict (Statement.delete table filter info'.columnTypes)
  /-- Updates that have a field to assign. -/
  update : ∀ table (data : Record) options, data.isEmpty = false →
    verdict (Statement.update table data options info) =
      verdict (Statement.update table data options info')

/-- What is known about a table has no part in whether statements on it can be written. -/
theorem writtenAlike (info info' : TableInfo) : WrittenAlike info info' where
  select table columns options := by
    rw [Statement.verdict_select, Statement.verdict_select]
  count table columns options := by
    rw [Statement.verdict_count, Statement.verdict_count]
  insert table row returning := by
    rw [Statement.verdict_insert, Statement.verdict_insert]
  delete table filter := by
    rw [Statement.verdict_delete, Statement.verdict_delete]
  update table data options hfields := by
    rw [Statement.verdict_update, Statement.verdict_update, Statement.updateCheck,
      Statement.updateCheck, hfields, Bool.false_and, Bool.false_and]

end TableQuery
