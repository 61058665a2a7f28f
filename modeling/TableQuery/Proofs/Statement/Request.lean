import TableQuery.Proofs.Statement.Catalog
import TableQuery.Proofs.Statement.Read
import TableQuery.Proofs.Statement.Write

/-!
# What statements say

Everything that can be asked for, the statement that is built for it, the query that this statement
means, and the values that it binds. Every statement that is built means its query.
-/

namespace TableQuery

open TableQuery.Sql

/-- What can be asked for. -/
inductive Request where
  /-- Select rows. -/
  | select (table : String) (columns : ColumnSpec) (options : QueryOptions) (info : TableInfo)
  /-- Count rows. -/
  | count (table : String) (columns : ColumnSpec) (options : QueryOptions) (info : TableInfo)
  /-- Insert one row. -/
  | insert (table : String) (row : Record) (returning : Option String) (types : ColumnTypes)
  /-- Update rows. -/
  | update (table : String) (data : Record) (options : QueryOptions) (info : TableInfo)
  /-- Delete rows. -/
  | delete (table : String) (filter : Filter) (types : ColumnTypes)
  /-- Ask whether a table has a column. -/
  | columnExists (table column : String)
  /-- Ask for the columns of a table. -/
  | tableColumns (table : String)

namespace Request

/-- The statement that is built. -/
def statement : Request → Except InputError Statement
  | .select table columns options info => Statement.select table columns options info
  | .count table columns options info => Statement.count table columns options info
  | .insert table row returning types => Statement.insert table row returning types
  | .update table data options info => Statement.update table data options info
  | .delete table filter types => Statement.delete table filter types
  | .columnExists table column => .ok (Statement.columnExists table column)
  | .tableColumns table => .ok (Statement.tableColumns table)

/-- The text that the caller adds is absent or blank, where it is used. -/
def AddsNothing : Request → Prop
  | .select _ _ options _ => options.AddsNothing
  | .count _ _ options _ => options.AddsNothing
  | _ => True

/-- The query that is meant. -/
def query : Request → Query
  | .select table columns options info => Statement.selectQuery table columns options info
  | .count table columns options info => Statement.countQuery table columns options info
  | .insert table row returning types => Statement.insertQuery table row returning types
  | .update table data options info => Statement.updateQuery table data options info
  | .delete table filter types => Statement.deleteQuery table filter types
  | .columnExists table _ => Statement.columnExistsQuery table
  | .tableColumns table => Statement.tableColumnsQuery table

/-- The values that are bound: those of the record, and behind them those of the filter. -/
def values : Request → List Value
  | .select _ _ options _ => options.filter.boundValues
  | .count _ _ options _ => options.filter.boundValues
  | .insert _ row _ _ => row.values
  | .update _ data options _ => data.values ++ options.filter.boundValues
  | .delete _ filter _ => filter.boundValues
  | .columnExists table column =>
    .text (Statement.catalogTarget table).2 :: .text column :: Statement.schemaValues table
  | .tableColumns table => .text (Statement.catalogTarget table).2 :: Statement.schemaValues table

/-- Every statement that is built means its query and binds its values. -/
theorem means {r : Request} {s : Statement} (h : r.statement = .ok s) (hextra : r.AddsNothing) :
    s.Means r.query r.values := by
  cases r with
  | select table columns options info => exact select_means hextra h
  | count table columns options info => exact count_means hextra h
  | insert table row returning types => exact insert_means h
  | update table data options info => exact update_means h
  | delete table filter types => exact delete_means h
  | columnExists table column =>
    cases h
    exact Statement.columnExists_means table column
  | tableColumns table =>
    cases h
    exact Statement.tableColumns_means table

end Request

/-!
## Rows that are not deleted

A selection, a count or an update reads its filter as the disjunction of its runs under AND. On a
table with soft deletion the test for rows that are not deleted is joined to the whole of it, so no
alternative of any filter reaches a deleted row.
-/

/-- The query reads or changes the row: the row satisfies its predicate, if it has one. -/
def Sql.Query.Reaches (q : Query) (row : StoredRow) : Prop :=
  ∀ p ∈ q.rows, p.Holds row

/-- The rows of a query are those of a filter behind `count` parameters, and on a table with soft
deletion those of them that are not deleted. -/
structure Sql.Query.ReachesLive (q : Query) (f : Filter) (qualifier : Option String)
    (info : TableInfo) (count : Nat) : Prop where
  /-- Without soft deletion the predicate is that of the filter. -/
  plain : info.softDelete = false → q.rows = f.meaning qualifier info.columnTypes count
  /-- With soft deletion the whole predicate of the filter is joined to the test. -/
  guarded : info.softDelete = true → q.rows =
    some (joined .both (.isNull (liveColumn qualifier))
      (f.meaning qualifier info.columnTypes count))
  /-- With soft deletion no deleted row is reached. -/
  live : info.softDelete = true → ∀ row, q.Reaches row → row.isNull (liveColumn qualifier) = true
  /-- There is no predicate exactly for an empty filter without soft deletion. -/
  absent : q.rows = none ↔ f.isEmpty = true ∧ info.softDelete = false

/-- A query with the guarded predicate of a filter reaches its rows that are not deleted. -/
theorem Sql.Query.reachesLive_of_rows {q : Query} {f : Filter} {qualifier : Option String}
    {info : TableInfo} {count : Nat} (h : q.rows = f.rows qualifier info count) :
    q.ReachesLive f qualifier info count where
  plain hsoft := by rw [h, Filter.rows, hsoft, if_neg (by decide)]
  guarded hsoft := by rw [h, Filter.rows, hsoft, if_pos rfl]
  live hsoft row hreach := by
    have hp : f.rows qualifier info count = some (joined .both (.isNull (liveColumn qualifier))
        (f.meaning qualifier info.columnTypes count)) := by
      rw [Filter.rows, hsoft, if_pos rfl]
    exact Filter.isNull_of_rows hsoft hp (hreach _ (h.trans hp))
  absent := by rw [h, Filter.rows_eq_none_iff]

/-- The texts of selections, counts and updates are read as queries that reach the rows of their
filter, and on a table with soft deletion none that is deleted. Only a selection with joins writes
the table in front of the column that marks deleted rows. -/
theorem ofText_reachesLive (table : String) (columns : ColumnSpec) (data : Record)
    (options : QueryOptions) (info : TableInfo) (hextra : options.AddsNothing) :
    (∀ s, Statement.select table columns options info = .ok s →
      ∃ q, Query.ofText s.sql = some q ∧
        q.ReachesLive options.filter (if columns.hasJoins then some table else none) info 0) ∧
    (∀ s, Statement.count table columns options info = .ok s →
      ∃ q, Query.ofText s.sql = some q ∧ q.ReachesLive options.filter none info 0) ∧
    (∀ s, Statement.update table data options info = .ok s →
      ∃ q, Query.ofText s.sql = some q ∧ q.ReachesLive options.filter none info data.size) := by
  refine ⟨fun s h => ?_, fun s h => ?_, fun s h => ?_⟩
  · exact ⟨_, (select_means hextra h).ofText, Query.reachesLive_of_rows rfl⟩
  · exact ⟨_, (count_means hextra h).ofText, Query.reachesLive_of_rows rfl⟩
  · exact ⟨_, (update_means h).ofText, Query.reachesLive_of_rows rfl⟩

/-- A count with an alternative on a table with soft deletion guards both sides of it. -/
theorem ofText_reachesLive_alternative :
    QueryOptions.AddsNothing { extra := some " " } ∧
    ∃ s q, Statement.count "users" .empty
        { filter := ⟨[.equal "age" (.int 3), (Condition.isNull "mail").orElse]⟩, extra := some " " }
        { softDelete := true } = .ok s ∧
      s.sql = "SELECT COUNT(*) FROM users WHERE (age = $1 OR mail IS NULL) AND deleted_at IS NULL" ∧
      Query.ofText s.sql = some q ∧
      q.rows = some (.both (.either (.compare "age" "=" ⟨1, none⟩) (.isNull "mail"))
        (.isNull "deleted_at")) := by
  have hextra : ∀ filter, QueryOptions.AddsNothing { filter, extra := some " " } := by
    rintro filter text ⟨⟩
    decide
  obtain ⟨-, hcount, -⟩ := ofText_reachesLive "users" .empty .empty
    { filter := ⟨[.equal "age" (.int 3), (Condition.isNull "mail").orElse]⟩, extra := some " " }
    { softDelete := true } (hextra _)
  obtain ⟨q, hq, hreach⟩ := hcount _ rfl
  exact ⟨hextra _, _, q, rfl, by decide +kernel, hq, hreach.guarded rfl⟩

end TableQuery
