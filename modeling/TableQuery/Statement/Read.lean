import TableQuery.ColumnSpec.Reader
import TableQuery.Filter.Parameters
import TableQuery.QueryOptions.Reader
import TableQuery.TableInfo

/-!
# Reading statements

Statements that select rows of a table or count them.
-/

/-!
## Parts of statements

The parts that several statements share: the check of the table, the clause on rows, the text that
callers add, and the list of returned columns.
-/

namespace TableQuery

/-- Check that a text is a table, with at most one schema in front. -/
def checkTable (table : String) : Except InputError Unit :=
  if isQualifiedIdentifier table then .ok () else .error (.malformedSpec table .invalidTable)

/-- Check that a text is a column that can be written to. -/
def checkColumn (column : String) : Except InputError Unit :=
  if isIdentifier column then .ok () else .error (.malformedSpec column .invalidColumnName)

/-- What is returned if nothing is asked for. -/
def defaultReturning : String := "id"

/-- The list of returned columns. It is a column spec without joins. -/
def returningList (returning : Option String) : Except InputError String := do
  let text := returning.getD ""
  let spec ← ColumnSpec.parse text
  if spec.isEmpty then .ok defaultReturning
  else if spec.hasJoins then .error (.malformedSpec text .joinsInReturning)
  else .ok (spec.selectList "")

/-- The predicate that keeps deleted rows out. -/
def liveRows (qualifier : Option String) : String :=
  match qualifier with
  | some table => table ++ "." ++ softDeleteColumn ++ " IS NULL"
  | none => softDeleteColumn ++ " IS NULL"

/-- Join the predicate of a filter with the one that keeps deleted rows out. A filter with
alternatives is put in parentheses, so that all of them are guarded. -/
def guardedPieces (f : Filter) (qualifier : Option String) : Option Compiled → List Piece
  | none => [.text (" WHERE " ++ liveRows qualifier)]
  | some p =>
    if f.hasDisjunction then
      .text " WHERE (" :: p.pieces ++ [.text (") AND " ++ liveRows qualifier)]
    else .text " WHERE " :: p.pieces ++ [.text (" AND " ++ liveRows qualifier)]

/-- The clause on rows for reads and updates, behind `count` parameters. -/
def whereClause (f : Filter) (qualifier : Option String) (info : TableInfo) (count : Nat) :
    Except InputError Compiled := do
  let predicate ← f.predicate qualifier info.columnTypes count
  let values := match predicate with
    | some p => p.values
    | none => []
  if info.softDelete then .ok ⟨guardedPieces f qualifier predicate, values⟩
  else
    match predicate with
    | some p => .ok ⟨.text " WHERE " :: p.pieces, values⟩
    | none => .ok ⟨[], values⟩

/-- The text that the caller adds, unless it is blank. -/
def extraPieces (extra : Option String) : List Piece :=
  match extra with
  | some text => if Text.isBlankText text then [] else [.text (" " ++ text)]
  | none => []

/-- A keyword with a count, unless the count is absent or zero. -/
def pagingPieces (keyword : String) (count : Option UInt64) : List Piece :=
  match count with
  | some n => if n = 0 then [] else [.text (keyword ++ Decimal.natText n.toNat)]
  | none => []

/-- The order, if a column to sort by is given. -/
def orderPieces (orderBy : Option String) (order : Option SortOrder) :
    Except InputError (List Piece) :=
  match orderBy with
  | none => .ok []
  | some column =>
    if column.isEmpty then .ok []
    else if isQualifiedIdentifier column then
      .ok [.text (" ORDER BY " ++ column ++ " " ++ (order.getD .ascending).keyword)]
    else .error (.malformedSpec column .invalidOrderColumn)

end TableQuery

/-! ## Selections and counts -/

namespace TableQuery.Statement

/-- Select the columns of a spec from a table. With joins, columns are written with the table in
front. -/
def select (table : String) (columns : ColumnSpec) (options : QueryOptions) (info : TableInfo) :
    Except InputError Statement := do
  checkTable table
  if columns.isEmpty then .error (.missingParameter "columns")
  let qualifier := if columns.hasJoins then some table else none
  let rows ← whereClause options.filter qualifier info 0
  let order ← orderPieces options.orderBy options.order
  let head := "SELECT " ++ columns.selectList table ++ " FROM " ++ table ++
    columns.joinClauses table
  .ok ⟨.text head :: rows.pieces ++ order ++ extraPieces options.extra ++
    pagingPieces " OFFSET " options.skip ++ pagingPieces " LIMIT " options.limit,
    rows.values, false⟩

/-- Count the rows of a table, or the values of a column spec without joins. -/
def count (table : String) (columns : ColumnSpec) (options : QueryOptions) (info : TableInfo) :
    Except InputError Statement := do
  checkTable table
  if columns.hasJoins then
    .error (.malformedSpec (Text.join "," columns.baseColumns) .joinsInCount)
  let target := if columns.isEmpty then "*" else columns.selectList table
  let rows ← whereClause options.filter none info 0
  .ok ⟨.text ("SELECT COUNT(" ++ target ++ ") FROM " ++ table) :: rows.pieces ++
    extraPieces options.extra, rows.values, false⟩

end TableQuery.Statement
