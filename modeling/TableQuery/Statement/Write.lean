import TableQuery.Statement.Read
import TableQuery.Value

/-!
# Writing statements

Statements that insert a row, update rows or delete rows.
-/

namespace TableQuery.Statement

/-- The placeholders of a record's fields, numbered from `number` on, each with its column. -/
def fieldPlaceholders (types : ColumnTypes) :
    Nat → List (String × Value) → List (String × Piece)
  | _, [] => []
  | number, (column, value) :: rest =>
    (column, types.placeholder column number value) :: fieldPlaceholders types (number + 1) rest

/-- Insert one row. -/
def insert (table : String) (row : Record) (returning : Option String) (types : ColumnTypes) :
    Except InputError Statement := do
  checkTable table
  if row.isEmpty then .error (.missingParameter "data")
  row.columns.forM checkColumn
  let returned ← returningList returning
  let placeholders := (fieldPlaceholders types 1 row.fields).map fun p => [p.2]
  let head := "INSERT INTO " ++ table ++ "(" ++ Text.join ", " row.columns ++ ") VALUES("
  .ok ⟨.text head :: separated ", " placeholders ++ [.text (") RETURNING " ++ returned)],
    row.values, false⟩

/-- An assignment that keeps the column's value if the parameter is null. -/
def assignment (column : String) (placeholder : Piece) : List Piece :=
  [.text (column ++ "=COALESCE("), placeholder, .text (", " ++ column ++ ")")]

/-- The assignments of an update: one for each field, and the stamp where the table has one and the
record does not set it. -/
def assignments (data : Record) (info : TableInfo) : List (List Piece) :=
  let fields := (fieldPlaceholders info.columnTypes 1 data.fields).map fun p => assignment p.1 p.2
  if info.updatedAt && (data.get? updatedAtColumn).isNone then
    fields ++ [[.text (updatedAtColumn ++ "=NOW()")]]
  else fields

/-- Update rows. A null in the record leaves its column unchanged. -/
def update (table : String) (data : Record) (options : QueryOptions) (info : TableInfo) :
    Except InputError Statement := do
  checkTable table
  data.columns.forM checkColumn
  let sets := assignments data info
  if sets.isEmpty then .error (.missingParameter "data")
  let rows ← whereClause options.filter none info data.size
  let returned ← returningList options.returning
  .ok ⟨.text ("UPDATE " ++ table ++ " SET ") :: separated ", " sets ++ rows.pieces ++
    [.text (" RETURNING " ++ returned)], data.values ++ rows.values, false⟩

/-- Delete rows. An empty filter deletes all of them. -/
def delete (table : String) (filter : Filter) (types : ColumnTypes) :
    Except InputError Statement := do
  checkTable table
  let rows ← filter.clause none types 0
  .ok ⟨.text ("DELETE FROM " ++ table) :: rows.pieces, rows.values, false⟩

end TableQuery.Statement
