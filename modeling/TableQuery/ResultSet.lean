import TableQuery.Calendar.Zone
import TableQuery.TableInfo
import TableQuery.Value

/-!
# Results

Raw rows with the declared kinds of their columns, and the rows that callers get: temporal columns
are shown in one time zone, and the column that marks deleted rows is left out. What is temporal is
decided by the declared kind alone, never by a value.
-/

namespace TableQuery

/-- The kinds of columns that results treat differently. -/
inductive ColumnKind where
  /-- Moments. -/
  | timestamp
  /-- Dates and times of day without a zone. -/
  | localTimestamp
  /-- Dates. -/
  | date
  /-- Everything else. -/
  | other
  deriving DecidableEq, Repr

/-- The kind of a declared type, in any case. -/
def ColumnKind.ofTypeName (name : String) : ColumnKind :=
  match String.ofList (name.toList.map Char.toLower) with
  | "timestamptz" | "timestamp with time zone" => .timestamp
  | "timestamp" | "timestamp without time zone" => .localTimestamp
  | "date" => .date
  | _ => .other

/-- A column of a result. -/
structure ResultColumn where
  /-- Its name. -/
  name : String
  /-- Its declared kind. -/
  kind : ColumnKind
  deriving DecidableEq, Repr

/-- Raw rows with their columns. -/
structure ResultSet where
  /-- The columns. -/
  columns : List ResultColumn
  /-- The cells of every row. -/
  rows : List (List Value)
  deriving Inhabited, Repr

/-- A row as callers get it: every column once, in order. -/
abbrev Row := List (String × Json)

/-- The text of a temporal cell in a zone, if the cell fits the kind of its column. A clock without
zone is taken for UTC, and a date is shown at midnight in any zone. -/
def temporalText? (zone : TimeZone) : ColumnKind → Value → Option String
  | .timestamp, .timestamp i => some (zone.localTime i).secondText
  | .localTimestamp, .localTimestamp w => some (zone.localTime w.assumeUtc).secondText
  | .date, .date d => some (WallClock.midnight d).secondText
  | _, _ => none

/-- A cell as callers get it. -/
def renderCell (zone : TimeZone) (kind : ColumnKind) (cell : Value) : Json :=
  match temporalText? zone kind cell with
  | some text => .string text
  | none => cell.toJson

/-- A row as callers get it. It ends with the shorter of columns and cells, and the last cell of a
repeated name counts. -/
def normalizeRow (zone : TimeZone) (columns : List ResultColumn) (cells : List Value) : Row :=
  let kept := (columns.zip cells).filter fun p => p.1.name != softDeleteColumn
  gatherFields (kept.map fun p => (p.1.name, renderCell zone p.1.kind p.2))

/-- The rows of a result as callers get them. -/
def ResultSet.normalize (set : ResultSet) (zone : TimeZone) : List Row :=
  set.rows.map (normalizeRow zone set.columns)

/-!
## Table schemas

The declared columns of a table, each with the type name that values are cast to, as the catalog
describes them.
-/

/-- The declared columns of a table in their order, each with its type name. -/
structure TableSchema where
  /-- Names and type names. -/
  columns : List (String × String)
  deriving DecidableEq, Repr, Inhabited

/-- A name that needs no quotes as a type: lower case, digits and underscores, no digit first. -/
def isPlainTypeName (name : String) : Bool :=
  match name.toList with
  | [] => false
  | c :: cs => isTypeStart c && cs.all isTypePart

/-- The written form of a type name, in quotes unless it is plain. -/
def writtenTypeName (name : String) : String :=
  if isPlainTypeName name then name else "\"" ++ name ++ "\""

/-- What a column's type is cast to. Types made by users are written with their schema. -/
def castType (dataType schema name : String) : String :=
  if dataType = "USER-DEFINED" && !schema.isEmpty then
    writtenTypeName schema ++ "." ++ writtenTypeName name
  else writtenTypeName name

/-- The text under a name in a row; anything else counts as empty. -/
def textField (name : String) (row : Row) : String :=
  ((getField? name row).bind Json.asString?).getD ""

namespace TableSchema

/-- Name and type name of a catalog row; a row without a name has none. -/
def catalogColumn? (row : Row) : Option (String × String) :=
  ((getField? "column_name" row).bind Json.asString?).map fun name =>
    (name, castType (textField "data_type" row) (textField "udt_schema" row)
      (textField "udt_name" row))

/-- The schema that the rows of the catalog describe. -/
def ofCatalog (rows : List Row) : TableSchema :=
  ⟨rows.filterMap catalogColumn?⟩

/-- The table has a column of this name. -/
def hasColumn (s : TableSchema) (column : String) : Bool :=
  s.columns.any fun c => c.1 == column

/-- The facts that statements need. -/
def info (s : TableSchema) : TableInfo :=
  ⟨s.hasColumn softDeleteColumn, s.hasColumn updatedAtColumn, .ofList s.columns⟩

end TableSchema

end TableQuery
