import TableQuery.Execution.Engine
import TableQuery.Statement.Catalog
import TableQuery.Statement.Read
import TableQuery.Statement.Write
import TableQuery.Value

/-!
# Operations on a database

Select, count, insert, update and remove rows. Each operation writes its statement once without
knowing its table, so that bad input is rejected before anything is sent, then asks about the table
and writes the statement that is sent.
-/

/-!
## Asking the catalog

Table schemas are read from the catalog and, if the session remembers schemas, only once for each
table. A lookup that fails is not remembered; a table without columns is.
-/

namespace TableQuery

namespace SchemaCache

/-- The remembered schema of a table. -/
def find? (cache : SchemaCache) (table : String) : Option TableSchema :=
  getField? table cache

/-- Remember the schema of a table. -/
def store (cache : SchemaCache) (table : String) (schema : TableSchema) : SchemaCache :=
  putField table schema cache

end SchemaCache

namespace Session

variable {σ : Type}

/-- The remembered schema of a table, if the session remembers schemas. -/
def remembered? (s : Session σ) (table : String) : Option TableSchema :=
  s.cache.bind fun cache => SchemaCache.find? cache table

/-- Remember the schema of a table, if the session remembers schemas. -/
def remember (s : Session σ) (table : String) (schema : TableSchema) : Session σ :=
  { s with cache := s.cache.map fun cache => SchemaCache.store cache table schema }

end Session

namespace Engine

variable {σ : Type}

/-- Read the schema of a table from the catalog. -/
def loadSchema (e : Engine σ) (table : String) : Action σ TableSchema := do
  let result ← e.fetch (.tableColumns table)
  let schema := TableSchema.ofCatalog result.rows
  Action.log (.schemaLoaded table schema.columns.length)
  return schema

/-- The schema of a table, remembered or read. -/
def tableSchema (e : Engine σ) (table : String) : Action σ TableSchema := do
  match (← get).remembered? table with
  | some schema => return schema
  | none =>
    let schema ← e.loadSchema table
    modify fun s => s.remember table schema
    return schema

/-- The facts about a table that statements need. -/
def tableInfo (e : Engine σ) (table : String) : Action σ TableInfo := do
  return (← e.tableSchema table).info

/-- Whether a table has a column. A session that remembers schemas asks for the whole schema. -/
def columnExists (e : Engine σ) (table column : String) : Action σ Bool := do
  match (← get).cache with
  | some _ => return (← e.tableSchema table).hasColumn column
  | none => return !(← e.fetch (.columnExists table column)).rows.isEmpty

end Engine

end TableQuery

/-! ## Operations -/

namespace TableQuery.Engine

variable {σ : Type}

/-- Rows of a table selected by a column spec. -/
def select (e : Engine σ) (table columns : String) (options : QueryOptions) :
    Action σ (List Row) := do
  let spec ← Action.ofInput (ColumnSpec.parse columns)
  let _ ← Action.ofInput (Statement.select table spec options .unknown)
  let info ← e.tableInfo table
  let statement ← Action.ofInput (Statement.select table spec options info)
  return (← e.fetch statement).rows

/-- The number in a cell that counts: an integer, or a text that is one. -/
def countValue? : Json → Option Int64
  | .integer n => if Value.fitsInt64 n then some (Int64.ofInt n) else none
  | .string s => (Decimal.readSigned? 64 s.toList).map Int64.ofInt
  | _ => none

/-- The number in the column `count` of the first row. -/
def countOf? (rows : List Row) : Option Int64 := do
  countValue? (← getField? "count" (← rows.head?))

/-- Count the rows of a table. -/
def count (e : Engine σ) (table columns : String) (options : QueryOptions) : Action σ Int64 := do
  let spec ← Action.ofInput (ColumnSpec.parse columns)
  let _ ← Action.ofInput (Statement.count table spec options .unknown)
  let info ← e.tableInfo table
  let statement ← Action.ofInput (Statement.count table spec options info)
  match countOf? (← e.fetch statement).rows with
  | some n => return n
  | none => throw (.result .noCount)

/-- Run statements one after the other, whatever becomes of each of them. -/
def fetchEach (e : Engine σ) :
    List Statement → StateM (Session σ) (List (Except DatabaseError QueryResult))
  | [] => pure []
  | statement :: rest => do
    let result ← (e.fetch statement).run
    let results ← e.fetchEach rest
    return result :: results

/-- The first returned row of every statement, or the first error. A statement that returned
nothing is skipped. -/
def firstRows : List (Except DatabaseError QueryResult) → Except DatabaseError (List Row)
  | [] => .ok []
  | .error e :: _ => .error e
  | .ok result :: rest => do
    let rows ← firstRows rest
    match result.rows with
    | [] => .ok rows
    | row :: _ => .ok (row :: rows)

/-- Insert rows, each by a statement of its own. All statements are run; the first error, in the
order of the rows, is the error of the operation. -/
def insert (e : Engine σ) (table : String) (rows : InsertRows) (returning : Option String) :
    Action σ (List Row) := do
  let records := rows.toList
  if records.isEmpty then return []
  let _ ← Action.ofInput (records.mapM fun r => Statement.insert table r returning .empty)
  let types := (← e.tableInfo table).columnTypes
  let statements ←
    Action.ofInput (records.mapM fun r => Statement.insert table r returning types)
  let results ← ExceptT.lift (e.fetchEach statements)
  match firstRows results with
  | .error error => throw error
  | .ok inserted =>
    Action.log (.insertComplete table inserted.length)
    return inserted

/-- Update rows of a table. Whether the table stamps updates is not known at the first check, so an
empty record passes it. -/
def update (e : Engine σ) (table : String) (data : Record) (options : QueryOptions) :
    Action σ (List Row) := do
  let _ ← Action.ofInput
    (Statement.update table data options { TableInfo.unknown with updatedAt := true })
  let info ← e.tableInfo table
  let statement ← Action.ofInput (Statement.update table data options info)
  return (← e.fetch statement).rows

/-- Remove rows of a table; says whether there were any. -/
def remove (e : Engine σ) (table : String) (filter : Filter) : Action σ Bool := do
  let _ ← Action.ofInput (Statement.delete table filter .empty)
  let types := (← e.tableInfo table).columnTypes
  let statement ← Action.ofInput (Statement.delete table filter types)
  return 0 < (← e.execute statement).rowCount

end TableQuery.Engine
