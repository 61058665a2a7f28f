import TableQuery.Execution.Session
import TableQuery.ResultSet
import TableQuery.Text.Basic

/-!
# Scripted databases

A database that answers from a script: planned faults come first, statements that ask the catalog
are answered from described tables, and every other statement takes the next reply. What was sent is
kept.
-/

/-!
## Scripted catalogs

Tables with declared columns, and what they answer to the statements that ask the catalog.
-/

namespace TableQuery

/-- A column as a catalog describes it. Every part may be any value. -/
structure CatalogEntry where
  /-- The name of the column. -/
  name : Value
  /-- What kind of type it has. -/
  dataType : Value
  /-- The schema of its type. -/
  typeSchema : Value
  /-- The name of its type. -/
  typeName : Value
  deriving Inhabited, Repr

/-- The described tables, by name or by schema and name. -/
abbrev CatalogTables := List (String × List CatalogEntry)

/-- The text of a value that is one. -/
def Value.asText? : Value → Option String
  | .text s => some s
  | _ => none

/-- The statement asks the catalog. -/
def asksCatalog (sql : String) : Bool :=
  Text.contains "information_schema.columns".toList sql.toList

/-- The statement asks for one column, by its second parameter. -/
def asksForColumn (sql : String) : Bool :=
  Text.contains "column_name = $2".toList sql.toList

/-- Columns of texts. -/
def textColumns (names : List String) : List ResultColumn :=
  names.map fun name => ⟨name, .other⟩

namespace CatalogTables

/-- The columns of the table that a statement asks for, with a schema if there is one more
parameter. -/
def entries (tables : CatalogTables) (table : Value) (schema : Option Value) :
    List CatalogEntry :=
  let name := table.asText?.getD ""
  let key := match schema.bind Value.asText? with
    | some s => s ++ "." ++ name
    | none => name
  (tables.lookup key).getD []

/-- The answer to a statement that asks the catalog. -/
def answer (tables : CatalogTables) (sql : String) (parameters : List Value) : ResultSet :=
  let table := parameters.head?.getD .null
  if asksForColumn sql then
    let wanted := parameters[1]?.bind Value.asText?
    let found := (tables.entries table parameters[2]?).filter fun e =>
      e.name.asText?.isSome && e.name.asText? == wanted
    ⟨textColumns ["column_name"], found.map fun e => [e.name]⟩
  else
    ⟨textColumns ["column_name", "data_type", "udt_schema", "udt_name"],
      (tables.entries table parameters[1]?).map fun e =>
        [e.name, e.dataType, e.typeSchema, e.typeName]⟩

end CatalogTables

/-! ## Scripts -/

/-- A planned reply. -/
structure Reply where
  /-- What a statement gets that returns rows. -/
  rows : Except Fault ResultSet := .ok ⟨[], []⟩
  /-- Names of columns under which a statement gets its parameters back instead. -/
  echo : Option (List String) := none
  /-- What a statement gets that counts affected rows. -/
  affected : UInt64 := 0

/-- How a statement was sent. -/
inductive CallKind where
  /-- For its rows. -/
  | fetch
  /-- For its count of affected rows. -/
  | execute
  deriving DecidableEq, Repr

/-- A statement that was sent. -/
structure SentStatement where
  /-- How it was sent. -/
  kind : CallKind
  /-- Its text. -/
  sql : String
  /-- Its parameters. -/
  parameters : List Value
  deriving Repr

/-- A scripted database. -/
structure Script where
  /-- The tables of the catalog. -/
  tables : CatalogTables
  /-- The faults of the next statements; `none` stands for no fault. -/
  faults : List (Option Fault)
  /-- The replies to the next statements that have neither fault nor catalog answer. -/
  replies : List Reply
  /-- The statements so far, oldest first. -/
  sent : List SentStatement := []

/-- The rows of a reply to a statement with these parameters. -/
def Reply.rowsFor (r : Reply) (parameters : List Value) : Except Fault ResultSet :=
  match r.echo with
  | some names => .ok ⟨textColumns names, [parameters]⟩
  | none => r.rows

namespace Script

/-- Answer a statement: with the next fault, else from the catalog, else with the next reply. -/
def answer {α : Type} (kind : CallKind) (ofCatalog : ResultSet → α)
    (ofReply : Reply → Except Fault α) (sql : String) (parameters : List Value) (s : Script) :
    Except Fault α × Script :=
  let next : Script :=
    { s with faults := s.faults.tail, sent := s.sent ++ [⟨kind, sql, parameters⟩] }
  match s.faults with
  | some fault :: _ => (.error fault, next)
  | _ =>
    if asksCatalog sql then (.ok (ofCatalog (s.tables.answer sql parameters)), next)
    else (ofReply (s.replies.head?.getD {}), { next with replies := s.replies.tail })

/-- The database that follows a script. -/
def backend : Backend Script where
  fetch sql parameters :=
    answer .fetch id (fun reply => reply.rowsFor parameters) sql parameters
  execute sql parameters :=
    answer .execute (fun _ => 0) (fun reply => .ok reply.affected) sql parameters

end Script

end TableQuery
