import TableQuery.Command.Basic
import TableQuery.Command.Error
import TableQuery.Filter.Expression
import TableQuery.Json.Document
import TableQuery.Statement.Read
import TableQuery.Statement.Write
import TableQuery.TableInfo

/-!
# Printing statements

The statements that an operation would send, with assumed facts about its table, as JSON. Nothing is
asked or sent.
-/

/-!
## Reading arguments

What the texts of a command mean: conditions, casts and data. Each fails in its own words.
-/

namespace TableQuery.Command

/-- Read the expressions of conditions, in order. -/
def readConditions : List String → Except Error (List Condition)
  | [] => .ok []
  | expression :: rest =>
    match Condition.parse expression with
    | .error e => .error (.badCondition expression e)
    | .ok c => do
      let cs ← readConditions rest
      return c :: cs

/-- The filter of some conditions. If they are alternatives, every condition but the first one is
one to those before it. -/
def FilterArguments.filter (a : FilterArguments) : Except Error Filter := do
  match ← readConditions a.expressions with
  | [] => return .empty
  | c :: cs => return ⟨c :: if a.anyOf then cs.map Condition.orElse else cs⟩

/-- The options of a select. -/
def SelectArguments.options (a : SelectArguments) : Except Error QueryOptions := do
  let base : QueryOptions := { filter := ← a.filter.filter }
  let sorted := match a.orderBy with
    | some column => base.orderedBy column (if a.descending then .descending else .ascending)
    | none => base
  return { sorted with skip := a.skip, limit := a.limit, extra := a.extra }

/-- The options of a count. -/
def CountArguments.options (a : CountArguments) : Except Error QueryOptions := do
  return { filter := ← a.filter.filter, extra := a.extra }

/-- The options of an update. -/
def UpdateArguments.options (a : UpdateArguments) : Except Error QueryOptions := do
  return { filter := ← a.filter.filter, returning := a.returning }

/-- The rows to delete. Without conditions there has to be a word that all rows may go. -/
def DeleteArguments.rows (a : DeleteArguments) : Except Error Filter :=
  if a.filter.expressions.isEmpty && !a.all then .error (.deletesAll a.table)
  else a.filter.filter

/-- Read data as JSON. -/
def readData (use : DataUse) (text : String) : Except Error Json :=
  match Json.parse? text with
  | some j => .ok j
  | none => .error (.notJson use)

/-- The rows to insert. -/
def InsertArguments.rows (a : InsertArguments) : Except Error InsertRows := do
  match InsertRows.ofJson? (← readData .insert a.data) with
  | some rows => return rows
  | none => throw (.wrongShape .insert)

/-- The new values of an update. -/
def UpdateArguments.record (a : UpdateArguments) : Except Error Record := do
  match Record.ofJson? (← readData .update a.data) with
  | some r => return r
  | none => throw (.wrongShape .update)

/-- Take a cast over: a column and, behind the first equals sign, its type. -/
def addCast (types : ColumnTypes) (cast : String) : Except Error ColumnTypes :=
  match Text.cutAt ['='] cast.toList with
  | none => .error (.castWithoutType cast)
  | some (column, type) =>
    let name := String.ofList (Text.trimChars type)
    match types.insert? (String.ofList (Text.trimChars column)) name with
    | some types => .ok types
    | none => .error (.castType cast name)

/-- The types of columns that casts give. -/
def readCasts (casts : List String) : Except Error ColumnTypes :=
  casts.foldlM addCast .empty

/-- The facts about a table that are assumed. -/
def AssumedFacts.info (a : AssumedFacts) : Except Error TableInfo := do
  return ⟨a.softDelete, a.updatedAt, ← readCasts a.casts⟩

/-! ## Printed statements -/

/-- Take over the result of a check of the input. -/
def ofInput {α : Type} : Except InputError α → Except Error α
  | .ok a => .ok a
  | .error e => .error (.input e)

/-- Text and parameters of a statement. -/
def statementJson (s : Statement) : Json :=
  .object [("sql", .string s.sql), ("params", .array (s.parameters.map Value.serialized))]

/-- The statement of a select. -/
def planSelect (a : SelectArguments) (facts : AssumedFacts) : Except Error Statement := do
  let spec ← ofInput (ColumnSpec.parse a.columns)
  let info ← facts.info
  let options ← a.options
  ofInput (Statement.select a.table spec options info)

/-- The statement of a count. -/
def planCount (a : CountArguments) (facts : AssumedFacts) : Except Error Statement := do
  let spec ← ofInput (ColumnSpec.parse a.columns)
  let info ← facts.info
  let options ← a.options
  ofInput (Statement.count a.table spec options info)

/-- The statement of a delete. -/
def planDelete (a : DeleteArguments) (casts : List String) : Except Error Statement := do
  let filter ← a.rows
  let types ← readCasts casts
  ofInput (Statement.delete a.table filter types)

/-- The statement of an update. -/
def planUpdate (a : UpdateArguments) (facts : AssumedFacts) : Except Error Statement := do
  let data ← a.record
  let options ← a.options
  let info ← facts.info
  ofInput (Statement.update a.table data options info)

/-- The statements of an insert, one for each row. -/
def planInsert (a : InsertArguments) (casts : List String) : Except Error (List Statement) := do
  let types ← readCasts casts
  let rows ← a.rows
  ofInput (rows.toList.mapM fun row => Statement.insert a.table row a.returning types)

/-- What a command prints: one statement, or a list of them for an insert. -/
def PlanCommand.output : PlanCommand → Except Error Json
  | .select a facts => (planSelect a facts).map statementJson
  | .count a facts => (planCount a facts).map statementJson
  | .delete a casts => (planDelete a casts).map statementJson
  | .update a facts => (planUpdate a facts).map statementJson
  | .insert a casts => (planInsert a casts).map fun ss => .array (ss.map statementJson)

end TableQuery.Command
