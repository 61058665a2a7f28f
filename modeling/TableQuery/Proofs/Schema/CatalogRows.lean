import TableQuery.Proofs.Schema.Lookup
import TableQuery.Proofs.Statement.Catalog
import TableQuery.Script.Basic

/-!
# What the catalog says

The catalog has one row for each column of each table. A query on it has the rows that satisfy its
predicate, in their order. So the question for one column of a table and the question for all of
them are answered from the same rows: those of the table with the name behind the first point, and
with the schema in front of it if there is a point.
-/

namespace TableQuery

open TableQuery.Sql

/-- What the catalog says about one column of a table. -/
structure CatalogRow where
  /-- The schema of the table. -/
  schema : String
  /-- The name of the table. -/
  table : String
  /-- The name of the column. -/
  column : String
  /-- What kind of type it has. -/
  dataType : String
  /-- The schema of its type. -/
  typeSchema : String
  /-- The name of its type. -/
  typeName : String
  deriving DecidableEq, Repr

namespace CatalogRow

/-- The names that the catalog gives to what it says, with the texts of a row. -/
def texts (r : CatalogRow) : List (String × String) :=
  [("table_schema", r.schema), ("table_name", r.table), ("column_name", r.column),
    ("data_type", r.dataType), ("udt_schema", r.typeSchema), ("udt_name", r.typeName)]

/-- What a row says to a predicate. Its texts can be equal to a text that is bound; all other
outcomes are unknown. -/
def stored (r : CatalogRow) (parameters : List Value) : StoredRow where
  isNull name := (getField? name r.texts).isNone
  compares name operator p :=
    match getField? name r.texts, p.value? parameters with
    | some text, some (.text bound) => if operator = "=" then some (text == bound) else none
    | _, _ => none

/-- What a row shows in an output column: one of its texts, cast to text. -/
def cell? (r : CatalogRow) (o : OutputColumn) : Option Value :=
  match Text.cutAt "::".toList o.column.toList with
  | some (name, type) =>
    if type = "text".toList then (getField? (String.ofList name) r.texts).map .text else none
  | none => none

/-- The row is about a column of a table. The table is named with or without its schema. -/
def isOf (r : CatalogRow) (table : String) : Bool :=
  r.table == (Statement.catalogTarget table).2 &&
    (Statement.catalogTarget table).1.all (r.schema == ·)

end CatalogRow

/-- The answer of the catalog to a query: the rows that satisfy its predicate, in the order of the
columns in their table. A statement that asks for something else has no answer. -/
def Sql.Query.catalogAnswer? (rows : List CatalogRow) (parameters : List Value) :
    Query → Option ResultSet
  | .select output "information_schema.columns" [] (some p) _ none none =>
    let found := rows.filter fun r => p.outcome (r.stored parameters) = some true
    (found.mapM fun r : CatalogRow => output.mapM r.cell?).map fun cells =>
      ⟨textColumns (output.map fun o => o.newName.getD o.column), cells⟩
  | _ => none

/-- The statements that ask the catalog. -/
inductive Statement.AsksCatalog : Statement → Prop where
  /-- The question for one column. -/
  | columnExists (table column : String) : AsksCatalog (.columnExists table column)
  /-- The question for all columns. -/
  | tableColumns (table : String) : AsksCatalog (.tableColumns table)

/-- The database answers the questions to the catalog by their meaning, at any time. -/
def Backend.AnswersCatalog {σ : Type} (b : Backend σ) (rows : List CatalogRow) : Prop :=
  ∀ statement : Statement, statement.AsksCatalog → ∀ q set state,
    Query.ofText statement.sql = some q →
      q.catalogAnswer? rows statement.parameters = some set →
        b.fetch statement.sql statement.parameters state = (.ok set, state)

/-- A database with a catalog: it answers queries on the catalog by their meaning. -/
def Backend.withCatalog {σ : Type} (b : Backend σ) (rows : List CatalogRow) : Backend σ where
  fetch sql parameters state :=
    match (Query.ofText sql).bind (Query.catalogAnswer? rows parameters) with
    | some set => (.ok set, state)
    | none => b.fetch sql parameters state
  execute := b.execute

/-- A database with a catalog answers the questions to it. -/
theorem Backend.answersCatalog_withCatalog {σ : Type} (b : Backend σ) (rows : List CatalogRow) :
    (b.withCatalog rows).AnswersCatalog rows := by
  intro statement _ q set state htext hanswer
  have hboth : (Query.ofText statement.sql).bind
      (Query.catalogAnswer? rows statement.parameters) = some set := by
    rw [htext]
    exact hanswer
  rw [withCatalog]
  dsimp only
  rw [hboth]

/-- The outcome of a test of the catalog. -/
theorem CatalogRow.outcome_catalogTest {r : CatalogRow} {parameters : List Value}
    {name text bound : String} {number : Nat} (htext : getField? name r.texts = some text)
    (hbound : parameters[number]? = some (.text bound)) :
    (catalogTest name (number + 1)).outcome (r.stored parameters) = some (text == bound) := by
  rw [catalogTest, RowPredicate.outcome, stored]
  dsimp only
  rw [htext, Placeholder.value?_succ, hbound]
  exact if_pos rfl

/-- Outcomes that are known are combined as truth values. -/
theorem Sql.bothOf_some (a b : Bool) : bothOf (some a) (some b) = some (a && b) := by
  cases a <;> rfl

/-- The outcome of a predicate with the test for a schema. -/
theorem CatalogRow.outcome_withSchema {r : CatalogRow} {parameters : List Value}
    {p : RowPredicate} {known : Bool} {number : Nat} {schema : Option String}
    (hp : p.outcome (r.stored parameters) = some known)
    (hbound : ∀ name ∈ schema, parameters[number]? = some (.text name)) :
    (withSchema (number + 1) p schema).outcome (r.stored parameters) =
      some (known && schema.all (r.schema == ·)) := by
  cases schema with
  | none => rw [withSchema, hp, Option.all_none, Bool.and_true]
  | some name =>
    have hschema : getField? "table_schema" r.texts = some r.schema := rfl
    rw [withSchema, RowPredicate.outcome, hp, outcome_catalogTest hschema (hbound name rfl),
      bothOf_some, Option.all_some]

/-- The answer to a query on the catalog whose predicate is known for every row. -/
theorem catalogAnswer?_of_known {rows : List CatalogRow} {parameters : List Value}
    {output : List OutputColumn} {p : RowPredicate} {order : Option (String × Option String)}
    {known : CatalogRow → Bool} {cells : CatalogRow → List Value}
    (hp : ∀ r : CatalogRow, p.outcome (r.stored parameters) = some (known r))
    (hcells : ∀ r : CatalogRow, output.mapM r.cell? = some (cells r)) :
    (Query.select output "information_schema.columns" [] (some p) order none
      none).catalogAnswer? rows parameters =
        some ⟨textColumns (output.map fun o => o.newName.getD o.column),
          (rows.filter known).map cells⟩ := by
  have hfound : (rows.filter fun r => p.outcome (r.stored parameters) = some true) =
      rows.filter known := by
    refine List.filter_congr fun r _ => ?_
    rw [hp]
    cases known r <;> rfl
  have hall : ((rows.filter known).mapM fun r : CatalogRow => output.mapM r.cell?) =
      some ((rows.filter known).map cells) := by
    rw [funext hcells]
    exact List.mapM_pure
  rw [Query.catalogAnswer?, hfound, hall, Option.map_some]

/-- The answer to the question for all columns of a table. -/
def columnsAnswer (rows : List CatalogRow) (table : String) : ResultSet :=
  ⟨textColumns ["column_name", "data_type", "udt_schema", "udt_name"],
    (rows.filter (·.isOf table)).map fun r =>
      [.text r.column, .text r.dataType, .text r.typeSchema, .text r.typeName]⟩

/-- The answer to the question for one column of a table. -/
def columnAnswer (rows : List CatalogRow) (table column : String) : ResultSet :=
  ⟨textColumns ["column_name"],
    (rows.filter fun r => r.isOf table && r.column == column).map fun r => [.text r.column]⟩

/-- The test for the schema of a table finds it bound behind the other values. -/
theorem getElem?_schemaValues {table name : String} (before : List Value)
    (h : name ∈ (Statement.catalogTarget table).1) :
    (before ++ Statement.schemaValues table)[before.length]? = some (.text name) := by
  rw [List.getElem?_append_right (Nat.le_refl _), Nat.sub_self, Statement.schemaValues, h]
  rfl

/-- The question for all columns of a table is answered with its rows. -/
theorem catalogAnswer?_tableColumns (rows : List CatalogRow) (table : String) :
    (Statement.tableColumnsQuery table).catalogAnswer? rows
      (Statement.tableColumns table).parameters = some (columnsAnswer rows table) := by
  rw [(Statement.tableColumns_means table).parameters]
  refine catalogAnswer?_of_known (fun r => ?_) fun r => rfl
  have htable : getField? "table_name" r.texts = some r.table := rfl
  exact CatalogRow.outcome_withSchema (CatalogRow.outcome_catalogTest htable rfl)
    fun name hname => getElem?_schemaValues [_] hname

/-- The question for one column of a table is answered with the rows of that column. -/
theorem catalogAnswer?_columnExists (rows : List CatalogRow) (table column : String) :
    (Statement.columnExistsQuery table).catalogAnswer? rows
      (Statement.columnExists table column).parameters =
        some (columnAnswer rows table column) := by
  rw [(Statement.columnExists_means table column).parameters]
  refine catalogAnswer?_of_known (fun r => ?_) fun r => rfl
  have htable : getField? "table_name" r.texts = some r.table := rfl
  have hcolumn : getField? "column_name" r.texts = some r.column := rfl
  have hboth : (RowPredicate.both (catalogTest "table_name" 1)
      (catalogTest "column_name" 2)).outcome (r.stored
        (.text (Statement.catalogTarget table).2 :: .text column ::
          Statement.schemaValues table)) =
      some (r.table == (Statement.catalogTarget table).2 && r.column == column) := by
    rw [RowPredicate.outcome, CatalogRow.outcome_catalogTest htable rfl,
      CatalogRow.outcome_catalogTest hcolumn rfl, bothOf_some]
  refine (CatalogRow.outcome_withSchema hboth fun name hname =>
    getElem?_schemaValues [_, _] hname).trans ?_
  rw [CatalogRow.isOf, Bool.and_right_comm]

/-- The columns of a table with their types, as the catalog has them. -/
def catalogSchema (rows : List CatalogRow) (table : String) : TableSchema :=
  ⟨(rows.filter (·.isOf table)).map fun r =>
    (r.column, castType r.dataType r.typeSchema r.typeName)⟩

/-- The schema of a table has the columns that the catalog has for it. -/
theorem hasColumn_catalogSchema (rows : List CatalogRow) (table column : String) :
    (catalogSchema rows table).hasColumn column =
      rows.any fun r => r.isOf table && r.column == column := by
  rw [TableSchema.hasColumn, catalogSchema, List.any_map, List.any_filter]
  rfl

/-- The question for one column has rows for an answer exactly if the catalog has the column. -/
theorem isEmpty_columnAnswer (rows : List CatalogRow) (table column : String) (zone : TimeZone) :
    (!((columnAnswer rows table column).normalize zone).isEmpty) =
      rows.any fun r => r.isOf table && r.column == column := by
  rw [ResultSet.normalize, List.isEmpty_map, columnAnswer, List.isEmpty_map, Bool.eq_iff_iff,
    Bool.not_eq_true', List.isEmpty_eq_false_iff, Ne, List.filter_eq_nil_iff, List.any_eq_true]
  push Not
  rfl

/-- The answer to the question for all columns describes the schema of the table. -/
theorem schemaOf_columnsAnswer {σ : Type} (e : Engine σ) (rows : List CatalogRow)
    (table : String) : e.schemaOf (columnsAnswer rows table) = catalogSchema rows table := by
  have hrow : ∀ r : CatalogRow, TableSchema.catalogColumn? (normalizeRow e.settings.timezone
      (textColumns ["column_name", "data_type", "udt_schema", "udt_name"])
      [.text r.column, .text r.dataType, .text r.typeSchema, .text r.typeName]) =
        some (r.column, castType r.dataType r.typeSchema r.typeName) :=
    fun r => rfl
  rw [Engine.schemaOf, TableSchema.ofCatalog, ResultSet.normalize, columnsAnswer, List.map_map,
    List.filterMap_map, catalogSchema]
  refine congrArg TableSchema.mk ?_
  exact (List.filterMap_congr fun r _ => hrow r).trans (congrFun List.filterMap_eq_map _)

end TableQuery
