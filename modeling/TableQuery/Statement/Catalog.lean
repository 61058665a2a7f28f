import TableQuery.Sql
import TableQuery.Text.Basic

/-!
# Catalog statements

Statements that ask the catalog about the columns of a table. A schema in front of the table is
asked for as well.
-/

namespace TableQuery.Statement

/-- Schema and name of a table, cut at the first point. -/
def catalogTarget (table : String) : Option String × String :=
  match Text.cutAt ['.'] table.toList with
  | some (schema, name) => (some (String.ofList schema), String.ofList name)
  | none => (none, table)

/-- The predicate and the parameter for a schema, if there is one. -/
def schemaPredicate (number : Nat) : Option String → List Piece × List Value
  | none => ([], [])
  | some schema => ([.text " AND table_schema = ", .placeholder number none], [.text schema])

/-- Ask whether a table has a column: one row if it does. -/
def columnExists (table column : String) : Statement :=
  let (schema, name) := catalogTarget table
  let (predicate, parameter) := schemaPredicate 3 schema
  ⟨[.text ("SELECT column_name::text AS column_name FROM information_schema.columns " ++
      "WHERE table_name = "), .placeholder 1 none, .text " AND column_name = ",
      .placeholder 2 none] ++ predicate,
    .text name :: .text column :: parameter, true⟩

/-- Ask for all columns of a table with their types, in their order. -/
def tableColumns (table : String) : Statement :=
  let (schema, name) := catalogTarget table
  let (predicate, parameter) := schemaPredicate 2 schema
  ⟨[.text ("SELECT column_name::text AS column_name, data_type::text AS data_type, " ++
      "udt_schema::text AS udt_schema, udt_name::text AS udt_name " ++
      "FROM information_schema.columns WHERE table_name = "), .placeholder 1 none] ++ predicate ++
      [.text " ORDER BY ordinal_position"],
    .text name :: parameter, true⟩

end TableQuery.Statement
