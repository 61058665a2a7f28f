import TableQuery.TableInfo

/-!
# Column specs

A column spec lists what to select: columns of the primary table, and joins that replace a key
column by columns of another table. Its names are checked when it is read, and a spec carries that
they are identifiers.
-/

namespace TableQuery

/-- A left join: a key column of the primary table and the columns it is replaced by. -/
structure Join where
  /-- The joined table. -/
  table : String
  /-- The key column of the primary table. -/
  fromColumn : String
  /-- The key column of the joined table. -/
  toColumn : String
  /-- The columns that are taken from the joined table. -/
  columns : List String
  deriving DecidableEq, Repr

/-- One entry of a column spec. -/
inductive SpecItem where
  /-- A column of the primary table, or all of them. -/
  | column (name : String)
  /-- A join. -/
  | join (join : Join)
  deriving DecidableEq, Repr

/-- The names of a join are identifiers, and something is taken from the joined table. -/
structure Join.WellFormed (j : Join) : Prop where
  /-- The joined table has at most one schema in front. -/
  table : isQualifiedIdentifier j.table = true
  /-- The key column of the primary table is a bare name. -/
  fromColumn : isIdentifier j.fromColumn = true
  /-- The key column of the joined table is a bare name. -/
  toColumn : isIdentifier j.toColumn = true
  /-- The columns that are taken are bare names. -/
  columns : ∀ column ∈ j.columns, isIdentifier column = true
  /-- At least one column is taken. -/
  columns_ne_nil : j.columns ≠ []

/-- An entry is `*`, a column with at most one qualifier, or a well-formed join. -/
def SpecItem.WellFormed : SpecItem → Prop
  | .column name => name = "*" ∨ isQualifiedIdentifier name = true
  | .join j => j.WellFormed

/-- The entries of a column spec in their order. -/
structure ColumnSpec where
  /-- The entries. -/
  items : List SpecItem
  /-- Every entry is well formed. -/
  wellFormed : ∀ item ∈ items, item.WellFormed
  deriving DecidableEq, Repr

namespace Join

/-- What the names of the joined columns begin with: the table, its point replaced. -/
def columnStem (j : Join) : String :=
  Text.replaceChar '.' '_' j.table

/-- The joined columns with their new names. -/
def selectItems (j : Join) : List String :=
  j.columns.map fun column =>
    j.table ++ "." ++ column ++ " AS " ++ j.columnStem ++ "_" ++ column

/-- The clause that joins the table to the primary table. -/
def clause (j : Join) (primary : String) : String :=
  " LEFT JOIN " ++ j.table ++ " ON " ++ primary ++ "." ++ j.fromColumn ++ "=" ++ j.table ++ "." ++
    j.toColumn

end Join

/-- The column of the primary table that an entry uses. -/
def SpecItem.baseColumn : SpecItem → String
  | .column name => name
  | .join j => j.fromColumn

/-- The join of an entry. -/
def SpecItem.join? : SpecItem → Option Join
  | .column _ => none
  | .join j => some j

namespace ColumnSpec

/-- The spec without entries. -/
def empty : ColumnSpec := ⟨[], List.forall_mem_nil _⟩

instance : Inhabited ColumnSpec := ⟨empty⟩

/-- The spec has no entry. -/
def isEmpty (s : ColumnSpec) : Bool :=
  s.items.isEmpty

/-- The joins, in order. -/
def joins (s : ColumnSpec) : List Join :=
  s.items.filterMap SpecItem.join?

/-- The spec has a join. -/
def hasJoins (s : ColumnSpec) : Bool :=
  !s.joins.isEmpty

/-- The columns of the primary table that the spec uses, keys of joins included. -/
def baseColumns (s : ColumnSpec) : List String :=
  s.items.map SpecItem.baseColumn

/-- What one entry selects in a spec with joins. A plain column that is the key of a join is
replaced by that join and selects nothing itself. -/
def itemSelection (joins : List Join) (table : String) : SpecItem → List String
  | .join j => j.selectItems
  | .column name =>
    if joins.any fun j => j.fromColumn = name then []
    else if name.toList.contains '.' then [name]
    else [table ++ "." ++ name]

/-- What the spec selects from a table, one text for each output column or `*`. -/
def selection (s : ColumnSpec) (table : String) : List String :=
  if s.hasJoins then s.items.flatMap (itemSelection s.joins table) else s.baseColumns

/-- The select list for a table. -/
def selectList (s : ColumnSpec) (table : String) : String :=
  Text.join ", " (s.selection table)

/-- The join clauses for a table, in order. -/
def joinClauses (s : ColumnSpec) (table : String) : String :=
  String.join (s.joins.map fun j => j.clause table)

end ColumnSpec

end TableQuery
