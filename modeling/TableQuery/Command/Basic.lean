import TableQuery.QueryOptions.Reader
import TableQuery.Value

/-!
# Commands

What a user can ask for on the command line, as it is written there: expressions, casts and JSON
texts are still texts.
-/

namespace TableQuery.Command

/-- Conditions as they are written. -/
structure FilterArguments where
  /-- The expressions, in order. -/
  expressions : List String := []
  /-- The conditions are alternatives. -/
  anyOf : Bool := false
  deriving DecidableEq, Repr, Inhabited

/-- Select rows. -/
structure SelectArguments where
  /-- The table. -/
  table : String
  /-- The column spec. -/
  columns : String
  /-- The conditions. -/
  filter : FilterArguments
  /-- The column to sort by. -/
  orderBy : Option String
  /-- Sort descending. -/
  descending : Bool
  /-- Rows to skip. -/
  skip : Option UInt64
  /-- Rows to return at most. -/
  limit : Option UInt64
  /-- Text put behind the order. -/
  extra : Option String
  deriving DecidableEq, Repr, Inhabited

/-- Count rows. -/
structure CountArguments where
  /-- The table. -/
  table : String
  /-- The columns to count. -/
  columns : String
  /-- The conditions. -/
  filter : FilterArguments
  /-- Text put behind the conditions. -/
  extra : Option String
  deriving DecidableEq, Repr, Inhabited

/-- Delete rows. -/
structure DeleteArguments where
  /-- The table. -/
  table : String
  /-- The conditions. -/
  filter : FilterArguments
  /-- All rows may be deleted. -/
  all : Bool
  deriving DecidableEq, Repr, Inhabited

/-- Insert rows. -/
structure InsertArguments where
  /-- The table. -/
  table : String
  /-- The rows, as a JSON text. -/
  data : String
  /-- The columns to return. -/
  returning : Option String
  deriving DecidableEq, Repr, Inhabited

/-- Update rows. -/
structure UpdateArguments where
  /-- The table. -/
  table : String
  /-- The new values, as a JSON text. -/
  data : String
  /-- The conditions. -/
  filter : FilterArguments
  /-- The columns to return. -/
  returning : Option String
  deriving DecidableEq, Repr, Inhabited

/-- Facts about a table that are assumed instead of looked up. -/
structure AssumedFacts where
  /-- The table marks deleted rows. -/
  softDelete : Bool := false
  /-- The table stamps updates. -/
  updatedAt : Bool := false
  /-- Casts of columns, as they are written. -/
  casts : List String := []
  deriving DecidableEq, Repr, Inhabited

/-- Print statements instead of sending them. -/
inductive PlanCommand where
  /-- A statement that selects. -/
  | select (arguments : SelectArguments) (facts : AssumedFacts)
  /-- A statement that counts. -/
  | count (arguments : CountArguments) (facts : AssumedFacts)
  /-- A statement that deletes. -/
  | delete (arguments : DeleteArguments) (casts : List String)
  /-- A statement that updates. -/
  | update (arguments : UpdateArguments) (facts : AssumedFacts)
  /-- A statement for every row to insert. -/
  | insert (arguments : InsertArguments) (casts : List String)
  deriving DecidableEq, Repr, Inhabited

/-- Ask a database. -/
inductive QueryCommand where
  /-- Select rows. -/
  | select (arguments : SelectArguments)
  /-- Count rows. -/
  | count (arguments : CountArguments)
  /-- Insert rows. -/
  | insert (arguments : InsertArguments)
  /-- Update rows. -/
  | update (arguments : UpdateArguments)
  /-- Delete rows. -/
  | delete (arguments : DeleteArguments)
  /-- Ask whether a table has a column. -/
  | hasColumn (table column : String)
  deriving DecidableEq, Repr, Inhabited

/-- What to do. -/
inductive Task where
  /-- Print statements. -/
  | plan (command : PlanCommand)
  /-- Ask a database. -/
  | query (command : QueryCommand)
  deriving DecidableEq, Repr, Inhabited

/-- A whole command line. -/
structure Invocation where
  /-- Log statements whatever the configuration says. -/
  debug : Bool
  /-- The configuration file, if there is one. -/
  configFile : Option String
  /-- What to do. -/
  task : Task
  deriving DecidableEq, Repr, Inhabited

end TableQuery.Command
