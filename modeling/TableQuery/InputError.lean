import TableQuery.Decimal.Basic

/-!
# Input errors

Why an input was rejected before any statement was sent, and the wording of each reason.
-/

namespace TableQuery

/-- What is wrong with a column spec or with a name in a statement. -/
inductive SpecFault where
  /-- A group opens inside another one; the bracket and its byte position. -/
  | nested (bracket : Char) (position : Nat)
  /-- A bracket closes a group that is not open; the bracket and its byte position. -/
  | unbalanced (bracket : Char) (position : Nat)
  /-- A group is never closed. -/
  | unclosed (bracket : Char)
  /-- Nothing stands between two commas or at an end. -/
  | emptyColumn
  /-- A token has a group but no arrow. -/
  | groupWithoutArrow (token : String)
  /-- A plain token is no column. -/
  | invalidColumn (token : String)
  /-- A join token has two arrows. -/
  | secondArrow (token : String)
  /-- The key in front of the arrow is no identifier. -/
  | invalidJoinKey (key : String)
  /-- A join token lacks the group that names the joined key. -/
  | missingKeyGroup (token : String)
  /-- The group that names the joined key is not closed. -/
  | unclosedKeyGroup (token : String)
  /-- A join token lacks the group of its columns. -/
  | missingColumnGroup (token : String)
  /-- The joined table is no table name. -/
  | invalidJoinTable (table : String)
  /-- The joined key is no identifier. -/
  | invalidJoinColumn (column : String)
  /-- A column of the join is empty. -/
  | emptyJoinedColumn (token : String)
  /-- A column of the join is no identifier. -/
  | invalidJoinedColumn (column : String)
  /-- The table of a statement is no table name. -/
  | invalidTable
  /-- A column that is written to is no identifier. -/
  | invalidColumnName
  /-- The column to sort by is no column. -/
  | invalidOrderColumn
  /-- A returning list has a join. -/
  | joinsInReturning
  /-- A count has a join. -/
  | joinsInCount
  deriving DecidableEq, Repr

/-- What is wrong with a condition. -/
inductive FilterFault where
  /-- An expression has no operator. -/
  | noOperator
  /-- An expression has nothing in front of its operator. -/
  | missingColumn
  /-- The column is no identifier with at most one qualifier. -/
  | invalidColumn
  /-- The operator is not among the known ones. -/
  | unsupportedOperator (operator : String)
  deriving DecidableEq, Repr

/-- An input that is rejected. -/
inductive InputError where
  /-- A column spec, table or column name. -/
  | malformedSpec (spec : String) (fault : SpecFault)
  /-- A condition on a column, or an expression that has none. -/
  | malformedFilter (column : String) (fault : FilterFault)
  /-- A parameter that must not be empty. -/
  | missingParameter (parameter : String)
  deriving DecidableEq, Repr

/-- The wording of a fault in a spec or name. -/
def SpecFault.message : SpecFault → String
  | .nested bracket position =>
    "nested '" ++ bracket.toString ++ "' at " ++ Decimal.natText position
  | .unbalanced bracket position =>
    "unbalanced '" ++ bracket.toString ++ "' at " ++ Decimal.natText position
  | .unclosed bracket => "unclosed '" ++ bracket.toString ++ "'"
  | .emptyColumn => "empty column name"
  | .groupWithoutArrow token => "join group in '" ++ token ++ "' has no '->'"
  | .invalidColumn token => "invalid column '" ++ token ++ "'"
  | .secondArrow token => "more than one '->' in '" ++ token ++ "'"
  | .invalidJoinKey key => "invalid join key '" ++ key ++ "'"
  | .missingKeyGroup token => "join '" ++ token ++ "' is missing its (column) group"
  | .unclosedKeyGroup token => "join '" ++ token ++ "' has an unclosed (column) group"
  | .missingColumnGroup token => "join '" ++ token ++ "' is missing its \x7bcolumns\x7d group"
  | .invalidJoinTable table => "invalid join table '" ++ table ++ "'"
  | .invalidJoinColumn column => "invalid join column '" ++ column ++ "'"
  | .emptyJoinedColumn token => "join '" ++ token ++ "' selects an empty column"
  | .invalidJoinedColumn column => "invalid joined column '" ++ column ++ "'"
  | .invalidTable => "invalid table name"
  | .invalidColumnName => "invalid column name"
  | .invalidOrderColumn => "invalid ORDER BY column"
  | .joinsInReturning => "joins are not allowed in a RETURNING list"
  | .joinsInCount => "joins are not supported by count"

/-- The wording of a fault in a condition. -/
def FilterFault.message : FilterFault → String
  | .noOperator => "no comparison operator"
  | .missingColumn => "missing column"
  | .invalidColumn => "invalid column name"
  | .unsupportedOperator operator => "unsupported operator '" ++ operator ++ "'"

/-- The wording of an input error. -/
def InputError.message : InputError → String
  | .malformedSpec spec fault => "Malformed column spec '" ++ spec ++ "': " ++ fault.message
  | .malformedFilter column fault =>
    "Malformed filter on column '" ++ column ++ "': " ++ fault.message
  | .missingParameter parameter => "Required parameter '" ++ parameter ++ "' is missing"

end TableQuery
