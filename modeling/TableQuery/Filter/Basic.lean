import TableQuery.Value

/-!
# Filters

A filter is a list of conditions. Each condition compares a column with a value or asks whether it
is null, and says how it joins the condition before it.
-/

namespace TableQuery

/-- How a condition joins the one before it. -/
inductive Connective where
  /-- Both must hold. -/
  | and
  /-- One must hold. -/
  | or
  deriving DecidableEq, Repr, Inhabited

/-- The right-hand side of a condition. -/
inductive FilterValue where
  /-- The column is null. -/
  | isNull
  /-- The column is not null. -/
  | notNull
  /-- The column compares with a value. -/
  | value (v : Value)
  deriving Inhabited, Repr

/-- One condition. -/
structure Condition where
  /-- How it joins the condition before it; the first condition's is ignored. -/
  connective : Connective
  /-- The column. -/
  column : String
  /-- The operator as given. -/
  operator : String
  /-- What the column is compared with. -/
  value : FilterValue
  deriving Inhabited, Repr

/-- Conditions in their order. -/
structure Filter where
  /-- The conditions. -/
  conditions : List Condition
  deriving Inhabited, Repr

namespace FilterValue

/-- A value to compare with; null asks whether the column is null. -/
def ofValue : Value → FilterValue
  | .null => .isNull
  | v => .value v

/-- The right-hand side of a JSON value. Null and some words ask whether the column is null. -/
def ofJson : Json → FilterValue
  | .null => .isNull
  | .string s =>
    if s = "null" then .isNull
    else if s = "notnull" || s = "not_null" then .notNull
    else .value (.text s)
  | j => .value (Value.ofJson j)

/-- The value that is bound, if there is one. -/
def bound : FilterValue → List Value
  | .value v => [v]
  | _ => []

end FilterValue

namespace Condition

/-- A condition with a given right-hand side that must hold beside the one before it. -/
def withValue (column operator : String) (value : FilterValue) : Condition :=
  ⟨.and, column, operator, value⟩

/-- A condition that compares with a value. -/
def compare (column operator : String) (value : Value) : Condition :=
  withValue column operator (.ofValue value)

/-- A condition for equality with a value. -/
def equal (column : String) (value : Value) : Condition :=
  compare column "=" value

/-- A condition for null. -/
def isNull (column : String) : Condition :=
  withValue column "=" .isNull

/-- A condition for not null. -/
def notNull (column : String) : Condition :=
  withValue column "=" .notNull

/-- The condition as an alternative to the one before it. -/
def orElse (c : Condition) : Condition :=
  { c with connective := .or }

/-- The condition as a further requirement. -/
def andAlso (c : Condition) : Condition :=
  { c with connective := .and }

end Condition

namespace Filter

/-- The filter without conditions. -/
def empty : Filter := ⟨[]⟩

/-- The filter with a condition added as it is. -/
def push (f : Filter) (c : Condition) : Filter :=
  ⟨f.conditions ++ [c]⟩

/-- The filter with a further requirement. -/
def and (f : Filter) (c : Condition) : Filter :=
  f.push c.andAlso

/-- The filter with an alternative. -/
def or (f : Filter) (c : Condition) : Filter :=
  f.push c.orElse

/-- Number of conditions. -/
def size (f : Filter) : Nat :=
  f.conditions.length

/-- The filter has no condition. -/
def isEmpty (f : Filter) : Bool :=
  f.conditions.isEmpty

/-- Some condition after the first is an alternative. -/
def hasDisjunction (f : Filter) : Bool :=
  f.conditions.tail.any fun c => c.connective = .or

/-- The values that the filter binds, in order. -/
def boundValues (f : Filter) : List Value :=
  f.conditions.flatMap fun c => c.value.bound

end Filter

end TableQuery
