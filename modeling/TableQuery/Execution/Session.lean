import TableQuery.Database.Error
import TableQuery.Decimal.Basic
import TableQuery.ResultSet
import TableQuery.Value

/-!
# Sessions

A database is anything that answers statements from a state of its own. A session is that state
together with the table schemas that are remembered and the events so far; operations on a session
return a result or an error and the session after them.
-/

/-!
## Log events

What an execution reports while it runs, with level, message and fields. The parameters of a
statement are reported as the values that they are; they have no text here.
-/

namespace TableQuery

/-- An event. -/
inductive Event where
  /-- A statement is about to be sent, with these parameters. -/
  | executing (sql : String) (parameters : List Value)
  /-- An attempt was refused and another follows. -/
  | retrying (attempt maxAttempts : Nat)
  /-- The last attempt was refused. -/
  | gaveUp (attempts : Nat) (sql : String)
  /-- A column of the result cannot be decoded. -/
  | undecodable (column detail sql : String)
  /-- The statement failed. -/
  | failed (error sql : String)
  /-- Rows came back. -/
  | rows (preview : String)
  /-- Rows were affected. -/
  | affected (count : Nat)
  /-- The columns of a table were read from the catalog. -/
  | schemaLoaded (table : String) (columns : Nat)
  /-- All rows of an insert were sent. -/
  | insertComplete (table : String) (inserted : Nat)
  deriving Repr

/-- How grave an event is. -/
inductive EventLevel where
  /-- Of interest when looking for mistakes. -/
  | debug
  /-- Something went wrong but may still succeed. -/
  | warn
  /-- Something failed. -/
  | error
  deriving DecidableEq, Repr

namespace Event

/-- The level of an event. -/
def level : Event → EventLevel
  | .retrying _ _ => .warn
  | .gaveUp _ _ | .undecodable _ _ _ | .failed _ _ => .error
  | _ => .debug

/-- The message of an event. -/
def message : Event → String
  | .executing _ _ => "executing"
  | .retrying _ _ => "connection refused, retrying"
  | .gaveUp _ _ => "connection refused, giving up"
  | .undecodable _ _ _ => "undecodable column"
  | .failed _ _ => "statement failed"
  | .rows _ | .affected _ => "results"
  | .schemaLoaded _ _ => "loaded table schema"
  | .insertComplete _ _ => "insert complete"

/-- The named texts of an event. -/
def fields : Event → List (String × String)
  | .executing sql _ => [("sql", sql)]
  | .retrying attempt maxAttempts =>
    [("attempt", Decimal.natText attempt), ("max_attempts", Decimal.natText maxAttempts)]
  | .gaveUp attempts sql => [("attempts", Decimal.natText attempts), ("sql", sql)]
  | .undecodable column detail sql => [("column", column), ("error", detail), ("sql", sql)]
  | .failed error sql => [("error", error), ("sql", sql)]
  | .rows preview => [("rows", preview)]
  | .affected count => [("affected", Decimal.natText count)]
  | .schemaLoaded table columns => [("table", table), ("columns", Decimal.natText columns)]
  | .insertComplete table inserted =>
    [("table", table), ("inserted", Decimal.natText inserted)]

end Event

/-! ## Databases and sessions -/

/-- A database: what it does with a statement and its parameters in each of its states. -/
structure Backend (σ : Type) where
  /-- Run a statement that returns rows. -/
  fetch : String → List Value → σ → Except Fault ResultSet × σ
  /-- Run a statement for the number of rows that it affects. -/
  execute : String → List Value → σ → Except Fault UInt64 × σ

/-- The table schemas that are remembered. -/
abbrev SchemaCache := List (String × TableSchema)

/-- The state of a session. -/
structure Session (σ : Type) where
  /-- The state of the database. -/
  backend : σ
  /-- The remembered schemas; none at all if schemas are not remembered. -/
  cache : Option SchemaCache
  /-- The events so far, oldest first. -/
  events : List Event

/-- An operation on a session. An operation that fails has still changed the session. -/
abbrev Action (σ α : Type) := ExceptT DatabaseError (StateM (Session σ)) α

namespace Session

/-- A fresh session. -/
def start {σ : Type} (backend : σ) (remember : Bool) : Session σ :=
  ⟨backend, if remember then some [] else none, []⟩

/-- The session with a further event. -/
def log {σ : Type} (s : Session σ) (e : Event) : Session σ :=
  { s with events := s.events ++ [e] }

end Session

/-- Report an event. -/
def Action.log {σ : Type} (e : Event) : Action σ Unit :=
  modify fun s => s.log e

/-- Report an event if a condition holds. -/
def Action.logWhen {σ : Type} (condition : Bool) (e : Event) : Action σ Unit :=
  if condition then Action.log e else pure ()

/-- Take over the result of a check of the input. -/
def Action.ofInput {σ α : Type} : Except InputError α → Action σ α
  | .ok a => pure a
  | .error e => throw (.input e)

end TableQuery
