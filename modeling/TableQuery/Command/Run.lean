import TableQuery.Command.Plan
import TableQuery.Command.Reader
import TableQuery.Config.EnvFile
import TableQuery.Config.File
import TableQuery.Database.Operations
import TableQuery.Database.Pool

/-!
# Running commands

A command line is read, configured and carried out, and leaves an output or an error. Commands that
print statements need neither a configuration nor a database.
-/

namespace TableQuery.Command

/-- What a command finds around it. -/
structure Surroundings where
  /-- The variables of the environment. -/
  lookup : String → Option String
  /-- The environment file, if there is one. -/
  envFile : Option String
  /-- The contents of a file that can be read. -/
  readFile : String → Option String

/-- The configuration of a command: its file, or else the environment with its file. -/
def Invocation.config (i : Invocation) (around : Surroundings) : Except Error Config := do
  let config ← match i.configFile with
    | some path =>
      match Config.ofFile path (around.readFile path) with
      | .ok config => .ok config
      | .error e => .error (.configFile path e)
    | none =>
      let lookup := match around.envFile with
        | some text => EnvFile.extend around.lookup text
        | none => around.lookup
      match Config.ofLookup lookup with
      | .ok config => .ok config
      | .error e => .error (.environment e)
  return if i.debug then { config with logStatements := true } else config

/-- Rows as JSON. -/
def rowsJson (rows : List Row) : Json :=
  .array (rows.map Json.object)

/-- What a command still has to do on a database, its arguments read. -/
structure Prepared (σ : Type) where
  /-- The operation. -/
  operation : Operation
  /-- The table that it is on. -/
  table : String
  /-- The operation on a session. -/
  action : Action σ Json

/-- Read the arguments of a command. -/
def QueryCommand.prepare {σ : Type} (engine : Engine σ) : QueryCommand → Except Error (Prepared σ)
  | .select a => do
    let options ← a.options
    return ⟨.select, a.table, rowsJson <$> engine.select a.table a.columns options⟩
  | .count a => do
    let options ← a.options
    let counted (n : Int64) : Json := .object [("count", .integer n.toInt)]
    return ⟨.count, a.table, counted <$> engine.count a.table a.columns options⟩
  | .insert a => do
    let rows ← a.rows
    return ⟨.insert, a.table, rowsJson <$> engine.insert a.table rows a.returning⟩
  | .update a => do
    let data ← a.record
    let options ← a.options
    return ⟨.update, a.table, rowsJson <$> engine.update a.table data options⟩
  | .delete a => do
    let filter ← a.rows
    let removed (b : Bool) : Json := .object [("removed", .bool b)]
    return ⟨.delete, a.table, removed <$> engine.remove a.table filter⟩
  | .hasColumn table column =>
    let answer (b : Bool) : Json :=
      .object [("table", .string table), ("column", .string column), ("exists", .bool b)]
    .ok ⟨.hasColumn, table, answer <$> engine.columnExists table column⟩

/-- Carry a command out in a session. -/
def QueryCommand.run {σ : Type} (engine : Engine σ) (c : QueryCommand) (s : Session σ) :
    Except Error Json × Session σ :=
  match c.prepare engine with
  | .error e => (.error e, s)
  | .ok prepared =>
    match prepared.action s with
    | (.ok output, s) => (.ok output, s)
    | (.error e, s) => (.error (.operation prepared.operation prepared.table e), s)

/-- How a command line ends. -/
inductive Outcome where
  /-- It is no command line. -/
  | misused
  /-- The command failed. -/
  | failed (error : Error)
  /-- The command has an output. -/
  | succeeded (output : Json)
  deriving Inhabited

/-- The outcome of a command that has been read. -/
def Outcome.ofExcept : Except Error Json → Outcome
  | .ok output => .succeeded output
  | .error e => .failed e

/-- The exit code of an outcome. -/
def Outcome.exitCode : Outcome → UInt32
  | .misused => 2
  | .failed _ => 1
  | .succeeded _ => 0

/-- What is written to the standard output. -/
def Outcome.output : Outcome → String
  | .succeeded output => output.indented ++ "\n"
  | _ => ""

/-- What is written about an error. -/
def Outcome.report : Outcome → String
  | .failed e => e.report
  | _ => ""

/-- The engine and the session that a configuration leads to. -/
def connect {σ : Type} (backend : Backend σ) (start : Target → σ) (config : Config) :
    Except Error (Engine σ × Session σ) := do
  let pool ← match Pool.create config with
    | .ok pool => .ok pool
    | .error e => .error (.pool e)
  match Engine.ofConfig backend (start pool.target) config with
  | .ok client => .ok client
  | .error e => .error (.pool (.config e))

/-- Carry a command line out on a database whose state at the beginning depends on where it is. The
session is there if it came to one. -/
def runWords {σ : Type} (around : Surroundings) (backend : Backend σ) (start : Target → σ)
    (words : List String) : Outcome × Option (Session σ) :=
  match Invocation.read? (around.lookup "ROWKIT_CONFIG") words with
  | none => (.misused, none)
  | some i =>
    match i.task with
    | .plan command => (.ofExcept command.output, none)
    | .query command =>
      match (i.config around).bind (connect backend start) with
      | .error e => (.failed e, none)
      | .ok (engine, session) =>
        let (result, session) := command.run engine session
        (.ofExcept result, some session)

end TableQuery.Command
