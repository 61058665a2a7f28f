import TableQuery.Command.Run

/-!
# Command line

Prints the statements of `plan` commands. This program has no connection to a server of its own, so
every other command finds a database that refuses connections.
-/

namespace TableQuery.Command

/-- The database that refuses every connection. -/
def refusing : Backend Unit where
  fetch _ _ := fun s => (.error (.connection .refused), s)
  execute _ _ := fun s => (.error (.connection .refused), s)

/-- The names of the variables that are read. -/
def variableNames : List String :=
  ["ROWKIT_CONFIG", "DATABASE_URL", "ROWKIT_MAX_CONNECTIONS", "ROWKIT_ACQUIRE_TIMEOUT",
    "ROWKIT_MAX_ATTEMPTS", "ROWKIT_TIMEZONE", "ROWKIT_DEBUG", "ROWKIT_CACHE_SCHEMA"]

/-- The contents of a file, if it can be read. -/
def contents? (path : String) : IO (Option String) := do
  try
    return some (← IO.FS.readFile path)
  catch _ => return none

/-- The variables, the environment file and the configuration file around a command line. -/
def surroundings (words : List String) : IO Surroundings := do
  let found ← variableNames.filterMapM fun name => do
    return (← IO.getEnv name).map fun value => (name, value)
  let paths := ((Invocation.read? (found.lookup "ROWKIT_CONFIG") words).bind fun i =>
    i.configFile).toList
  let files ← paths.filterMapM fun path => do
    return (← contents? path).map fun text => (path, text)
  return ⟨fun name => found.lookup name, ← contents? ".env", fun path => files.lookup path⟩

/-- The lines for the events that are shown without logging. -/
def warnings (events : List Event) : List String :=
  (events.filter fun e => e.level != .debug).map fun e =>
    Text.join " " (e.message :: e.fields.map fun f => f.1 ++ "=" ++ f.2)

end TableQuery.Command

open TableQuery.Command in
/-- Carry the command line out. -/
def main (words : List String) : IO UInt32 := do
  let (outcome, session) := runWords (← surroundings words) refusing (fun _ => ()) words
  let err ← IO.getStderr
  for line in warnings ((session.map fun s => s.events).getD []) do
    err.putStrLn line
  (← IO.getStdout).putStr outcome.output
  err.putStr outcome.report
  return outcome.exitCode
