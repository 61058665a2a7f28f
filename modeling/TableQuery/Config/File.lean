import TableQuery.Config.Basic
import TableQuery.Toml.Reader

/-!
# Configuration files

A configuration file is a TOML document with the settings at its top. Missing settings have their
defaults, and other entries do not matter.
-/

namespace TableQuery.Config

/-- Read an entry that may be absent. -/
def readEntry? {α : Type} (key : String) (default : α) (read : Toml → Option α)
    (t : TomlTable) : Option α :=
  match t.entries.lookup key with
  | none => some default
  | some v => read v

/-- The text of a TOML value. -/
def tomlText? : Toml → Option String
  | .string s => some s
  | _ => none

/-- A natural number below a bound. -/
def tomlNat? (bound : Nat) : Toml → Option Nat
  | .integer n => if 0 ≤ n && n < bound then some n.toNat else none
  | _ => none

/-- The truth value of a TOML value. -/
def tomlBool? : Toml → Option Bool
  | .boolean b => some b
  | _ => none

/-- The configuration that a table describes. -/
def ofTable? (t : TomlTable) : Option Config := do
  let base : Config := {}
  let word32 (v : Toml) : Option UInt32 := (tomlNat? UInt32.size v).map UInt32.ofNat
  let word64 (v : Toml) : Option UInt64 := (tomlNat? UInt64.size v).map UInt64.ofNat
  let databaseUrl ← readEntry? "database_url" base.databaseUrl tomlText? t
  let maxConnections ← readEntry? "max_connections" base.maxConnections word32 t
  let timeout ← readEntry? "acquire_timeout_secs" base.acquireTimeoutSecs word64 t
  let maxAttempts ← readEntry? "max_attempts" base.maxAttempts word32 t
  let timezone ← readEntry? "timezone" base.timezone tomlText? t
  let logStatements ← readEntry? "log_statements" base.logStatements tomlBool? t
  let cacheSchema ← readEntry? "cache_schema" base.cacheSchema tomlBool? t
  return ⟨databaseUrl, maxConnections, timeout, maxAttempts, timezone, logStatements, cacheSchema⟩

/-- The configuration that a text describes. -/
def ofText? (text : String) : Option Config := do
  ofTable? (← Toml.parse? text)

/-- Read and check the configuration of a file, given its contents if it can be read. -/
def ofFile (path : String) (contents : Option String)
    (find? : String → Option TimeZone := TimeZone.find?)
    (read? : String → Option Config := ofText?) : Except ConfigError Config := do
  let text ← match contents with
    | some text => .ok text
    | none => .error (.unreadableFile path)
  let config ← match read? text with
    | some config => .ok config
    | none => .error (.invalidFile path)
  config.validate find?
  .ok config

end TableQuery.Config
