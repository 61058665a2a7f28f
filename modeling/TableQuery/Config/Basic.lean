import TableQuery.Calendar.Zone
import TableQuery.Calendar.ZoneReader
import TableQuery.Text.Basic

/-!
# Configuration

The settings of a database client, their defaults, the checks that a configuration has to pass, and
reading them from named variables. Which names are those of zones is asked of a function, by default
the table of known zones.
-/

/-!
## Configuration errors

Why a configuration cannot be used.
-/

namespace TableQuery

/-- What is wrong with a configuration. -/
inductive ConfigError where
  /-- The file cannot be read. -/
  | unreadableFile (path : String)
  /-- The file is no configuration. -/
  | invalidFile (path : String)
  /-- A setting is no number. -/
  | invalidNumber (key value : String)
  /-- The time zone is not known. -/
  | unknownTimezone (name : String)
  /-- A setting that must be positive is zero. -/
  | zero (setting : String)
  deriving DecidableEq, Repr

/-- The wording of a configuration error; that of a file up to its path, before what the reading of
the file has to say. -/
def ConfigError.message : ConfigError → String
  | .unreadableFile path => "failed to read " ++ path
  | .invalidFile path => "invalid TOML in " ++ path
  | .invalidNumber key value => key ++ " must be a positive integer, got '" ++ value ++ "'"
  | .unknownTimezone name => "unknown timezone '" ++ name ++ "'"
  | .zero setting => setting ++ " must be at least 1"

/-!
## Execution settings

How statements are run: how often a refused connection is tried, the zone that times are shown in,
and whether statements are logged.
-/

/-- The settings of an engine. -/
structure EngineSettings where
  /-- Attempts for a statement while connections are refused; zero counts as one. -/
  maxAttempts : UInt32
  /-- The zone that temporal columns are shown in. -/
  timezone : TimeZone
  /-- Statements and their results are logged. -/
  logStatements : Bool
  deriving DecidableEq, Repr

/-- The number of attempts that are really made. -/
def EngineSettings.attemptLimit (s : EngineSettings) : UInt32 :=
  if s.maxAttempts = 0 then 1 else s.maxAttempts

/-- The limit is the given number, but zero counts as one. -/
theorem EngineSettings.toNat_attemptLimit (s : EngineSettings) :
    s.attemptLimit.toNat = max 1 s.maxAttempts.toNat := by
  rw [attemptLimit]
  split
  · next h =>
    rw [h]
    rfl
  · next h =>
    have hpos : s.maxAttempts.toNat ≠ 0 := fun hzero => h (UInt32.toNat_inj.1 hzero)
    omega

/-- At least one attempt is made. -/
theorem EngineSettings.attemptLimit_pos (s : EngineSettings) : 0 < s.attemptLimit.toNat := by
  rw [toNat_attemptLimit]
  omega

/-! ## The configuration -/

/-- The zone that times are shown in unless another one is set. -/
def defaultTimezone : String := "Asia/Ho_Chi_Minh"

/-- The settings of a database client. -/
structure Config where
  /-- The address of the database. -/
  databaseUrl : String := "postgres://localhost/postgres"
  /-- Connections that are open at most. -/
  maxConnections : UInt32 := 5
  /-- Seconds to wait for a connection. -/
  acquireTimeoutSecs : UInt64 := 5
  /-- Attempts for a statement while connections are refused. -/
  maxAttempts : UInt32 := 5
  /-- The name of the zone that times are shown in. -/
  timezone : String := defaultTimezone
  /-- Statements and their results are logged. -/
  logStatements : Bool := false
  /-- Table schemas are remembered. -/
  cacheSchema : Bool := true
  deriving DecidableEq, Repr, Inhabited

namespace Config

/-- The zone that times are shown in. -/
def zone (c : Config) (find? : String → Option TimeZone := TimeZone.find?) :
    Except ConfigError TimeZone :=
  match find? c.timezone with
  | some zone => .ok zone
  | none => .error (.unknownTimezone c.timezone)

/-- Check that a configuration can be used. -/
def validate (c : Config) (find? : String → Option TimeZone := TimeZone.find?) :
    Except ConfigError Unit := do
  let _ ← c.zone find?
  if c.maxAttempts = 0 then .error (.zero "max_attempts")
  else if c.acquireTimeoutSecs = 0 then .error (.zero "acquire_timeout_secs")
  else if c.maxConnections = 0 then .error (.zero "max_connections")
  else .ok ()

/-- Read a number of 32 bits, blanks around it allowed. -/
def readNumber (key value : String) : Except ConfigError UInt32 :=
  match Decimal.readUnsigned? 32 (Text.trimChars value.toList) with
  | some n => .ok (UInt32.ofNat n)
  | none => .error (.invalidNumber key value)

/-- Read a truth value; what is not a known word for true is false. -/
def readFlag (value : String) : Bool :=
  ["1", "true", "yes", "on"].contains
    (String.ofList ((Text.trimChars value.toList).map Char.toLower))

/-- Read a number under a key, keeping the default if there is none. -/
def lookupNumber (lookup : String → Option String) (key : String) (default : UInt32) :
    Except ConfigError UInt32 :=
  match lookup key with
  | some value => readNumber key value
  | none => .ok default

/-- Read a truth value under a key, keeping the default if there is none. -/
def lookupFlag (lookup : String → Option String) (key : String) (default : Bool) : Bool :=
  match lookup key with
  | some value => readFlag value
  | none => default

/-- Read a configuration from named variables and check it. -/
def ofLookup (lookup : String → Option String)
    (find? : String → Option TimeZone := TimeZone.find?) : Except ConfigError Config := do
  let base : Config := {}
  let maxConnections ← lookupNumber lookup "ROWKIT_MAX_CONNECTIONS" base.maxConnections
  let timeout ← lookupNumber lookup "ROWKIT_ACQUIRE_TIMEOUT" base.acquireTimeoutSecs.toUInt32
  let maxAttempts ← lookupNumber lookup "ROWKIT_MAX_ATTEMPTS" base.maxAttempts
  let config : Config :=
    { databaseUrl := (lookup "DATABASE_URL").getD base.databaseUrl
      maxConnections := maxConnections
      acquireTimeoutSecs := timeout.toUInt64
      maxAttempts := maxAttempts
      timezone := (lookup "ROWKIT_TIMEZONE").getD base.timezone
      logStatements := lookupFlag lookup "ROWKIT_DEBUG" base.logStatements
      cacheSchema := lookupFlag lookup "ROWKIT_CACHE_SCHEMA" base.cacheSchema }
  config.validate find?
  .ok config

/-- The settings of an engine for a configuration. -/
def engineSettings (c : Config) (find? : String → Option TimeZone := TimeZone.find?) :
    Except ConfigError EngineSettings := do
  let zone ← c.zone find?
  .ok ⟨max 1 c.maxAttempts, zone, c.logStatements⟩

end Config

end TableQuery
