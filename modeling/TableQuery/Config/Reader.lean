import TableQuery.Config.Basic
import TableQuery.QueryOptions.Reader

/-!
# Configuration from JSON

A configuration is an object, or an array of its seven fields in their order. Nothing is checked
but the types of the fields.
-/

namespace TableQuery.Config

/-- The names of the fields, in the order of the array form. -/
def fieldNames : List String :=
  ["database_url", "max_connections", "acquire_timeout_secs", "max_attempts", "timezone",
    "log_statements", "cache_schema"]

/-- Read a natural number of at most 32 bits. -/
def readUInt32? : Json → Option UInt32
  | .integer n => if 0 ≤ n && n < UInt32.size then some (UInt32.ofNat n.toNat) else none
  | _ => none

/-- Read a truth value. -/
def readBool? : Json → Option Bool
  | .bool b => some b
  | _ => none

/-- Read a configuration. Objects may have further fields, arrays no further items. -/
def ofJson? : Json → Option Config
  | .object fields => do
    let base : Config := {}
    let databaseUrl ← readField? "database_url" base.databaseUrl Json.asString? fields
    let maxConnections ← readField? "max_connections" base.maxConnections readUInt32? fields
    let timeout ← readField? "acquire_timeout_secs" base.acquireTimeoutSecs readUInt64? fields
    let maxAttempts ← readField? "max_attempts" base.maxAttempts readUInt32? fields
    let timezone ← readField? "timezone" base.timezone Json.asString? fields
    let logStatements ← readField? "log_statements" base.logStatements readBool? fields
    let cacheSchema ← readField? "cache_schema" base.cacheSchema readBool? fields
    return ⟨databaseUrl, maxConnections, timeout, maxAttempts, timezone, logStatements,
      cacheSchema⟩
  | .array items => do
    if 7 < items.length then none
    else
      let base : Config := {}
      let databaseUrl ← readItem? 0 base.databaseUrl Json.asString? items
      let maxConnections ← readItem? 1 base.maxConnections readUInt32? items
      let timeout ← readItem? 2 base.acquireTimeoutSecs readUInt64? items
      let maxAttempts ← readItem? 3 base.maxAttempts readUInt32? items
      let timezone ← readItem? 4 base.timezone Json.asString? items
      let logStatements ← readItem? 5 base.logStatements readBool? items
      let cacheSchema ← readItem? 6 base.cacheSchema readBool? items
      return ⟨databaseUrl, maxConnections, timeout, maxAttempts, timezone, logStatements,
        cacheSchema⟩
  | _ => none

/-- The configuration written in a JSON text. -/
def parseJson? (text : String) : Option Config := do
  ofJson? (← Json.parseFor? fieldNames text)

end TableQuery.Config
