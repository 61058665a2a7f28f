import TableQuery.Config.Basic
import TableQuery.Execution.Session
import TableQuery.Sql

/-!
# Running statements

Statements are run with their attempts, and rows come back as callers get them. Statements and
results are logged if the settings say so, statements to the catalog never.
-/

/-!
## Attempts

A statement is tried again, at once, as long as the connection is refused and attempts are left.
Every other outcome of an attempt is final.
-/

namespace TableQuery

/-- The error that a fault on the last attempt leads to. -/
def finalError (attempt : UInt32) (fault : Fault) : DatabaseError :=
  if fault.isRefused then .refused attempt.toNat fault
  else
    match fault with
    | .columnDecode column detail => .result (.undecodable column detail)
    | _ => .query fault

/-- The events that a fault gives rise to when no attempt follows. Failures of a statement are
reported only if `logged` says so, the others always. -/
def finalEvents (attempt : UInt32) (sql : String) (logged : Bool) (fault : Fault) : List Event :=
  if fault.isRefused then [.gaveUp attempt.toNat sql]
  else
    match fault with
    | .columnDecode column detail => [.undecodable column detail sql]
    | _ => if logged then [.failed fault.message sql] else []

/-- How far a statement has come with its attempts. -/
inductive AttemptState (α : Type) where
  /-- The next attempt has this number. -/
  | trying (attempt : UInt32)
  /-- No attempt follows. -/
  | finished (result : Except DatabaseError α)

/-- What follows from the outcome of an attempt, the attempts counted from 1. -/
def AttemptState.after {α : Type} (limit attempt : UInt32) : Except Fault α → AttemptState α
  | .ok result => .finished (.ok result)
  | .error fault =>
    if fault.isRefused && attempt < limit then .trying (attempt + 1)
    else .finished (.error (finalError attempt fault))

/-- The events that the outcome of an attempt gives rise to. -/
def attemptEvents {α : Type} (limit attempt : UInt32) (sql : String) (logged : Bool) :
    Except Fault α → List Event
  | .ok _ => []
  | .error fault =>
    if fault.isRefused && attempt < limit then [.retrying attempt.toNat limit.toNat]
    else finalEvents attempt sql logged fault

/-- A further attempt follows only a refused one below the limit, and has the next number. The
number does not wrap. -/
theorem AttemptState.after_eq_trying {α : Type} {limit attempt next : UInt32}
    {outcome : Except Fault α} (h : after limit attempt outcome = .trying next) :
    (∃ fault, outcome = .error fault ∧ fault.isRefused = true) ∧ attempt.toNat < limit.toNat ∧
      next.toNat = attempt.toNat + 1 := by
  cases outcome with
  | ok result => cases h
  | error fault =>
    rw [after] at h
    split at h
    · next hagain =>
      rw [Bool.and_eq_true, decide_eq_true_eq] at hagain
      have hlt : attempt.toNat < limit.toNat := UInt32.lt_iff_toNat_lt.1 hagain.2
      have hbound : limit.toNat < UInt32.size := limit.toNat_lt_size
      cases h
      refine ⟨⟨fault, rfl, hagain.1⟩, hlt, ?_⟩
      rw [UInt32.toNat_add]
      exact Nat.mod_eq_of_lt (Nat.lt_of_le_of_lt hlt hbound)
    · cases h

/-- Make the attempt with a number. -/
def attemptOnce {σ α : Type} (limit : UInt32) (sql : String) (logged : Bool)
    (run : σ → Except Fault α × σ) (attempt : UInt32) (s : Session σ) :
    AttemptState α × Session σ :=
  let answered := run s.backend
  (.after limit attempt answered.1,
    { s with
      backend := answered.2
      events := s.events ++ attemptEvents limit attempt sql logged answered.1 })

/-- Make the attempt with a number, and the attempts that follow it, until one is final. -/
def attempts {σ α : Type} (limit : UInt32) (sql : String) (logged : Bool)
    (run : σ → Except Fault α × σ) (attempt : UInt32) (s : Session σ) :
    Except DatabaseError α × Session σ :=
  match _h : attemptOnce limit sql logged run attempt s with
  | (.trying next, s) => attempts limit sql logged run next s
  | (.finished result, s) => (result, s)
termination_by limit.toNat - attempt.toNat
decreasing_by
  have hnext := AttemptState.after_eq_trying (congrArg Prod.fst _h)
  omega

section Attempts

variable {σ α : Type} {limit attempt : UInt32} {sql : String} {logged : Bool}
  {run : σ → Except Fault α × σ} {s s' : Session σ}

/-- An attempt that another one follows. -/
theorem attempts_of_trying {next : UInt32}
    (h : attemptOnce limit sql logged run attempt s = (.trying next, s')) :
    attempts limit sql logged run attempt s = attempts limit sql logged run next s' := by
  rw [attempts]
  split
  · next _ _ hother =>
    rw [h] at hother
    cases hother
    rfl
  · next _ _ hother =>
    rw [h] at hother
    cases hother

/-- An attempt that is final. -/
theorem attempts_of_finished {result : Except DatabaseError α}
    (h : attemptOnce limit sql logged run attempt s = (.finished result, s')) :
    attempts limit sql logged run attempt s = (result, s') := by
  rw [attempts]
  split
  · next _ _ hother =>
    rw [h] at hother
    cases hother
  · next _ _ hother =>
    rw [h] at hother
    cases hother
    rfl

end Attempts

/-- Run a statement with all its attempts. -/
def withRetry {σ α : Type} (settings : EngineSettings) (statement : Statement) (logged : Bool)
    (run : σ → Except Fault α × σ) : Action σ α :=
  attempts settings.attemptLimit statement.sql logged run 1

/-! ## Engines -/

/-- Rows and the count that a statement reports. -/
structure QueryResult where
  /-- The rows. -/
  rows : List Row
  /-- Rows returned, or rows affected. -/
  rowCount : UInt64
  deriving Inhabited, Repr

/-- Rows that are shown in an event before the rest is only counted. -/
def previewLength : Nat := 2

/-- The first rows and the number of the others. -/
def previewRows (rows : List Row) : String :=
  let shown := Text.join ", " ((rows.take previewLength).map fun row => (Json.object row).compact)
  if previewLength < rows.length then
    "[" ++ shown ++ ", ... AND " ++ Decimal.natText (rows.length - previewLength) ++ " MORE ITEMS]"
  else "[" ++ shown ++ "]"

/-- A database with the settings that its statements are run with. -/
structure Engine (σ : Type) where
  /-- The database. -/
  backend : Backend σ
  /-- The settings. -/
  settings : EngineSettings

namespace Engine

variable {σ : Type}

/-- The engine of a configuration for a database, and a fresh session on it. -/
def ofConfig (backend : Backend σ) (start : σ) (config : Config)
    (find? : String → Option TimeZone := TimeZone.find?) :
    Except ConfigError (Engine σ × Session σ) := do
  let settings ← config.engineSettings find?
  return (⟨backend, settings⟩, Session.start start config.cacheSchema)

/-- The engine logs the statement and its result. -/
def logs (e : Engine σ) (statement : Statement) : Bool :=
  e.settings.logStatements && !statement.catalog

/-- Run a statement that returns rows. -/
def fetch (e : Engine σ) (statement : Statement) : Action σ QueryResult := do
  Action.logWhen (e.logs statement) (.executing statement.sql statement.parameters)
  let set ← withRetry e.settings statement (e.logs statement)
    (e.backend.fetch statement.sql statement.parameters)
  let rows := set.normalize e.settings.timezone
  Action.logWhen (e.logs statement) (.rows (previewRows rows))
  return ⟨rows, UInt64.ofNat rows.length⟩

/-- Run a statement for the number of rows that it affects. -/
def execute (e : Engine σ) (statement : Statement) : Action σ QueryResult := do
  Action.logWhen (e.logs statement) (.executing statement.sql statement.parameters)
  let affected ← withRetry e.settings statement (e.logs statement)
    (e.backend.execute statement.sql statement.parameters)
  Action.logWhen (e.logs statement) (.affected affected.toNat)
  return ⟨[], affected⟩

end Engine

end TableQuery
