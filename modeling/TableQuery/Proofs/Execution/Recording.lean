import TableQuery.Database.Operations
import TableQuery.Execution.Session
import TableQuery.Proofs.Checks
import TableQuery.Script.Basic

/-!
# Recorded databases

A database can be recorded: it answers as it does, and every statement that reaches it is kept. What
an operation sends is what stands in the record of a recorded database after it.
-/

/-!
## Actions step by step

An action goes on with the session that its first step leaves, or ends with that step's error. An
action accepts its input if it never ends with an error about it, and it is quiet if it does nothing
but report.
-/

namespace TableQuery.Action

variable {σ α β : Type} {a : Action σ α} {f : α → Action σ β} {s s' : Session σ}

/-- A step with a result is followed by the rest. -/
theorem bind_ok {x : α} (h : a s = (.ok x, s')) : (a >>= f) s = f x s' := by
  change ExceptT.bindCont f (a s).1 (a s).2 = f x s'
  rw [h]
  rfl

/-- A step with an error is the last one. -/
theorem bind_error {e : DatabaseError} (h : a s = (.error e, s')) :
    (a >>= f) s = (.error e, s') := by
  change ExceptT.bindCont f (a s).1 (a s).2 = (.error e, s')
  rw [h]
  rfl

/-- A check of the input that passes leaves the rest to do. -/
theorem bind_ofInput_ok (x : α) : (ofInput (.ok x) >>= f) = f x :=
  funext fun _ => bind_ok rfl

/-- A check of the input that fails is the last step, and nothing has happened. -/
theorem bind_ofInput_error (e : InputError) :
    (ofInput (.error e) >>= f) s = (.error (.input e), s) :=
  bind_error rfl

/-- The action never ends with an error about its input. -/
def Accepts (a : Action σ α) : Prop :=
  ∀ s err, (a s).1 ≠ .error (.input err)

namespace Accepts

/-- A result that is there at once is no error. -/
theorem pure (x : α) : Accepts (Pure.pure x : Action σ α) :=
  fun _ _ h => by cases h

/-- Reporting an event is no error. -/
theorem log (e : Event) : Accepts (Action.log e : Action σ Unit) :=
  fun _ _ h => by cases h

/-- Steps that accept their input do so one after the other. Of the second it is needed for results
of the first only. -/
theorem bind_of_result (ha : Accepts a) (hf : ∀ x s s', a s = (.ok x, s') → Accepts (f x)) :
    Accepts (a >>= f) := by
  intro s err
  cases hs : a s with
  | mk result s' =>
    cases result with
    | ok x =>
      rw [bind_ok hs]
      exact hf x s s' hs s' err
    | error e =>
      rw [bind_error hs]
      rintro ⟨⟩
      exact ha s err (congrArg Prod.fst hs)

/-- Steps that accept their input do so one after the other. -/
theorem bind (ha : Accepts a) (hf : ∀ x, Accepts (f x)) : Accepts (a >>= f) :=
  bind_of_result ha fun x _ _ _ => hf x

/-- A check that the input passes changes nothing. -/
theorem ofInput_bind {x : Except InputError α} (h : verdict x = .ok ())
    (hf : ∀ y, x = .ok y → Accepts (f y)) : Accepts (ofInput x >>= f) := by
  obtain ⟨y, hy⟩ := verdict_ok_iff.1 h
  rw [hy, bind_ofInput_ok]
  exact hf y hy

end Accepts

/-- The action gives `x` in every session, and leaves the database and the remembered schemas as
they are. -/
def Quiet (a : Action σ α) (x : α) : Prop :=
  ∀ s, ∃ s', a s = (.ok x, s') ∧ s'.backend = s.backend ∧ s'.cache = s.cache

namespace Quiet

/-- A result that is there at once is quiet. -/
theorem pure (x : α) : Quiet (Pure.pure x : Action σ α) x :=
  fun s => ⟨s, rfl, rfl, rfl⟩

/-- Reporting an event is quiet. -/
theorem log (event : Event) : Quiet (Action.log event : Action σ Unit) () :=
  fun s => ⟨s.log event, rfl, rfl, rfl⟩

/-- Reporting an event under a condition is quiet. -/
theorem logWhen (condition : Bool) (event : Event) :
    Quiet (Action.logWhen condition event : Action σ Unit) () := by
  cases condition with
  | true => exact log event
  | false => exact pure ()

/-- Quiet steps are quiet together. -/
theorem bind {x : α} {y : β} (ha : Quiet a x) (hf : Quiet (f x) y) : Quiet (a >>= f) y := by
  intro s
  obtain ⟨s', hs', hbackend, hcache⟩ := ha s
  obtain ⟨s'', hs'', hbackend', hcache'⟩ := hf s'
  exact ⟨s'', (bind_ok hs').trans hs'', hbackend'.trans hbackend, hcache'.trans hcache⟩

end Quiet

/-- A quiet step behind an action takes over what has come of it. -/
theorem bind_quiet {g : α → β} (a : Action σ α) (hf : ∀ x, Quiet (f x) (g x)) (s : Session σ) :
    ((a >>= f) s).1 = (a s).1.map g ∧ ((a >>= f) s).2.backend = (a s).2.backend ∧
      ((a >>= f) s).2.cache = (a s).2.cache := by
  cases hs : a s with
  | mk result s' =>
    cases result with
    | error e =>
      rw [bind_error hs]
      exact ⟨rfl, rfl, rfl⟩
    | ok x =>
      obtain ⟨s'', hs'', hbackend, hcache⟩ := hf x s'
      rw [bind_ok hs, hs'']
      exact ⟨rfl, hbackend, hcache⟩

end TableQuery.Action

/-! ## Recorded databases -/

namespace TableQuery

variable {σ α : Type}

/-- The database and the statements that have reached it, oldest first. -/
abbrev Recorded (σ : Type) := σ × List SentStatement

/-- Send a statement to a recorded database. -/
def recordedRun (call : SentStatement) (run : σ → α × σ) (r : Recorded σ) : α × Recorded σ :=
  ((run r.1).1, (run r.1).2, r.2 ++ [call])

/-- The recorded database. -/
def Backend.recorded (b : Backend σ) : Backend (Recorded σ) where
  fetch sql parameters := recordedRun ⟨.fetch, sql, parameters⟩ (b.fetch sql parameters)
  execute sql parameters := recordedRun ⟨.execute, sql, parameters⟩ (b.execute sql parameters)

/-- What reaches a database when a statement is run for its rows. -/
def Statement.fetchCall (statement : Statement) : SentStatement :=
  ⟨.fetch, statement.sql, statement.parameters⟩

/-- The session with a record of statements that have reached its database. -/
def Session.recorded (s : Session σ) (sent : List SentStatement) : Session (Recorded σ) :=
  ⟨(s.backend, sent), s.cache, s.events⟩

/-- An operation on any database. -/
abbrev Operation (α : Type) := (σ : Type) → Engine σ → Action σ α

namespace Engine

/-- The engine on its recorded database. -/
def recorded (e : Engine σ) : Engine (Recorded σ) :=
  ⟨e.backend.recorded, e.settings⟩

/-- What an operation sends to the database. -/
def calls (e : Engine σ) (op : Operation α) (s : Session σ) : List SentStatement :=
  (op _ e.recorded (s.recorded [])).2.backend.2

end Engine

/-- An action of the recorded database does what an action of the database does, and `new` is what
it sends. -/
def Action.Sends (a : Action σ α) (recorded : Action (Recorded σ) α) (s : Session σ)
    (new : List SentStatement) : Prop :=
  ∀ sent, recorded (s.recorded sent) = ((a s).1, (a s).2.recorded (sent ++ new))

namespace Action.Sends

variable {β : Type} {a : Action σ α} {recorded : Action (Recorded σ) α} {f : α → Action σ β}
  {next : α → Action (Recorded σ) β} {s s' : Session σ} {new rest : List SentStatement}

/-- A result that is there at once sends nothing. -/
theorem pure (x : α) (s : Session σ) :
    Action.Sends (Pure.pure x) (Pure.pure x : Action (Recorded σ) α) s [] := by
  intro sent
  rw [List.append_nil]
  rfl

/-- An error that is there at once sends nothing. -/
theorem throw (error : DatabaseError) (s : Session σ) :
    Action.Sends (MonadExcept.throw error : Action σ α)
      (MonadExcept.throw error : Action (Recorded σ) α) s [] := by
  intro sent
  rw [List.append_nil]
  rfl

/-- A check of the input sends nothing. -/
theorem ofInput (x : Except InputError α) (s : Session σ) :
    Action.Sends (Action.ofInput x) (Action.ofInput x) s [] := by
  intro sent
  rw [List.append_nil]
  cases x <;> rfl

/-- Reporting an event sends nothing. -/
theorem log (event : Event) (s : Session σ) :
    Action.Sends (Action.log event) (Action.log event) s [] := by
  intro sent
  rw [List.append_nil]
  rfl

/-- Reporting an event under a condition sends nothing. -/
theorem logWhen (condition : Bool) (event : Event) (s : Session σ) :
    Action.Sends (Action.logWhen condition event) (Action.logWhen condition event) s [] := by
  cases condition with
  | true => exact log event s
  | false => exact pure () s

/-- Remembering a schema sends nothing. -/
theorem remember (table : String) (schema : TableSchema) (s : Session σ) :
    Action.Sends (modify fun s => s.remember table schema)
      (modify fun s => s.remember table schema) s [] := by
  intro sent
  rw [List.append_nil]
  rfl

/-- What two steps send is sent one after the other. -/
theorem bind {x : α} (ha : a.Sends recorded s new) (hx : a s = (.ok x, s'))
    (hf : (f x).Sends (next x) s' rest) :
    (a >>= f).Sends (recorded >>= next) s (new ++ rest) := by
  intro sent
  have hstep := ha sent
  rw [hx] at hstep
  rw [bind_ok hx, bind_ok hstep, hf, List.append_assoc]

/-- A step that sends nothing adds nothing to what was sent. -/
theorem bind_silent {x : α} (ha : a.Sends recorded s new) (hx : a s = (.ok x, s'))
    (hf : (f x).Sends (next x) s' []) : (a >>= f).Sends (recorded >>= next) s new := by
  have hboth := ha.bind hx hf
  rw [List.append_nil] at hboth
  exact hboth

/-- An error ends what is sent. -/
theorem bind_of_error {e : DatabaseError} (ha : a.Sends recorded s new)
    (he : a s = (.error e, s')) : (a >>= f).Sends (recorded >>= next) s new := by
  intro sent
  have hstep := ha sent
  rw [he] at hstep
  rw [bind_error he, bind_error hstep]

/-- Behind an action with a rest that never sends anything, nothing more is sent, also if there is
no rest because of an error. -/
theorem bind_unsent (ha : a.Sends recorded s new)
    (hf : ∀ x s', (f x).Sends (next x) s' []) : (a >>= f).Sends (recorded >>= next) s new := by
  cases hs : a s with
  | mk result s' =>
    cases result with
    | error e => exact ha.bind_of_error hs
    | ok x => exact ha.bind_silent hs (hf x s')

end Action.Sends

/-- What the recorded form of an operation sends is what the operation sends. -/
theorem Engine.calls_of_sends {e : Engine σ} {op : Operation α} {s : Session σ}
    {new : List SentStatement} (h : (op σ e).Sends (op _ e.recorded) s new) :
    e.calls op s = new := by
  rw [calls, h]
  exact List.nil_append new

/-- An attempt on a recorded database is the attempt, and its statement is recorded. -/
theorem attemptOnce_recorded (limit attempt : UInt32) (sql : String) (logged : Bool)
    (call : SentStatement) (run : σ → Except Fault α × σ) (s : Session σ)
    (sent : List SentStatement) :
    attemptOnce limit sql logged (recordedRun call run) attempt (s.recorded sent) =
      ((attemptOnce limit sql logged run attempt s).1,
        (attemptOnce limit sql logged run attempt s).2.recorded (sent ++ [call])) :=
  rfl

end TableQuery
