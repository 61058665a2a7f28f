import TableQuery.Proofs.Execution.Attempts

/-!
# Statements under the law of attempts

A statement is sent as often as the law of attempts says, each time with its own text and
parameters, and its outcome is what the law decides. Rows come back normalized, affected rows as
their number.
-/

namespace TableQuery

variable {σ α : Type}

/-- Whatever becomes of an attempt, it says nothing about the input. -/
theorem finalError_ne_input (attempt : UInt32) (fault : Fault) (error : InputError) :
    finalError attempt fault ≠ .input error := by
  unfold finalError
  split
  · rintro ⟨⟩
  · split <;> rintro ⟨⟩

/-- A statement that is done has not failed for its input. -/
theorem AttemptState.Concludes.ne_input {limit : UInt32} {answers : ℕ → Except Fault α} {last : ℕ}
    {outcome : Except DatabaseError α} (h : Concludes limit answers last outcome)
    (error : InputError) : outcome ≠ .error (.input error) := by
  obtain ⟨attempt, -, hafter⟩ := h
  cases hanswer : answers last with
  | ok answer =>
    rw [hanswer] at hafter
    cases hafter
    rintro ⟨⟩
  | error fault =>
    rw [hanswer, after] at hafter
    split at hafter
    · cases hafter
    · cases hafter
      intro h
      exact finalError_ne_input attempt fault error (Except.error.inj h)

/-- How a statement is run under its settings, for the answers that its attempts get: what is sent,
and what comes of it. -/
structure RunsByLaw (settings : EngineSettings) (answers : ℕ → Except Fault α)
    (call : SentStatement) (sent : List SentStatement) (outcome : Except DatabaseError α) :
    Prop where
  /-- As many attempts are made as the law says, and the outcome is the one that it decides. -/
  law : RetryLaw (max 1 settings.maxAttempts.toNat) answers sent.length outcome
  /-- Every attempt sends the same statement with the same parameters. -/
  same : ∀ c ∈ sent, c = call
  /-- Every attempt bears its own number, and no number is beyond the limit. -/
  numbered : ∀ n < sent.length, ∃ attempt,
    AttemptState.run settings.attemptLimit answers n = .trying attempt ∧
      attempt.toNat = n + 1 ∧ attempt.toNat ≤ max 1 settings.maxAttempts.toNat

/-- A statement that is done was run by the law. -/
theorem AttemptState.Concludes.runsByLaw {settings : EngineSettings}
    {answers : ℕ → Except Fault α} {last : ℕ} {outcome : Except DatabaseError α}
    (h : Concludes settings.attemptLimit answers last outcome) (call : SentStatement) :
    RunsByLaw settings answers call (List.replicate (last + 1) call) outcome := by
  have hlaw := h.retryLaw settings.attemptLimit_pos
  obtain ⟨attempt, hrun, -⟩ := h
  refine ⟨?_, fun c hc => List.eq_of_mem_replicate hc, fun n hn => ?_⟩
  · rw [List.length_replicate, ← settings.toNat_attemptLimit]
    exact hlaw
  · rw [List.length_replicate] at hn
    obtain ⟨earlier, hearlier⟩ := trying_of_le (by omega : n ≤ last) hrun
    obtain ⟨hnumber, hlt, -⟩ := run_eq_trying settings.attemptLimit_pos hearlier
    rw [settings.toNat_attemptLimit] at hlt
    exact ⟨earlier, hearlier, hnumber, by omega⟩

namespace Engine

/-- Run a statement: report it, make its attempts, report what came back and take it over. -/
def perform (e : Engine σ) (statement : Statement) (run : σ → Except Fault α × σ)
    (report : α → Event) (finish : α → QueryResult) : Action σ QueryResult := do
  Action.logWhen (e.logs statement) (.executing statement.sql statement.parameters)
  let answer ← withRetry e.settings statement (e.logs statement) run
  Action.logWhen (e.logs statement) (report answer)
  return finish answer

/-- The result that the rows of an answer make. -/
def rowsResult (e : Engine σ) (set : ResultSet) : QueryResult :=
  ⟨set.normalize e.settings.timezone,
    UInt64.ofNat (set.normalize e.settings.timezone).length⟩

/-- The result that a number of affected rows makes. -/
def affectedResult (affected : UInt64) : QueryResult :=
  ⟨[], affected⟩

/-- Fetching is running a statement for its rows. -/
theorem fetch_eq_perform (e : Engine σ) (statement : Statement) :
    e.fetch statement = e.perform statement (e.backend.fetch statement.sql statement.parameters)
      (fun set => .rows (previewRows (set.normalize e.settings.timezone))) e.rowsResult :=
  rfl

/-- Executing is running a statement for the number of rows that it affects. -/
theorem execute_eq_perform (e : Engine σ) (statement : Statement) :
    e.execute statement =
      e.perform statement (e.backend.execute statement.sql statement.parameters)
        (fun affected => .affected affected.toNat) affectedResult :=
  rfl

/-- What running a statement comes to: its attempts are concluded by the answers of the database,
their outcome is the result, and a record has the statement as often as it was tried. -/
theorem perform_concludes (e : Engine σ) (statement : Statement) (run : σ → Except Fault α × σ)
    (report : α → Event) (finish : α → QueryResult) (s : Session σ) :
    ∃ last outcome,
      AttemptState.Concludes e.settings.attemptLimit (answersFrom run s.backend) last outcome ∧
      (e.perform statement run report finish s).1 = outcome.map finish ∧
      (e.perform statement run report finish s).2.backend =
        stateAfter run s.backend (last + 1) ∧
      (e.perform statement run report finish s).2.cache = s.cache ∧
      ∀ call, Action.Sends (e.perform statement run report finish)
        (e.recorded.perform statement (recordedRun call run) report finish) s
        (List.replicate (last + 1) call) := by
  obtain ⟨s₁, hlog, hbackend₁, hcache₁⟩ :=
    Action.Quiet.logWhen (e.logs statement) (.executing statement.sql statement.parameters) s
  obtain ⟨last, hconcludes, hbackend₂, hcache₂, hsends₂⟩ :=
    withRetry_concludes e.settings statement (e.logs statement) run s₁
  rw [hbackend₁] at hconcludes hbackend₂
  -- only a success is reported, and the report touches neither database nor schemas
  have hreport : ∀ answer, Action.Quiet (do
      Action.logWhen (e.logs statement) (report answer)
      return finish answer : Action σ QueryResult) (finish answer) :=
    fun answer => (Action.Quiet.logWhen _ _).bind (.pure _)
  obtain ⟨hresult, hbackend₃, hcache₃⟩ := Action.bind_quiet
    (withRetry e.settings statement (e.logs statement) run) hreport s₁
  have hrun : e.perform statement run report finish s =
      (withRetry e.settings statement (e.logs statement) run >>= fun answer => do
        Action.logWhen (e.logs statement) (report answer)
        return finish answer) s₁ := Action.bind_ok hlog
  rw [hrun]
  refine ⟨last, _, hconcludes, hresult, hbackend₃.trans hbackend₂,
    hcache₃.trans (hcache₂.trans hcache₁), fun call => ?_⟩
  exact (Action.Sends.logWhen _ _ s).bind hlog ((hsends₂ call).bind_unsent fun answer s' =>
    (Action.Sends.logWhen _ _ s').bind_unsent fun _ => .pure (finish answer))

/-- What fetching comes to: the answers of the database conclude it, and it sends its statement as
often as it is tried, to a database that goes from state to state with every attempt. -/
theorem fetch_concludes (e : Engine σ) (statement : Statement) (s : Session σ) :
    ∃ last outcome,
      AttemptState.Concludes e.settings.attemptLimit
        (answersFrom (e.backend.fetch statement.sql statement.parameters) s.backend) last outcome ∧
      (e.fetch statement s).1 = outcome.map e.rowsResult ∧
      (e.fetch statement s).2.backend =
        stateAfter (e.backend.fetch statement.sql statement.parameters) s.backend (last + 1) ∧
      (e.fetch statement s).2.cache = s.cache ∧
      Action.Sends (e.fetch statement) (e.recorded.fetch statement) s
        (List.replicate (last + 1) statement.fetchCall) := by
  obtain ⟨last, outcome, hconcludes, hresult, hbackend, hcache, hsends⟩ :=
    e.perform_concludes statement (e.backend.fetch statement.sql statement.parameters)
      (fun set => .rows (previewRows (set.normalize e.settings.timezone))) e.rowsResult s
  rw [← fetch_eq_perform] at hresult hbackend hcache
  exact ⟨last, outcome, hconcludes, hresult, hbackend, hcache, hsends statement.fetchCall⟩

/-- Running a statement never ends with an error about the input. -/
theorem perform_accepts (e : Engine σ) (statement : Statement) (run : σ → Except Fault α × σ)
    (report : α → Event) (finish : α → QueryResult) :
    Action.Accepts (e.perform statement run report finish) := by
  intro s error
  obtain ⟨last, outcome, hconcludes, hresult, -⟩ :=
    e.perform_concludes statement run report finish s
  rw [hresult]
  cases outcome with
  | ok answer => rintro ⟨⟩
  | error other =>
    intro h
    exact hconcludes.ne_input error (congrArg Except.error (Except.error.inj h))

/-- Fetching never ends with an error about the input. -/
theorem fetch_accepts (e : Engine σ) (statement : Statement) :
    Action.Accepts (e.fetch statement) :=
  e.perform_accepts statement _ _ _

/-- Executing never ends with an error about the input. -/
theorem execute_accepts (e : Engine σ) (statement : Statement) :
    Action.Accepts (e.execute statement) :=
  e.perform_accepts statement _ _ _

/-- A statement is run by the law, for the answers of the database to it. -/
theorem perform_runsByLaw (e : Engine σ) (statement : Statement) (run : σ → Except Fault α × σ)
    (report : α → Event) (finish : α → QueryResult) (call : SentStatement) (s : Session σ) :
    ∃ outcome sent,
      RunsByLaw e.settings (answersFrom run s.backend) call sent outcome ∧
      (e.perform statement run report finish s).1 = outcome.map finish ∧
      (e.perform statement run report finish s).2.backend =
        stateAfter run s.backend sent.length ∧
      Action.Sends (e.perform statement run report finish)
        (e.recorded.perform statement (recordedRun call run) report finish) s sent := by
  obtain ⟨last, outcome, hconcludes, hresult, hbackend, -, hsends⟩ :=
    e.perform_concludes statement run report finish s
  refine ⟨outcome, _, hconcludes.runsByLaw call, hresult, ?_, hsends call⟩
  rw [List.length_replicate]
  exact hbackend

/-- Both ways of running a statement obey the law of attempts, for every number of attempts and
whatever the database answers: what is sent is the statement itself, as often as the law says, and
the result is the outcome that the law decides, as rows or as a number of affected rows. -/
theorem retry_law (e : Engine σ) (statement : Statement) (s : Session σ) :
    (∃ outcome,
      RunsByLaw e.settings
        (answersFrom (e.backend.fetch statement.sql statement.parameters) s.backend)
        ⟨.fetch, statement.sql, statement.parameters⟩
        (e.calls (fun _ e => e.fetch statement) s) outcome ∧
      (e.fetch statement s).1 = outcome.map e.rowsResult ∧
      (e.fetch statement s).2.backend =
        stateAfter (e.backend.fetch statement.sql statement.parameters) s.backend
          (e.calls (fun _ e => e.fetch statement) s).length) ∧
    (∃ outcome,
      RunsByLaw e.settings
        (answersFrom (e.backend.execute statement.sql statement.parameters) s.backend)
        ⟨.execute, statement.sql, statement.parameters⟩
        (e.calls (fun _ e => e.execute statement) s) outcome ∧
      (e.execute statement s).1 = outcome.map affectedResult ∧
      (e.execute statement s).2.backend =
        stateAfter (e.backend.execute statement.sql statement.parameters) s.backend
          (e.calls (fun _ e => e.execute statement) s).length) := by
  constructor
  · obtain ⟨outcome, sent, hlaw, hresult, hbackend, hsends⟩ :=
      e.perform_runsByLaw statement (e.backend.fetch statement.sql statement.parameters)
        (fun set => .rows (previewRows (set.normalize e.settings.timezone))) e.rowsResult
        ⟨.fetch, statement.sql, statement.parameters⟩ s
    rw [← fetch_eq_perform] at hresult hbackend
    have hcalls : e.calls (fun _ e => e.fetch statement) s = sent := calls_of_sends hsends
    rw [hcalls]
    exact ⟨outcome, hlaw, hresult, hbackend⟩
  · obtain ⟨outcome, sent, hlaw, hresult, hbackend, hsends⟩ :=
      e.perform_runsByLaw statement (e.backend.execute statement.sql statement.parameters)
        (fun affected => .affected affected.toNat) affectedResult
        ⟨.execute, statement.sql, statement.parameters⟩ s
    rw [← execute_eq_perform] at hresult hbackend
    have hcalls : e.calls (fun _ e => e.execute statement) s = sent := calls_of_sends hsends
    rw [hcalls]
    exact ⟨outcome, hlaw, hresult, hbackend⟩

end Engine

end TableQuery
