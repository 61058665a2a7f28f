import TableQuery.Proofs.Execution.Engine

/-!
# What an execution reports

The events of a statement are a function of how its attempts are answered. Refused attempts, giving
up and columns that cannot be decoded are reported in any case; the statement itself, its results
and its failure only if statements are logged. What is sent and what comes of it does not depend on
what is reported.
-/

namespace TableQuery

variable {σ α : Type}

/-- The event is reported whether or not statements are logged. -/
def Event.unconditional : Event → Bool
  | .retrying _ _ | .gaveUp _ _ | .undecodable _ _ _ => true
  | _ => false

/-- The events of refused attempts that others follow: one for each, from the first on. -/
def retryEvents (limit count : ℕ) : List Event :=
  (List.range' 1 count).map fun attempt => .retrying attempt limit

/-- One refused attempt more. -/
theorem retryEvents_succ (limit count : ℕ) :
    retryEvents limit (count + 1) = retryEvents limit count ++ [.retrying (count + 1) limit] := by
  rw [retryEvents, List.range'_1_concat, List.map_append, Nat.add_comm 1]
  rfl

/-- The event of an error that a statement ends with. -/
def errorEvents (sql : String) (logged : Bool) : DatabaseError → List Event
  | .refused attempts _ => [.gaveUp attempts sql]
  | .result (.undecodable column detail) => [.undecodable column detail sql]
  | .query fault => if logged then [.failed fault.message sql] else []
  | _ => []

/-- The event that the attempts of a statement end with; a success is not reported yet. -/
def closingEvents (sql : String) (logged : Bool) : Except DatabaseError α → List Event
  | .ok _ => []
  | .error error => errorEvents sql logged error

/-- The event of the outcome of a statement. -/
def outcomeEvents (sql : String) (logged : Bool) (report : α → Event) :
    Except DatabaseError α → List Event
  | .ok answer => if logged then [report answer] else []
  | .error error => errorEvents sql logged error

/-- The event of a statement that is about to be sent, with its parameters. -/
def openingEvents (statement : Statement) (logged : Bool) : List Event :=
  if logged then [.executing statement.sql statement.parameters] else []

/-- A fault that no attempt follows is reported as the error that it leads to. -/
theorem finalEvents_eq (attempt : UInt32) (sql : String) (logged : Bool) (fault : Fault) :
    finalEvents attempt sql logged fault = errorEvents sql logged (finalError attempt fault) := by
  unfold finalEvents finalError
  split
  · rfl
  · cases fault <;> rfl

/-- An attempt that another one follows is reported with its number. -/
theorem attemptEvents_of_trying {limit attempt next : UInt32} {sql : String} {logged : Bool}
    {answer : Except Fault α} (h : AttemptState.after limit attempt answer = .trying next) :
    attemptEvents limit attempt sql logged answer = [.retrying attempt.toNat limit.toNat] := by
  obtain ⟨⟨fault, rfl, hrefused⟩, hlt, -⟩ := AttemptState.after_eq_trying h
  have hagain : (fault.isRefused && decide (attempt < limit)) = true := by
    simp [hrefused, UInt32.lt_iff_toNat_lt, hlt]
  rw [attemptEvents, if_pos hagain]

/-- An attempt that is final is reported as its error; a success not at all. -/
theorem attemptEvents_of_finished {limit attempt : UInt32} {sql : String} {logged : Bool}
    {answer : Except Fault α} {outcome : Except DatabaseError α}
    (h : AttemptState.after limit attempt answer = .finished outcome) :
    attemptEvents limit attempt sql logged answer = closingEvents sql logged outcome := by
  cases answer with
  | ok result =>
    cases h
    rfl
  | error fault =>
    rw [AttemptState.after] at h
    split at h
    · cases h
    · next hlast =>
      cases h
      rw [attemptEvents, if_neg hlast, finalEvents_eq, closingEvents]

/-- How far a statement has come after a number of attempts, and the session then. -/
def afterAttempts (limit : UInt32) (sql : String) (logged : Bool) (run : σ → Except Fault α × σ)
    (s : Session σ) : ℕ → AttemptState α × Session σ
  | 0 => (.trying 1, s)
  | n + 1 =>
    match afterAttempts limit sql logged run s n with
    | (.trying attempt, s) => attemptOnce limit sql logged run attempt s
    | done => done

section Attempts

variable {limit : UInt32} {sql : String} {logged : Bool} {run : σ → Except Fault α × σ}
  {s : Session σ}

/-- Where a further attempt follows, those before it have been sent and reported, each once. -/
theorem afterAttempts_of_trying (hlimit : 0 < limit.toNat) {n : ℕ} {attempt : UInt32}
    (h : AttemptState.run limit (answersFrom run s.backend) n = .trying attempt) :
    afterAttempts limit sql logged run s n = (.trying attempt,
      { s with
        backend := stateAfter run s.backend n
        events := s.events ++ retryEvents limit.toNat n }) := by
  induction n generalizing attempt with
  | zero =>
    cases h
    rw [afterAttempts, retryEvents, List.range'_zero, List.map_nil, List.append_nil]
    rfl
  | succ n ih =>
    rw [AttemptState.run] at h
    cases hn : AttemptState.run limit (answersFrom run s.backend) n with
    | finished outcome =>
      rw [hn] at h
      cases h
    | trying before =>
      rw [hn] at h
      have hnumber := (AttemptState.run_eq_trying hlimit hn).1
      rw [afterAttempts, ih hn]
      dsimp only [attemptOnce]
      have hafter : AttemptState.after limit before (run (stateAfter run s.backend n)).1 =
        .trying attempt := h
      rw [hafter, attemptEvents_of_trying hafter, retryEvents_succ, hnumber, List.append_assoc]
      rfl

/-- The attempts from the first on go through the sessions after each of them. -/
theorem attempts_eq_of_trying {n : ℕ} {attempt : UInt32} {t : Session σ}
    (h : afterAttempts limit sql logged run s n = (.trying attempt, t)) :
    attempts limit sql logged run 1 s = attempts limit sql logged run attempt t := by
  induction n generalizing attempt t with
  | zero =>
    cases h
    rfl
  | succ n ih =>
    rw [afterAttempts] at h
    cases hn : afterAttempts limit sql logged run s n with
    | mk state u =>
      rw [hn] at h
      cases state with
      | trying before => rw [ih hn, attempts_of_trying h]
      | finished outcome => cases h

/-- What the attempts of a statement come to, for the answer that concludes them. -/
theorem attempts_eq (hlimit : 0 < limit.toNat) {last : ℕ} {outcome : Except DatabaseError α}
    (h : AttemptState.Concludes limit (answersFrom run s.backend) last outcome) :
    attempts limit sql logged run 1 s = (outcome,
      { s with
        backend := stateAfter run s.backend (last + 1)
        events := s.events ++ retryEvents limit.toNat last ++
          closingEvents sql logged outcome }) := by
  obtain ⟨attempt, hrun, hafter⟩ := h
  rw [attempts_eq_of_trying (afterAttempts_of_trying hlimit hrun)]
  refine attempts_of_finished ?_
  dsimp only [attemptOnce]
  have hanswer : AttemptState.after limit attempt (run (stateAfter run s.backend last)).1 =
    .finished outcome := hafter
  rw [hanswer, attemptEvents_of_finished hanswer]
  rfl

end Attempts

/-- The session with the event of a statement that is about to be sent. -/
def Session.opened (s : Session σ) (statement : Statement) (logged : Bool) : Session σ :=
  { s with events := s.events ++ openingEvents statement logged }

/-- Reporting an event under a condition adds it if the condition holds. -/
theorem Action.logWhen_eq (condition : Bool) (event : Event) (s : Session σ) :
    Action.logWhen condition event s =
      (.ok (), { s with events := s.events ++ if condition then [event] else [] }) := by
  cases condition with
  | true => rfl
  | false =>
    rw [if_neg (by decide), List.append_nil]
    rfl

/-- Only refused attempts, giving up and columns that cannot be decoded are reported in any case. -/
theorem filter_unconditional {report : α → Event}
    (hreport : ∀ answer, (report answer).unconditional = false) (statement : Statement)
    (logged : Bool) (limit count : ℕ) (outcome : Except DatabaseError α) :
    (openingEvents statement logged ++ retryEvents limit count ++
        outcomeEvents statement.sql logged report outcome).filter Event.unconditional =
      retryEvents limit count ++ closingEvents statement.sql false outcome := by
  have hopening : (openingEvents statement logged).filter Event.unconditional = [] := by
    cases logged <;> rfl
  have hretries : (retryEvents limit count).filter Event.unconditional =
      retryEvents limit count := by
    rw [retryEvents, List.filter_map]
    exact congrArg _ (List.filter_eq_self.2 fun _ _ => rfl)
  have houtcome : (outcomeEvents statement.sql logged report outcome).filter Event.unconditional =
      closingEvents statement.sql false outcome := by
    cases outcome with
    | ok answer =>
      cases logged with
      | true =>
        rw [outcomeEvents, if_pos rfl, List.filter_singleton, hreport]
        rfl
      | false => rfl
    | error error =>
      cases error with
      | query fault => cases logged <;> rfl
      | result error => cases error <;> rfl
      | _ => rfl
  rw [List.filter_append, List.filter_append, hopening, hretries, houtcome, List.nil_append]

/-- What is reported while a statement is run, for the number of its attempts and its outcome. -/
structure ReportsByLaw (limit : UInt32) (statement : Statement) (logged : Bool)
    (run : σ → Except Fault α × σ) (report : α → Event) (s : Session σ) (attempts : ℕ)
    (outcome : Except DatabaseError α) (s' : Session σ) : Prop where
  /-- Before an attempt the statement is reported, if it is, and every attempt so far, each of them
  refused, with its number. -/
  before : ∀ n < attempts, ∃ attempt : UInt32, attempt.toNat = n + 1 ∧
    afterAttempts limit statement.sql logged run (s.opened statement logged) n =
      (.trying attempt,
        { s with
          backend := stateAfter run s.backend n
          events := s.events ++ openingEvents statement logged ++ retryEvents limit.toNat n })
  /-- Of all attempts only the last is not reported as one that others follow, but as the outcome
  that it has. -/
  events : s'.events = s.events ++ openingEvents statement logged ++
    retryEvents limit.toNat (attempts - 1) ++ outcomeEvents statement.sql logged report outcome

namespace Engine

/-- The engine, with its statements logged or not. -/
def withLogging (e : Engine σ) (logging : Bool) : Engine σ :=
  ⟨e.backend, { e.settings with logStatements := logging }⟩

/-- Two engines do the same in an operation: what they send, what comes of it and what is reported
in any case. -/
structure DoAlike (e e' : Engine σ) (op : Operation α) (s : Session σ) : Prop where
  /-- They send the same statements. -/
  calls : e.calls op s = e'.calls op s
  /-- They have the same result. -/
  result : (op σ e s).1 = (op σ e' s).1
  /-- They leave the database in the same state. -/
  backend : (op σ e s).2.backend = (op σ e' s).2.backend
  /-- They remember the same schemas. -/
  cache : (op σ e s).2.cache = (op σ e' s).2.cache
  /-- They report the same refused attempts, the same giving up and the same columns that cannot be
  decoded. -/
  events : (op σ e s).2.events.filter Event.unconditional =
    (op σ e' s).2.events.filter Event.unconditional

section Perform

variable {statement : Statement} {run : σ → Except Fault α × σ} {report : α → Event}
  {finish : α → QueryResult} {s : Session σ} {last : ℕ} {outcome : Except DatabaseError α}

/-- What running a statement comes to, session and all, for the answer that concludes it. -/
theorem perform_eq (e : Engine σ) (statement : Statement) (report : α → Event)
    (finish : α → QueryResult)
    (h : AttemptState.Concludes e.settings.attemptLimit (answersFrom run s.backend) last outcome) :
    e.perform statement run report finish s = (outcome.map finish,
      { s with
        backend := stateAfter run s.backend (last + 1)
        events := s.events ++ openingEvents statement (e.logs statement) ++
          retryEvents e.settings.attemptLimit.toNat last ++
          outcomeEvents statement.sql (e.logs statement) report outcome }) := by
  have hopening : Action.logWhen (e.logs statement)
      (.executing statement.sql statement.parameters) s =
      (.ok (), s.opened statement (e.logs statement)) := Action.logWhen_eq _ _ _
  have hattempts : withRetry e.settings statement (e.logs statement) run
      (s.opened statement (e.logs statement)) = _ :=
    attempts_eq e.settings.attemptLimit_pos h
  cases outcome with
  | error error =>
    rw [perform, Action.bind_ok hopening, Action.bind_error hattempts]
    rfl
  | ok answer =>
    rw [perform, Action.bind_ok hopening, Action.bind_ok hattempts,
      Action.bind_ok (Action.logWhen_eq _ _ _), closingEvents, List.append_nil]
    rfl

/-- What running a statement sends, for the answer that concludes it. -/
theorem perform_sends (e : Engine σ)
    (h : AttemptState.Concludes e.settings.attemptLimit (answersFrom run s.backend) last outcome)
    (call : SentStatement) :
    Action.Sends (e.perform statement run report finish)
      (e.recorded.perform statement (recordedRun call run) report finish) s
      (List.replicate (last + 1) call) := by
  obtain ⟨_, _, hconcludes, -, -, -, hsends⟩ :=
    e.perform_concludes statement run report finish s
  rw [← (hconcludes.unique h).1]
  exact hsends call

/-- What running a statement reports, for the answer that concludes it. -/
theorem perform_reports (e : Engine σ)
    (h : AttemptState.Concludes e.settings.attemptLimit (answersFrom run s.backend) last outcome) :
    ReportsByLaw e.settings.attemptLimit statement (e.logs statement) run report s (last + 1)
      outcome (e.perform statement run report finish s).2 := by
  refine ⟨fun n hn => ?_, ?_⟩
  · obtain ⟨attempt, hrun, -⟩ := h
    obtain ⟨earlier, hearlier⟩ := AttemptState.trying_of_le (by omega : n ≤ last) hrun
    have hlimit := e.settings.attemptLimit_pos
    exact ⟨earlier, (AttemptState.run_eq_trying hlimit hearlier).1,
      afterAttempts_of_trying hlimit hearlier⟩
  · rw [e.perform_eq statement report finish h]
    rfl

/-- An operation that runs a statement runs and reports it by the law, and does the same whether or
not statements are logged. -/
theorem performs_alike {op : Operation QueryResult} {call : SentStatement} (e : Engine σ)
    (hop : ∀ logging, op σ (e.withLogging logging) =
      (e.withLogging logging).perform statement run report finish)
    (hrecorded : ∀ logging, op _ (e.withLogging logging).recorded =
      (e.withLogging logging).recorded.perform statement (recordedRun call run) report finish)
    (hreport : ∀ answer, (report answer).unconditional = false) (logging logging' : Bool)
    (s : Session σ) :
    DoAlike (e.withLogging logging) (e.withLogging logging') op s ∧
      ∃ outcome,
        RunsByLaw e.settings (answersFrom run s.backend) call
          ((e.withLogging logging).calls op s) outcome ∧
        (op σ (e.withLogging logging) s).1 = outcome.map finish ∧
        ReportsByLaw e.settings.attemptLimit statement (logging && !statement.catalog) run
          report s ((e.withLogging logging).calls op s).length outcome
          (op σ (e.withLogging logging) s).2 := by
  obtain ⟨last, outcome, h⟩ :=
    exists_concludes e.settings.attemptLimit (answersFrom run s.backend)
  have hcalls : ∀ logging, (e.withLogging logging).calls op s = List.replicate (last + 1) call := by
    intro logging
    refine calls_of_sends ?_
    rw [hop, hrecorded]
    exact (e.withLogging logging).perform_sends h call
  have hperform : ∀ logging, op σ (e.withLogging logging) s = _ := fun logging =>
    (congrFun (hop logging) s).trans ((e.withLogging logging).perform_eq statement report finish h)
  refine ⟨⟨?_, ?_, ?_, ?_, ?_⟩, outcome, ?_, ?_, ?_⟩
  · rw [hcalls, hcalls]
  · rw [hperform, hperform]
  · rw [hperform, hperform]
  · rw [hperform, hperform]
  · rw [hperform, hperform]
    simp only [List.append_assoc, List.filter_append s.events]
    simp only [← List.append_assoc, filter_unconditional hreport]
    rfl
  · rw [hcalls]
    exact h.runsByLaw call
  · rw [hperform]
  · rw [hcalls, List.length_replicate, hop]
    exact (e.withLogging logging).perform_reports h

end Perform

/-- Whether statements are logged changes nothing but what is reported, for any statement and
whatever the database answers. Refused attempts are reported with their numbers, from the first on,
and giving up and columns that cannot be decoded as well; the statement, what comes back and its
failure are reported exactly if statements are logged and this one is not for the catalog. -/
theorem logging_changes_nothing (e : Engine σ) (statement : Statement) (logging logging' : Bool)
    (s : Session σ) :
    (DoAlike (e.withLogging logging) (e.withLogging logging') (fun _ e => e.fetch statement) s ∧
      ∃ outcome,
        RunsByLaw e.settings
          (answersFrom (e.backend.fetch statement.sql statement.parameters) s.backend)
          ⟨.fetch, statement.sql, statement.parameters⟩
          ((e.withLogging logging).calls (fun _ e => e.fetch statement) s) outcome ∧
        ((e.withLogging logging).fetch statement s).1 = outcome.map e.rowsResult ∧
        ReportsByLaw e.settings.attemptLimit statement (logging && !statement.catalog)
          (e.backend.fetch statement.sql statement.parameters)
          (fun set => .rows (previewRows (set.normalize e.settings.timezone))) s
          ((e.withLogging logging).calls (fun _ e => e.fetch statement) s).length outcome
          ((e.withLogging logging).fetch statement s).2) ∧
    (DoAlike (e.withLogging logging) (e.withLogging logging') (fun _ e => e.execute statement) s ∧
      ∃ outcome,
        RunsByLaw e.settings
          (answersFrom (e.backend.execute statement.sql statement.parameters) s.backend)
          ⟨.execute, statement.sql, statement.parameters⟩
          ((e.withLogging logging).calls (fun _ e => e.execute statement) s) outcome ∧
        ((e.withLogging logging).execute statement s).1 = outcome.map affectedResult ∧
        ReportsByLaw e.settings.attemptLimit statement (logging && !statement.catalog)
          (e.backend.execute statement.sql statement.parameters)
          (fun affected => .affected affected.toNat) s
          ((e.withLogging logging).calls (fun _ e => e.execute statement) s).length outcome
          ((e.withLogging logging).execute statement s).2) :=
  ⟨e.performs_alike (fun _ => rfl) (fun _ => rfl) (fun _ => rfl) logging logging' s,
    e.performs_alike (fun _ => rfl) (fun _ => rfl) (fun _ => rfl) logging logging' s⟩

end Engine

end TableQuery
