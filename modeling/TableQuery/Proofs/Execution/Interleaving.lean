import TableQuery.Proofs.Execution.Attempts
import TableQuery.Proofs.Execution.Run

/-!
# Statements side by side

Several statements are under way at the same time, each with its attempts. An attempt is sent and
answered in two steps, and between them the other statements may take any steps of their own. What
becomes of each statement is still a function of the answers to its own attempts. On a database
these are the answers that it gives in the states in which the attempts find it.
-/

namespace TableQuery

variable {α : Type}

/-- How far a statement has come whose attempts are sent and answered in separate steps. -/
inductive Progress (α : Type) where
  /-- The attempt with this number is to be sent. -/
  | ready (attempt : UInt32)
  /-- The attempt with this number is sent and not answered. -/
  | sent (attempt : UInt32)
  /-- The statement is done. -/
  | finished (result : Except DatabaseError α)

/-- Where a statement stands when an attempt is answered. -/
def Progress.ofState : AttemptState α → Progress α
  | .trying attempt => .ready attempt
  | .finished result => .finished result

/-- What happens with an attempt. -/
inductive AttemptEvent (α : Type) where
  /-- It is sent. -/
  | sent (call : SentStatement)
  /-- It is answered. -/
  | answered (outcome : Except Fault α)

/-- The steps of a statement, for what it sends and the answers to its attempts in their order. -/
inductive AttemptStep (limit : UInt32) (call : SentStatement) (answers : ℕ → Except Fault α) :
    Progress α → AttemptEvent α → Progress α → Prop
  /-- The next attempt is sent. -/
  | send (attempt : UInt32) :
    AttemptStep limit call answers (.ready attempt) (.sent call) (.sent attempt)
  /-- The attempt that was sent is answered, and the statement goes on as the answer says. -/
  | answer (attempt : UInt32) :
    AttemptStep limit call answers (.sent attempt) (.answered (answers (attempt.toNat - 1)))
      (.ofState (.after limit attempt (answers (attempt.toNat - 1))))

/-- The steps of a statement on a database, which is asked when an attempt is answered and goes on
from its state then. -/
inductive AttemptOn {σ : Type} (limit : UInt32) (call : SentStatement)
    (run : σ → Except Fault α × σ) : σ × Progress α → AttemptEvent α → σ × Progress α → Prop
  /-- The next attempt is sent. -/
  | send (db : σ) (attempt : UInt32) :
    AttemptOn limit call run (db, .ready attempt) (.sent call) (db, .sent attempt)
  /-- The database answers the attempt that was sent. -/
  | answer (db : σ) (attempt : UInt32) :
    AttemptOn limit call run (db, .sent attempt) (.answered (run db).1)
      ((run db).2, .ofState (.after limit attempt (run db).1))

/-- The statements that were sent, oldest first. -/
def sentCalls (events : List (AttemptEvent α)) : List SentStatement :=
  events.filterMap fun
    | .sent call => some call
    | .answered _ => none

/-- The answers that have come back, oldest first. -/
def answersIn (events : List (AttemptEvent α)) : List (Except Fault α) :=
  events.filterMap fun
    | .sent _ => none
    | .answered outcome => some outcome

/-- Number of attempts that were sent. -/
def sends (events : List (AttemptEvent α)) : ℕ :=
  events.countP fun
    | .sent _ => true
    | .answered _ => false

/-- Number of attempts that succeeded. -/
def successes (events : List (AttemptEvent α)) : ℕ :=
  events.countP fun
    | .answered outcome => outcome.isOk
    | .sent _ => false

section Counts

variable (events : List (AttemptEvent α))

/-- An attempt that is sent counts. -/
theorem sends_sent (call : SentStatement) : sends (events ++ [.sent call]) = sends events + 1 := by
  rw [sends, List.countP_append]
  rfl

/-- An answer sends nothing. -/
theorem sends_answered (outcome : Except Fault α) :
    sends (events ++ [.answered outcome]) = sends events := by
  rw [sends, List.countP_append]
  rfl

/-- What was sent first and then. -/
theorem sentCalls_append (later : List (AttemptEvent α)) :
    sentCalls (events ++ later) = sentCalls events ++ sentCalls later :=
  List.filterMap_append

/-- The attempts that were sent are those with a statement that was sent. -/
theorem length_sentCalls : (sentCalls events).length = sends events := by
  induction events with
  | nil => rfl
  | cons event rest ih =>
    cases event with
    | sent call =>
      have hsends : sends (.sent call :: rest) = sends rest + 1 := List.countP_cons_of_pos rfl
      rw [hsends, ← ih]
      rfl
    | answered outcome =>
      have hsends : sends (.answered outcome :: rest) = sends rest :=
        List.countP_cons_of_neg Bool.false_ne_true
      rw [hsends, ← ih]
      rfl

/-- Everything that happens is an attempt that is sent or an answer that comes back. -/
theorem sends_add_answers : sends events + (answersIn events).length = events.length := by
  rw [← length_sentCalls]
  induction events with
  | nil => rfl
  | cons event rest ih =>
    cases event with
    | sent call =>
      have hsent : sentCalls (.sent call :: rest) = call :: sentCalls rest := rfl
      have hanswers : answersIn (.sent call :: rest) = answersIn rest := rfl
      rw [hsent, hanswers, List.length_cons, List.length_cons]
      omega
    | answered outcome =>
      have hsent : sentCalls (.answered outcome :: rest) = sentCalls rest := rfl
      have hanswers : answersIn (.answered outcome :: rest) = outcome :: answersIn rest := rfl
      rw [hsent, hanswers, List.length_cons, List.length_cons]
      omega

/-- An attempt that is only sent has not succeeded. -/
theorem successes_sent (call : SentStatement) :
    successes (events ++ [.sent call]) = successes events := by
  rw [successes, List.countP_append]
  rfl

/-- An attempt has succeeded if its answer is a success. -/
theorem successes_answered (outcome : Except Fault α) :
    successes (events ++ [.answered outcome]) = successes events + outcome.isOk.toNat := by
  rw [successes, List.countP_append]
  cases outcome <;> rfl

end Counts

/-- Where a statement stands after some events: the number of attempts that were sent and answered,
and what has come of them. -/
def Progress.Reached (limit : UInt32) (answers : ℕ → Except Fault α)
    (events : List (AttemptEvent α)) : Progress α → Prop
  | .ready attempt => ∃ n, AttemptState.run limit answers n = .trying attempt ∧
      sends events = n ∧ successes events = 0 ∧ events.length = 2 * n
  | .sent attempt => ∃ n, AttemptState.run limit answers n = .trying attempt ∧
      sends events = n + 1 ∧ successes events = 0 ∧ events.length = 2 * n + 1
  | .finished result => ∃ last, AttemptState.Concludes limit answers last result ∧
      sends events = last + 1 ∧ successes events = result.isOk.toNat ∧
      events.length = 2 * (last + 1)

/-- A statement that is done with an answer has succeeded if the answer is a success. -/
theorem AttemptState.isOk_of_after {limit attempt : UInt32} {outcome : Except Fault α}
    {result : Except DatabaseError α} (h : after limit attempt outcome = .finished result) :
    result.isOk = outcome.isOk := by
  cases outcome with
  | ok answer =>
    cases h
    rfl
  | error fault =>
    rw [after] at h
    split at h <;> cases h
    rfl

/-- A step of a statement leads on from where it stands. -/
theorem Progress.Reached.step {limit : UInt32} (hlimit : 0 < limit.toNat) {call : SentStatement}
    {answers : ℕ → Except Fault α} {events : List (AttemptEvent α)} {event : AttemptEvent α}
    {p q : Progress α} (h : p.Reached limit answers events)
    (hstep : AttemptStep limit call answers p event q) :
    q.Reached limit answers (events ++ [event]) := by
  cases hstep with
  | send attempt =>
    obtain ⟨n, hrun, hsends, hsuccesses, hlength⟩ := h
    refine ⟨n, hrun, ?_, ?_, ?_⟩
    · rw [sends_sent, hsends]
    · rw [successes_sent, hsuccesses]
    · rw [List.length_append, hlength, List.length_singleton]
  | answer attempt =>
    obtain ⟨n, hrun, hsends, hsuccesses, hlength⟩ := h
    obtain ⟨hnumber, -⟩ := AttemptState.run_eq_trying hlimit hrun
    -- the number of an attempt says which answer it gets
    have hindex : attempt.toNat - 1 = n := by omega
    have hlonger : (events ++ [AttemptEvent.answered (answers n)]).length = 2 * (n + 1) := by
      rw [List.length_append, hlength, List.length_singleton]
      omega
    rw [hindex]
    cases hafter : AttemptState.after limit attempt (answers n) with
    | trying next =>
      obtain ⟨⟨fault, hfault, -⟩, -⟩ := AttemptState.after_eq_trying hafter
      refine ⟨n + 1, ?_, ?_, ?_, hlonger⟩
      · rw [AttemptState.run, hrun]
        exact hafter
      · rw [sends_answered, hsends]
      · rw [successes_answered, hsuccesses, hfault]
        rfl
    | finished result =>
      refine ⟨n, ⟨attempt, hrun, hafter⟩, ?_, ?_, hlonger⟩
      · rw [sends_answered, hsends]
      · rw [successes_answered, hsuccesses, AttemptState.isOk_of_after hafter, Nat.zero_add]

/-- Every run of a statement has come to where it stands. -/
theorem Progress.reached {limit : UInt32} (hlimit : 0 < limit.toNat) {call : SentStatement}
    {answers : ℕ → Except Fault α} {events : List (AttemptEvent α)} {p : Progress α}
    (h : Run (AttemptStep limit call answers) (.ready 1) events p) :
    p.Reached limit answers events := by
  induction h with
  | start => exact ⟨0, rfl, rfl, rfl, rfl⟩
  | step _ hstep ih => exact ih.step hlimit hstep

/-- A statement sends nothing but itself. -/
theorem Progress.sent_eq {limit : UInt32} {call : SentStatement} {answers : ℕ → Except Fault α}
    {events : List (AttemptEvent α)} {p : Progress α}
    (h : Run (AttemptStep limit call answers) (.ready 1) events p) {c : SentStatement}
    (hc : AttemptEvent.sent c ∈ events) : c = call := by
  induction h with
  | start => cases hc
  | step _ hstep ih =>
    rw [List.mem_append, List.mem_singleton] at hc
    cases hc with
    | inl hbefore => exact ih hbefore
    | inr hlast =>
      cases hlast
      cases hstep
      rfl

/-- A statement that is not done has a next step. -/
theorem Progress.exists_step (limit : UInt32) (call : SentStatement)
    (answers : ℕ → Except Fault α) {p : Progress α} (h : ∀ result, p ≠ .finished result) :
    ∃ event q, AttemptStep limit call answers p event q := by
  cases p with
  | ready attempt => exact ⟨_, _, .send attempt⟩
  | sent attempt => exact ⟨_, _, .answer attempt⟩
  | finished result => exact absurd rfl (h result)

/-- No more steps are taken for a statement than two for each attempt. -/
theorem Progress.Reached.length_le {limit : UInt32} (hlimit : 0 < limit.toNat)
    {answers : ℕ → Except Fault α} {events : List (AttemptEvent α)} {p : Progress α}
    (h : p.Reached limit answers events) : events.length ≤ 2 * limit.toNat := by
  cases p with
  | ready attempt =>
    obtain ⟨n, hrun, -, -, hlength⟩ := h
    obtain ⟨-, hlt, -⟩ := AttemptState.run_eq_trying hlimit hrun
    omega
  | sent attempt =>
    obtain ⟨n, hrun, -, -, hlength⟩ := h
    obtain ⟨-, hlt, -⟩ := AttemptState.run_eq_trying hlimit hrun
    omega
  | finished result =>
    obtain ⟨last, ⟨attempt, hrun, -⟩, -, -, hlength⟩ := h
    obtain ⟨-, hlt, -⟩ := AttemptState.run_eq_trying hlimit hrun
    omega

/-- A statement does not succeed more than once. -/
theorem Progress.Reached.successes_le {limit : UInt32} {answers : ℕ → Except Fault α}
    {events : List (AttemptEvent α)} {p : Progress α} (h : p.Reached limit answers events) :
    successes events ≤ 1 := by
  cases p with
  | ready attempt =>
    obtain ⟨-, -, -, hnone, -⟩ := h
    omega
  | sent attempt =>
    obtain ⟨-, -, -, hnone, -⟩ := h
    omega
  | finished result =>
    obtain ⟨-, -, -, hresult, -⟩ := h
    rw [hresult]
    exact Bool.toNat_le result.isOk

/-- The attempts of a statement that is tried a number of times, each sent and answered before the
next one. -/
def attemptsMade (call : SentStatement) (answers : ℕ → Except Fault α) (count : ℕ) :
    List (AttemptEvent α) :=
  (List.range count).flatMap fun n => [.sent call, .answered (answers n)]

section Made

variable (call : SentStatement) (answers : ℕ → Except Fault α)

/-- One attempt more. -/
theorem attemptsMade_succ (count : ℕ) :
    attemptsMade call answers (count + 1) =
      attemptsMade call answers count ++ [.sent call] ++ [.answered (answers count)] := by
  rw [attemptsMade, List.range_succ, List.flatMap_append, List.append_assoc]
  rfl

/-- The statement was sent with each of the attempts. -/
theorem sentCalls_attemptsMade (count : ℕ) :
    sentCalls (attemptsMade call answers count) = List.replicate count call := by
  induction count with
  | zero => rfl
  | succ count ih =>
    rw [attemptsMade_succ, List.append_assoc, sentCalls_append, ih, List.replicate_succ']
    rfl

/-- That many attempts were sent. -/
theorem sends_attemptsMade (count : ℕ) : sends (attemptsMade call answers count) = count := by
  rw [← length_sentCalls, sentCalls_attemptsMade, List.length_replicate]

end Made

section Database

variable {σ : Type} {limit : UInt32} {run : σ → Except Fault α × σ} {start : σ}

/-- A statement that is still tried after some answers of a database has made these attempts on it,
which is then in the state behind them. -/
theorem AttemptOn.run_of_trying (call : SentStatement) {n : ℕ} {attempt : UInt32}
    (h : AttemptState.run limit (answersFrom run start) n = .trying attempt) :
    Run (AttemptOn limit call run) (start, .ready 1)
      (attemptsMade call (answersFrom run start) n) (stateAfter run start n, .ready attempt) := by
  induction n generalizing attempt with
  | zero =>
    cases h
    exact .start
  | succ n ih =>
    rw [AttemptState.run] at h
    cases hn : AttemptState.run limit (answersFrom run start) n with
    | finished result =>
      rw [hn] at h
      cases h
    | trying before =>
      rw [hn] at h
      have hanswered := ((ih hn).step (.send _ _)).step (.answer _ _)
      have hafter : AttemptState.after limit before (run (stateAfter run start n)).1 =
        .trying attempt := h
      rw [hafter] at hanswered
      rw [attemptsMade_succ]
      exact hanswered

/-- A statement that the answers of a database conclude comes to its end on this database. -/
theorem AttemptState.Concludes.run_on {last : ℕ} {result : Except DatabaseError α}
    (h : Concludes limit (answersFrom run start) last result) (call : SentStatement) :
    Run (AttemptOn limit call run) (start, .ready 1)
      (attemptsMade call (answersFrom run start) (last + 1))
      (stateAfter run start (last + 1), .finished result) := by
  obtain ⟨attempt, htrying, hafter⟩ := h
  have hanswered := ((AttemptOn.run_of_trying call htrying).step (.send _ _)).step (.answer _ _)
  have hdone : after limit attempt (run (stateAfter run start last)).1 = .finished result := hafter
  rw [hdone] at hanswered
  rw [attemptsMade_succ]
  exact hanswered

/-- An attempt that is on its way is answered as the number of answers before it says. -/
theorem Progress.Reached.length_answersIn (hlimit : 0 < limit.toNat)
    {answers : ℕ → Except Fault α} {events : List (AttemptEvent α)} {attempt : UInt32}
    (h : Reached limit answers events (.sent attempt)) :
    attempt.toNat - 1 = (answersIn events).length := by
  obtain ⟨n, hrun, hsends, -, hlength⟩ := h
  obtain ⟨hnumber, -⟩ := AttemptState.run_eq_trying hlimit hrun
  have hcount := sends_add_answers events
  omega

end Database

end TableQuery
