import Mathlib.Data.ENat.Lattice
import TableQuery.Proofs.Execution.Recording

/-!
# The law of attempts

What becomes of a statement is a function of how its attempts are answered. Refused attempts are
repeated up to the limit, and the first other answer decides. The law is stated for any sequence of
answers, and a run of attempts against a database obeys it for the answers that this database gives.
-/

namespace TableQuery

variable {σ α : Type}

/-- The attempt was refused. -/
def Refused (outcome : Except Fault α) : Prop :=
  ∃ fault, outcome = .error fault ∧ fault.isRefused = true

/-- Number of refused attempts before the first other one; infinite if there is no other one. -/
noncomputable def leadingRefusals (answers : ℕ → Except Fault α) : ℕ∞ :=
  ⨅ n, ⨅ _ : ¬Refused (answers n), (n : ℕ∞)

/-- There are at least as many refused attempts as a number exactly if all below it are refused. -/
theorem le_leadingRefusals_iff {answers : ℕ → Except Fault α} {m : ℕ} :
    (m : ℕ∞) ≤ leadingRefusals answers ↔ ∀ i < m, Refused (answers i) := by
  rw [leadingRefusals, le_iInf₂_iff]
  constructor
  · intro h i hi
    by_contra hother
    have hle : m ≤ i := by exact_mod_cast h i hother
    omega
  · intro h n hother
    by_contra hlt
    rw [not_le] at hlt
    exact hother (h n (by exact_mod_cast hlt))

/-- The number of refused attempts is that of the first other one. -/
theorem leadingRefusals_eq_iff {answers : ℕ → Except Fault α} {n : ℕ} :
    leadingRefusals answers = n ↔ (∀ i < n, Refused (answers i)) ∧ ¬Refused (answers n) := by
  have hsucc : (∀ i < n + 1, Refused (answers i)) ↔
      (∀ i < n, Refused (answers i)) ∧ Refused (answers n) := Nat.forall_lt_succ_right
  constructor
  · intro h
    have hbelow := le_leadingRefusals_iff.1 h.ge
    refine ⟨hbelow, fun hn => ?_⟩
    have hle := le_leadingRefusals_iff.2 (hsucc.2 ⟨hbelow, hn⟩)
    rw [h] at hle
    have : n + 1 ≤ n := by exact_mod_cast hle
    omega
  · rintro ⟨hbelow, hn⟩
    refine le_antisymm (iInf₂_le n hn) (le_leadingRefusals_iff.2 hbelow)

/-- What an answer that is not refused decides. -/
def decision : Except Fault α → Except DatabaseError α
  | .ok result => .ok result
  | .error (.columnDecode column detail) => .error (.result (.undecodable column detail))
  | .error fault => .error (.query fault)

/-- The law of attempts: how many are made and what comes of them, for a limit and the answers that
they get. -/
structure RetryLaw (limit : ℕ) (answers : ℕ → Except Fault α) (calls : ℕ)
    (result : Except DatabaseError α) : Prop where
  /-- One attempt more than are refused is made, but no more than the limit. -/
  calls_eq : (calls : ℕ∞) = min (leadingRefusals answers + 1) limit
  /-- Attempts are given up exactly if as many are refused as may be made. -/
  refused_iff : (∃ n fault, result = .error (.refused n fault)) ↔
    (limit : ℕ∞) ≤ leadingRefusals answers
  /-- What is given up tells the number of attempts and how the last one was refused. -/
  refused_eq : ∀ n fault, result = .error (.refused n fault) →
    n = limit ∧ answers (limit - 1) = .error fault
  /-- Otherwise the first answer that is not refused decides. -/
  decided : ∀ n < limit, leadingRefusals answers = n → result = decision (answers n)

/-- A fault other than a refusal leads to the error that it decides. -/
theorem finalError_of_not_refused (attempt : UInt32) {fault : Fault}
    (h : fault.isRefused = false) :
    (.error (finalError attempt fault) : Except DatabaseError α) = decision (.error fault) := by
  unfold finalError
  rw [h, if_neg (by decide)]
  cases fault <;> rfl

/-- An answer that is not refused decides. -/
theorem after_of_not_refused {limit attempt : UInt32} {outcome : Except Fault α}
    (h : ¬Refused outcome) :
    AttemptState.after limit attempt outcome = .finished (decision outcome) := by
  cases outcome with
  | ok result => rfl
  | error fault =>
    have hother : fault.isRefused = false :=
      Bool.eq_false_iff.2 fun hrefused => h ⟨fault, rfl, hrefused⟩
    rw [AttemptState.after, hother, Bool.false_and, if_neg (by decide),
      finalError_of_not_refused attempt hother]

/-- A refused attempt is repeated below the limit and given up at it. -/
theorem after_of_refused {limit attempt : UInt32} {fault : Fault} (h : fault.isRefused = true) :
    AttemptState.after limit attempt (.error fault : Except Fault α) =
      if attempt < limit then .trying (attempt + 1)
      else .finished (.error (.refused attempt.toNat fault)) := by
  have hgiven : finalError attempt fault = .refused attempt.toNat fault := if_pos h
  rw [AttemptState.after, hgiven, h, Bool.true_and]
  simp only [decide_eq_true_eq]

/-- What an answer decides is never that attempts are given up. -/
theorem decision_ne_refused (outcome : Except Fault α) (n : ℕ) (fault : Fault) :
    decision outcome ≠ .error (.refused n fault) := by
  cases outcome with
  | ok result => exact fun h => by cases h
  | error other => cases other <;> exact fun h => by cases h

namespace AttemptState

/-- How far a statement has come when a number of its attempts are answered. -/
def run (limit : UInt32) (answers : ℕ → Except Fault α) : ℕ → AttemptState α
  | 0 => .trying 1
  | n + 1 =>
    match run limit answers n with
    | .trying attempt => after limit attempt (answers n)
    | .finished result => .finished result

/-- As long as attempts follow, all before were refused, and their number is the one that is counted
with them: it stays within the limit. -/
theorem run_eq_trying {limit : UInt32} (hlimit : 0 < limit.toNat) {answers : ℕ → Except Fault α}
    {n : ℕ} {attempt : UInt32} (h : run limit answers n = .trying attempt) :
    attempt.toNat = n + 1 ∧ n < limit.toNat ∧ ∀ i < n, Refused (answers i) := by
  induction n generalizing attempt with
  | zero =>
    cases h
    exact ⟨rfl, hlimit, fun i hi => by omega⟩
  | succ n ih =>
    rw [run] at h
    cases hn : run limit answers n with
    | finished result =>
      rw [hn] at h
      cases h
    | trying before =>
      rw [hn] at h
      obtain ⟨hbefore, -, hrefused⟩ := ih hn
      obtain ⟨hanswer, hlt, hnext⟩ := after_eq_trying h
      exact ⟨by omega, by omega, Nat.forall_lt_succ_right.2 ⟨hrefused, hanswer⟩⟩

/-- A statement that is still tried after some answers was tried after fewer. -/
theorem trying_of_le {limit : UInt32} {answers : ℕ → Except Fault α} {n m : ℕ} (hle : n ≤ m)
    {attempt : UInt32} (h : run limit answers m = .trying attempt) :
    ∃ earlier, run limit answers n = .trying earlier := by
  induction m, hle using Nat.le_induction generalizing attempt with
  | base => exact ⟨attempt, h⟩
  | succ m _ ih =>
    rw [run] at h
    cases hm : run limit answers m with
    | trying before => exact ih hm
    | finished result =>
      rw [hm] at h
      cases h

/-- The statement is done with the answer of a number: it was tried until then and no attempt
follows. -/
def Concludes (limit : UInt32) (answers : ℕ → Except Fault α) (n : ℕ)
    (result : Except DatabaseError α) : Prop :=
  ∃ attempt, run limit answers n = .trying attempt ∧
    after limit attempt (answers n) = .finished result

/-- A statement whose first attempt succeeds is done with it. -/
theorem Concludes.of_ok {limit : UInt32} {answers : ℕ → Except Fault α} {answer : α}
    (h : answers 0 = .ok answer) : Concludes limit answers 0 (.ok answer) := by
  refine ⟨1, rfl, ?_⟩
  rw [h]
  rfl

/-- A statement that is done stays so. -/
theorem run_of_finished {limit : UInt32} {answers : ℕ → Except Fault α} {n m : ℕ} (hle : n ≤ m)
    {result : Except DatabaseError α} (h : run limit answers n = .finished result) :
    run limit answers m = .finished result := by
  induction m, hle using Nat.le_induction with
  | base => exact h
  | succ m _ ih => rw [run, ih]

/-- A statement that is done with an answer is not done with a later one. -/
theorem Concludes.le {limit : UInt32} {answers : ℕ → Except Fault α} {n m : ℕ}
    {result other : Except DatabaseError α} (h : Concludes limit answers n result)
    (h' : Concludes limit answers m other) : m ≤ n := by
  obtain ⟨attempt, hn, hafter⟩ := h
  obtain ⟨later, hm, -⟩ := h'
  have hdone : run limit answers (n + 1) = .finished result := by
    rw [run, hn]
    exact hafter
  by_contra hlt
  rw [run_of_finished (by omega : n + 1 ≤ m) hdone] at hm
  cases hm

/-- A statement is done with one answer and in one way. -/
theorem Concludes.unique {limit : UInt32} {answers : ℕ → Except Fault α} {n m : ℕ}
    {result other : Except DatabaseError α} (h : Concludes limit answers n result)
    (h' : Concludes limit answers m other) : n = m ∧ result = other := by
  have hsame : n = m := le_antisymm (h'.le h) (h.le h')
  subst hsame
  obtain ⟨attempt, hn, hafter⟩ := h
  obtain ⟨attempt', hn', hafter'⟩ := h'
  rw [hn] at hn'
  cases hn'
  rw [hafter] at hafter'
  cases hafter'
  exact ⟨rfl, rfl⟩

/-- A statement that is done has obeyed the law of attempts. -/
theorem Concludes.retryLaw {limit : UInt32} (hlimit : 0 < limit.toNat)
    {answers : ℕ → Except Fault α} {n : ℕ} {result : Except DatabaseError α}
    (h : Concludes limit answers n result) : RetryLaw limit.toNat answers (n + 1) result := by
  obtain ⟨attempt, hrun, hafter⟩ := h
  obtain ⟨hattempt, hlt, hbelow⟩ := run_eq_trying hlimit hrun
  by_cases hrefused : Refused (answers n)
  · -- the last attempt was refused, so it was the one at the limit
    have hall := Nat.forall_lt_succ_right.2 ⟨hbelow, hrefused⟩
    obtain ⟨fault, hfault, hisRefused⟩ := hrefused
    rw [hfault, after_of_refused hisRefused] at hafter
    split at hafter
    · cases hafter
    · next hend =>
      rw [UInt32.lt_iff_toNat_lt, hattempt] at hend
      have hlast : n + 1 = limit.toNat := by omega
      have hle : ((n + 1 : ℕ) : ℕ∞) ≤ leadingRefusals answers := le_leadingRefusals_iff.2 hall
      cases hafter
      rw [hattempt, ← hlast]
      refine ⟨?_, ⟨fun _ => hle, fun _ => ⟨_, _, rfl⟩⟩, ?_, ?_⟩
      · rw [min_eq_right (hle.trans le_self_add)]
      · rintro _ _ ⟨⟩
        exact ⟨rfl, hfault⟩
      · intro m hm hlead
        have hle' : n + 1 ≤ m := by
          rw [hlead] at hle
          exact_mod_cast hle
        omega
  · have hlead := leadingRefusals_eq_iff.2 ⟨hbelow, hrefused⟩
    rw [after_of_not_refused hrefused] at hafter
    cases hafter
    have hother := decision_ne_refused (answers n)
    refine ⟨?_, ⟨?_, ?_⟩, fun m fault hm => absurd hm (hother m fault), ?_⟩
    · rw [hlead, min_eq_left (by exact_mod_cast hlt)]
      rfl
    · rintro ⟨m, fault, hm⟩
      exact absurd hm (hother m fault)
    · intro hle
      rw [hlead] at hle
      have : limit.toNat ≤ n := by exact_mod_cast hle
      omega
    · intro m hm hlead'
      rw [hlead] at hlead'
      have : n = m := by exact_mod_cast hlead'
      rw [this]

end AttemptState

/-- The database after a statement was sent to it a number of times. -/
def stateAfter (run : σ → α × σ) (start : σ) : ℕ → σ
  | 0 => start
  | n + 1 => (run (stateAfter run start n)).2

/-- The answers of a database to a statement that is sent to it again and again. -/
def answersFrom (run : σ → α × σ) (start : σ) (n : ℕ) : α :=
  (run (stateAfter run start n)).1

/-- Every sequence of answers is given by some database. -/
theorem exists_answersFrom_eq (answers : ℕ → α) :
    ∃ run : ℕ → α × ℕ, answersFrom run 0 = answers := by
  refine ⟨fun n => (answers n, n + 1), funext fun n => ?_⟩
  have hstate : stateAfter (fun n => (answers n, n + 1)) 0 n = n := by
    induction n with
    | zero => rfl
    | succ n ih => rw [stateAfter, ih]
  rw [answersFrom, hstate]

/-- Attempts against a database are concluded by the answers of this database. They leave it as it
is after as many of them, and a record has its statement as often. -/
theorem attempts_concludes {limit : UInt32} {sql : String} {logged : Bool}
    {run : σ → Except Fault α × σ} {start : σ} {n : ℕ} {attempt : UInt32} {s : Session σ}
    (hback : s.backend = stateAfter run start n)
    (hrun : AttemptState.run limit (answersFrom run start) n = .trying attempt) :
    ∃ last, n ≤ last ∧
      AttemptState.Concludes limit (answersFrom run start) last
        (attempts limit sql logged run attempt s).1 ∧
      (attempts limit sql logged run attempt s).2.backend = stateAfter run start (last + 1) ∧
      (attempts limit sql logged run attempt s).2.cache = s.cache ∧
      ∀ call, Action.Sends (attempts limit sql logged run attempt)
        (attempts limit sql logged (recordedRun call run) attempt) s
        (List.replicate (last + 1 - n) call) := by
  have hanswer : answersFrom run start n = (run s.backend).1 := by rw [answersFrom, hback]
  -- along the loop, with `n` the number of attempts that are answered already
  induction attempt, s using attempts.induct limit sql logged run generalizing n with
  | case1 attempt s next s' hnext ih =>
    have hback' : s'.backend = stateAfter run start (n + 1) := by
      rw [stateAfter, ← hback]
      exact congrArg (fun p => p.2.backend) hnext.symm
    have hrun' : AttemptState.run limit (answersFrom run start) (n + 1) = .trying next := by
      rw [AttemptState.run, hrun, hanswer]
      exact congrArg Prod.fst hnext
    obtain ⟨last, hle, hlast, hafter, hcache, hrecorded⟩ :=
      ih hback' hrun' (by rw [answersFrom, hback'])
    rw [attempts_of_trying hnext]
    refine ⟨last, by omega, hlast, hafter,
      hcache.trans (congrArg (fun p => p.2.cache) hnext.symm), fun call sent => ?_⟩
    have hstep := attemptOnce_recorded limit attempt sql logged call run s sent
    have hcount : last + 1 - n = last + 1 - (n + 1) + 1 := by omega
    rw [hnext] at hstep
    rw [attempts_of_trying hstep, attempts_of_trying hnext, hrecorded, hcount, List.replicate_succ,
      List.append_assoc, List.singleton_append]
  | case2 attempt s result s' hresult =>
    rw [attempts_of_finished hresult]
    refine ⟨n, le_rfl, ⟨attempt, hrun, ?_⟩, ?_, congrArg (fun p => p.2.cache) hresult.symm,
      fun call sent => ?_⟩
    · rw [hanswer]
      exact congrArg Prod.fst hresult
    · rw [stateAfter, ← hback]
      exact congrArg (fun p => p.2.backend) hresult.symm
    · have hstep := attemptOnce_recorded limit attempt sql logged call run s sent
      rw [hresult] at hstep
      rw [attempts_of_finished hstep, attempts_of_finished hresult, Nat.add_sub_cancel_left]
      rfl

/-- Whatever its answers are, a statement is done at some time. -/
theorem exists_concludes (limit : UInt32) (answers : ℕ → Except Fault α) :
    ∃ last result, AttemptState.Concludes limit answers last result := by
  obtain ⟨run, rfl⟩ := exists_answersFrom_eq answers
  have hstart : (Session.start 0 false).backend = stateAfter run 0 0 := rfl
  have hfirst : AttemptState.run limit (answersFrom run 0) 0 = .trying 1 := rfl
  obtain ⟨last, -, hlast, -⟩ := @attempts_concludes _ _ limit "" false run 0 0 1 _ hstart hfirst
  exact ⟨last, _, hlast⟩

/-- A statement with all its attempts is concluded by the answers of the database. -/
theorem withRetry_concludes (settings : EngineSettings) (statement : Statement) (logged : Bool)
    (run : σ → Except Fault α × σ) (s : Session σ) :
    ∃ last,
      AttemptState.Concludes settings.attemptLimit (answersFrom run s.backend) last
        (withRetry settings statement logged run s).1 ∧
      (withRetry settings statement logged run s).2.backend =
        stateAfter run s.backend (last + 1) ∧
      (withRetry settings statement logged run s).2.cache = s.cache ∧
      ∀ call, Action.Sends (withRetry settings statement logged run)
        (withRetry settings statement logged (recordedRun call run)) s
        (List.replicate (last + 1) call) := by
  have hstart : s.backend = stateAfter run s.backend 0 := rfl
  have hfirst : AttemptState.run settings.attemptLimit (answersFrom run s.backend) 0 =
      .trying 1 := rfl
  obtain ⟨last, -, hlast⟩ := attempts_concludes hstart hfirst
  exact ⟨last, hlast⟩

end TableQuery
