import TableQuery.Proofs.Database.InputErrors
import TableQuery.Proofs.Execution.Interleaving

/-!
# Inserting several rows at the same time

The rows of an insert are under way at the same time, and their attempts may be sent and answered in
any order. Every row comes to its own end under the law of attempts, and the insert gathers these
ends in the order of the rows, whatever the order in which the rows came to them. On a database the
rows get the answers that it gives in turn; the insert that sends its rows one after the other is
one of these runs, and what it sends is what the rows send in it.
-/

namespace TableQuery.Engine

variable {σ : Type}

/-- The steps of the row with a number: those of its statement, for the answers to its own
attempts. -/
def rowStep (e : Engine σ) (statements : List Statement) (answers : ℕ → ℕ → Except Fault ResultSet)
    (i : ℕ) (p : Progress ResultSet) (event : AttemptEvent ResultSet) (q : Progress ResultSet) :
    Prop :=
  ∃ statement, statements[i]? = some statement ∧
    AttemptStep e.settings.attemptLimit statement.fetchCall (answers i) p event q

/-- No row has been sent yet. -/
def unsentRows (statements : List Statement) : List (Progress ResultSet) :=
  statements.map fun _ => .ready 1

/-- What an insert can have done so far, with the rows taking turns in any order. An attempt of a
row is answered once, so the answers may also have come about by what other rows had done before. -/
def RowsRun (e : Engine σ) (statements : List Statement)
    (answers : ℕ → ℕ → Except Fault ResultSet)
    (events : List (ℕ × AttemptEvent ResultSet)) (states : List (Progress ResultSet)) : Prop :=
  Run (Interleaved (e.rowStep statements answers)) (unsentRows statements) events states

/-- What comes of an insert whose rows have come to these ends. -/
def insertResult (e : Engine σ) (outcomes : List (Except DatabaseError ResultSet)) :
    Except DatabaseError (List Row) :=
  firstRows (outcomes.map fun outcome => outcome.map e.rowsResult)

/-- The ends that the rows come to with these answers to their attempts. -/
def RowOutcomes (e : Engine σ) (statements : List Statement)
    (answers : ℕ → ℕ → Except Fault ResultSet)
    (outcomes : List (Except DatabaseError ResultSet)) : Prop :=
  outcomes.length = statements.length ∧ ∀ i outcome, outcomes[i]? = some outcome →
    ∃ last, AttemptState.Concludes e.settings.attemptLimit (answers i) last outcome

section Runs

variable {e : Engine σ} {statements : List Statement} {answers : ℕ → ℕ → Except Fault ResultSet}
  {outcomes : List (Except DatabaseError ResultSet)}
  {events : List (ℕ × AttemptEvent ResultSet)} {states : List (Progress ResultSet)}

/-- There are as many rows as statements. -/
theorem RowsRun.length_eq (h : e.RowsRun statements answers events states) :
    states.length = statements.length := by
  rw [Run.length_eq h, unsentRows, List.length_map]

/-- What a row has done is a run of its statement. -/
theorem RowsRun.own (h : e.RowsRun statements answers events states) {i : ℕ}
    {p : Progress ResultSet} (hp : states[i]? = some p) :
    ∃ statement, statements[i]? = some statement ∧
      Run (AttemptStep e.settings.attemptLimit statement.fetchCall (answers i)) (.ready 1)
        (eventsOf i events) p := by
  obtain ⟨first, hfirst, hrun⟩ := Run.own h hp
  rw [unsentRows, List.getElem?_map, Option.map_eq_some_iff] at hfirst
  obtain ⟨statement, hstatement, rfl⟩ := hfirst
  refine ⟨statement, hstatement, hrun.mono fun p event q hstep => ?_⟩
  obtain ⟨other, hother, hstep⟩ := hstep
  rw [hstatement] at hother
  cases hother
  exact hstep

/-- Every row has come to where it stands by its own attempts. -/
theorem RowsRun.reached (h : e.RowsRun statements answers events states) {i : ℕ}
    {p : Progress ResultSet} (hp : states[i]? = some p) :
    p.Reached e.settings.attemptLimit (answers i) (eventsOf i events) := by
  obtain ⟨statement, -, hrun⟩ := h.own hp
  exact Progress.reached e.settings.attemptLimit_pos hrun

/-- A row with an event has a statement and stands somewhere. -/
theorem RowsRun.state_of_event (h : e.RowsRun statements answers events states) {i : ℕ}
    {event : AttemptEvent ResultSet} (hevent : (i, event) ∈ events) :
    ∃ p, states[i]? = some p := by
  have hlt := Run.lt_length h hevent
  rw [← Run.length_eq h] at hlt
  exact ⟨states[i], List.getElem?_eq_getElem hlt⟩

/-- A row sends nothing but its own statement. -/
theorem RowsRun.sent_eq (h : e.RowsRun statements answers events states) {i : ℕ}
    {call : SentStatement} (hsent : (i, AttemptEvent.sent call) ∈ events) :
    ∃ statement, statements[i]? = some statement ∧ call = statement.fetchCall := by
  obtain ⟨p, hp⟩ := h.state_of_event hsent
  obtain ⟨statement, hstatement, hrun⟩ := h.own hp
  exact ⟨statement, hstatement, Progress.sent_eq hrun (mem_eventsOf.2 hsent)⟩

/-- No row succeeds more than once. -/
theorem RowsRun.successes_le (h : e.RowsRun statements answers events states) (i : ℕ) :
    successes (eventsOf i events) ≤ 1 := by
  cases hp : states[i]? with
  | some p => exact (h.reached hp).successes_le
  | none =>
    have hnone : eventsOf i events = [] := by
      refine List.eq_nil_iff_forall_not_mem.2 fun event hevent => ?_
      obtain ⟨p, hp'⟩ := h.state_of_event (mem_eventsOf.1 hevent)
      rw [hp] at hp'
      cases hp'
    rw [hnone]
    exact Nat.zero_le 1

/-- A row that is done has come to the end that its own answers lead to, by the law of attempts for
the attempts that it has sent itself. -/
theorem RowsRun.done (h : e.RowsRun statements answers events states)
    (houtcomes : e.RowOutcomes statements answers outcomes) {i : ℕ}
    {result : Except DatabaseError ResultSet} (hp : states[i]? = some (.finished result)) :
    outcomes[i]? = some result ∧
      RetryLaw (max 1 e.settings.maxAttempts.toNat) (answers i) (sends (eventsOf i events)) result ∧
      successes (eventsOf i events) = result.isOk.toNat := by
  obtain ⟨last, hconcludes, hsends, hsuccesses, -⟩ := h.reached hp
  obtain ⟨hlt, -⟩ := List.getElem?_eq_some_iff.1 hp
  rw [h.length_eq, ← houtcomes.1] at hlt
  have houtcome := List.getElem?_eq_getElem hlt
  -- the row has come to one end, its answers lead to one, and there is only one
  obtain ⟨last', hconcludes'⟩ := houtcomes.2 i _ houtcome
  obtain ⟨-, hsame⟩ := hconcludes.unique hconcludes'
  refine ⟨?_, ?_, hsuccesses⟩
  · rw [houtcome, hsame]
  · rw [hsends, ← e.settings.toNat_attemptLimit]
    exact hconcludes.retryLaw e.settings.attemptLimit_pos

/-- A row that is not done can go on, wherever the others stand. -/
theorem RowsRun.goes_on (h : e.RowsRun statements answers events states) {i : ℕ}
    {p : Progress ResultSet} (hp : states[i]? = some p) (hopen : ∀ result, p ≠ .finished result) :
    ∃ event next, Interleaved (e.rowStep statements answers) states (i, event) next := by
  obtain ⟨statement, hstatement, -⟩ := h.own hp
  obtain ⟨event, q, hstep⟩ :=
    Progress.exists_step e.settings.attemptLimit statement.fetchCall (answers i) hopen
  exact ⟨event, states.set i q, .turn hp ⟨statement, hstatement, hstep⟩⟩

/-- No more happens than that every attempt of every row is sent and answered. -/
theorem RowsRun.length_le (h : e.RowsRun statements answers events states) :
    events.length ≤ statements.length * (2 * max 1 e.settings.maxAttempts.toNat) := by
  rw [← e.settings.toNat_attemptLimit]
  have hrows : (unsentRows statements).length = statements.length := by
    rw [unsentRows, List.length_map]
  rw [← hrows]
  refine Run.length_le h fun i hi => ?_
  rw [← Run.length_eq h] at hi
  exact (h.reached (List.getElem?_eq_getElem hi)).length_le e.settings.attemptLimit_pos

/-- All rows are done. -/
def AllDone (states : List (Progress ResultSet)) : Prop :=
  ∀ (i : ℕ) (p : Progress ResultSet), states[i]? = some p → ∃ result, p = .finished result

/-- When all rows are done, they have come to the ends that their answers lead to. -/
theorem RowsRun.states_eq (h : e.RowsRun statements answers events states)
    (houtcomes : e.RowOutcomes statements answers outcomes) (hdone : AllDone states) :
    states = outcomes.map .finished := by
  refine List.ext_getElem? fun i => ?_
  rw [List.getElem?_map]
  cases hp : states[i]? with
  | some p =>
    obtain ⟨result, rfl⟩ := hdone i p hp
    rw [(h.done houtcomes hp).1]
    rfl
  | none =>
    rw [List.getElem?_eq_none_iff, h.length_eq, ← houtcomes.1] at hp
    rw [List.getElem?_eq_none_iff.2 hp]
    rfl

/-- Every insert can be brought to its end, and its rows come to the ends that their answers lead
to. -/
theorem RowsRun.completes (h : e.RowsRun statements answers events states)
    (houtcomes : e.RowOutcomes statements answers outcomes) :
    ∃ more, e.RowsRun statements answers (events ++ more) (outcomes.map .finished) := by
  have hprogress : ∀ events states, e.RowsRun statements answers events states →
      ¬AllDone states → ∃ event next, Interleaved (e.rowStep statements answers) states event
        next := by
    intro events states hrun hopen
    simp only [AllDone, not_forall] at hopen
    obtain ⟨i, p, hp, hopen⟩ := hopen
    obtain ⟨event, next, hstep⟩ := hrun.goes_on hp fun result hresult => hopen ⟨result, hresult⟩
    exact ⟨(i, event), next, hstep⟩
  obtain ⟨more, last, hrun, hdone⟩ :=
    Run.exists_final (fun _ _ hrun => RowsRun.length_le hrun) hprogress h
  have hlast : e.RowsRun statements answers (events ++ more) last := hrun
  rw [hlast.states_eq houtcomes hdone] at hlast
  exact ⟨more, hlast⟩

end Runs

/-- Whatever the answers are, every row comes to an end. -/
theorem exists_rowOutcomes (e : Engine σ) (statements : List Statement)
    (answers : ℕ → ℕ → Except Fault ResultSet) :
    ∃ outcomes, e.RowOutcomes statements answers outcomes := by
  choose last outcome hconcludes using fun i =>
    exists_concludes e.settings.attemptLimit (answers i)
  refine ⟨(List.range statements.length).map outcome, ?_, fun i result hresult => ?_⟩
  · rw [List.length_map, List.length_range]
  · rw [List.getElem?_map, Option.map_eq_some_iff] at hresult
    obtain ⟨j, hj, rfl⟩ := hresult
    obtain ⟨hlt, hij⟩ := List.getElem?_eq_some_iff.1 hj
    rw [List.getElem_range] at hij
    subst hij
    exact ⟨last i, hconcludes i⟩

section Result

variable {e : Engine σ} {outcomes : List (Except DatabaseError ResultSet)}

/-- An insert whose rows all succeed returns the first returned row of every row that has one. -/
theorem insertResult_of_ok (sets : List ResultSet) :
    e.insertResult (sets.map .ok) =
      .ok (sets.flatMap fun set => (set.normalize e.settings.timezone).head?.toList) := by
  refine firstRows_ok_iff.2 ⟨sets.map e.rowsResult, ?_, ?_⟩
  · rw [List.map_map, List.map_map]
    rfl
  · rw [List.flatMap_map]
    rfl

/-- An insert succeeds exactly if every row does. -/
theorem insertResult_ok_iff :
    (∃ rows, e.insertResult outcomes = .ok rows) ↔
      ∀ outcome ∈ outcomes, ∃ set, outcome = .ok set := by
  constructor
  · rintro ⟨rows, hrows⟩ outcome houtcome
    obtain ⟨results, hresults, -⟩ := firstRows_ok_iff.1 hrows
    have hmem := List.mem_map_of_mem (f := fun outcome => outcome.map e.rowsResult) houtcome
    rw [hresults, List.mem_map] at hmem
    obtain ⟨result, -, hresult⟩ := hmem
    cases outcome with
    | ok set => exact ⟨set, rfl⟩
    | error error => cases hresult
  · intro hall
    have hsets : outcomes ∈ Set.range (List.map Except.ok) := by
      rw [Set.range_list_map]
      intro outcome houtcome
      obtain ⟨set, rfl⟩ := hall outcome houtcome
      exact ⟨set, rfl⟩
    obtain ⟨sets, rfl⟩ := hsets
    exact ⟨_, insertResult_of_ok sets⟩

/-- An insert fails with the error of the first row that has failed. -/
theorem insertResult_error_iff (error : DatabaseError) :
    e.insertResult outcomes = .error error ↔
      ∃ i : ℕ, outcomes[i]? = some (.error error) ∧
        ∀ j < i, ∃ set, outcomes[j]? = some (.ok set) := by
  have herror : ∀ i : ℕ, (outcomes.map fun outcome => outcome.map e.rowsResult)[i]? =
      some (.error error) ↔ outcomes[i]? = some (.error error) := by
    intro i
    rw [List.getElem?_map, Option.map_eq_some_iff]
    constructor
    · rintro ⟨outcome, houtcome, herr⟩
      cases outcome <;> cases herr
      exact houtcome
    · intro h
      exact ⟨.error error, h, rfl⟩
  have hok : ∀ j : ℕ, (∃ result, (outcomes.map fun outcome => outcome.map e.rowsResult)[j]? =
      some (.ok result)) ↔ ∃ set, outcomes[j]? = some (.ok set) := by
    intro j
    simp only [List.getElem?_map, Option.map_eq_some_iff]
    constructor
    · rintro ⟨result, outcome, houtcome, hres⟩
      cases outcome with
      | error other => cases hres
      | ok set => exact ⟨set, houtcome⟩
    · rintro ⟨set, hset⟩
      exact ⟨e.rowsResult set, .ok set, hset, rfl⟩
  rw [insertResult, firstRows_error_iff]
  simp only [herror, hok]

end Result

/-- What is known about an insert under way, for the ends that its rows come to. -/
structure RowsLaw (e : Engine σ) (statements : List Statement)
    (answers : ℕ → ℕ → Except Fault ResultSet)
    (outcomes : List (Except DatabaseError ResultSet))
    (events : List (ℕ × AttemptEvent ResultSet)) (states : List (Progress ResultSet)) : Prop where
  /-- A row sends nothing but its own statement. -/
  sent_eq : ∀ i call, (i, AttemptEvent.sent call) ∈ events →
    ∃ statement, statements[i]? = some statement ∧ call = statement.fetchCall
  /-- No row succeeds more than once. -/
  successes_le : ∀ i, successes (eventsOf i events) ≤ 1
  /-- A row that is done has come to its own end, by the law of attempts for its own answers and the
  attempts that it has sent itself, and it has succeeded once exactly if this end is a success. -/
  done : ∀ i result, states[i]? = some (.finished result) →
    outcomes[i]? = some result ∧
      RetryLaw (max 1 e.settings.maxAttempts.toNat) (answers i) (sends (eventsOf i events)) result ∧
      successes (eventsOf i events) = result.isOk.toNat
  /-- A row that is not done can go on, wherever the others stand. -/
  goes_on : ∀ i p, states[i]? = some p → (∀ result, p ≠ .finished result) →
    ∃ event next, Interleaved (e.rowStep statements answers) states (i, event) next
  /-- The rows cannot go on without end. -/
  length_le : events.length ≤ statements.length * (2 * max 1 e.settings.maxAttempts.toNat)
  /-- When all rows are done, they have come to their ends. -/
  states_eq : AllDone states → states = outcomes.map .finished
  /-- All rows can be brought to their ends. -/
  completes : ∃ more, e.RowsRun statements answers (events ++ more) (outcomes.map .finished)

/-- What is known about an insert, for the answers to the attempts of its rows and the ends that the
rows come to. -/
structure InsertLaw (e : Engine σ) (statements : List Statement)
    (answers : ℕ → ℕ → Except Fault ResultSet)
    (outcomes : List (Except DatabaseError ResultSet)) : Prop where
  /-- Every row comes to one end. -/
  length_eq : outcomes.length = statements.length
  /-- It comes to this end in whatever order attempts are sent and answered. -/
  runs : ∀ events states, e.RowsRun statements answers events states →
    e.RowsLaw statements answers outcomes events states
  /-- The insert succeeds exactly if every row does. -/
  ok_iff : (∃ rows, e.insertResult outcomes = .ok rows) ↔
    ∀ outcome ∈ outcomes, ∃ set, outcome = .ok set
  /-- Then it returns the first returned row of every row that has one, in the order of the rows. -/
  rows_eq : ∀ sets : List ResultSet, outcomes = sets.map .ok →
    e.insertResult outcomes =
      .ok (sets.flatMap fun set => (set.normalize e.settings.timezone).head?.toList)
  /-- Otherwise it fails with the error of the first row, in their order, that has failed. -/
  error_iff : ∀ error, e.insertResult outcomes = .error error ↔
    ∃ i : ℕ, outcomes[i]? = some (.error error) ∧
      ∀ j < i, ∃ set, outcomes[j]? = some (.ok set)

/-- The law of an insert holds for the ends that its rows come to. -/
theorem RowOutcomes.insertLaw {e : Engine σ} {statements : List Statement}
    {answers : ℕ → ℕ → Except Fault ResultSet}
    {outcomes : List (Except DatabaseError ResultSet)}
    (h : e.RowOutcomes statements answers outcomes) : e.InsertLaw statements answers outcomes where
  length_eq := h.1
  runs events states hrun :=
    { sent_eq := fun i call hsent => hrun.sent_eq hsent
      successes_le := hrun.successes_le
      done := fun i result hdone => hrun.done h hdone
      goes_on := fun i p hp hopen => hrun.goes_on hp hopen
      length_le := hrun.length_le
      states_eq := hrun.states_eq h
      completes := hrun.completes h }
  ok_iff := insertResult_ok_iff
  rows_eq := by
    rintro sets rfl
    exact insertResult_of_ok sets
  error_iff := insertResult_error_iff

section Database

/-- The steps of the row with a number on the database that all rows share. -/
def rowStepOn (e : Engine σ) (statements : List Statement) (i : ℕ)
    (before : σ × Progress ResultSet) (event : AttemptEvent ResultSet)
    (after : σ × Progress ResultSet) : Prop :=
  ∃ statement, statements[i]? = some statement ∧
    AttemptOn e.settings.attemptLimit statement.fetchCall
      (e.backend.fetch statement.sql statement.parameters) before event after

/-- What an insert can have done so far on a database, with the rows taking turns in any order. The
database goes from state to state with every attempt that it answers, whichever row has sent it. -/
def RowsOn (e : Engine σ) (statements : List Statement) (start : σ)
    (events : List (ℕ × AttemptEvent ResultSet)) (db : σ) (states : List (Progress ResultSet)) :
    Prop :=
  Run (InterleavedOn (e.rowStepOn statements)) (start, unsentRows statements) events (db, states)

/-- The answers that the attempts of each row have got. Attempts that are not answered yet are taken
to get an empty set. -/
def answersGot (events : List (ℕ × AttemptEvent ResultSet)) (i n : ℕ) : Except Fault ResultSet :=
  (answersIn (eventsOf i events)).getD n (.ok default)

variable {e : Engine σ} {statements : List Statement}
  {events : List (ℕ × AttemptEvent ResultSet)}

/-- An answer that a row has got stays the answer to the same attempt. -/
theorem getElem?_answersIn_append {i n : ℕ} {outcome : Except Fault ResultSet}
    (h : (answersIn (eventsOf i events))[n]? = some outcome) (event : ℕ × AttemptEvent ResultSet) :
    (answersIn (eventsOf i (events ++ [event])))[n]? = some outcome := by
  obtain ⟨hlt, -⟩ := List.getElem?_eq_some_iff.1 h
  rw [eventsOf_append]
  split
  · rw [answersIn, List.filterMap_append, ← answersIn, List.getElem?_append_left hlt]
    exact h
  · exact h

/-- The rows of a run on a database are a run for any answers that begin with those they have
got. -/
theorem rowsRun_of_got {answers : ℕ → ℕ → Except Fault ResultSet} {start : σ}
    {after : σ × List (Progress ResultSet)}
    (h : Run (InterleavedOn (e.rowStepOn statements)) (start, unsentRows statements) events after)
    (hgot : ∀ (i n : ℕ) outcome, (answersIn (eventsOf i events))[n]? = some outcome →
      answers i n = outcome) : e.RowsRun statements answers events after.2 := by
  induction h with
  | start => exact .start
  | @step events event before after hrun hstep ih =>
    have hbefore := ih fun i n outcome hn => hgot i n outcome (getElem?_answersIn_append hn event)
    cases hstep with
    | @turn db db' states i s t event hi hturn =>
      obtain ⟨statement, hstatement, hattempt⟩ := hturn
      refine hbefore.step (.turn hi ⟨statement, hstatement, ?_⟩)
      cases hattempt with
      | send => exact .send _
      | answer db attempt =>
        -- the answer is the one that the number of the attempt asks for
        have hindex := (hbefore.reached hi).length_answersIn e.settings.attemptLimit_pos
        have hanswer : answers i (attempt.toNat - 1) =
            (e.backend.fetch statement.sql statement.parameters db).1 := by
          refine hgot i _ _ ?_
          rw [hindex, eventsOf_append, if_pos rfl, answersIn, List.filterMap_append, ← answersIn]
          exact List.getElem?_concat_length
        rw [← hanswer]
        exact .answer attempt

/-- The rows of a run on a database are a run for the answers that they have got. -/
theorem RowsOn.rowsRun {start db : σ} {states : List (Progress ResultSet)}
    (h : e.RowsOn statements start events db states) :
    e.RowsRun statements (answersGot events) events states :=
  rowsRun_of_got h fun i n outcome hn => by
    rw [answersGot, List.getD_eq_getElem?_getD, hn, Option.getD_some]

/-- Rows that have all come to an end on a database have come to those ends that the answers to
their attempts lead to. -/
theorem RowsOn.insertLaw {start db : σ} {outcomes : List (Except DatabaseError ResultSet)}
    (h : e.RowsOn statements start events db (outcomes.map .finished)) :
    e.InsertLaw statements (answersGot events) outcomes := by
  obtain ⟨ends, hends⟩ := e.exists_rowOutcomes statements (answersGot events)
  have hdone : AllDone (outcomes.map Progress.finished) := by
    intro i p hp
    rw [List.getElem?_map, Option.map_eq_some_iff] at hp
    obtain ⟨result, -, rfl⟩ := hp
    exact ⟨result, rfl⟩
  have hsame : outcomes = ends :=
    List.map_injective_iff.2 (fun _ _ h => by cases h; rfl) (h.rowsRun.states_eq hends hdone)
  rw [hsame]
  exact hends.insertLaw

/-- What an insert has done that sends its rows one after the other: `events` is what has happened
between two sessions, and `outcomes` are the ends that the rows have come to. -/
structure InTurn (e : Engine σ) (statements : List Statement) (s s' : Session σ)
    (events : List (ℕ × AttemptEvent ResultSet))
    (outcomes : List (Except DatabaseError ResultSet)) : Prop where
  /-- The rows are run on the database, from its state before to its state after. -/
  run : e.RowsOn statements s.backend events s'.backend (outcomes.map .finished)
  /-- The statements are sent in the order of the rows, each as often as its row was tried. -/
  sent_eq : sentCalls (events.map Prod.snd) = (statements.mapIdx fun i statement =>
    List.replicate (sends (eventsOf i events)) statement.fetchCall).flatten
  /-- What is remembered stays as it is. -/
  cache_eq : s'.cache = s.cache

/-- One row more in front of those that are sent one after the other: it is tried until it is done,
and the others go on from the state in which it leaves the database. -/
theorem InTurn.cons {s s₁ s₂ : Session σ} {outcomes : List (Except DatabaseError ResultSet)}
    (h : e.InTurn statements s₁ s₂ events outcomes) {statement : Statement} {last : ℕ}
    {outcome : Except DatabaseError ResultSet}
    (hconcludes : AttemptState.Concludes e.settings.attemptLimit
      (answersFrom (e.backend.fetch statement.sql statement.parameters) s.backend) last outcome)
    (hbackend : s₁.backend =
      stateAfter (e.backend.fetch statement.sql statement.parameters) s.backend (last + 1))
    (hcache : s₁.cache = s.cache) :
    e.InTurn (statement :: statements) s s₂
      (inFront (attemptsMade statement.fetchCall
        (answersFrom (e.backend.fetch statement.sql statement.parameters) s.backend) (last + 1))
        events)
      (outcome :: outcomes) := by
  have hfirst : Run (e.rowStepOn (statement :: statements) 0) _ _ _ :=
    (hconcludes.run_on statement.fetchCall).mono fun _ _ _ hstep => ⟨statement, rfl, hstep⟩
  have hlater := h.run
  rw [hbackend] at hlater
  refine ⟨Run.inFront hfirst hlater, ?_, h.cache_eq.trans hcache⟩
  rw [List.mapIdx_cons, List.flatten_cons, eventsOf_zero_inFront, sends_attemptsMade,
    map_snd_inFront, sentCalls_append, sentCalls_attemptsMade]
  simp only [eventsOf_succ_inFront]
  rw [h.sent_eq]

end Database

/-- Statements that are run one after the other are the rows of an insert that are sent in turn, and
their results are the ends of these rows. -/
theorem fetchEach_inTurn (e : Engine σ) (statements : List Statement) (s : Session σ) :
    ∃ events outcomes, e.InTurn statements s (e.fetchEach statements s).2 events outcomes ∧
      (e.fetchEach statements s).1 = outcomes.map (fun outcome => outcome.map e.rowsResult) ∧
      ∀ sent, e.recorded.fetchEach statements (s.recorded sent) =
        ((e.fetchEach statements s).1,
          (e.fetchEach statements s).2.recorded (sent ++ sentCalls (events.map Prod.snd))) := by
  induction statements generalizing s with
  | nil =>
    refine ⟨[], [], ⟨.start, rfl, rfl⟩, rfl, fun sent => ?_⟩
    rw [List.map_nil, sentCalls, List.filterMap_nil, List.append_nil]
    rfl
  | cons statement rest ih =>
    obtain ⟨last, outcome, hconcludes, hresult, hbackend, hcache, hsends⟩ :=
      e.fetch_concludes statement s
    obtain ⟨events, outcomes, hturn, hresults, hrest⟩ := ih (e.fetch statement s).2
    refine ⟨_, _, hturn.cons hconcludes hbackend hcache, ?_, fun sent => ?_⟩
    · rw [fetchEach_cons, hresult, hresults]
      rfl
    · rw [fetchEach_cons, fetchEach_cons, hsends, hrest, map_snd_inFront, sentCalls_append,
        sentCalls_attemptsMade, List.append_assoc]

/-- Sending rows that have passed their checks, once their table is known: the rows are sent in
turn, and the result is what comes of their ends. -/
theorem sendRows_inTurn (e : Engine σ) (table : String) {records : List Record}
    {returning : Option String} {s s₁ : Session σ} {info : TableInfo}
    {statements : List Statement} (hinfo : e.tableInfo table s = (.ok info, s₁))
    (hstatements : insertStatements table records returning info.columnTypes = .ok statements) :
    ∃ events outcomes,
      e.InTurn statements s₁ (e.sendRows table records returning s).2 events outcomes ∧
      (e.sendRows table records returning s).1 = e.insertResult outcomes ∧
      ∃ asked, Action.Sends (e.tableInfo table) (e.recorded.tableInfo table) s asked ∧
        Action.Sends (e.sendRows table records returning)
          (e.recorded.sendRows table records returning) s
          (asked ++ sentCalls (events.map Prod.snd)) := by
  obtain ⟨events, outcomes, hturn, hresults, hrecorded⟩ := e.fetchEach_inTurn statements s₁
  obtain ⟨count, hasked⟩ := e.tableInfo_sends table s
  have hlift : (ExceptT.lift (e.fetchEach statements) : Action σ _) s₁ =
      (.ok (e.fetchEach statements s₁).1, (e.fetchEach statements s₁).2) := rfl
  obtain ⟨hresult, hbackend, hcache, hgathered⟩ :=
    gather_spec table (e.fetchEach statements s₁).1 (e.fetchEach statements s₁).2
  have hsent : Action.Sends (ExceptT.lift (e.fetchEach statements))
      (ExceptT.lift (e.recorded.fetchEach statements)) s₁ (sentCalls (events.map Prod.snd)) := by
    intro sent
    change (Except.ok (e.recorded.fetchEach statements (s₁.recorded sent)).1,
      (e.recorded.fetchEach statements (s₁.recorded sent)).2) = _
    rw [hrecorded]
    rfl
  have hrun : e.sendRows table records returning s =
      gather table (e.fetchEach statements s₁).1 (e.fetchEach statements s₁).2 := by
    rw [sendRows, Action.bind_ok hinfo, hstatements, Action.bind_ofInput_ok, Action.bind_ok hlift]
  refine ⟨events, outcomes, ⟨?_, hturn.sent_eq, ?_⟩, ?_, _, hasked, ?_⟩
  · rw [hrun, hbackend]
    exact hturn.run
  · rw [hrun, hcache]
    exact hturn.cache_eq
  · rw [hrun, hresult, hresults]
    rfl
  · refine hasked.bind hinfo ?_
    rw [hstatements, Action.bind_ofInput_ok, Action.bind_ofInput_ok]
    exact hsent.bind_silent hlift hgathered

/-- An insert of rows that pass their checks, once its table is known: for every answer to every
attempt of every row there are ends that the rows come to, in whatever order their attempts are sent
and answered, and on a database the answers are those that it gives in turn. The insert itself sends
its rows one after the other on its database, behind the question about its table and nothing else
besides, and its result is what comes of their ends in the order of the rows. -/
theorem concurrent_insert (e : Engine σ) (table : String) (rows : InsertRows)
    (returning : Option String) (s s₁ : Session σ) (info : TableInfo)
    (hrows : rows.toList ≠ [])
    (hvalid : ∀ row ∈ rows.toList,
      verdict (Statement.insert table row returning .empty) = .ok ())
    (hinfo : e.tableInfo table s = (.ok info, s₁)) :
    ∃ statements, insertStatements table rows.toList returning info.columnTypes = .ok statements ∧
      statements.length = rows.toList.length ∧
      (∀ answers, ∃ outcomes, e.InsertLaw statements answers outcomes) ∧
      (∀ start events db states, e.RowsOn statements start events db states →
        e.RowsRun statements (answersGot events) events states) ∧
      ∃ events outcomes, e.InsertLaw statements (answersGot events) outcomes ∧
        e.InTurn statements s₁ (e.insert table rows returning s).2 events outcomes ∧
        (e.insert table rows returning s).1 = e.insertResult outcomes ∧
        e.calls (fun _ e => e.insert table rows returning) s =
          e.calls (fun _ e => e.tableInfo table) s ++ sentCalls (events.map Prod.snd) := by
  have hpass : ∀ types, verdict (insertStatements table rows.toList returning types) = .ok () := by
    intro types
    rw [verdict_insertStatements, forM_ok_iff]
    intro row hrow
    rw [← Statement.verdict_insert table row returning .empty]
    exact hvalid row hrow
  obtain ⟨checked, hchecked⟩ := verdict_ok_iff.1 (hpass .empty)
  obtain ⟨statements, hstatements⟩ := verdict_ok_iff.1 (hpass info.columnTypes)
  have hlength := (mapM_ok_iff.1 hstatements).length_eq
  have hinsert : ∀ {τ : Type} (e : Engine τ), e.insert table rows returning =
      e.sendRows table rows.toList returning := by
    intro τ e
    rw [e.insert_of_not_isEmpty table returning (List.isEmpty_eq_false_iff.2 hrows), hchecked,
      Action.bind_ofInput_ok]
  obtain ⟨events, outcomes, hturn, hresult, asked, hasked, hsends⟩ :=
    e.sendRows_inTurn table hinfo hstatements
  refine ⟨statements, hstatements, hlength.symm, fun answers => ?_,
    fun _ _ _ _ hrun => hrun.rowsRun, events, outcomes, hturn.run.insertLaw, ?_, ?_, ?_⟩
  · obtain ⟨outcomes, houtcomes⟩ := e.exists_rowOutcomes statements answers
    exact ⟨outcomes, houtcomes.insertLaw⟩
  · rw [hinsert]
    exact hturn
  · rw [hinsert, hresult]
  · have hlookup : e.calls (fun _ e => e.tableInfo table) s = asked := calls_of_sends hasked
    rw [hlookup]
    refine calls_of_sends ?_
    rw [hinsert, hinsert]
    exact hsends

/-- Two rows for a table without declared columns that is already known, with a failure planned for
the first attempt. -/
theorem concurrent_insert_two_rows :
    ∃ statements : List Statement, statements.length = 2 ∧
      (∀ answers, ∃ outcomes,
        (Engine.mk Script.backend ⟨3, ⟨"UTC", 0, []⟩, true⟩).InsertLaw statements answers
          outcomes) ∧
      ∃ events outcomes,
        (Engine.mk Script.backend ⟨3, ⟨"UTC", 0, []⟩, true⟩).InsertLaw statements
          (answersGot events) outcomes ∧
        ((Engine.mk Script.backend ⟨3, ⟨"UTC", 0, []⟩, true⟩).insert "users"
          (.many [⟨[("name", .text "Ann")]⟩, ⟨[("name", .text "Bob"), ("age", .int 3)]⟩])
          (some "id, name") ⟨⟨[], [some .poolTimedOut], [], []⟩, some [("users", ⟨[]⟩)], []⟩).1 =
            (Engine.mk Script.backend ⟨3, ⟨"UTC", 0, []⟩, true⟩).insertResult outcomes := by
  obtain ⟨statements, -, hlength, hlaw, -, events, outcomes, hown, -, hresult, -⟩ :=
    concurrent_insert (Engine.mk Script.backend ⟨3, ⟨"UTC", 0, []⟩, true⟩) "users"
      (.many [⟨[("name", .text "Ann")]⟩, ⟨[("name", .text "Bob"), ("age", .int 3)]⟩])
      (some "id, name") ⟨⟨[], [some .poolTimedOut], [], []⟩, some [("users", ⟨[]⟩)], []⟩ _ _
      (List.cons_ne_nil _ _)
      (List.forall_mem_cons.2 ⟨rfl, List.forall_mem_singleton.2 rfl⟩) rfl
  exact ⟨statements, hlength, hlaw, events, outcomes, hown, hresult⟩

end TableQuery.Engine
