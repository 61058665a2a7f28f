import TableQuery.Database.Operations
import TableQuery.Proofs.Execution.Engine

/-!
# Results of an insert

An insert runs one statement for each row and gathers their results in the order of the rows: the
first returned row of each of them, or the error of the first row that failed.
-/

namespace TableQuery.Engine

variable {σ : Type}

/-- Statements are run one after the other, the first one first. -/
theorem fetchEach_cons (e : Engine σ) (statement : Statement) (rest : List Statement)
    (s : Session σ) :
    e.fetchEach (statement :: rest) s =
      ((e.fetch statement s).1 :: (e.fetchEach rest (e.fetch statement s).2).1,
        (e.fetchEach rest (e.fetch statement s).2).2) :=
  rfl

/-- Every result is that of a statement that was run. -/
theorem fetch_of_mem_fetchEach {e : Engine σ} {statements : List Statement} {s : Session σ}
    {result : Except DatabaseError QueryResult} (h : result ∈ (e.fetchEach statements s).1) :
    ∃ statement s', (e.fetch statement s').1 = result := by
  induction statements generalizing s with
  | nil => cases h
  | cons statement rest ih =>
    rw [fetchEach_cons, List.mem_cons] at h
    cases h with
    | inl hfirst => exact ⟨statement, s, hfirst.symm⟩
    | inr hrest => exact ih hrest

/-- A statement that succeeded adds its first returned row, if there is one. -/
theorem firstRows_cons_ok (result : QueryResult)
    (rest : List (Except DatabaseError QueryResult)) :
    firstRows (.ok result :: rest) =
      (firstRows rest).map fun rows => result.rows.head?.toList ++ rows := by
  rw [firstRows]
  cases firstRows rest with
  | error error => rfl
  | ok rows => cases result.rows <;> rfl

/-- Rows are gathered exactly if every statement succeeded: the first returned row of each of them,
in their order. -/
theorem firstRows_ok_iff {results : List (Except DatabaseError QueryResult)} {rows : List Row} :
    firstRows results = .ok rows ↔
      ∃ outcomes : List QueryResult, results = outcomes.map .ok ∧
        rows = outcomes.flatMap fun outcome => outcome.rows.head?.toList := by
  induction results generalizing rows with
  | nil =>
    constructor
    · rintro ⟨⟩
      exact ⟨[], rfl, rfl⟩
    · rintro ⟨outcomes, hnone, rfl⟩
      rw [List.map_eq_nil_iff.1 hnone.symm]
      rfl
  | cons result rest ih =>
    cases result with
    | error error =>
      constructor
      · rintro ⟨⟩
      · rintro ⟨outcomes, hfirst, -⟩
        cases outcomes <;> cases hfirst
    | ok result =>
      rw [firstRows_cons_ok]
      constructor
      · intro h
        cases hrest : firstRows rest with
        | error error =>
          rw [hrest] at h
          cases h
        | ok others =>
          rw [hrest] at h
          obtain ⟨outcomes, rfl, rfl⟩ := ih.1 hrest
          cases h
          exact ⟨result :: outcomes, rfl, rfl⟩
      · rintro ⟨outcomes, hall, rfl⟩
        cases outcomes with
        | nil => cases hall
        | cons first outcomes =>
          cases hall
          rw [ih.2 ⟨outcomes, rfl, rfl⟩]
          rfl

/-- The error of the gathering is that of the first statement that failed. -/
theorem firstRows_error_iff {results : List (Except DatabaseError QueryResult)}
    {error : DatabaseError} :
    firstRows results = .error error ↔
      ∃ i : ℕ, results[i]? = some (.error error) ∧
        ∀ j < i, ∃ outcome, results[j]? = some (.ok outcome) := by
  induction results with
  | nil =>
    constructor
    · rintro ⟨⟩
    · rintro ⟨i, hi, -⟩
      cases hi
  | cons result rest ih =>
    cases result with
    | error first =>
      constructor
      · rintro ⟨⟩
        exact ⟨0, rfl, fun j hj => absurd hj (Nat.not_lt_zero j)⟩
      · rintro ⟨i, hi, hbefore⟩
        cases i with
        | zero =>
          cases hi
          rfl
        | succ i =>
          obtain ⟨outcome, houtcome⟩ := hbefore 0 (Nat.succ_pos i)
          cases houtcome
    | ok result =>
      have herror : firstRows (.ok result :: rest) = .error error ↔
          firstRows rest = .error error := by
        rw [firstRows_cons_ok]
        cases firstRows rest with
        | error other => rfl
        | ok rows => exact ⟨fun h => (by cases h), fun h => (by cases h)⟩
      rw [herror, ih]
      constructor
      · rintro ⟨i, hi, hbefore⟩
        refine ⟨i + 1, hi, fun j hj => ?_⟩
        cases j with
        | zero => exact ⟨result, rfl⟩
        | succ j => exact hbefore j (by omega)
      · rintro ⟨i, hi, hbefore⟩
        cases i with
        | zero => cases hi
        | succ i => exact ⟨i, hi, fun j hj => hbefore (j + 1) (by omega)⟩

/-- The statements that insert rows, one for each. -/
def insertStatements (table : String) (records : List Record) (returning : Option String)
    (types : ColumnTypes) : Except InputError (List Statement) :=
  records.mapM fun row => Statement.insert table row returning types

/-- Take over the results of the statements of an insert. -/
def gather (table : String) (results : List (Except DatabaseError QueryResult)) :
    Action σ (List Row) :=
  match firstRows results with
  | .error error => throw error
  | .ok inserted => do
    Action.log (.insertComplete table inserted.length)
    return inserted

/-- Gathering results says what has come of them, sends nothing, and touches neither the database
nor what is remembered. -/
theorem gather_spec (table : String) (results : List (Except DatabaseError QueryResult))
    (s : Session σ) :
    (gather table results s).1 = firstRows results ∧
      (gather table results s).2.backend = s.backend ∧
      (gather table results s).2.cache = s.cache ∧
      Action.Sends (gather table results) (gather table results) s [] := by
  rw [gather, gather]
  cases firstRows results with
  | error error => exact ⟨rfl, rfl, rfl, .throw error s⟩
  | ok rows => exact ⟨rfl, rfl, rfl, (Action.Sends.log _ s).bind_silent rfl (.pure rows _)⟩

/-- Insert rows that have passed their checks. -/
def sendRows (e : Engine σ) (table : String) (records : List Record) (returning : Option String) :
    Action σ (List Row) := do
  let info ← e.tableInfo table
  let statements ← Action.ofInput (insertStatements table records returning info.columnTypes)
  let results ← ExceptT.lift (e.fetchEach statements)
  gather table results

/-- Nothing happens when there are no rows to insert. -/
theorem insert_of_isEmpty (e : Engine σ) (table : String) {rows : InsertRows}
    (returning : Option String) (h : rows.toList.isEmpty = true) :
    e.insert table rows returning = pure [] := by
  rw [insert]
  dsimp only
  rw [h]
  rfl

/-- Rows to insert are checked first, all of them, and then sent. -/
theorem insert_of_not_isEmpty (e : Engine σ) (table : String) {rows : InsertRows}
    (returning : Option String) (h : rows.toList.isEmpty = false) :
    e.insert table rows returning =
      Action.ofInput (insertStatements table rows.toList returning .empty) >>= fun _ =>
        e.sendRows table rows.toList returning := by
  rw [insert]
  dsimp only
  rw [h]
  rfl

end TableQuery.Engine
