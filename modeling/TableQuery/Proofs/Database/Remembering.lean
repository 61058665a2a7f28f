import TableQuery.Database.Operations
import TableQuery.Proofs.Database.Insert
import TableQuery.Proofs.Schema.Questions
import TableQuery.Proofs.Schema.Twins

/-!
# Remembering schemas changes nothing

A database that answers questions to its catalog by their meaning, over rows that stay the same,
makes no difference between sessions that remember schemas and sessions that ask each time. Whatever
was called before, calls have the same results and send the same statements, but for the questions
to the catalog.
-/

namespace TableQuery

variable {σ : Type}

/-- A call of a database operation. -/
inductive Call where
  /-- Select rows. -/
  | select (table columns : String) (options : QueryOptions)
  /-- Count rows. -/
  | count (table columns : String) (options : QueryOptions)
  /-- Insert rows. -/
  | insert (table : String) (rows : InsertRows) (returning : Option String)
  /-- Update rows. -/
  | update (table : String) (data : Record) (options : QueryOptions)
  /-- Remove rows. -/
  | remove (table : String) (filter : Filter)
  /-- Ask whether a table has a column. -/
  | columnExists (table column : String)
  /-- Run a statement that is written by hand. -/
  | query (sql : String) (parameters : List Value)

/-- What a call returns. -/
inductive CallResult where
  /-- Rows. -/
  | rows (rows : List Row)
  /-- A number. -/
  | number (n : Int64)
  /-- Yes or no. -/
  | truth (b : Bool)
  /-- Rows with their count. -/
  | result (r : QueryResult)

/-- Carry out an action for each entry of a list, one after the other, whatever becomes of each of
them. -/
def Action.each {α β : Type} (f : α → Action σ β) :
    List α → StateM (Session σ) (List (Except DatabaseError β))
  | [] => pure []
  | a :: rest => do
    let result ← (f a).run
    let results ← each f rest
    return result :: results

namespace Engine

/-- Carry out a call. -/
def call (e : Engine σ) : Call → Action σ CallResult
  | .select table columns options => return .rows (← e.select table columns options)
  | .count table columns options => return .number (← e.count table columns options)
  | .insert table rows returning => return .rows (← e.insert table rows returning)
  | .update table data options => return .rows (← e.update table data options)
  | .remove table filter => return .truth (← e.remove table filter)
  | .columnExists table column => return .truth (← e.columnExists table column)
  | .query sql parameters => return .result (← e.fetch (.handwritten sql parameters))

/-- Carry out calls one after the other, whatever becomes of each of them. -/
def callAll (e : Engine σ) :
    List Call → StateM (Session σ) (List (Except DatabaseError CallResult)) :=
  Action.each e.call

/-- What calls send to the database. -/
def sentBy (e : Engine σ) (calls : List Call) (s : Session σ) : List SentStatement :=
  (e.recorded.callAll calls (s.recorded [])).2.backend.2

/-- Statements are run one after the other. -/
theorem fetchEach_eq_each (e : Engine σ) : e.fetchEach = Action.each e.fetch := by
  funext statements
  induction statements with
  | nil => rfl
  | cons statement rest ih => rw [fetchEach, Action.each, ih]

end Engine

/-- Twins agree on a list of actions if they agree on each of them. -/
theorem Action.TwinsAgree.each {τ α β : Type} {view : σ → τ} {rows : List CatalogRow}
    {f : α → Action σ β} (hf : ∀ a, TwinsAgree view rows (f a)) (entries : List α) :
    TwinsAgree view rows (ExceptT.lift (Action.each f entries)) := by
  induction entries with
  | nil => exact .pure []
  | cons a rest ih =>
    intro s u htwins
    obtain ⟨hresult, hnext⟩ := hf a s u htwins
    obtain ⟨hresults, hend⟩ := ih _ _ hnext
    have hrest := Except.ok.inj hresults
    exact ⟨congrArg Except.ok (congrArg₂ List.cons hresult hrest), hend⟩

namespace Engine

variable {τ : Type} {e : Engine σ} {view : σ → τ} {rows : List CatalogRow}

/-- Twins agree on selected rows. -/
theorem select_twinsAgree (h : e.backend.Shows view rows) (table columns : String)
    (options : QueryOptions) :
    Action.TwinsAgree view rows (e.select table columns options) := by
  rw [select]
  refine .bind (.ofInput _) fun spec => .bind (.ofInput _) fun _ => ?_
  refine .bind (tableInfo_twinsAgree h table) fun info => .bind (.ofInput _) fun statement => ?_
  exact .bind (fetch_twinsAgree h statement) fun _ => .pure _

/-- Twins agree on counts. -/
theorem count_twinsAgree (h : e.backend.Shows view rows) (table columns : String)
    (options : QueryOptions) :
    Action.TwinsAgree view rows (e.count table columns options) := by
  rw [count]
  refine .bind (.ofInput _) fun spec => .bind (.ofInput _) fun _ => ?_
  refine .bind (tableInfo_twinsAgree h table) fun info => .bind (.ofInput _) fun statement => ?_
  refine .bind (fetch_twinsAgree h statement) fun result => ?_
  cases countOf? result.rows with
  | none => exact .error _
  | some n => exact .pure n

/-- Twins agree on statements that are run one after the other. -/
theorem fetchEach_twinsAgree (h : e.backend.Shows view rows) (statements : List Statement) :
    Action.TwinsAgree view rows (ExceptT.lift (e.fetchEach statements)) := by
  rw [fetchEach_eq_each]
  exact .each (fetch_twinsAgree h) statements

/-- Twins agree on inserted rows. -/
theorem insert_twinsAgree (h : e.backend.Shows view rows) (table : String) (records : InsertRows)
    (returning : Option String) :
    Action.TwinsAgree view rows (e.insert table records returning) := by
  cases hempty : records.toList.isEmpty with
  | true =>
    rw [insert_of_isEmpty e table returning hempty]
    exact .pure _
  | false =>
    rw [insert_of_not_isEmpty e table returning hempty]
    refine .bind (.ofInput _) fun _ => .bind (tableInfo_twinsAgree h table) fun info => ?_
    refine .bind (.ofInput _) fun statements => ?_
    refine .bind (fetchEach_twinsAgree h statements) fun results => ?_
    rw [gather]
    cases firstRows results with
    | error error => exact .error error
    | ok inserted => exact .bind (.log _) fun _ => .pure inserted

/-- Twins agree on updated rows. -/
theorem update_twinsAgree (h : e.backend.Shows view rows) (table : String) (data : Record)
    (options : QueryOptions) : Action.TwinsAgree view rows (e.update table data options) := by
  rw [update]
  refine .bind (.ofInput _) fun _ => .bind (tableInfo_twinsAgree h table) fun info => ?_
  refine .bind (.ofInput _) fun statement => ?_
  exact .bind (fetch_twinsAgree h statement) fun _ => .pure _

/-- Twins agree on removals. -/
theorem remove_twinsAgree (h : e.backend.Shows view rows) (table : String) (filter : Filter) :
    Action.TwinsAgree view rows (e.remove table filter) := by
  rw [remove]
  refine .bind (.ofInput _) fun _ => .bind (tableInfo_twinsAgree h table) fun info => ?_
  refine .bind (.ofInput _) fun statement => ?_
  exact .bind (execute_twinsAgree h statement) fun _ => .pure _

/-- Twins agree on every call. -/
theorem call_twinsAgree (h : e.backend.Shows view rows) (call : Call) :
    Action.TwinsAgree view rows (e.call call) := by
  cases call with
  | select table columns options =>
    exact (select_twinsAgree h table columns options).bind fun _ => .pure _
  | count table columns options =>
    exact (count_twinsAgree h table columns options).bind fun _ => .pure _
  | insert table records returning =>
    exact (insert_twinsAgree h table records returning).bind fun _ => .pure _
  | update table data options =>
    exact (update_twinsAgree h table data options).bind fun _ => .pure _
  | remove table filter => exact (remove_twinsAgree h table filter).bind fun _ => .pure _
  | columnExists table column =>
    exact (columnExists_twinsAgree h table column).bind fun _ => .pure _
  | query sql parameters => exact (fetch_twinsAgree h _).bind fun _ => .pure _

/-- Twins agree on calls, one after the other. -/
theorem callAll_twinsAgree (h : e.backend.Shows view rows) (calls : List Call) {s u : Session σ}
    (htwins : Twins view rows s u) : (e.callAll calls s).1 = (e.callAll calls u).1 ∧
      Twins view rows (e.callAll calls s).2 (e.callAll calls u).2 := by
  obtain ⟨hresults, hend⟩ := Action.TwinsAgree.each (call_twinsAgree h) calls s u htwins
  exact ⟨Except.ok.inj hresults, hend⟩

end Engine

/-- What is left of sent statements without the questions to the catalog. -/
def withoutQuestions (sent : List SentStatement) : List SentStatement :=
  sent.filter fun c => c.sql ∉ catalogTexts

/-- What can be seen of a recorded database: its state, and what it was sent but for the questions
to the catalog. -/
def Recorded.view (r : Recorded σ) : σ × List SentStatement :=
  (r.1, withoutQuestions r.2)

/-- The state of a database decides what it does. -/
theorem shownBy_id {α : Type} (run : σ → α × σ) : ShownBy id run := by
  rintro a b ⟨⟩
  exact ⟨rfl, rfl⟩

/-- A statement of a recorded database is answered by its state. -/
theorem shownBy_recordedRun {α : Type} (call : SentStatement) (run : σ → α × σ) :
    ShownBy Recorded.view (recordedRun call run) := by
  rintro ⟨a, sent⟩ ⟨b, sent'⟩ h
  obtain ⟨hstate, hsent⟩ := Prod.mk.inj h
  dsimp only at hstate hsent
  subst hstate
  refine ⟨rfl, congrArg (Prod.mk _) ?_⟩
  rw [withoutQuestions, withoutQuestions] at hsent ⊢
  rw [recordedRun, recordedRun, List.filter_append, List.filter_append, hsent]

namespace Backend.AnswersCatalog

variable {b : Backend σ} {rows : List CatalogRow}

/-- The state of a database decides its answers. -/
theorem shows (h : b.AnswersCatalog rows) : b.Shows id rows where
  fetch sql parameters := shownBy_id _
  execute sql parameters := shownBy_id _
  catalog statement hasks q set state htext hanswer := by
    rw [h statement hasks q set state htext hanswer]
    exact ⟨rfl, rfl⟩

/-- The same holds of its record without the questions to the catalog. -/
theorem shows_recorded (h : b.AnswersCatalog rows) : b.recorded.Shows Recorded.view rows where
  fetch sql parameters := shownBy_recordedRun _ _
  execute sql parameters := shownBy_recordedRun _ _
  catalog statement hasks q set state htext hanswer := by
    have hquestion : withoutQuestions [statement.fetchCall] = [] :=
      List.filter_eq_nil_iff.2 fun c hc hordinary => by
        rw [List.mem_singleton.1 hc] at hordinary
        exact of_decide_eq_true hordinary hasks.sql_mem
    have hfetch := h statement hasks q set state.1 htext hanswer
    refine ⟨congrArg Prod.fst hfetch, Prod.ext (congrArg Prod.snd hfetch) ?_⟩
    exact (List.filter_append ..).trans (congrArg₂ _ rfl hquestion |>.trans (List.append_nil _))

end Backend.AnswersCatalog

/-- What callers can tell of calls in two sessions is the same. -/
structure Engine.SameToCallers (e : Engine σ) (calls : List Call) (s u : Session σ) : Prop where
  /-- The calls have the same results, one by one. -/
  results : (e.callAll calls s).1 = (e.callAll calls u).1
  /-- They send the same statements with the same parameters, but for questions to the catalog. -/
  sent : withoutQuestions (e.sentBy calls s) = withoutQuestions (e.sentBy calls u)
  /-- They leave the database in the same state. -/
  backend : (e.callAll calls s).2.backend = (e.callAll calls u).2.backend

/-- Calls in two sessions on the same database, both right in what they remember, look the same. -/
theorem Engine.sameToCallers_of_truthful {e : Engine σ} {rows : List CatalogRow}
    (h : e.backend.AnswersCatalog rows) (calls : List Call) {s u : Session σ}
    (hbackend : s.backend = u.backend) (hs : s.Truthful rows) (hu : u.Truthful rows) :
    e.SameToCallers calls s u := by
  obtain ⟨hresults, hend⟩ := callAll_twinsAgree h.shows calls ⟨hbackend, hs, hu⟩
  have hrecorded : Twins Recorded.view rows (s.recorded []) (u.recorded []) :=
    ⟨congrArg (·, []) hbackend, hs, hu⟩
  obtain ⟨-, hrecordedEnd⟩ := callAll_twinsAgree (e := e.recorded) h.shows_recorded calls hrecorded
  exact ⟨hresults, congrArg Prod.snd hrecordedEnd.seen, hend.seen⟩

/-- Remembering schemas changes nothing. Take a session that remembers schemas, after any calls, and
one that does not, on a database that answers questions to its catalog by their meaning. Both tell
of every column whether the catalog has it, and if their databases are in the same state, any
further calls have the same results, send the same statements but for questions to the catalog, and
leave the databases in the same state. -/
theorem Engine.remembering_unnoticed {e : Engine σ} {rows : List CatalogRow}
    (h : e.backend.AnswersCatalog rows) (db : σ) (history : List Call) {s u : Session σ}
    (hs : (e.callAll history (.start db true)).2 = s) (hu : u.cache = none) :
    (∀ table column,
      (e.columnExists table column s).1 =
        .ok (rows.any fun r => r.isOf table && r.column == column) ∧
      (e.columnExists table column u).1 =
        .ok (rows.any fun r => r.isOf table && r.column == column)) ∧
    (s.backend = u.backend → ∀ calls, e.SameToCallers calls s u) := by
  have hfresh : (Session.start db true).Truthful rows := fun _ _ hknown => by cases hknown
  obtain ⟨-, htwins⟩ := callAll_twinsAgree h.shows history ⟨rfl, hfresh, hfresh⟩
  have htruthful : s.Truthful rows := hs ▸ htwins.first
  have htruthful' : u.Truthful rows := .of_none hu
  refine ⟨fun table column => ⟨?_, ?_⟩, fun hbackend calls => ?_⟩
  · obtain ⟨s', hs', -⟩ := columnExists_known h.shows table column htruthful
    rw [hs']
  · obtain ⟨u', hu', -⟩ := columnExists_known h.shows table column htruthful'
    rw [hu']
  · exact sameToCallers_of_truthful h calls hbackend htruthful htruthful'

/-- One table in two schemas, on a database that numbers its answers: a column is found behind its
schema only, with and without an earlier question that is remembered. -/
theorem Engine.remembering_unnoticed_schema :
    let b : Backend Int64 :=
      ⟨fun _ _ n => (.ok ⟨textColumns ["id"], [[.int n]]⟩, n + 1), fun _ _ n => (.ok 1, n + 1)⟩
    let rows : List CatalogRow :=
      [⟨"app", "users", "id", "integer", "pg_catalog", "int4"⟩,
        ⟨"old", "users", "deleted_at", "date", "pg_catalog", "date"⟩]
    let e : Engine Int64 := ⟨b.withCatalog rows, ⟨3, ⟨"UTC", 0, []⟩, false⟩⟩
    let s := (e.callAll [.select "old.users" "id" {}, .columnExists "users" "id"] (.start 0 true)).2
    (e.columnExists "app.users" "deleted_at" s).1 = .ok false ∧
      (e.columnExists "old.users" "deleted_at" s).1 = .ok true ∧
      (e.columnExists "old.users" "deleted_at" (.start 7 false)).1 = .ok true ∧
      ∀ calls, e.SameToCallers calls s (.start s.backend false) := by
  intro b rows e s
  have hcatalog : e.backend.AnswersCatalog rows := b.answersCatalog_withCatalog rows
  have happ : (rows.any fun r => r.isOf "app.users" && r.column == "deleted_at") = false := by
    decide +kernel
  have hold : (rows.any fun r => r.isOf "old.users" && r.column == "deleted_at") = true := by
    decide +kernel
  have hboth := fun n => remembering_unnoticed hcatalog 0
    [.select "old.users" "id" {}, .columnExists "users" "id"] (rfl : _ = s)
    (rfl : (Session.start n false).cache = none)
  have hstart : ∀ n : Int64, n = (Session.start n false).backend := fun n => rfl
  refine ⟨?_, ?_, ?_, (hboth s.backend).2 (hstart s.backend)⟩
  · rw [((hboth 7).1 "app.users" "deleted_at").1, happ]
  · rw [((hboth 7).1 "old.users" "deleted_at").1, hold]
  · rw [((hboth 7).1 "old.users" "deleted_at").2, hold]

end TableQuery
