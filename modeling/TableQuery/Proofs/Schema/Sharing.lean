import TableQuery.Proofs.Execution.Interleaving
import TableQuery.Proofs.Schema.Lookup

/-!
# Questions that share remembered schemas

Any number of questions about tables is under way at the same time. A question first looks at what
is remembered. If it finds nothing it asks the catalog, with its attempts, and remembers the schema
that comes back. Looking, every attempt, and remembering are steps of their own, and between them
other questions may take any steps, and anything else may happen to the database.
-/

namespace TableQuery

/-- What is asked about a table. -/
inductive SchemaQuestion where
  /-- Its whole schema. -/
  | schema
  /-- The facts that statements need. -/
  | info
  /-- Whether it has a column. -/
  | column (name : String)

/-- What a question is answered with. -/
inductive SchemaAnswer where
  /-- The schema. -/
  | schema (schema : TableSchema)
  /-- The facts. -/
  | info (info : TableInfo)
  /-- The table has the column. -/
  | column (present : Bool)

/-- The answer that a schema gives to a question. -/
def SchemaQuestion.answer : SchemaQuestion → TableSchema → SchemaAnswer
  | .schema, s => .schema s
  | .info, s => .info s.info
  | .column name, s => .column (s.hasColumn name)

/-- How far a question has come. -/
inductive QuestionPhase where
  /-- Nothing was done yet. -/
  | begun
  /-- Nothing is remembered, and the catalog is asked. -/
  | asking (progress : Progress ResultSet)
  /-- The question is answered, or has failed. -/
  | answered (result : Except DatabaseError SchemaAnswer)

/-- A question under way. -/
structure Question where
  /-- The table. -/
  table : String
  /-- What is asked about it. -/
  kind : SchemaQuestion
  /-- How far it has come. -/
  phase : QuestionPhase

/-- The database, what is remembered, and the questions in the order in which they were begun. -/
structure Sharing (σ : Type) where
  /-- The state of the database. -/
  db : σ
  /-- The remembered schemas. -/
  cache : SchemaCache
  /-- The questions. -/
  questions : List Question

/-- What happens. -/
inductive SharingEvent where
  /-- A question is begun. -/
  | begun (table : String) (kind : SchemaQuestion)
  /-- The question with a number looks at what is remembered. -/
  | looked (i : ℕ)
  /-- It sends an attempt to the catalog, or gets the answer. -/
  | attempted (i : ℕ) (event : AttemptEvent ResultSet)
  /-- It remembers the schema that has come back. -/
  | stored (i : ℕ)
  /-- It fails. -/
  | failed (i : ℕ)
  /-- The database comes to another state in some other way. -/
  | elsewhere

/-- What the questions have sent, oldest first. -/
def askedCalls (events : List SharingEvent) : List SentStatement :=
  events.filterMap fun
    | .attempted _ (.sent call) => some call
    | _ => none

/-- What the questions have sent first and then. -/
theorem askedCalls_append (events later : List SharingEvent) :
    askedCalls (events ++ later) = askedCalls events ++ askedCalls later :=
  List.filterMap_append

/-- The state in which the question with a number has come to a phase. -/
def Sharing.advance {σ : Type} (s : Sharing σ) (i : ℕ) (table : String) (kind : SchemaQuestion)
    (phase : QuestionPhase) : Sharing σ :=
  { s with questions := s.questions.set i ⟨table, kind, phase⟩ }

/-- The steps of questions that share remembered schemas. The database answers an attempt in the
state in which the attempt finds it; other steps of the database may come between any two of
them. -/
inductive SharingStep {σ : Type} (e : Engine σ) : Sharing σ → SharingEvent → Sharing σ → Prop
  /-- A question is begun. -/
  | begin (s : Sharing σ) (table : String) (kind : SchemaQuestion) :
    SharingStep e s (.begun table kind)
      { s with questions := s.questions ++ [⟨table, kind, .begun⟩] }
  /-- A remembered schema answers the question. -/
  | hit {s : Sharing σ} {i : ℕ} {table : String} {kind : SchemaQuestion} {schema : TableSchema} :
    s.questions[i]? = some ⟨table, kind, .begun⟩ →
    SchemaCache.find? s.cache table = some schema →
    SharingStep e s (.looked i) (s.advance i table kind (.answered (.ok (kind.answer schema))))
  /-- Nothing is remembered, so the catalog is to be asked. -/
  | miss {s : Sharing σ} {i : ℕ} {table : String} {kind : SchemaQuestion} :
    s.questions[i]? = some ⟨table, kind, .begun⟩ →
    SchemaCache.find? s.cache table = none →
    SharingStep e s (.looked i) (s.advance i table kind (.asking (.ready 1)))
  /-- An attempt is sent or answered. -/
  | attempt {s : Sharing σ} {i : ℕ} {table : String} {kind : SchemaQuestion}
    {p q : Progress ResultSet} {event : AttemptEvent ResultSet} {db : σ} :
    s.questions[i]? = some ⟨table, kind, .asking p⟩ →
    AttemptOn e.settings.attemptLimit (catalogCall table) (e.askCatalog table) (s.db, p) event
      (db, q) →
    SharingStep e s (.attempted i event) { s.advance i table kind (.asking q) with db := db }
  /-- The schema that has come back is remembered and answers the question. -/
  | store {s : Sharing σ} {i : ℕ} {table : String} {kind : SchemaQuestion} {set : ResultSet} :
    s.questions[i]? = some ⟨table, kind, .asking (.finished (.ok set))⟩ →
    SharingStep e s (.stored i)
      { s.advance i table kind (.answered (.ok (kind.answer (e.schemaOf set)))) with
        cache := s.cache.store table (e.schemaOf set) }
  /-- The catalog has not answered, and the question fails. -/
  | fail {s : Sharing σ} {i : ℕ} {table : String} {kind : SchemaQuestion}
    {error : DatabaseError} :
    s.questions[i]? = some ⟨table, kind, .asking (.finished (.error error))⟩ →
    SharingStep e s (.failed i) (s.advance i table kind (.answered (.error error)))
  /-- Something else happens to the database. -/
  | elsewhere (s : Sharing σ) (db : σ) : SharingStep e s .elsewhere { s with db := db }

/-- The catalog does not change: whenever the database answers the question for the columns of a
table, with whatever it has done before, the rows are those that the catalog has of the table. Any
question may fail. -/
def Engine.KeepsCatalog {σ : Type} (e : Engine σ) (catalog : String → List Row) : Prop :=
  ∀ table db set, (e.askCatalog table db).1 = .ok set →
    set.normalize e.settings.timezone = catalog table

/-- Looking up a table after remembering one. -/
theorem SchemaCache.find?_store (cache : SchemaCache) (table : String) (schema : TableSchema)
    (other : String) : SchemaCache.find? (SchemaCache.store cache table schema) other =
      if table = other then some schema else SchemaCache.find? cache other :=
  getField?_putField table schema cache other

/-- A question agrees with the catalog: rows that have come back are those of its table, and an
answer is given from its schema, which is then remembered. -/
def Question.Agrees (settings : EngineSettings) (catalog : String → List Row)
    (cache : SchemaCache) (q : Question) : Prop :=
  match q.phase with
  | .asking (.finished (.ok set)) => set.normalize settings.timezone = catalog q.table
  | .answered (.ok answer) =>
    answer = q.kind.answer (TableSchema.ofCatalog (catalog q.table)) ∧
      SchemaCache.find? cache q.table = some (TableSchema.ofCatalog (catalog q.table))
  | _ => True

/-- Everything that is remembered agrees with the catalog, and every question does. -/
structure Sharing.Coherent {σ : Type} (settings : EngineSettings) (catalog : String → List Row)
    (s : Sharing σ) : Prop where
  /-- A remembered schema is that of the catalog. -/
  entry_eq : ∀ table schema, SchemaCache.find? s.cache table = some schema →
    schema = TableSchema.ofCatalog (catalog table)
  /-- Questions agree with the catalog. -/
  agrees : ∀ q ∈ s.questions, q.Agrees settings catalog s.cache

section Coherence

variable {σ : Type} {e : Engine σ} {settings : EngineSettings} {catalog : String → List Row}
  {s s' : Sharing σ} {event : SharingEvent}

/-- A statement that is done with rows has got them from the database. -/
theorem AttemptOn.exists_answer {limit : UInt32} {call : SentStatement}
    {run : σ → Except Fault ResultSet × σ} {before : σ × Progress ResultSet}
    {event : AttemptEvent ResultSet} {db : σ} {set : ResultSet}
    (h : AttemptOn limit call run before event (db, .finished (.ok set))) :
    ∃ asked, (run asked).1 = .ok set := by
  generalize hafter : (db, Progress.finished (.ok set)) = after at h
  cases h with
  | send db attempt => cases hafter
  | answer asked attempt =>
    have hdone : Progress.finished (.ok set) =
        .ofState (.after limit attempt (run asked).1) := congrArg Prod.snd hafter
    refine ⟨asked, ?_⟩
    cases hanswer : (run asked).1 with
    | ok other =>
      rw [hanswer] at hdone
      cases hdone
      rfl
    | error fault =>
      rw [hanswer, AttemptState.after] at hdone
      split at hdone <;> cases hdone

/-- Remembering what the catalog has of a table keeps questions in agreement with it. -/
theorem Question.Agrees.store {q : Question} {cache : SchemaCache}
    (h : q.Agrees settings catalog cache) (table : String) :
    q.Agrees settings catalog
      (SchemaCache.store cache table (TableSchema.ofCatalog (catalog table))) := by
  obtain ⟨asked, kind, phase⟩ := q
  cases phase with
  | begun => exact trivial
  | asking p => rcases p with attempt | attempt | (error | set) <;> exact h
  | answered result =>
    cases result with
    | error error => exact trivial
    | ok answer =>
      refine ⟨h.1, ?_⟩
      rw [SchemaCache.find?_store]
      split
      · next htable => rw [htable]
      · exact h.2

/-- A question that comes to a phase in agreement with the catalog leaves all in agreement. -/
theorem Sharing.Coherent.advance (h : s.Coherent settings catalog) {i : ℕ} {table : String}
    {kind : SchemaQuestion} {phase : QuestionPhase}
    (hphase : Question.Agrees settings catalog s.cache ⟨table, kind, phase⟩) :
    (s.advance i table kind phase).Coherent settings catalog := by
  refine ⟨h.entry_eq, fun q hq => ?_⟩
  cases List.mem_or_eq_of_mem_set hq with
  | inl hold => exact h.agrees q hold
  | inr hnew =>
    rw [hnew]
    exact hphase

/-- Every step keeps what is remembered in agreement with the catalog. -/
theorem Sharing.Coherent.step (hcatalog : e.KeepsCatalog catalog)
    (h : s.Coherent e.settings catalog) (hstep : SharingStep e s event s') :
    s'.Coherent e.settings catalog := by
  cases hstep with
  | begin table kind =>
    refine ⟨h.entry_eq, fun q hq => ?_⟩
    rw [List.mem_append, List.mem_singleton] at hq
    cases hq with
    | inl hold => exact h.agrees q hold
    | inr hnew =>
      rw [hnew]
      exact trivial
  | @hit i table kind schema hi hfound =>
    have hschema := h.entry_eq table schema hfound
    subst hschema
    exact h.advance ⟨rfl, hfound⟩
  | miss hi hnone => exact h.advance trivial
  | @attempt i table kind p q event db hi hattempt =>
    have hphase : Question.Agrees e.settings catalog s.cache ⟨table, kind, .asking q⟩ := by
      rcases q with attempt | attempt | (error | set)
      · exact trivial
      · exact trivial
      · exact trivial
      · obtain ⟨asked, hasked⟩ := hattempt.exists_answer
        exact hcatalog table asked set hasked
    have hadvanced := h.advance (i := i) hphase
    exact ⟨hadvanced.entry_eq, hadvanced.agrees⟩
  | @store i table kind set hi =>
    have hset : set.normalize e.settings.timezone = catalog table :=
      h.agrees _ (List.mem_of_getElem? hi)
    -- so the entry is what the catalog has, also where another question has stored it before
    rw [Engine.schemaOf, hset]
    refine ⟨fun other schema hfound => ?_, fun q hq => ?_⟩
    · rw [SchemaCache.find?_store] at hfound
      split at hfound
      · next htable =>
        cases hfound
        rw [htable]
      · exact h.entry_eq other schema hfound
    · cases List.mem_or_eq_of_mem_set hq with
      | inl hold => exact (h.agrees q hold).store table
      | inr hnew =>
        subst hnew
        refine ⟨rfl, ?_⟩
        rw [SchemaCache.find?_store, if_pos rfl]
  | fail hi => exact h.advance trivial
  | elsewhere db => exact ⟨h.entry_eq, h.agrees⟩

end Coherence

end TableQuery
