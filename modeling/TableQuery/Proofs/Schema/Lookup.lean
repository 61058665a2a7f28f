import TableQuery.Database.Operations
import TableQuery.Proofs.Execution.Engine

/-!
# Looking up table schemas

A remembered schema is the answer, and nothing is sent. Any other lookup asks the catalog under the
law of attempts; a schema that comes back is remembered, a failure leaves what is remembered as it
is.
-/

namespace TableQuery

variable {σ : Type}

/-- The catalog is asked for the columns of a table. -/
def catalogCall (table : String) : SentStatement :=
  (Statement.tableColumns table).fetchCall

namespace Engine

/-- The schema that an answer of the catalog describes. -/
def schemaOf (e : Engine σ) (set : ResultSet) : TableSchema :=
  TableSchema.ofCatalog (set.normalize e.settings.timezone)

/-- What the catalog makes of the question for the columns of a table. -/
def askCatalog (e : Engine σ) (table : String) : σ → Except Fault ResultSet × σ :=
  e.backend.fetch (Statement.tableColumns table).sql (Statement.tableColumns table).parameters

/-- The answers of the catalog to one question after another. -/
def catalogAnswers (e : Engine σ) (table : String) (start : σ) : ℕ → Except Fault ResultSet :=
  answersFrom (e.askCatalog table) start

/-- What reading a schema from the catalog comes to. -/
theorem loadSchema_concludes (e : Engine σ) (table : String) (s : Session σ) :
    ∃ last outcome,
      AttemptState.Concludes e.settings.attemptLimit (e.catalogAnswers table s.backend) last
        outcome ∧
      (e.loadSchema table s).1 = outcome.map e.schemaOf ∧
      (e.loadSchema table s).2.backend = stateAfter (e.askCatalog table) s.backend (last + 1) ∧
      (e.loadSchema table s).2.cache = s.cache ∧
      Action.Sends (e.loadSchema table) (e.recorded.loadSchema table) s
        (List.replicate (last + 1) (catalogCall table)) := by
  obtain ⟨last, outcome, hconcludes, hresult, hbackend, hcache, hfetch⟩ :=
    e.fetch_concludes (.tableColumns table) s
  have hreport : ∀ result : QueryResult, Action.Quiet (do
      let schema := TableSchema.ofCatalog result.rows
      Action.log (.schemaLoaded table schema.columns.length)
      return schema : Action σ TableSchema) (TableSchema.ofCatalog result.rows) :=
    fun result => (Action.Quiet.log _).bind (.pure _)
  obtain ⟨hloaded, hbackend', hcache'⟩ :=
    Action.bind_quiet (e.fetch (.tableColumns table)) hreport s
  refine ⟨last, outcome, hconcludes, ?_, hbackend'.trans hbackend, hcache'.trans hcache,
    hfetch.bind_unsent fun _ s' => (Action.Sends.log _ s').bind_unsent fun _ => .pure _⟩
  rw [hresult] at hloaded
  rw [loadSchema, hloaded]
  cases outcome <;> rfl

/-- Read the schema of a table from the catalog and remember it. -/
def refresh (e : Engine σ) (table : String) : Action σ TableSchema := do
  let schema ← e.loadSchema table
  modify fun s => s.remember table schema
  return schema

/-- What is remembered after the catalog was asked: a schema that came back is added. -/
def rememberedAfter (e : Engine σ) (table : String) (cache : Option SchemaCache) :
    Except DatabaseError ResultSet → Option SchemaCache
  | .ok set => cache.map fun known => SchemaCache.store known table (e.schemaOf set)
  | .error _ => cache

/-- What reading and remembering a schema comes to. -/
theorem refresh_concludes (e : Engine σ) (table : String) (s : Session σ) :
    ∃ last outcome,
      AttemptState.Concludes e.settings.attemptLimit (e.catalogAnswers table s.backend) last
        outcome ∧
      (e.refresh table s).1 = outcome.map e.schemaOf ∧
      (e.refresh table s).2.backend = stateAfter (e.askCatalog table) s.backend (last + 1) ∧
      (e.refresh table s).2.cache = e.rememberedAfter table s.cache outcome ∧
      Action.Sends (e.refresh table) (e.recorded.refresh table) s
        (List.replicate (last + 1) (catalogCall table)) := by
  obtain ⟨last, outcome, hconcludes, hresult, hbackend, hcache, hload⟩ :=
    e.loadSchema_concludes table s
  have hsends : Action.Sends (e.refresh table) (e.recorded.refresh table) s
      (List.replicate (last + 1) (catalogCall table)) :=
    hload.bind_unsent fun _ s' => (Action.Sends.remember _ _ s').bind_unsent fun _ => .pure _
  refine ⟨last, outcome, hconcludes, ?_⟩
  cases hs : e.loadSchema table s with
  | mk result s' =>
    rw [hs] at hresult hbackend hcache
    cases outcome with
    | error error =>
      have hresult : result = .error error := hresult
      rw [hresult] at hs
      have hrun : e.refresh table s = (.error error, s') := Action.bind_error hs
      rw [hrun]
      exact ⟨rfl, hbackend, hcache, hsends⟩
    | ok set =>
      have hresult : result = .ok (e.schemaOf set) := hresult
      rw [hresult] at hs
      have hrun : e.refresh table s = (.ok (e.schemaOf set), s'.remember table (e.schemaOf set)) :=
        Action.bind_ok hs
      have hstored : (s'.remember table (e.schemaOf set)).cache =
          e.rememberedAfter table s.cache (.ok set) := by
        rw [← hcache]
        rfl
      rw [hrun]
      exact ⟨rfl, hbackend, hstored, hsends⟩

/-- Reading a schema never ends with an error about the input. -/
theorem refresh_accepts (e : Engine σ) (table : String) : Action.Accepts (e.refresh table) := by
  have hload : Action.Accepts (e.loadSchema table) :=
    (e.fetch_accepts _).bind fun _ => (Action.Accepts.log _).bind fun _ => .pure _
  refine hload.bind fun schema => ?_
  have hremember : Action.Accepts
      (modify fun s => s.remember table schema : Action σ Unit) := fun s err h => by cases h
  exact hremember.bind fun _ => .pure schema

/-- A remembered schema is the answer. -/
theorem tableSchema_of_remembered {e : Engine σ} {table : String} {s : Session σ}
    {schema : TableSchema} (h : s.remembered? table = some schema) :
    e.tableSchema table s = (.ok schema, s) := by
  have hget : (get : Action σ (Session σ)) s = (.ok s, s) := rfl
  rw [tableSchema, Action.bind_ok hget, h]
  rfl

/-- A schema that is not remembered is read. -/
theorem tableSchema_of_unknown {e : Engine σ} {table : String} {s : Session σ}
    (h : s.remembered? table = none) : e.tableSchema table s = e.refresh table s := by
  have hget : (get : Action σ (Session σ)) s = (.ok s, s) := rfl
  rw [tableSchema, Action.bind_ok hget, h]
  rfl

/-- Asking for a remembered schema sends nothing. -/
theorem sends_of_remembered {e : Engine σ} {table : String} {s : Session σ}
    {schema : TableSchema} (h : s.remembered? table = some schema) :
    Action.Sends (e.tableSchema table) (e.recorded.tableSchema table) s [] := by
  intro sent
  have hrecorded : (s.recorded sent).remembered? table = some schema := h
  rw [tableSchema_of_remembered h, tableSchema_of_remembered hrecorded, List.append_nil]

/-- Asking for a schema that is not remembered sends what reading it sends. -/
theorem sends_of_unknown {e : Engine σ} {table : String} {s : Session σ}
    {new : List SentStatement} (h : s.remembered? table = none)
    (hnew : Action.Sends (e.refresh table) (e.recorded.refresh table) s new) :
    Action.Sends (e.tableSchema table) (e.recorded.tableSchema table) s new := by
  intro sent
  have hrecorded : (s.recorded sent).remembered? table = none := h
  rw [tableSchema_of_unknown h, tableSchema_of_unknown hrecorded, hnew]

/-- Asking for a schema sends nothing but questions to the catalog. -/
theorem tableSchema_sends (e : Engine σ) (table : String) (s : Session σ) :
    ∃ count, Action.Sends (e.tableSchema table) (e.recorded.tableSchema table) s
      (List.replicate count (catalogCall table)) := by
  cases h : s.remembered? table with
  | some schema => exact ⟨0, sends_of_remembered h⟩
  | none =>
    obtain ⟨last, -, -, -, -, -, hsends⟩ := e.refresh_concludes table s
    exact ⟨last + 1, sends_of_unknown h hsends⟩

/-- Asking for the facts about a table sends nothing but questions to the catalog. -/
theorem tableInfo_sends (e : Engine σ) (table : String) (s : Session σ) :
    ∃ count, Action.Sends (e.tableInfo table) (e.recorded.tableInfo table) s
      (List.replicate count (catalogCall table)) := by
  obtain ⟨count, hsends⟩ := e.tableSchema_sends table s
  exact ⟨count, hsends.bind_unsent fun schema => .pure schema.info⟩

/-- Asking for a schema never ends with an error about the input. -/
theorem tableSchema_accepts (e : Engine σ) (table : String) :
    Action.Accepts (e.tableSchema table) := by
  intro s error
  cases h : s.remembered? table with
  | some schema =>
    rw [tableSchema_of_remembered h]
    rintro ⟨⟩
  | none =>
    rw [tableSchema_of_unknown h]
    exact e.refresh_accepts table s error

/-- Asking for the facts about a table never ends with an error about the input. -/
theorem tableInfo_accepts (e : Engine σ) (table : String) : Action.Accepts (e.tableInfo table) :=
  (e.tableSchema_accepts table).bind fun _ => .pure _

end Engine

end TableQuery
