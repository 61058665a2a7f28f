import TableQuery.Proofs.Schema.CatalogRows
import TableQuery.Proofs.Schema.Sharing

/-!
# Sessions that remember different schemas

What can be seen of a database decides what it answers, and questions to the catalog cannot be seen.
Two sessions are twins if the same can be seen of their databases and what they remember, if they
remember anything, is what the catalog has. Running a statement and asking about a table come to
the same in both and leave twins.
-/

namespace TableQuery

open TableQuery.Sql

variable {σ τ α β : Type}

/-- What can be seen of a database decides the answer to a statement, and what can be seen behind
it. -/
def ShownBy (view : σ → τ) (run : σ → α × σ) : Prop :=
  ∀ a b, view a = view b → (run a).1 = (run b).1 ∧ view (run a).2 = view (run b).2

/-- What can be seen of a database decides its answers. The catalog answers by its rows, unseen. -/
structure Backend.Shows (b : Backend σ) (view : σ → τ) (rows : List CatalogRow) : Prop where
  /-- Statements that return rows are answered by what can be seen. -/
  fetch : ∀ sql parameters, ShownBy view (b.fetch sql parameters)
  /-- So are statements that count affected rows. -/
  execute : ∀ sql parameters, ShownBy view (b.execute sql parameters)
  /-- Questions to the catalog are answered by its rows, and change nothing that can be seen. -/
  catalog : ∀ statement : Statement, statement.AsksCatalog → ∀ q set state,
    Query.ofText statement.sql = some q →
      q.catalogAnswer? rows statement.parameters = some set →
        (b.fetch statement.sql statement.parameters state).1 = .ok set ∧
          view (b.fetch statement.sql statement.parameters state).2 = view state

/-- Whatever schemas the session remembers, the catalog has them. -/
def Session.Truthful (rows : List CatalogRow) (s : Session σ) : Prop :=
  ∀ table schema, s.remembered? table = some schema → schema = catalogSchema rows table

namespace Session.Truthful

variable {rows : List CatalogRow} {s u : Session σ}

/-- A session that remembers nothing is right. -/
theorem of_none (h : s.cache = none) : s.Truthful rows := by
  intro table schema hknown
  rw [remembered?, h] at hknown
  cases hknown

/-- What is remembered decides whether it is right. -/
theorem of_cache (h : s.Truthful rows) (hcache : u.cache = s.cache) : u.Truthful rows := by
  intro table schema hknown
  rw [remembered?, hcache] at hknown
  exact h table schema hknown

/-- What the catalog has may be remembered. -/
theorem remember (h : s.Truthful rows) (table : String) :
    (s.remember table (catalogSchema rows table)).Truthful rows := by
  intro other schema hknown
  cases hcache : s.cache with
  | none =>
    rw [remembered?, Session.remember, hcache] at hknown
    cases hknown
  | some cache =>
    have hfound : SchemaCache.find? (SchemaCache.store cache table (catalogSchema rows table))
        other = some schema := by
      rw [remembered?, Session.remember, hcache] at hknown
      exact hknown
    rw [SchemaCache.find?_store] at hfound
    split at hfound
    · next htable =>
      cases hfound
      rw [htable]
    · refine h other schema ?_
      rw [remembered?, hcache]
      exact hfound

end Session.Truthful

/-- Two sessions of which the same can be seen, and that remember nothing but what the catalog
has. -/
structure Twins (view : σ → τ) (rows : List CatalogRow) (s u : Session σ) : Prop where
  /-- The same can be seen of their databases. -/
  seen : view s.backend = view u.backend
  /-- The first one is right in what it remembers. -/
  first : s.Truthful rows
  /-- The second one is right in what it remembers. -/
  second : u.Truthful rows

/-- An action has the same result in twins and leaves twins. -/
def Action.TwinsAgree (view : σ → τ) (rows : List CatalogRow) (a : Action σ α) : Prop :=
  ∀ s u, Twins view rows s u → (a s).1 = (a u).1 ∧ Twins view rows (a s).2 (a u).2

namespace Action.TwinsAgree

variable {view : σ → τ} {rows : List CatalogRow} {a : Action σ α} {f : α → Action σ β}

/-- A result that is there at once. -/
theorem pure (x : α) : TwinsAgree view rows (Pure.pure x : Action σ α) :=
  fun _ _ h => ⟨rfl, h⟩

/-- An error. -/
theorem error (e : DatabaseError) : TwinsAgree view rows (throw e : Action σ α) :=
  fun _ _ h => ⟨rfl, h⟩

/-- A check of the input. -/
theorem ofInput (x : Except InputError α) : TwinsAgree view rows (Action.ofInput x) := by
  cases x with
  | ok x => exact pure x
  | error e => exact error (.input e)

/-- Reporting an event. -/
theorem log (event : Event) : TwinsAgree view rows (Action.log event : Action σ Unit) :=
  fun _ _ h => ⟨rfl, h.seen, h.first, h.second⟩

/-- Two steps, one after the other. -/
theorem bind (ha : TwinsAgree view rows a) (hf : ∀ x, TwinsAgree view rows (f x)) :
    TwinsAgree view rows (a >>= f) := by
  intro s u h
  obtain ⟨hresult, htwins⟩ := ha s u h
  cases hs : a s with
  | mk result s' =>
    cases hu : a u with
    | mk result' u' =>
      rw [hs, hu] at hresult htwins
      dsimp only at hresult htwins
      subst hresult
      cases result with
      | ok x =>
        rw [bind_ok hs, bind_ok hu]
        exact hf x s' u' htwins
      | error e =>
        rw [bind_error hs, bind_error hu]
        exact ⟨rfl, htwins⟩

/-- An action that has one and the same result wherever the memory is right, and changes nothing
that can be seen. -/
theorem of_known {x : α} (h : ∀ s : Session σ, s.Truthful rows →
    ∃ s', a s = (.ok x, s') ∧ view s'.backend = view s.backend ∧ s'.Truthful rows) :
    TwinsAgree view rows a := by
  intro s u htwins
  obtain ⟨s', hs, hseen, htruthful⟩ := h s htwins.first
  obtain ⟨u', hu, hseen', htruthful'⟩ := h u htwins.second
  rw [hs, hu]
  exact ⟨rfl, hseen.trans (htwins.seen.trans hseen'.symm), htruthful, htruthful'⟩

end Action.TwinsAgree

namespace ShownBy

variable {view : σ → τ} {run : σ → α × σ} {a b : σ}

/-- The same can be seen after as many attempts. -/
theorem stateAfter (hrun : ShownBy view run) (h : view a = view b) (n : ℕ) :
    view (TableQuery.stateAfter run a n) = view (TableQuery.stateAfter run b n) := by
  induction n with
  | zero => exact h
  | succ n ih => exact (hrun _ _ ih).2

/-- All attempts are answered alike. -/
theorem answersFrom (hrun : ShownBy view run) (h : view a = view b) :
    TableQuery.answersFrom run a = TableQuery.answersFrom run b :=
  funext fun n => (hrun _ _ (hrun.stateAfter h n)).1

end ShownBy

namespace Engine

variable {e : Engine σ} {view : σ → τ} {rows : List CatalogRow}

/-- Twins agree on statements whose answers can be told from what can be seen. -/
theorem perform_twinsAgree (e : Engine σ) (rows : List CatalogRow) (statement : Statement)
    {run : σ → Except Fault α × σ} (hrun : ShownBy view run) (report : α → Event)
    (finish : α → QueryResult) :
    Action.TwinsAgree view rows (e.perform statement run report finish) := by
  intro s u h
  obtain ⟨last, outcome, hconcludes, hresult, hbackend, hcache, -⟩ :=
    e.perform_concludes statement run report finish s
  obtain ⟨last', outcome', hconcludes', hresult', hbackend', hcache', -⟩ :=
    e.perform_concludes statement run report finish u
  rw [← hrun.answersFrom h.seen] at hconcludes'
  obtain ⟨rfl, rfl⟩ := hconcludes.unique hconcludes'
  refine ⟨hresult.trans hresult'.symm, ?_, h.first.of_cache hcache, h.second.of_cache hcache'⟩
  rw [hbackend, hbackend']
  exact hrun.stateAfter h.seen _

/-- Twins agree on statements that return rows. -/
theorem fetch_twinsAgree (h : e.backend.Shows view rows) (statement : Statement) :
    Action.TwinsAgree view rows (e.fetch statement) :=
  e.perform_twinsAgree rows statement (h.fetch _ _) _ _

/-- Twins agree on statements that count affected rows. -/
theorem execute_twinsAgree (h : e.backend.Shows view rows) (statement : Statement) :
    Action.TwinsAgree view rows (e.execute statement) :=
  e.perform_twinsAgree rows statement (h.execute _ _) _ _

/-- A statement that is answered at once. -/
theorem fetch_of_ok {statement : Statement} {s : Session σ} {set : ResultSet}
    (h : (e.backend.fetch statement.sql statement.parameters s.backend).1 = .ok set) :
    ∃ s', e.fetch statement s = (.ok (e.rowsResult set), s') ∧
      s'.backend = (e.backend.fetch statement.sql statement.parameters s.backend).2 ∧
      s'.cache = s.cache := by
  obtain ⟨last, outcome, hconcludes, hresult, hbackend, hcache, -⟩ :=
    e.perform_concludes statement (e.backend.fetch statement.sql statement.parameters)
      (fun set => .rows (previewRows (set.normalize e.settings.timezone))) e.rowsResult s
  obtain ⟨rfl, rfl⟩ := hconcludes.unique (.of_ok h)
  exact ⟨_, Prod.ext hresult rfl, hbackend, hcache⟩

/-- A question to the catalog is answered by its rows, unseen, and what is remembered stays. -/
theorem fetch_of_asksCatalog (h : e.backend.Shows view rows) {statement : Statement} {q : Query}
    {set : ResultSet} (hasks : statement.AsksCatalog)
    (htext : Query.ofText statement.sql = some q)
    (hanswer : q.catalogAnswer? rows statement.parameters = some set) (s : Session σ) :
    ∃ s', e.fetch statement s = (.ok (e.rowsResult set), s') ∧
      view s'.backend = view s.backend ∧ s'.cache = s.cache := by
  obtain ⟨hset, hview⟩ := h.catalog statement hasks q set s.backend htext hanswer
  obtain ⟨s', hs', hbackend, hcache⟩ := fetch_of_ok hset
  rw [← hbackend] at hview
  exact ⟨s', hs', hview, hcache⟩

/-- A session that is right in what it remembers tells the schema that the catalog has, and is right
afterwards. -/
theorem tableSchema_known (h : e.backend.Shows view rows) (table : String) {s : Session σ}
    (hs : s.Truthful rows) :
    ∃ s', e.tableSchema table s = (.ok (catalogSchema rows table), s') ∧
      view s'.backend = view s.backend ∧ s'.Truthful rows := by
  cases hknown : s.remembered? table with
  | some schema =>
    rw [tableSchema_of_remembered hknown, hs table schema hknown]
    exact ⟨s, rfl, rfl, hs⟩
  | none =>
    obtain ⟨s', hs', hview, hcache⟩ := fetch_of_asksCatalog h (.tableColumns table)
      (Statement.tableColumns_means table).ofText (catalogAnswer?_tableColumns rows table) s
    have hschema := schemaOf_columnsAnswer e rows table
    have hload : e.loadSchema table s = (.ok (catalogSchema rows table),
        s'.log (.schemaLoaded table (catalogSchema rows table).columns.length)) := by
      rw [← hschema]
      exact Action.bind_ok hs'
    rw [tableSchema_of_unknown hknown]
    exact ⟨_, Action.bind_ok hload, hview, (hs.of_cache hcache).remember table⟩

/-- A session that is right in what it remembers tells whether the catalog has a column, and is
right afterwards. -/
theorem columnExists_known (h : e.backend.Shows view rows) (table column : String) {s : Session σ}
    (hs : s.Truthful rows) :
    ∃ s', e.columnExists table column s =
        (.ok (rows.any fun r => r.isOf table && r.column == column), s') ∧
      view s'.backend = view s.backend ∧ s'.Truthful rows := by
  have hget : (get : Action σ (Session σ)) s = (.ok s, s) := rfl
  rw [columnExists, Action.bind_ok hget]
  cases hcache : s.cache with
  | some cache =>
    obtain ⟨s', hs', hview, htruthful⟩ := tableSchema_known h table hs
    refine ⟨s', ?_, hview, htruthful⟩
    rw [← hasColumn_catalogSchema]
    exact Action.bind_ok hs'
  | none =>
    obtain ⟨s', hs', hview, hkept⟩ := fetch_of_asksCatalog h (.columnExists table column)
      (Statement.columnExists_means table column).ofText
      (catalogAnswer?_columnExists rows table column) s
    refine ⟨s', ?_, hview, .of_none (hkept.trans hcache)⟩
    rw [← isEmpty_columnAnswer rows table column e.settings.timezone]
    exact Action.bind_ok hs'

/-- Twins agree on the facts about a table. -/
theorem tableInfo_twinsAgree (h : e.backend.Shows view rows) (table : String) :
    Action.TwinsAgree view rows (e.tableInfo table) :=
  (Action.TwinsAgree.of_known fun _ hs => tableSchema_known h table hs).bind fun _ => .pure _

/-- Twins agree on the columns of a table. -/
theorem columnExists_twinsAgree (h : e.backend.Shows view rows) (table column : String) :
    Action.TwinsAgree view rows (e.columnExists table column) :=
  .of_known fun _ hs => columnExists_known h table column hs

end Engine

end TableQuery
