import TableQuery.Proofs.Schema.Sharing

/-!
# Remembered schemas over whole runs

In every run of questions that share remembered schemas, what is remembered is what the catalog has,
and answers are given from it. Only a question that has got its rows remembers anything, so one that
fails leaves all as it is. Once a table's schema has been found, questions about this table that are
begun later send nothing. An operation that asks a question is a run of this question on its
database, and sends what the question sends in it.
-/

namespace TableQuery

variable {σ : Type} {e : Engine σ} {catalog : String → List Row} {s s' : Sharing σ}
  {event : SharingEvent} {events : List SharingEvent}

/-- What a step does to the questions: one is begun, or one that has no answer yet comes to another
phase, or all stay as they are. -/
theorem SharingStep.questions_cases (h : SharingStep e s event s') :
    (∃ table kind, s'.questions = s.questions ++ [⟨table, kind, .begun⟩]) ∨
      (∃ i table kind before after, s.questions[i]? = some ⟨table, kind, before⟩ ∧
        (∀ result, before ≠ .answered result) ∧
        s'.questions = s.questions.set i ⟨table, kind, after⟩) ∨
      s'.questions = s.questions := by
  cases h with
  | begin table kind => exact .inl ⟨table, kind, rfl⟩
  | hit hi _ => exact .inr (.inl ⟨_, _, _, _, _, hi, fun _ h => (by cases h), rfl⟩)
  | miss hi _ => exact .inr (.inl ⟨_, _, _, _, _, hi, fun _ h => (by cases h), rfl⟩)
  | attempt hi _ => exact .inr (.inl ⟨_, _, _, _, _, hi, fun _ h => (by cases h), rfl⟩)
  | store hi => exact .inr (.inl ⟨_, _, _, _, _, hi, fun _ h => (by cases h), rfl⟩)
  | fail hi => exact .inr (.inl ⟨_, _, _, _, _, hi, fun _ h => (by cases h), rfl⟩)
  | elsewhere db => exact .inr (.inr rfl)

/-- A question stays, with its table and kind, and an answered one stays as it is. -/
theorem SharingStep.question_stays (h : SharingStep e s event s') {i : ℕ}
    {table : String} {kind : SchemaQuestion} {phase : QuestionPhase}
    (hi : s.questions[i]? = some ⟨table, kind, phase⟩) :
    ∃ phase', s'.questions[i]? = some ⟨table, kind, phase'⟩ ∧
      ∀ result, phase = .answered result → phase' = .answered result := by
  obtain ⟨hlt, -⟩ := List.getElem?_eq_some_iff.1 hi
  rcases h.questions_cases with
    ⟨asked, other, hbegun⟩ | ⟨j, asked, other, before, after, hj, hopen, hset⟩ | hsame
  · refine ⟨phase, ?_, fun _ h => h⟩
    rw [hbegun, List.getElem?_append_left hlt]
    exact hi
  · rw [hset]
    by_cases hij : j = i
    · subst hij
      rw [hi] at hj
      cases hj
      refine ⟨after, List.getElem?_set_self hlt, fun result hresult => ?_⟩
      exact absurd hresult (hopen result)
    · rw [List.getElem?_set_ne hij]
      exact ⟨phase, hi, fun _ h => h⟩
  · rw [hsame]
    exact ⟨phase, hi, fun _ h => h⟩

/-- Only remembering changes what is remembered. -/
theorem SharingStep.cache_eq (h : SharingStep e s event s')
    (hother : ∀ i, event ≠ .stored i) : s'.cache = s.cache := by
  cases h with
  | store hi => exact absurd rfl (hother _)
  | begin | hit | miss | attempt | fail | elsewhere => rfl

/-- What is remembered of a table may be replaced, but is not forgotten. -/
theorem SharingStep.remembered_stays (h : SharingStep e s event s') {table : String}
    (hknown : (SchemaCache.find? s.cache table).isSome = true) :
    (SchemaCache.find? s'.cache table).isSome = true := by
  cases h with
  | store hi =>
    rw [SchemaCache.find?_store]
    split
    · rfl
    · exact hknown
  | begin | hit | miss | attempt | fail | elsewhere => exact hknown

/-- An answered question stays as it is. -/
theorem SharingStep.answered_stays (h : SharingStep e s event s') {i : ℕ}
    {table : String} {kind : SchemaQuestion} {result : Except DatabaseError SchemaAnswer}
    (hi : s.questions[i]? = some ⟨table, kind, .answered result⟩) :
    s'.questions[i]? = some ⟨table, kind, .answered result⟩ := by
  obtain ⟨phase, hphase, hanswered⟩ := h.question_stays hi
  rw [hanswered result rfl] at hphase
  exact hphase

/-- A question that remembers a schema has then succeeded, and the schema is that of its table. -/
theorem SharingStep.of_stored {i : ℕ} (h : SharingStep e s (.stored i) s') :
    ∃ table kind answer schema,
      s'.questions[i]? = some ⟨table, kind, .answered (.ok answer)⟩ ∧
        s'.cache = SchemaCache.store s.cache table schema := by
  cases h with
  | @store _ table kind set hi =>
    obtain ⟨hlt, -⟩ := List.getElem?_eq_some_iff.1 hi
    exact ⟨table, kind, _, _, List.getElem?_set_self hlt, rfl⟩

/-- Where what is remembered comes from: from questions about the same table that have succeeded. -/
structure Sharing.Stored (events : List SharingEvent) (s : Sharing σ) : Prop where
  /-- A question that has remembered a schema has succeeded. -/
  succeeded : ∀ i, SharingEvent.stored i ∈ events → ∃ table kind answer,
    s.questions[i]? = some ⟨table, kind, .answered (.ok answer)⟩
  /-- A remembered schema was remembered by a question about its table. -/
  entry_from : ∀ table schema, SchemaCache.find? s.cache table = some schema → ∃ i kind answer,
    SharingEvent.stored i ∈ events ∧ s.questions[i]? = some ⟨table, kind, .answered (.ok answer)⟩

/-- Every step keeps account of where what is remembered comes from. -/
theorem Sharing.Stored.step (h : s.Stored events)
    (hstep : SharingStep e s event s') : s'.Stored (events ++ [event]) := by
  have hearlier : ∀ i, SharingEvent.stored i ∈ events → ∃ table kind answer,
      s'.questions[i]? = some ⟨table, kind, .answered (.ok answer)⟩ := by
    intro i hi
    obtain ⟨table, kind, answer, hanswer⟩ := h.succeeded i hi
    exact ⟨table, kind, answer, hstep.answered_stays hanswer⟩
  have hentry : ∀ table schema, SchemaCache.find? s.cache table = some schema →
      ∃ i kind answer, SharingEvent.stored i ∈ events ++ [event] ∧
        s'.questions[i]? = some ⟨table, kind, .answered (.ok answer)⟩ := by
    intro table schema hfound
    obtain ⟨i, kind, answer, hi, hanswer⟩ := h.entry_from table schema hfound
    exact ⟨i, kind, answer, List.mem_append_left _ hi, hstep.answered_stays hanswer⟩
  by_cases hstored : ∃ i, event = .stored i
  · obtain ⟨i, rfl⟩ := hstored
    obtain ⟨table, kind, answer, schema, hi, hcache⟩ := hstep.of_stored
    refine ⟨fun j hj => ?_, fun other found hfound => ?_⟩
    · rw [List.mem_append, List.mem_singleton] at hj
      cases hj with
      | inl hmem => exact hearlier j hmem
      | inr hlast =>
        cases hlast
        exact ⟨table, kind, answer, hi⟩
    · rw [hcache, SchemaCache.find?_store] at hfound
      split at hfound
      · next htable =>
        subst htable
        exact ⟨i, kind, answer, List.mem_append_right _ (List.mem_singleton_self _), hi⟩
      · exact hentry other found hfound
  · have hcache : s'.cache = s.cache := hstep.cache_eq fun i hi => hstored ⟨i, hi⟩
    refine ⟨fun i hi => ?_, fun table schema hfound => ?_⟩
    · rw [List.mem_append, List.mem_singleton] at hi
      cases hi with
      | inl hmem => exact hearlier i hmem
      | inr hlast => exact absurd ⟨i, hlast.symm⟩ hstored
    · rw [hcache] at hfound
      exact hentry table schema hfound

/-- A question that stands in a list where one was replaced is the new one or an old one. -/
theorem Sharing.of_set {i j : ℕ} {q new : Question} (h : (s.questions.set j new)[i]? = some q) :
    j = i ∧ q = new ∨ s.questions[i]? = some q := by
  by_cases hij : j = i
  · subst hij
    rw [List.getElem?_set, if_pos rfl] at h
    split at h
    · cases h
      exact .inl ⟨rfl, rfl⟩
    · cases h
  · rw [List.getElem?_set_ne hij] at h
    exact .inr h

/-- A question asks the catalog because it did so before, or because its table was not known. -/
theorem SharingStep.of_asking (h : SharingStep e s event s') {i : ℕ}
    {table : String} {kind : SchemaQuestion} {p : Progress ResultSet}
    (hi : s'.questions[i]? = some ⟨table, kind, .asking p⟩) :
    (∃ before, s.questions[i]? = some ⟨table, kind, .asking before⟩) ∨
      SchemaCache.find? s.cache table = none := by
  cases h with
  | begin other _ =>
    rw [List.getElem?_append] at hi
    split at hi
    · exact .inl ⟨p, hi⟩
    · rw [List.getElem?_singleton] at hi
      split at hi <;> cases hi
  | hit hj hfound =>
    rcases Sharing.of_set hi with ⟨-, hnew⟩ | hold
    · cases hnew
    · exact .inl ⟨p, hold⟩
  | miss hj hnone =>
    rcases Sharing.of_set hi with ⟨-, hnew⟩ | hold
    · cases hnew
      exact .inr hnone
    · exact .inl ⟨p, hold⟩
  | attempt hj _ =>
    rcases Sharing.of_set hi with ⟨rfl, hnew⟩ | hold
    · cases hnew
      exact .inl ⟨_, hj⟩
    · exact .inl ⟨p, hold⟩
  | store hj =>
    rcases Sharing.of_set hi with ⟨-, hnew⟩ | hold
    · cases hnew
    · exact .inl ⟨p, hold⟩
  | fail hj =>
    rcases Sharing.of_set hi with ⟨-, hnew⟩ | hold
    · cases hnew
    · exact .inl ⟨p, hold⟩
  | elsewhere db => exact .inl ⟨p, hi⟩

/-- Questions about a known table that are begun later send nothing: they have only been begun, or
they were answered at once. -/
structure Sharing.Silent (count : ℕ) (table : String) (later : List SharingEvent)
    (s : Sharing σ) : Prop where
  /-- The table is known. -/
  known : (SchemaCache.find? s.cache table).isSome = true
  /-- No such question asks the catalog. -/
  quiet : ∀ i kind phase, count ≤ i → s.questions[i]? = some ⟨table, kind, phase⟩ →
    ∀ p, phase ≠ .asking p
  /-- No such question has sent an attempt or had an answer to one. -/
  unsent : ∀ i event, count ≤ i → SharingEvent.attempted i event ∈ later →
    ∃ other kind phase, s.questions[i]? = some ⟨other, kind, phase⟩ ∧ other ≠ table

/-- Every step keeps later questions about a known table silent. -/
theorem Sharing.Silent.step {count : ℕ} {table : String} {later : List SharingEvent}
    (h : s.Silent count table later) (hstep : SharingStep e s event s') :
    s'.Silent count table (later ++ [event]) := by
  refine ⟨hstep.remembered_stays h.known, ?_, ?_⟩
  · intro i kind phase hcount hi p hphase
    subst hphase
    rcases hstep.of_asking hi with ⟨before, hbefore⟩ | hnone
    · exact h.quiet i kind _ hcount hbefore before rfl
    · -- it would have had to miss a table that is known
      have hknown := h.known
      rw [hnone] at hknown
      cases hknown
  · intro i attempt hcount hi
    have hstays : ∀ other kind phase, s.questions[i]? = some ⟨other, kind, phase⟩ →
        other ≠ table →
        ∃ other kind phase, s'.questions[i]? = some ⟨other, kind, phase⟩ ∧ other ≠ table := by
      intro other kind phase hquestion hother
      obtain ⟨phase', hphase', -⟩ := hstep.question_stays hquestion
      exact ⟨other, kind, phase', hphase', hother⟩
    rw [List.mem_append, List.mem_singleton] at hi
    cases hi with
    | inl hearlier =>
      obtain ⟨other, kind, phase, hquestion, hother⟩ := h.unsent i attempt hcount hearlier
      exact hstays other kind phase hquestion hother
    | inr hlast =>
      subst hlast
      have hasking : ∃ other kind p, s.questions[i]? = some ⟨other, kind, .asking p⟩ := by
        cases hstep with
        | attempt hi _ => exact ⟨_, _, _, hi⟩
      obtain ⟨other, kind, p, hquestion⟩ := hasking
      refine hstays other kind _ hquestion ?_
      rintro rfl
      exact h.quiet i kind _ hcount hquestion p rfl

/-- What holds of questions that share remembered schemas after a run: what is remembered and
answered, what failures leave, and when the catalog is asked. -/
structure CacheLaw (e : Engine σ) (catalog : String → List Row) (events : List SharingEvent)
    (s : Sharing σ) : Prop where
  /-- What is remembered of a table is the schema of the rows that the catalog has of it. -/
  entry_eq : ∀ table schema, SchemaCache.find? s.cache table = some schema →
    schema = TableSchema.ofCatalog (catalog table)
  /-- A question that is answered is answered from exactly this schema, which is remembered. -/
  answer_eq : ∀ (i : ℕ) table kind answer,
    s.questions[i]? = some ⟨table, kind, .answered (.ok answer)⟩ →
      answer = kind.answer (TableSchema.ofCatalog (catalog table)) ∧
        SchemaCache.find? s.cache table = some (TableSchema.ofCatalog (catalog table))
  /-- A table of which the catalog has no rows is remembered as the empty schema. -/
  empty : ∀ (i : ℕ) table kind answer, catalog table = [] →
    s.questions[i]? = some ⟨table, kind, .answered (.ok answer)⟩ →
      SchemaCache.find? s.cache table = some ⟨[]⟩
  /-- Whatever happens, a failure included, leaves what is remembered exactly as it is, unless a
  question remembers its schema. -/
  cache_eq : ∀ event s', SharingStep e s event s' →
    (∀ i, event ≠ .stored i) → s'.cache = s.cache
  /-- A question that has failed has remembered nothing. -/
  failed_stores_nothing : ∀ (i : ℕ) table kind error,
    s.questions[i]? = some ⟨table, kind, .answered (.error error)⟩ → .stored i ∉ events
  /-- What is remembered of a table was remembered by a question about it that has succeeded. -/
  entry_from : ∀ table schema, SchemaCache.find? s.cache table = some schema → ∃ i kind answer,
    SharingEvent.stored i ∈ events ∧ s.questions[i]? = some ⟨table, kind, .answered (.ok answer)⟩
  /-- As long as nothing is remembered of a table, a question about it asks the catalog. -/
  asks_again : ∀ (i : ℕ) table kind s', s.questions[i]? = some ⟨table, kind, .begun⟩ →
    SchemaCache.find? s.cache table = none → SharingStep e s (.looked i) s' →
      ∃ s'', SharingStep e s' (.attempted i (.sent (catalogCall table))) s''
  /-- Once a question about a table is answered, questions about this table that are begun later ask
  the catalog no more. -/
  asks_no_more : ∀ (i : ℕ) table kind answer,
    s.questions[i]? = some ⟨table, kind, .answered (.ok answer)⟩ →
      ∀ later s', Run (SharingStep e) s later s' → ∀ (j : ℕ) kind' phase,
        s.questions.length ≤ j → s'.questions[j]? = some ⟨table, kind', phase⟩ →
          ∀ event, .attempted j event ∉ later

/-- What is remembered after a run agrees with the catalog. -/
theorem Sharing.coherent_of_run (hcatalog : e.KeepsCatalog catalog) {start : σ}
    (h : Run (SharingStep e) ⟨start, [], []⟩ events s) : s.Coherent e.settings catalog := by
  induction h with
  | start => exact ⟨fun _ _ hfound => (by cases hfound), fun _ hq => (by cases hq)⟩
  | step _ hstep ih => exact ih.step hcatalog hstep

/-- A run keeps account of where what is remembered comes from. -/
theorem Sharing.stored_of_run {start : σ}
    (h : Run (SharingStep e) ⟨start, [], []⟩ events s) : s.Stored events := by
  induction h with
  | start => exact ⟨fun _ hi => (by cases hi), fun _ _ hfound => (by cases hfound)⟩
  | step _ hstep ih => exact ih.step hstep

/-- Questions about a known table that are begun later are silent in every run. -/
theorem Sharing.silent_of_run {table : String} {later : List SharingEvent}
    (hknown : (SchemaCache.find? s.cache table).isSome = true)
    (h : Run (SharingStep e) s later s') :
    s'.Silent s.questions.length table later := by
  induction h with
  | start =>
    refine ⟨hknown, fun i kind phase hcount hi => ?_, fun i event _ hi => (by cases hi)⟩
    rw [List.getElem?_eq_none_iff.2 hcount] at hi
    cases hi
  | step _ hstep ih => exact ih.step hstep

/-- A question that looks for an unknown table asks the catalog next. -/
theorem SharingStep.asks_of_unknown {i : ℕ} {table : String} {kind : SchemaQuestion}
    (h : SharingStep e s (.looked i) s')
    (hi : s.questions[i]? = some ⟨table, kind, .begun⟩)
    (hnone : SchemaCache.find? s.cache table = none) :
    ∃ s'', SharingStep e s' (.attempted i (.sent (catalogCall table))) s'' := by
  obtain ⟨hlt, -⟩ := List.getElem?_eq_some_iff.1 hi
  cases h with
  | hit hi' hfound =>
    rw [hi] at hi'
    cases hi'
    rw [hnone] at hfound
    cases hfound
  | miss hi' _ =>
    rw [hi] at hi'
    cases hi'
    exact ⟨_, .attempt (List.getElem?_set_self hlt) (.send _ 1)⟩

/-- The law of remembered schemas holds after every run. -/
theorem cacheLaw_of_run (hcatalog : e.KeepsCatalog catalog) {start : σ}
    (h : Run (SharingStep e) ⟨start, [], []⟩ events s) : CacheLaw e catalog events s := by
  have hcoherent := Sharing.coherent_of_run hcatalog h
  have hstored := Sharing.stored_of_run h
  have hanswer : ∀ (i : ℕ) table kind answer,
      s.questions[i]? = some ⟨table, kind, .answered (.ok answer)⟩ →
        answer = kind.answer (TableSchema.ofCatalog (catalog table)) ∧
          SchemaCache.find? s.cache table = some (TableSchema.ofCatalog (catalog table)) :=
    fun i table kind answer hi => hcoherent.agrees _ (List.mem_of_getElem? hi)
  refine
    { entry_eq := hcoherent.entry_eq
      answer_eq := hanswer
      empty := ?_
      cache_eq := fun event s' hstep => hstep.cache_eq
      failed_stores_nothing := ?_
      entry_from := hstored.entry_from
      asks_again := ?_
      asks_no_more := ?_ }
  · intro i table kind answer hnone hi
    rw [(hanswer i table kind answer hi).2, hnone]
    rfl
  · intro i table kind error hi hmem
    obtain ⟨other, kind', answer, hanswer⟩ := hstored.succeeded i hmem
    rw [hi] at hanswer
    cases hanswer
  · intro i table kind s' hi hnone hstep
    exact hstep.asks_of_unknown hi hnone
  · intro i table kind answer hi later s' hlater j kind' phase hcount hj event hmem
    have hknown : (SchemaCache.find? s.cache table).isSome = true := by
      rw [(hanswer i table kind answer hi).2]
      rfl
    obtain ⟨other, kind'', phase', hother, hne⟩ :=
      (Sharing.silent_of_run hknown hlater).unsent j event hcount hmem
    rw [hj] at hother
    cases hother
    exact hne rfl

/-- An operation that asks a question about a table. -/
def Engine.answerTo (e : Engine σ) (table : String) : SchemaQuestion → Action σ SchemaAnswer
  | .schema => do return .schema (← e.tableSchema table)
  | .info => do return .info (← e.tableInfo table)
  | .column name => do return .column (← e.columnExists table name)

section Operations

variable {cache : SchemaCache} {questions : List Question} {table : String}
  {kind : SchemaQuestion} {db db' : σ}

/-- Where schemas are remembered, every question is answered from the whole schema. -/
theorem Engine.answerTo_eq {s : Session σ} (hcache : s.cache = some cache) :
    e.answerTo table kind s =
      ((e.tableSchema table s).1.map kind.answer, (e.tableSchema table s).2) := by
  have hget : (get : Action σ (Session σ)) s = (.ok s, s) := rfl
  have hexists : ∀ name, e.columnExists table name s =
      (e.tableSchema table >>= fun schema => pure (schema.hasColumn name)) s := by
    intro name
    rw [columnExists, Action.bind_ok hget, hcache]
  cases hs : e.tableSchema table s with
  | mk result s' =>
    cases result with
    | error error =>
      cases kind with
      | schema => exact Action.bind_error hs
      | info => exact Action.bind_error (Action.bind_error hs)
      | column name =>
        have hcolumn := (hexists name).trans (Action.bind_error hs)
        exact Action.bind_error hcolumn
    | ok schema =>
      cases kind with
      | schema => exact Action.bind_ok hs
      | info =>
        have hinfo : e.tableInfo table s = (.ok schema.info, s') := Action.bind_ok hs
        exact Action.bind_ok hinfo
      | column name =>
        have hcolumn : e.columnExists table name s = (.ok (schema.hasColumn name), s') :=
          (hexists name).trans (Action.bind_ok hs)
        exact Action.bind_ok hcolumn

/-- A question sends what asking for the schema sends. -/
theorem Engine.answerTo_sends {s : Session σ} (hcache : s.cache = some cache)
    {new : List SentStatement}
    (h : Action.Sends (e.tableSchema table) (e.recorded.tableSchema table) s new) :
    Action.Sends (e.answerTo table kind) (e.recorded.answerTo table kind) s new := by
  intro sent
  have hrecorded : (s.recorded sent).cache = some cache := hcache
  rw [answerTo_eq hrecorded, answerTo_eq hcache, h]

/-- The last question of a list. -/
theorem getElem?_last (question : Question) :
    (questions ++ [question])[questions.length]? = some question :=
  List.getElem?_concat_length

/-- The last question of a list comes to another phase. -/
theorem Sharing.advance_last (phase phase' : QuestionPhase) :
    Sharing.advance ⟨db, cache, questions ++ [⟨table, kind, phase⟩]⟩ questions.length table kind
      phase' = ⟨db, cache, questions ++ [⟨table, kind, phase'⟩]⟩ := by
  rw [advance, List.set_append_right _ _ le_rfl, Nat.sub_self]
  rfl

/-- The attempts of a statement are attempts of the question that asks with it. -/
theorem Sharing.run_attempts {before after : σ × Progress ResultSet}
    {attempted : List (AttemptEvent ResultSet)}
    (h : Run (AttemptOn e.settings.attemptLimit (catalogCall table) (e.askCatalog table)) before
      attempted after) :
    Run (SharingStep e) ⟨before.1, cache, questions ++ [⟨table, kind, .asking before.2⟩]⟩
      (attempted.map (.attempted questions.length))
      ⟨after.1, cache, questions ++ [⟨table, kind, .asking after.2⟩]⟩ := by
  induction h with
  | start => exact .start
  | @step attempted event s t _ hstep ih =>
    rw [List.map_append]
    have hturn := SharingStep.attempt
      (s := ⟨s.1, cache, questions ++ [⟨table, kind, .asking s.2⟩]⟩) (getElem?_last _) hstep
    rw [Sharing.advance_last] at hturn
    exact ih.step hturn

/-- The attempts of a question send what its statement sends. -/
theorem askedCalls_attempted (i : ℕ) (attempted : List (AttemptEvent ResultSet)) :
    askedCalls (attempted.map (.attempted i)) = sentCalls attempted := by
  rw [askedCalls, sentCalls, List.filterMap_map]
  refine List.filterMap_congr fun event _ => ?_
  cases event <;> rfl

/-- A question that finds nothing remembered asks the catalog. It ends as its attempts do: with rows
it remembers their schema, otherwise it leaves what is remembered. -/
theorem Sharing.run_missed {attempted : List (AttemptEvent ResultSet)}
    {outcome : Except DatabaseError ResultSet} (questions : List Question) (kind : SchemaQuestion)
    (hnone : SchemaCache.find? cache table = none)
    (h : Run (AttemptOn e.settings.attemptLimit (catalogCall table) (e.askCatalog table))
      (db, .ready 1) attempted (db', .finished outcome)) :
    ∃ cache' events,
      Run (SharingStep e) ⟨db, cache, questions⟩ events
        ⟨db', cache', questions ++
          [⟨table, kind, .answered (outcome.map fun set => kind.answer (e.schemaOf set))⟩]⟩ ∧
      some cache' = e.rememberedAfter table (some cache) outcome ∧
      askedCalls events = sentCalls attempted := by
  have hlooked := (Run.start.step (.begin ⟨db, cache, questions⟩ table kind)).step
    (SharingStep.miss (e := e) (getElem?_last ⟨table, kind, .begun⟩) hnone)
  rw [Sharing.advance_last] at hlooked
  have hasked := hlooked.append (Sharing.run_attempts h)
  have hsent : ∀ event, askedCalls [event] = [] →
      askedCalls ([.begun table kind] ++ [.looked questions.length] ++
        attempted.map (.attempted questions.length) ++ [event]) = sentCalls attempted := by
    intro event hsilent
    rw [askedCalls_append, askedCalls_append, hsilent, List.append_nil, askedCalls_attempted]
    rfl
  cases outcome with
  | error error =>
    have hfailed := hasked.step (.fail (getElem?_last _))
    rw [Sharing.advance_last] at hfailed
    exact ⟨cache, _, hfailed, rfl, hsent _ rfl⟩
  | ok set =>
    have hstored := hasked.step (.store (getElem?_last _))
    rw [Sharing.advance_last] at hstored
    exact ⟨SchemaCache.store cache table (e.schemaOf set), _, hstored, rfl, hsent _ rfl⟩

/-- What an operation that asks a question does in a session: `events` is what happens, and what is
remembered then. -/
structure Engine.AnswersBy (e : Engine σ) (table : String) (kind : SchemaQuestion) (s : Session σ)
    (cache : SchemaCache) (questions : List Question) (events : List SharingEvent)
    (cache' : SchemaCache) : Prop where
  /-- It is a run of one question more, from the database before to the database after it, and the
  question comes to the result of the operation. -/
  run : Run (SharingStep e) ⟨s.backend, cache, questions⟩ events
    ⟨(e.answerTo table kind s).2.backend, cache',
      questions ++ [⟨table, kind, .answered (e.answerTo table kind s).1⟩]⟩
  /-- The schemas in the session are those that the question leaves. -/
  cache_eq : (e.answerTo table kind s).2.cache = some cache'
  /-- The operation sends what the question sends. -/
  calls_eq : e.calls (fun _ e => e.answerTo table kind) s = askedCalls events
  /-- A remembered schema answers it, and it sends nothing and leaves the session as it is. -/
  known : ∀ schema, SchemaCache.find? cache table = some schema →
    e.answerTo table kind s = (.ok (kind.answer schema), s) ∧
      e.calls (fun _ e => e.answerTo table kind) s = []
  /-- Otherwise the catalog is asked by the law of attempts. What comes back answers the question
  and is remembered, and if nothing does, what is remembered stays as it is. -/
  unknown : SchemaCache.find? cache table = none → ∃ outcome,
    RunsByLaw e.settings (e.catalogAnswers table s.backend) (catalogCall table)
        (e.calls (fun _ e => e.answerTo table kind) s) outcome ∧
      (e.answerTo table kind s).1 = outcome.map (fun set => kind.answer (e.schemaOf set)) ∧
      some cache' = e.rememberedAfter table (some cache) outcome

/-- An operation that finds its schema remembered. -/
theorem Engine.answersBy_of_known {s : Session σ} (hcache : s.cache = some cache)
    (questions : List Question) (kind : SchemaQuestion) {schema : TableSchema}
    (hknown : SchemaCache.find? cache table = some schema) :
    e.AnswersBy table kind s cache questions [.begun table kind, .looked questions.length]
      cache := by
  have hfound : s.remembered? table = some schema := by
    rw [Session.remembered?, hcache]
    exact hknown
  have hanswer : e.answerTo table kind s = (.ok (kind.answer schema), s) := by
    rw [answerTo_eq hcache, tableSchema_of_remembered hfound]
    rfl
  have hcalls : e.calls (fun _ e => e.answerTo table kind) s = [] :=
    calls_of_sends (answerTo_sends hcache (sends_of_remembered hfound))
  have hlooked := (Run.start.step (.begin ⟨s.backend, cache, questions⟩ table kind)).step
    (SharingStep.hit (e := e) (getElem?_last ⟨table, kind, .begun⟩) hknown)
  rw [Sharing.advance_last] at hlooked
  refine ⟨?_, ?_, hcalls, fun other hother => ?_, fun hnone => ?_⟩
  · rw [hanswer]
    exact hlooked
  · rw [hanswer]
    exact hcache
  · rw [hknown] at hother
    cases hother
    exact ⟨hanswer, hcalls⟩
  · rw [hknown] at hnone
    cases hnone

/-- An operation that has to ask the catalog. -/
theorem Engine.answersBy_of_unknown {s : Session σ} (hcache : s.cache = some cache)
    (questions : List Question) (kind : SchemaQuestion)
    (hnone : SchemaCache.find? cache table = none) :
    ∃ cache' events, e.AnswersBy table kind s cache questions events cache' := by
  have hmissing : s.remembered? table = none := by
    rw [Session.remembered?, hcache]
    exact hnone
  obtain ⟨last, outcome, hconcludes, hresult, hbackend, hremembered, hsends⟩ :=
    e.refresh_concludes table s
  have hcalls : e.calls (fun _ e => e.answerTo table kind) s =
      List.replicate (last + 1) (catalogCall table) :=
    calls_of_sends (answerTo_sends hcache (sends_of_unknown hmissing hsends))
  obtain ⟨cache', events, hrun, hcache', hasked⟩ :=
    Sharing.run_missed questions kind hnone (hconcludes.run_on (catalogCall table))
  have hanswer : (e.answerTo table kind s).1 =
      outcome.map (fun set => kind.answer (e.schemaOf set)) := by
    rw [answerTo_eq hcache, tableSchema_of_unknown hmissing, hresult]
    cases outcome <;> rfl
  have hsession : (e.answerTo table kind s).2 = (e.refresh table s).2 := by
    rw [answerTo_eq hcache, tableSchema_of_unknown hmissing]
  refine ⟨cache', events, ?_, ?_, ?_, fun schema hfound => ?_, fun _ =>
    ⟨outcome, ?_, hanswer, hcache'⟩⟩
  · rw [hanswer, hsession, hbackend]
    exact hrun
  · rw [hsession, hremembered, hcache, hcache']
  · rw [hcalls, hasked, sentCalls_attemptsMade]
  · rw [hnone] at hfound
    cases hfound
  · rw [hcalls]
    exact hconcludes.runsByLaw (catalogCall table)

/-- An operation that asks a question is a run of this question, with the same result, the same
statements sent and the same schemas remembered after it. -/
theorem Engine.answerTo_run {s : Session σ} (hcache : s.cache = some cache)
    (questions : List Question) (table : String) (kind : SchemaQuestion) :
    ∃ cache' events, e.AnswersBy table kind s cache questions events cache' := by
  cases hknown : SchemaCache.find? cache table with
  | some schema => exact ⟨_, _, answersBy_of_known hcache questions kind hknown⟩
  | none => exact answersBy_of_unknown hcache questions kind hknown

end Operations

/-- Questions that share remembered schemas, with a catalog that does not change: the law of
remembered schemas holds after every run, however the questions take turns and whichever attempts
fail. An operation that asks a question is such a run, whatever was asked before, and sends what the
question sends in it. -/
theorem shared_schemas (e : Engine σ) (catalog : String → List Row)
    (hcatalog : e.KeepsCatalog catalog) :
    (∀ start events s, Run (SharingStep e) ⟨start, [], []⟩ events s →
      CacheLaw e catalog events s) ∧
    ∀ (s : Session σ) cache questions table kind, s.cache = some cache →
      ∃ cache' events, e.AnswersBy table kind s cache questions events cache' :=
  ⟨fun _ _ _ hrun => cacheLaw_of_run hcatalog hrun,
    fun _ _ questions table kind hcache => Engine.answerTo_run hcache questions table kind⟩

/-- A database that gives the same rows whatever is asked. -/
def Backend.constant (set : ResultSet) : Backend Unit where
  fetch _ _ s := (.ok set, s)
  execute _ _ s := (.ok 0, s)

/-- A question about a table of which the catalog has no rows: it is answered and remembered. -/
theorem shared_schemas_empty :
    ∃ cache events,
      (Engine.mk (Backend.constant ⟨[], []⟩) ⟨3, ⟨"UTC", 0, []⟩, false⟩).AnswersBy "users" .info
        ⟨(), some [], []⟩ [] [] events cache ∧
      CacheLaw (Engine.mk (Backend.constant ⟨[], []⟩) ⟨3, ⟨"UTC", 0, []⟩, false⟩) (fun _ => [])
        events ⟨(), cache, [⟨"users", .info, .answered (.ok (.info ⟨false, false, .empty⟩))⟩]⟩ := by
  obtain ⟨hlaw, hrun⟩ := shared_schemas
    (Engine.mk (Backend.constant ⟨[], []⟩) ⟨3, ⟨"UTC", 0, []⟩, false⟩) (fun _ => [])
    (fun table db set h => by cases h; rfl)
  obtain ⟨cache, events, hevents⟩ := hrun ⟨(), some [], []⟩ [] [] "users" .info rfl
  have hanswer : ((Engine.mk (Backend.constant ⟨[], []⟩) ⟨3, ⟨"UTC", 0, []⟩, false⟩).answerTo
      "users" .info ⟨(), some [], []⟩).1 = .ok (.info ⟨false, false, .empty⟩) := by
    obtain ⟨last, outcome, hconcludes, hresult, -⟩ := Engine.refresh_concludes
      (Engine.mk (Backend.constant ⟨[], []⟩) ⟨3, ⟨"UTC", 0, []⟩, false⟩) "users"
      ⟨(), some [], []⟩
    obtain ⟨-, rfl⟩ := hconcludes.unique (.of_ok rfl)
    rw [Engine.answerTo_eq rfl, Engine.tableSchema_of_unknown rfl, hresult]
    rfl
  have hwhole := hevents.run
  rw [hanswer] at hwhole
  exact ⟨cache, events, hevents, hlaw () events _ hwhole⟩

end TableQuery
