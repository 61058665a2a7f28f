import TableQuery.Proofs.Database.Insert
import TableQuery.Proofs.Schema.Lookup
import TableQuery.Proofs.Statement.Verdict

/-!
# Input errors come first

An operation checks its input before it asks about its table, and what it learns about the table
cannot reject the input any more. So an error about the input means that nothing was sent. Only an
update that has nothing to assign has to wait for the catalog, which tells whether the table is
stamped.
-/

namespace TableQuery

variable {σ α β : Type}

/-- An operation begins with a check of its input: an error is all that it comes to, and input that
passes is not rejected later. -/
structure Operation.Guarded (op : Operation α) (check : Except InputError Unit) : Prop where
  /-- Input that fails the check is rejected, and the session is left as it is. -/
  rejects : ∀ {err}, check = .error err →
    ∀ {σ : Type} (e : Engine σ) (s : Session σ), op σ e s = (.error (.input err), s)
  /-- Input that passes the check is not rejected. -/
  accepts : check = .ok () → ∀ {σ : Type} (e : Engine σ), Action.Accepts (op σ e)

namespace Operation.Guarded

/-- A step that reads the input comes before the checks that use what is read. -/
theorem ofInput_bind {x : Except InputError β} {check : β → Except InputError Unit}
    {op : β → Operation α} (h : ∀ b, x = .ok b → (op b).Guarded (check b)) :
    Operation.Guarded (fun σ e => Action.ofInput x >>= fun b => op b σ e) (x >>= check) := by
  cases x with
  | error err =>
    refine ⟨?_, fun hcheck => by cases hcheck⟩
    rintro _ ⟨⟩ σ e s
    exact Action.bind_ofInput_error err
  | ok b =>
    have hb := h b rfl
    refine ⟨fun herr σ e s => ?_, fun hok σ e => ?_⟩
    · rw [Action.bind_ofInput_ok]
      exact hb.rejects herr e s
    · rw [Action.bind_ofInput_ok]
      exact hb.accepts hok e

/-- A statement that can be written is the check of an operation that then accepts its input. -/
theorem ofInput_then {x : Except InputError β} {op : Operation α}
    (h : verdict x = .ok () → ∀ {σ : Type} (e : Engine σ), Action.Accepts (op σ e)) :
    Operation.Guarded (fun σ e => Action.ofInput x >>= fun _ => op σ e) (verdict x) := by
  have hverdict : verdict x = x >>= fun _ => .ok () := by cases x <;> rfl
  rw [hverdict]
  refine ofInput_bind fun b hb => ⟨?_, fun _ => h ?_⟩
  · rintro _ ⟨⟩
  · rw [hb]
    rfl

end Operation.Guarded

/-- The operation rejects exactly the input that fails a check, and before anything else. -/
structure Engine.RejectsFirst (e : Engine σ) (op : Operation α) (check : Except InputError Unit)
    (s : Session σ) : Prop where
  /-- It ends with an error about the input exactly if the input fails the check with this error. -/
  error_iff : ∀ err, (op σ e s).1 = .error (.input err) ↔ check = .error err
  /-- Then the session is as it was, and nothing was sent. -/
  unsent : ∀ err, (op σ e s).1 = .error (.input err) → (op σ e s).2 = s ∧ e.calls op s = []

/-- Input that fails a check and is rejected at once, and input that passes it and is not rejected:
then exactly the input that fails is rejected. -/
theorem Engine.RejectsFirst.intro {e : Engine σ} {op : Operation α}
    {check : Except InputError Unit} {s : Session σ}
    (hrejects : ∀ err, check = .error err →
      op σ e s = (.error (.input err), s) ∧ e.calls op s = [])
    (haccepts : check = .ok () → ∀ err, (op σ e s).1 ≠ .error (.input err)) :
    e.RejectsFirst op check s := by
  cases hcheck : check with
  | ok u =>
    refine ⟨fun err => ⟨fun herr => ?_, fun herr => ?_⟩, fun err herr => ?_⟩
    · exact absurd herr (haccepts hcheck err)
    · cases herr
    · exact absurd herr (haccepts hcheck err)
  | error other =>
    obtain ⟨hop, hcalls⟩ := hrejects other hcheck
    refine ⟨fun err => ?_, fun err _ => ⟨congrArg Prod.snd hop, hcalls⟩⟩
    rw [hop]
    exact ⟨fun h => (by cases h; rfl), fun h => (by cases h; rfl)⟩

/-- Input that fails the check of an operation is rejected, and nothing is sent. -/
theorem Operation.Guarded.rejected {op : Operation α} {check : Except InputError Unit}
    (h : op.Guarded check) {err : InputError} (herr : check = .error err) (e : Engine σ)
    (s : Session σ) : op σ e s = (.error (.input err), s) ∧ e.calls op s = [] := by
  refine ⟨h.rejects herr e s, ?_⟩
  rw [Engine.calls, h.rejects herr]
  rfl

/-- An operation that begins with a check of its input rejects it before anything else. -/
theorem Operation.Guarded.rejectsFirst {op : Operation α} {check : Except InputError Unit}
    (h : op.Guarded check) (e : Engine σ) (s : Session σ) : e.RejectsFirst op check s :=
  .intro (fun _ herr => h.rejected herr e s) (fun hok err => h.accepts hok e s err)

namespace Engine

/-- A selection begins with the check whether its statement can be written. -/
theorem select_guarded (table columns : String) (options : QueryOptions) :
    Operation.Guarded (fun _ e => e.select table columns options)
      (ColumnSpec.parse columns >>= fun spec =>
        verdict (Statement.select table spec options .unknown)) := by
  refine .ofInput_bind fun spec _ => ?_
  refine .ofInput_then fun hpass σ e => (e.tableInfo_accepts table).bind fun info => ?_
  rw [Statement.verdict_select, ← Statement.verdict_select table spec options info] at hpass
  exact .ofInput_bind hpass fun statement _ => (e.fetch_accepts statement).bind fun _ => .pure _

/-- A count begins with the check whether its statement can be written. -/
theorem count_guarded (table columns : String) (options : QueryOptions) :
    Operation.Guarded (fun _ e => e.count table columns options)
      (ColumnSpec.parse columns >>= fun spec =>
        verdict (Statement.count table spec options .unknown)) := by
  refine .ofInput_bind fun spec _ => ?_
  refine .ofInput_then fun hpass σ e => (e.tableInfo_accepts table).bind fun info => ?_
  rw [Statement.verdict_count, ← Statement.verdict_count table spec options info] at hpass
  refine .ofInput_bind hpass fun statement _ => (e.fetch_accepts statement).bind fun result => ?_
  split
  · exact .pure _
  · exact fun s err h => by cases h

/-- The statements of an insert can be written exactly if every row passes its checks. -/
theorem verdict_insertStatements (table : String) (records : List Record)
    (returning : Option String) (types : ColumnTypes) :
    verdict (insertStatements table records returning types) =
      records.forM fun row => Statement.insertCheck table row returning :=
  verdict_mapM (fun row => Statement.verdict_insert table row returning types) records

/-- Results of statements that were run say nothing about the input. -/
theorem gather_accepts {e : Engine σ} (table : String) {statements : List Statement}
    {s : Session σ} :
    Action.Accepts (gather table (e.fetchEach statements s).1 : Action σ (List Row)) := by
  intro s' err
  rw [gather]
  cases h : firstRows (e.fetchEach statements s).1 with
  | ok inserted => rintro ⟨⟩
  | error error =>
    obtain ⟨i, hi, -⟩ := firstRows_error_iff.1 h
    obtain ⟨statement, before, hfetch⟩ := fetch_of_mem_fetchEach (List.mem_of_getElem? hi)
    rintro ⟨⟩
    exact e.fetch_accepts statement before err hfetch

/-- An insert begins with the check whether all its statements can be written. -/
theorem insert_guarded (table : String) (rows : InsertRows) (returning : Option String) :
    Operation.Guarded (fun _ e => e.insert table rows returning)
      (verdict (insertStatements table rows.toList returning .empty)) := by
  cases hnone : rows.toList.isEmpty with
  | true =>
    have hrows : rows.toList = [] := List.isEmpty_iff.1 hnone
    have hop : (fun (σ : Type) (e : Engine σ) => e.insert table rows returning) =
        fun _ _ => pure [] :=
      funext fun _ => funext fun e => e.insert_of_isEmpty table returning hnone
    rw [hop, hrows]
    exact ⟨fun h => (by cases h), fun _ _ _ => .pure []⟩
  | false =>
    have hop : (fun (σ : Type) (e : Engine σ) => e.insert table rows returning) = fun _ e =>
        Action.ofInput (insertStatements table rows.toList returning .empty) >>= fun _ =>
          e.sendRows table rows.toList returning :=
      funext fun _ => funext fun e => e.insert_of_not_isEmpty table returning hnone
    rw [hop]
    refine .ofInput_then fun hpass σ e => (e.tableInfo_accepts table).bind fun info => ?_
    rw [verdict_insertStatements,
      ← verdict_insertStatements table rows.toList returning info.columnTypes] at hpass
    refine .ofInput_bind hpass fun statements _ => .bind_of_result (fun s err h => by cases h) ?_
    rintro _ s _ ⟨⟩
    exact gather_accepts table

/-- A removal begins with the check whether its statement can be written. -/
theorem remove_guarded (table : String) (filter : Filter) :
    Operation.Guarded (fun _ e => e.remove table filter)
      (verdict (Statement.delete table filter .empty)) := by
  refine .ofInput_then fun hpass σ e => (e.tableInfo_accepts table).bind fun info => ?_
  rw [Statement.verdict_delete, ← Statement.verdict_delete table filter info.columnTypes] at hpass
  exact .ofInput_bind hpass fun statement _ => (e.execute_accepts statement).bind fun _ => .pure _

/-- The facts that an update is checked with before the table is known. -/
def assumedStamped : TableInfo :=
  { TableInfo.unknown with updatedAt := true }

/-- An update that passes its checks for a stamped table passes them for any, if it has something to
assign there. -/
theorem updateCheck_of_stamped {table : String} {data : Record} {options : QueryOptions}
    (h : Statement.updateCheck table data options true = .ok ()) (stamped : Bool) :
    Statement.updateCheck table data options stamped =
      Statement.checkFilled (data.isEmpty && !stamped) "data" := by
  obtain ⟨_, htable, h⟩ := ok_of_bind h
  obtain ⟨_, hcolumns, h⟩ := ok_of_bind h
  obtain ⟨_, -, h⟩ := ok_of_bind h
  obtain ⟨_, hfilter, hreturning⟩ := ok_of_bind h
  have hrest : (options.filter.check >>= fun _ => verdict (returningList options.returning)) =
      .ok () := by
    rw [hfilter]
    exact hreturning
  rw [Statement.updateCheck, htable, hcolumns, hrest]
  cases Statement.checkFilled (data.isEmpty && !stamped) "data" <;> rfl

/-- What is left of an update that has passed its checks for a stamped table. -/
theorem update_of_checked {table : String} {data : Record} {options : QueryOptions}
    (h : Statement.updateCheck table data options true = .ok ()) (e : Engine σ) :
    e.update table data options = e.tableInfo table >>= fun info =>
      Action.ofInput (Statement.update table data options info) >>= fun statement =>
        e.fetch statement >>= fun result => pure result.rows := by
  have hverdict := Statement.verdict_update table data options assumedStamped
  obtain ⟨statement, hstatement⟩ := verdict_ok_iff.1 (hverdict.trans h)
  rw [assumedStamped] at hstatement
  rw [update, hstatement, Action.bind_ofInput_ok]

/-- An update that finds something to assign is not rejected after its checks. -/
theorem update_accepted {e : Engine σ} {table : String} {data : Record} {options : QueryOptions}
    {s : Session σ} (hpass : Statement.updateCheck table data options true = .ok ())
    (hassigns : ∀ schema s', e.tableSchema table s = (.ok schema, s') →
      (data.isEmpty && !schema.hasColumn updatedAtColumn) = false) (err : InputError) :
    (e.update table data options s).1 ≠ .error (.input err) := by
  rw [update_of_checked hpass]
  cases hs : e.tableSchema table s with
  | mk result s' =>
    cases result with
    | error error =>
      have hinfo : e.tableInfo table s = (.error error, s') := Action.bind_error hs
      rw [Action.bind_error hinfo]
      rintro ⟨⟩
      exact e.tableSchema_accepts table s err (congrArg Prod.fst hs)
    | ok schema =>
      have hinfo : e.tableInfo table s = (.ok schema.info, s') := Action.bind_ok hs
      have hwritten : verdict (Statement.update table data options schema.info) = .ok () := by
        rw [Statement.verdict_update, updateCheck_of_stamped hpass, TableSchema.info,
          hassigns schema s' hs]
        rfl
      rw [Action.bind_ok hinfo]
      have htail : Action.Accepts (Action.ofInput (Statement.update table data options
          schema.info) >>= fun statement => e.fetch statement >>= fun result =>
            pure result.rows) :=
        .ofInput_bind hwritten fun statement _ => (e.fetch_accepts statement).bind fun _ => .pure _
      exact htail s' err

/-- An update that passes its checks and then finds nothing to assign fails with the session that
the catalog has left, and nothing but the catalog was asked. -/
theorem update_of_unstamped {e : Engine σ} {table : String} {data : Record}
    {options : QueryOptions} {s s' : Session σ} {schema : TableSchema}
    (hpass : Statement.updateCheck table data options true = .ok ())
    (hschema : e.tableSchema table s = (.ok schema, s'))
    (hassigns : (data.isEmpty && !schema.hasColumn updatedAtColumn) = true) :
    e.update table data options s = (.error (.input (.missingParameter "data")), s') ∧
      ∀ c ∈ e.calls (fun _ e => e.update table data options) s, c = catalogCall table := by
  have hinfo : e.tableInfo table s = (.ok schema.info, s') := Action.bind_ok hschema
  have hrejected : Statement.update table data options schema.info =
      .error (.missingParameter "data") := by
    rw [← verdict_error_iff, Statement.verdict_update, updateCheck_of_stamped hpass,
      TableSchema.info, hassigns]
    rfl
  constructor
  · rw [update_of_checked hpass, Action.bind_ok hinfo, hrejected, Action.bind_ofInput_error]
  · obtain ⟨count, hcount⟩ := e.tableSchema_sends table s
    have hlookup : Action.Sends (e.tableInfo table) (e.recorded.tableInfo table) s
        (List.replicate count (catalogCall table)) :=
      hcount.bind_silent hschema (.pure schema.info s')
    have hsends : Action.Sends (e.update table data options)
        (e.recorded.update table data options) s (List.replicate count (catalogCall table)) := by
      rw [update_of_checked hpass, update_of_checked hpass]
      refine hlookup.bind_silent hinfo ?_
      rw [hrejected]
      exact (Action.Sends.ofInput _ s').bind_of_error rfl
    have hcalls : e.calls (fun _ e => e.update table data options) s =
        List.replicate count (catalogCall table) := calls_of_sends hsends
    rw [hcalls]
    exact fun c hc => List.eq_of_mem_replicate hc

/-- An update that fails its checks for a stamped table is rejected before anything else. -/
theorem update_of_rejected {table : String} {data : Record} {options : QueryOptions}
    {err : InputError} (h : Statement.updateCheck table data options true = .error err)
    (e : Engine σ) (s : Session σ) :
    e.update table data options s = (.error (.input err), s) := by
  have hverdict := Statement.verdict_update table data options assumedStamped
  have hstatement := verdict_error_iff.1 (hverdict.trans h)
  rw [assumedStamped] at hstatement
  rw [update, hstatement, Action.bind_ofInput_error]

/-- An error about the input of an update comes before anything else, unless the update has nothing
to assign. -/
theorem update_rejectsFirst_or (e : Engine σ) (table : String) (data : Record)
    (options : QueryOptions) (s : Session σ) :
    e.RejectsFirst (fun _ e => e.update table data options)
        (verdict (Statement.update table data options assumedStamped)) s ∨
      data.isEmpty = true ∧ ∃ schema s', e.tableSchema table s = (.ok schema, s') ∧
        schema.hasColumn updatedAtColumn = false ∧
        e.update table data options s = (.error (.input (.missingParameter "data")), s') ∧
        ∀ c ∈ e.calls (fun _ e => e.update table data options) s, c = catalogCall table := by
  rw [Statement.verdict_update]
  by_cases hassigns : Statement.updateCheck table data options true = .ok () ∧
      ∃ schema s', e.tableSchema table s = (.ok schema, s') ∧
        (data.isEmpty && !schema.hasColumn updatedAtColumn) = true
  · -- the catalog has answered, and now there is nothing to assign
    obtain ⟨hpass, schema, s', hschema, hempty⟩ := hassigns
    obtain ⟨hupdate, hcalls⟩ := update_of_unstamped hpass hschema hempty
    rw [Bool.and_eq_true, Bool.not_eq_true'] at hempty
    exact .inr ⟨hempty.1, schema, s', hschema, hempty.2, hupdate, hcalls⟩
  · refine .inl (.intro (fun err herr => ⟨update_of_rejected herr e s, ?_⟩) fun hpass => ?_)
    · rw [calls, update_of_rejected herr]
      rfl
    · refine update_accepted hpass fun schema s' hschema => ?_
      exact Bool.eq_false_iff.2 fun hempty => hassigns ⟨hpass, schema, s', hschema, hempty⟩

/-- What is known about the errors of the operations on a table that are about their input, in any
state of the session. -/
structure InputErrorsFirst (e : Engine σ) (table : String) (s : Session σ) : Prop where
  /-- A selection rejects, before anything is sent, exactly the input for which no statement can be
  written, whatever the table is. -/
  select : ∀ columns options, e.RejectsFirst (fun _ e => e.select table columns options)
    (ColumnSpec.parse columns >>= fun spec =>
      verdict (Statement.select table spec options .unknown)) s
  /-- So does a count. -/
  count : ∀ columns options, e.RejectsFirst (fun _ e => e.count table columns options)
    (ColumnSpec.parse columns >>= fun spec =>
      verdict (Statement.count table spec options .unknown)) s
  /-- So does an insert. -/
  insert : ∀ (rows : InsertRows) returning,
    e.RejectsFirst (fun _ e => e.insert table rows returning)
      (verdict (insertStatements table rows.toList returning .empty)) s
  /-- One malformed row, wherever it stands, and no row is sent. -/
  insert_malformed : ∀ (rows : InsertRows) (returning : Option String),
    (∃ row ∈ rows.toList, ∃ err, Statement.insert table row returning .empty = .error err) →
      (∃ err, e.insert table rows returning s = (.error (.input err), s)) ∧
        e.calls (fun _ e => e.insert table rows returning) s = []
  /-- So does a removal. -/
  remove : ∀ filter, e.RejectsFirst (fun _ e => e.remove table filter)
    (verdict (Statement.delete table filter .empty)) s
  /-- So does an update, except that an empty record on a table without a stamp is rejected when the
  catalog has answered, and nothing else was asked. -/
  update : ∀ data options,
    e.RejectsFirst (fun _ e => e.update table data options)
        (verdict (Statement.update table data options assumedStamped)) s ∨
      data.isEmpty = true ∧ ∃ schema s', e.tableSchema table s = (.ok schema, s') ∧
        schema.hasColumn updatedAtColumn = false ∧
        e.update table data options s = (.error (.input (.missingParameter "data")), s') ∧
        ∀ c ∈ e.calls (fun _ e => e.update table data options) s, c = catalogCall table
  /-- An empty record that passes all other checks is rejected so. -/
  update_empty : ∀ (data : Record) (options : QueryOptions) (schema : TableSchema)
    (s' : Session σ), data.isEmpty = true →
      verdict (Statement.update table data options assumedStamped) = .ok () →
      e.tableSchema table s = (.ok schema, s') → schema.hasColumn updatedAtColumn = false →
      e.update table data options s = (.error (.input (.missingParameter "data")), s')

/-- A malformed row among those to insert, and the insert is rejected before anything is sent. -/
theorem insert_of_malformed {e : Engine σ} {table : String} {rows : InsertRows}
    {returning : Option String} {s : Session σ} {row : Record} {err : InputError}
    (hrow : row ∈ rows.toList) (herr : Statement.insert table row returning .empty = .error err) :
    (∃ err, e.insert table rows returning s = (.error (.input err), s)) ∧
      e.calls (fun _ e => e.insert table rows returning) s = [] := by
  cases hcheck : rows.toList.forM fun row => Statement.insertCheck table row returning with
  | error first =>
    rw [← verdict_insertStatements table rows.toList returning .empty] at hcheck
    obtain ⟨hinsert, hcalls⟩ := (insert_guarded table rows returning).rejected hcheck e s
    exact ⟨⟨first, hinsert⟩, hcalls⟩
  | ok u =>
    have hpass := forM_ok_iff.1 hcheck row hrow
    rw [← Statement.verdict_insert table row returning .empty, herr] at hpass
    cases hpass

/-- What is known about a table has no part in whether statements on it can be written, and so the
operations report errors about their input before they send anything. -/
theorem input_errors_first :
    (∀ info info', WrittenAlike info info') ∧
      ∀ {σ : Type} (e : Engine σ) (table : String) (s : Session σ),
        e.InputErrorsFirst table s := by
  refine ⟨writtenAlike, fun e table s => ?_⟩
  exact
    { select := fun columns options => (select_guarded table columns options).rejectsFirst e s
      count := fun columns options => (count_guarded table columns options).rejectsFirst e s
      insert := fun rows returning => (insert_guarded table rows returning).rejectsFirst e s
      insert_malformed := by
        rintro rows returning ⟨row, hrow, err, herr⟩
        exact insert_of_malformed hrow herr
      remove := fun filter => (remove_guarded table filter).rejectsFirst e s
      update := fun data options => e.update_rejectsFirst_or table data options s
      update_empty := by
        intro data options schema s' hempty hpass hschema hunstamped
        rw [Statement.verdict_update] at hpass
        have hassigns : (data.isEmpty && !schema.hasColumn updatedAtColumn) = true := by
          rw [hempty, hunstamped]
          rfl
        exact (update_of_unstamped hpass hschema hassigns).1 }

end Engine

end TableQuery
