import TableQuery.Proofs.Sql.Numbering
import TableQuery.Proofs.Statement.Request

/-!
# What placeholders bind

Placeholders are numbered from 1 on in the order of the text, and the n-th value is bound to the
n-th of them. So every column that is assigned or compared gets the value that was given for it,
whatever markers and casts stand between the values.
-/

namespace TableQuery

open TableQuery.Sql

/-- The placeholders of some columns are numbered from a number on, one for each given value. -/
inductive Numbered : Nat → List (String × Placeholder) → List (String × Value) → Prop where
  /-- Nothing is bound. -/
  | nil (number : Nat) : Numbered number [] []
  /-- A value is bound by the placeholder with the next number. -/
  | cons {number : Nat} {bindings : List (String × Placeholder)} {given : List (String × Value)}
      (column : String) (cast : Option TypeName) (value : Value)
      (rest : Numbered (number + 1) bindings given) :
      Numbered number ((column, ⟨number, cast⟩) :: bindings) ((column, value) :: given)

namespace Numbered

variable {number : Nat} {bindings second : List (String × Placeholder)}
  {given others : List (String × Value)}

/-- Further values go on with the numbers. -/
theorem append (h : Numbered number bindings given)
    (h' : Numbered (number + given.length) second others) :
    Numbered number (bindings ++ second) (given ++ others) := by
  induction h with
  | nil number => exact h'
  | @cons number bindings given column cast value rest ih =>
    refine Numbered.cons column cast value (ih ?_)
    rwa [Nat.add_right_comm, Nat.add_assoc]

/-- The numbers go up by one each. -/
theorem map_number (h : Numbered number bindings given) :
    bindings.map (fun b => b.2.number) = List.range' number given.length := by
  induction h with
  | nil number => rfl
  | cons column cast value rest ih => rw [List.map_cons, ih, List.length_cons, List.range'_succ]

/-- The value that a placeholder gets by its number is the one that was given for its column. -/
theorem lookup (h : Numbered number bindings given) (before : List Value)
    (hbefore : before.length + 1 = number) :
    bindings.map (fun b => (b.1, (before ++ given.map Prod.snd)[b.2.number - 1]?)) =
      given.map fun g => (g.1, some g.2) := by
  induction h generalizing before with
  | nil number => rfl
  | @cons number bindings given column cast value rest ih =>
    have hrest := ih (before ++ [value]) (by simp [hbefore])
    have hlength : number - 1 = before.length := by omega
    rw [List.append_assoc, List.singleton_append] at hrest
    rw [List.map_cons, List.map_cons, List.map_cons, hrest, hlength]
    simp

end Numbered

/-- The columns that a filter compares with values, as they are written, and these values. -/
def Filter.given (f : Filter) (qualifier : Option String) : List (String × Value) :=
  f.conditions.flatMap fun c => c.value.bound.map fun v => (c.writtenColumn qualifier, v)

/-- The given values of a filter are those that it binds. -/
theorem Filter.map_snd_given (f : Filter) (qualifier : Option String) :
    (f.given qualifier).map Prod.snd = f.boundValues := by
  rw [given, boundValues, List.map_flatMap]
  refine congrArg (fun values => f.conditions.flatMap values) (funext fun c => ?_)
  rw [List.map_map]
  exact List.map_id _

/-- The fields of a record are numbered from their first number on. -/
theorem numbered_boundFields (types : ColumnTypes) (number : Nat)
    (fields : List (String × Value)) :
    Numbered number (boundFields types number fields) fields := by
  induction fields generalizing number with
  | nil => exact Numbered.nil number
  | cons field rest ih => exact Numbered.cons field.1 _ field.2 (ih (number + 1))

/-- The stamp of an update binds nothing. -/
theorem flatMap_binding_assignments (data : Record) (info : TableInfo) :
    (data.assignments info).flatMap Assignment.binding =
      boundFields info.columnTypes 1 data.fields := by
  have hstamp : (if info.stamps data then [Assignment.now updatedAtColumn] else []).flatMap
      Assignment.binding = [] := by
    split <;> rfl
  rw [Record.assignments, List.flatMap_append, hstamp, List.append_nil, List.flatMap_map]
  exact List.flatMap_singleton' _

/-- The tests of a filter are numbered on. A test for null takes no number. -/
theorem numbered_testsFrom (qualifier : Option String) (types : ColumnTypes) (count : Nat)
    (conditions : List Condition) :
    Numbered (count + 1)
      ((testsFrom qualifier types count conditions).flatMap fun t => t.2.bindings)
      (Filter.given ⟨conditions⟩ qualifier) := by
  induction conditions generalizing count with
  | nil => exact Numbered.nil _
  | cons c rest ih =>
    rw [testsFrom, List.flatMap_cons, Filter.given, List.flatMap_cons]
    have hrest := ih (count + c.value.bound.length)
    cases hv : c.value with
    | isNull =>
      rw [hv] at hrest
      rw [Condition.test, hv]
      exact hrest
    | notNull =>
      rw [hv] at hrest
      rw [Condition.test, hv]
      exact hrest
    | value v =>
      rw [hv] at hrest
      rw [Condition.test, hv]
      exact Numbered.cons _ _ v hrest

/-- The predicate of a filter is numbered on. -/
theorem Filter.numbered_meaning (f : Filter) (qualifier : Option String) (types : ColumnTypes)
    (count : Nat) :
    Numbered (count + 1) ((f.meaning qualifier types count).elim [] RowPredicate.bindings)
      (f.given qualifier) := by
  rw [Filter.gather_meaning RowPredicate.bindings (fun _ _ => rfl) fun _ _ => rfl]
  exact numbered_testsFrom qualifier types count f.conditions

/-- The test for rows that are not deleted binds nothing. -/
theorem Filter.bindings_rows (f : Filter) (qualifier : Option String) (info : TableInfo)
    (count : Nat) :
    (f.rows qualifier info count).elim [] RowPredicate.bindings =
      (f.meaning qualifier info.columnTypes count).elim [] RowPredicate.bindings := by
  rw [Filter.rows]
  split
  · cases f.meaning qualifier info.columnTypes count with
    | none => rfl
    | some e => exact List.append_nil (RowPredicate.bindings e)
  · rfl

/-- The guarded predicate of a filter is numbered on. -/
theorem Filter.numbered_rows (f : Filter) (qualifier : Option String) (info : TableInfo)
    (count : Nat) :
    Numbered (count + 1) ((f.rows qualifier info count).elim [] RowPredicate.bindings)
      (f.given qualifier) := by
  rw [f.bindings_rows]
  exact f.numbered_meaning qualifier info.columnTypes count

/-- The name of a schema in the column that is compared with it, if there is one. -/
def schemaGiven (table : String) : List (String × Value) :=
  (Statement.catalogTarget table).1.toList.map fun schema => ("table_schema", .text schema)

/-- A test for a schema is numbered on. -/
theorem numbered_withSchema {number : Nat} {p : RowPredicate} {given : List (String × Value)}
    (h : Numbered 1 p.bindings given) (hnumber : 1 + given.length = number) (table : String) :
    Numbered 1 (withSchema number p (Statement.catalogTarget table).1).bindings
      (given ++ schemaGiven table) := by
  rw [schemaGiven]
  cases (Statement.catalogTarget table).1 with
  | none => simpa [withSchema] using h
  | some schema =>
    subst hnumber
    exact h.append (Numbered.cons _ none (.text schema) (Numbered.nil _))

namespace Request

/-- The columns that are assigned or compared, with the values that are given for them: the fields
of the record in their order, and behind them the conditions of the filter that compare. -/
def given : Request → List (String × Value)
  | .select table columns options _ => options.filter.given (columns.qualifier table)
  | .count _ _ options _ => options.filter.given none
  | .insert _ row _ _ => row.fields
  | .update _ data options _ => data.fields ++ options.filter.given none
  | .delete _ filter _ => filter.given none
  | .columnExists table column =>
    [("table_name", .text (Statement.catalogTarget table).2), ("column_name", .text column)] ++
      schemaGiven table
  | .tableColumns table =>
    [("table_name", .text (Statement.catalogTarget table).2)] ++ schemaGiven table

/-- The given values are the values that are bound. -/
theorem map_snd_given (r : Request) : r.given.map Prod.snd = r.values := by
  cases r with
  | select table columns options info => exact options.filter.map_snd_given _
  | count table columns options info => exact options.filter.map_snd_given _
  | insert table row returning types => rfl
  | update table data options info =>
    rw [given, List.map_append, options.filter.map_snd_given]
    rfl
  | delete table filter types => exact filter.map_snd_given _
  | columnExists table column =>
    rw [given, List.map_append, schemaGiven, List.map_map]
    rfl
  | tableColumns table =>
    rw [given, List.map_append, schemaGiven, List.map_map]
    rfl

/-- The placeholders of a query are numbered from 1 on, one for each given value. -/
theorem numbered_query (r : Request) : Numbered 1 r.query.bindings r.given := by
  cases r with
  | select table columns options info => exact options.filter.numbered_rows _ info 0
  | count table columns options info => exact options.filter.numbered_rows none info 0
  | insert table row returning types =>
    have hzip : row.columns.zip ((boundFields types 1 row.fields).map Prod.snd) =
        boundFields types 1 row.fields :=
      (List.zip_of_prod (map_fst_boundFields types 1 row.fields) rfl).symm
    have hbindings : (query (.insert table row returning types)).bindings =
        boundFields types 1 row.fields ++ [] :=
      congrArg (fun bindings => bindings ++ []) hzip
    rw [hbindings, List.append_nil]
    exact numbered_boundFields types 1 row.fields
  | update table data options info =>
    have hrows := options.filter.numbered_rows none info data.size
    have hfields := numbered_boundFields info.columnTypes 1 data.fields
    rw [← flatMap_binding_assignments data info] at hfields
    refine hfields.append ?_
    rwa [Nat.add_comm]
  | delete table filter types => exact filter.numbered_meaning none types 0
  | columnExists table column =>
    have htests : Numbered 1
        (RowPredicate.both (catalogTest "table_name" 1) (catalogTest "column_name" 2)).bindings
        [("table_name", .text (Statement.catalogTarget table).2), ("column_name", .text column)] :=
      Numbered.cons _ none _ (Numbered.cons _ none _ (Numbered.nil 3))
    exact numbered_withSchema htests rfl table
  | tableColumns table =>
    have htest : Numbered 1 (catalogTest "table_name" 1).bindings
        [("table_name", .text (Statement.catalogTarget table).2)] :=
      Numbered.cons _ none _ (Numbered.nil 2)
    exact numbered_withSchema htest rfl table

/-- Every placeholder of a query stands for a column. -/
theorem placeholders_eq (r : Request) : r.query.placeholders = r.query.bindings.map Prod.snd := by
  cases r with
  | insert table row returning types =>
    have hlength : ((boundFields types 1 row.fields).map Prod.snd).length ≤ row.columns.length := by
      have hfst := congrArg List.length (map_fst_boundFields types 1 row.fields)
      rw [List.length_map] at hfst
      rw [List.length_map, hfst]
      exact Nat.le_refl _
    have hbindings : (query (.insert table row returning types)).bindings =
        row.columns.zip ((boundFields types 1 row.fields).map Prod.snd) ++ [] := rfl
    rw [hbindings, List.append_nil, List.map_snd_zip hlength]
    rfl
  | _ => rfl

/-- Outside of names in double quotes the text of a statement holds the placeholders `$1`, `$2` and
so on, one for each value that is bound, each once and in this order. The values are those of the
record and behind them those of the filter, and the placeholder of a column that is assigned or
compared has the number of the value that was given for that column. -/
theorem placeholders_bind {r : Request} {s : Statement} (h : r.statement = .ok s)
    (hextra : r.AddsNothing) :
    (∃ text, outsideQuotes false s.sql.toList = some text ∧ Statement.dollarRuns none text =
      (List.range s.parameters.length).map fun i => Decimal.digits (i + 1)) ∧
    s.parameters = r.values ∧
    ∃ q, Query.ofText s.sql = some q ∧
      q.bindings.map (fun b => (b.1, s.parameters[b.2.number - 1]?)) =
        r.given.map fun g => (g.1, some g.2) := by
  have hmeans := means h hextra
  have hnumbered := r.numbered_query
  refine ⟨?_, hmeans.parameters, r.query, hmeans.ofText, ?_⟩
  · obtain ⟨text, htext, hruns⟩ := dollarRuns_of_lex hmeans.lexed
    refine ⟨text, htext, ?_⟩
    have hlength : s.parameters.length = r.given.length := by
      rw [hmeans.parameters, ← r.map_snd_given, List.length_map]
    have hdigits : (r.query.bindings.map Prod.snd).map (fun p => Decimal.digits p.number) =
        (r.query.bindings.map fun b => b.2.number).map Decimal.digits := by
      rw [List.map_map, List.map_map]
      rfl
    rw [hruns, Query.filterMap_digits, r.placeholders_eq, hdigits, hnumbered.map_number, hlength,
      List.range'_eq_map_range, List.map_map]
    refine List.map_congr_left fun i _ => ?_
    rw [Function.comp_apply, Nat.add_comm]
  · rw [hmeans.parameters, ← r.map_snd_given]
    exact hnumbered.lookup [] rfl

/-- An update binds its field as the first value, cast to a quoted type, and the value of its
filter as the second one behind a test for null. -/
theorem placeholders_bind_update :
    ∃ s, statement (.update "users" ⟨[("name", .text "Ann")]⟩
        { filter := ⟨[.isNull "mail", .equal "age" (.int 3)]⟩ }
        { columnTypes := ColumnTypes.ofList [("name", "\"t$9\"")] }) = .ok s ∧
      s.sql = "UPDATE users SET name=COALESCE($1::\"t$9\", name) " ++
        "WHERE mail IS NULL AND age = $2 RETURNING id" ∧
      s.parameters = [.text "Ann", .int 3] ∧
      ∃ text, outsideQuotes false s.sql.toList = some text ∧
        Statement.dollarRuns none text = [['1'], ['2']] := by
  obtain ⟨hruns, hvalues, -⟩ := placeholders_bind (r := .update "users" ⟨[("name", .text "Ann")]⟩
    { filter := ⟨[.isNull "mail", .equal "age" (.int 3)]⟩ }
    { columnTypes := ColumnTypes.ofList [("name", "\"t$9\"")] }) rfl trivial
  exact ⟨_, rfl, by decide +kernel, hvalues, hruns⟩

end Request

end TableQuery
