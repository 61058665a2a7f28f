import TableQuery.Proofs.Fields
import TableQuery.Proofs.Statement.Request

/-!
# Statements for values of one class

Values are bound, never written. The text of a statement depends on them only through their class:
a test for null has none, and of a value only whether it is cast may show. So requests that differ
in nothing but values of the same class are rejected with the same error, or get the same text, each
with its own values.
-/

namespace TableQuery

/-- What of the right-hand side of a condition, or of a value, may show in a statement. -/
inductive OperandClass where
  /-- The mark that a column is null. -/
  | isNull
  /-- The mark that a column is not null. -/
  | notNull
  /-- A value that is cast to the type of its column. -/
  | castable
  /-- A value that is bound as it is. -/
  | uncastable
  deriving DecidableEq, Repr

/-- The class of a value. -/
def Value.operandClass : Value → OperandClass
  | .text _ | .int _ | .bool _ | .json _ => .castable
  | .null | .float _ | .timestamp _ | .localTimestamp _ | .date _ => .uncastable

/-- The class of the right-hand side of a condition. -/
def FilterValue.operandClass : FilterValue → OperandClass
  | .isNull => .isNull
  | .notNull => .notNull
  | .value v => v.operandClass

/-- Conditions that differ in values of one class only. -/
structure Condition.Alike (c c' : Condition) : Prop where
  /-- They join what stands before them in the same way. -/
  connective : c.connective = c'.connective
  /-- They are about the same column. -/
  column : c.column = c'.column
  /-- They have the same operator. -/
  operator : c.operator = c'.operator
  /-- Their right-hand sides are of one class. -/
  value : c.value.operandClass = c'.value.operandClass

/-- Filters whose conditions differ, place by place, in values of one class only. -/
def Filter.Alike (f f' : Filter) : Prop :=
  List.Forall₂ Condition.Alike f.conditions f'.conditions

/-- Records with the same columns in the same order, and in each of them values of one class. -/
def Record.Alike (r r' : Record) : Prop :=
  List.Forall₂ (fun field field' : String × Value =>
    field.1 = field'.1 ∧ field.2.operandClass = field'.2.operandClass) r.fields r'.fields

/-- Options that differ in the values of their filters only. -/
structure QueryOptions.Alike (o o' : QueryOptions) : Prop where
  /-- Their filters differ in values of one class only. -/
  filter : o.filter.Alike o'.filter
  /-- Everything else is the same. -/
  others : o' = { o with filter := o'.filter }

/-- Requests that differ in bound values of one class only. What the catalog is asked for is bound
as well: of a table it shows only whether a schema stands in front. -/
inductive Request.Alike : Request → Request → Prop where
  /-- Selections. -/
  | select (table : String) (columns : ColumnSpec) {options options' : QueryOptions}
    (info : TableInfo) : options.Alike options' →
    Alike (.select table columns options info) (.select table columns options' info)
  /-- Counts. -/
  | count (table : String) (columns : ColumnSpec) {options options' : QueryOptions}
    (info : TableInfo) : options.Alike options' →
    Alike (.count table columns options info) (.count table columns options' info)
  /-- Insertions. -/
  | insert (table : String) {row row' : Record} (returning : Option String)
    (types : ColumnTypes) : row.Alike row' →
    Alike (.insert table row returning types) (.insert table row' returning types)
  /-- Updates. -/
  | update (table : String) {data data' : Record} {options options' : QueryOptions}
    (info : TableInfo) : data.Alike data' → options.Alike options' →
    Alike (.update table data options info) (.update table data' options' info)
  /-- Deletions. -/
  | delete (table : String) {filter filter' : Filter} (types : ColumnTypes) :
    filter.Alike filter' → Alike (.delete table filter types) (.delete table filter' types)
  /-- Questions for one column. -/
  | columnExists {table table' : String} (column column' : String) :
    ('.' ∈ table.toList ↔ '.' ∈ table'.toList) →
    Alike (.columnExists table column) (.columnExists table' column')
  /-- Questions for all columns. -/
  | tableColumns {table table' : String} : ('.' ∈ table.toList ↔ '.' ∈ table'.toList) →
    Alike (.tableColumns table) (.tableColumns table')

/-- A value is cast if its class says so. -/
theorem Value.castsValue_eq (v : Value) :
    ColumnTypes.castsValue v = decide (v.operandClass = .castable) := by
  cases v <;> rfl

/-- Right-hand sides of one class are the same mark, or two values of one class. -/
theorem FilterValue.cases_of_class {a b : FilterValue} (h : a.operandClass = b.operandClass) :
    a = .isNull ∧ b = .isNull ∨ a = .notNull ∧ b = .notNull ∨
      ∃ v v', a = .value v ∧ b = .value v' ∧ v.operandClass = v'.operandClass := by
  have hmark : ∀ v : Value, v.operandClass ≠ .isNull ∧ v.operandClass ≠ .notNull := by
    intro v
    cases v <;> exact ⟨(by rintro ⟨⟩), (by rintro ⟨⟩)⟩
  cases a with
  | isNull =>
    cases b with
    | isNull => exact .inl ⟨rfl, rfl⟩
    | notNull => cases h
    | value v' => exact absurd h.symm (hmark v').1
  | notNull =>
    cases b with
    | isNull => cases h
    | notNull => exact .inr (.inl ⟨rfl, rfl⟩)
    | value v' => exact absurd h.symm (hmark v').2
  | value v =>
    cases b with
    | isNull => exact absurd h (hmark v).1
    | notNull => exact absurd h (hmark v).2
    | value v' => exact .inr (.inr ⟨v, v', rfl, rfl, h⟩)

/-- The placeholder of a value depends on its class only. -/
theorem ColumnTypes.placeholder_eq_of_class (types : ColumnTypes) (column : String) (number : Nat)
    {v v' : Value} (h : v.operandClass = v'.operandClass) :
    types.placeholder column number v = types.placeholder column number v' := by
  rw [placeholder, placeholder, v.castsValue_eq, v'.castsValue_eq, h]

/-- Parts of statements with one text, each with its own values. -/
structure Compiled.SameText (values values' : List Value) (p p' : Compiled) : Prop where
  /-- They are written in the same way. -/
  pieces : p.pieces = p'.pieces
  /-- The first one binds its values. -/
  values : p.values = values
  /-- The second one binds its values. -/
  values' : p'.values = values'

/-- Statements with one text, each with its own values. -/
structure Statement.SameText (values values' : List Value) (s s' : Statement) : Prop where
  /-- They are written in the same way. -/
  sql : s.sql = s'.sql
  /-- The first one binds its values. -/
  values : s.parameters = values
  /-- The second one binds its values. -/
  values' : s'.parameters = values'

/-- Alike conditions bind equally many values. -/
theorem Condition.Alike.length_bound {c c' : Condition} (h : c.Alike c') :
    c.value.bound.length = c'.value.bound.length := by
  rcases FilterValue.cases_of_class h.value with ⟨hv, hv'⟩ | ⟨hv, hv'⟩ | ⟨v, v', hv, hv', -⟩
  · rw [hv, hv']
  · rw [hv, hv']
  · rw [hv, hv']
    rfl

/-- Alike conditions are rejected with one error or compiled to one text. -/
theorem Condition.Alike.compile {c c' : Condition} (h : c.Alike c') (qualifier : Option String)
    (types : ColumnTypes) (count : Nat) :
    EndAlike (Compiled.SameText c.value.bound c'.value.bound) (c.compile qualifier types count)
      (c'.compile qualifier types count) := by
  have hwritten : c.writtenColumn qualifier = c'.writtenColumn qualifier := by
    simp only [writtenColumn, h.column]
  rw [Condition.compile, Condition.compile, ← hwritten, ← h.column, ← h.operator]
  split
  · rcases FilterValue.cases_of_class h.value with
      ⟨hv, hv'⟩ | ⟨hv, hv'⟩ | ⟨v, v', hv, hv', hclass⟩
    · rw [hv, hv']
      exact .ok ⟨rfl, rfl, rfl⟩
    · rw [hv, hv']
      exact .ok ⟨rfl, rfl, rfl⟩
    · rw [hv, hv']
      dsimp only
      cases operator? c.operator with
      | none => exact .error _
      | some operator =>
        -- the one place where a value has a part in the text, and it is the same for both
        rw [types.placeholder_eq_of_class c.column (count + 1) hclass]
        exact .ok ⟨rfl, rfl, rfl⟩
  · exact .error _

/-- Alike conditions behind others are rejected with one error or compiled to one text. -/
theorem compileRest_alike {conditions conditions' : List Condition}
    (h : List.Forall₂ Condition.Alike conditions conditions') (qualifier : Option String)
    (types : ColumnTypes) (count : Nat) :
    EndAlike (Compiled.SameText (Filter.boundValues ⟨conditions⟩)
        (Filter.boundValues ⟨conditions'⟩))
      (compileRest qualifier types count conditions)
      (compileRest qualifier types count conditions') := by
  induction h generalizing count with
  | nil => exact .ok ⟨rfl, rfl, rfl⟩
  | @cons c c' rest rest' hc _ ih =>
    refine (hc.compile qualifier types count).bind fun one one' hone => ?_
    rw [hone.values, hone.values', ← hc.length_bound]
    refine (ih (count + c.value.bound.length)).bind fun others others' hothers => ?_
    rw [hone.pieces, hothers.pieces, hothers.values, hothers.values', hc.connective]
    exact .ok ⟨rfl, rfl, rfl⟩

/-- Predicates with one text, each with the values of its filter; or none, and no values. -/
inductive PredicatesAlike (f f' : Filter) : Option Compiled → Option Compiled → Prop where
  /-- There are no conditions. -/
  | none : f.boundValues = [] → f'.boundValues = [] → PredicatesAlike f f' none none
  /-- The conditions are written in the same way. -/
  | some {p p' : Compiled} : Compiled.SameText f.boundValues f'.boundValues p p' →
    PredicatesAlike f f' (some p) (some p')

/-- Alike filters are rejected with one error or compiled to one text. -/
theorem Filter.Alike.predicate {f f' : Filter} (h : f.Alike f') (qualifier : Option String)
    (types : ColumnTypes) (count : Nat) :
    EndAlike (PredicatesAlike f f') (f.predicate qualifier types count)
      (f'.predicate qualifier types count) := by
  obtain ⟨conditions⟩ := f
  obtain ⟨conditions'⟩ := f'
  cases h with
  | nil => exact .ok (.none rfl rfl)
  | @cons c c' rest rest' hc hrest =>
    refine (hc.compile qualifier types count).bind fun one one' hone => ?_
    rw [hone.values, hone.values', ← hc.length_bound]
    refine (compileRest_alike hrest qualifier types _).bind fun others others' hothers => ?_
    rw [hone.pieces, hothers.pieces, hothers.values, hothers.values']
    exact .ok (.some ⟨rfl, rfl, rfl⟩)

/-- Entries that are related pairwise agree in what related entries agree in. -/
theorem map_eq_map_of_forall₂ {α γ : Type} {related : α → α → Prop} {f : α → γ}
    {entries entries' : List α} (h : List.Forall₂ related entries entries')
    (hf : ∀ a b, related a b → f a = f b) : entries.map f = entries'.map f := by
  have hmap : List.Forall₂ (· = ·) (entries.map f) (entries'.map f) := List.rel_map hf h
  rwa [List.forall₂_eq_eq_eq] at hmap

/-- Alike filters both have an alternative, or neither has. -/
theorem Filter.Alike.hasDisjunction {f f' : Filter} (h : f.Alike f') :
    f.hasDisjunction = f'.hasDisjunction := by
  obtain ⟨conditions⟩ := f
  obtain ⟨conditions'⟩ := f'
  cases h with
  | nil => rfl
  | @cons c c' rest rest' _ hrest =>
    have hconnectives : rest.map Condition.connective = rest'.map Condition.connective :=
      map_eq_map_of_forall₂ hrest fun _ _ hc => hc.connective
    have hany := congrArg (List.any · (· = .or)) hconnectives
    rwa [List.any_map, List.any_map] at hany

/-- The clauses on rows of alike filters are rejected with one error or written as one text. -/
theorem Filter.Alike.whereClause {f f' : Filter} (h : f.Alike f') (qualifier : Option String)
    (info : TableInfo) (count : Nat) :
    EndAlike (Compiled.SameText f.boundValues f'.boundValues)
      (TableQuery.whereClause f qualifier info count)
      (TableQuery.whereClause f' qualifier info count) := by
  refine (h.predicate qualifier info.columnTypes count).bind fun p p' hp => ?_
  cases hp with
  | none hvalues hvalues' =>
    rw [hvalues, hvalues']
    cases info.softDelete <;> exact .ok ⟨rfl, rfl, rfl⟩
  | some hone =>
    cases info.softDelete with
    | true =>
      refine .ok ⟨?_, hone.values, hone.values'⟩
      simp only [guardedPieces, h.hasDisjunction, hone.pieces]
    | false =>
      exact .ok ⟨congrArg (Piece.text " WHERE " :: ·) hone.pieces, hone.values, hone.values'⟩

/-- The clauses of alike filters are rejected with one error or written as one text. -/
theorem Filter.Alike.clause {f f' : Filter} (h : f.Alike f') (qualifier : Option String)
    (types : ColumnTypes) (count : Nat) :
    EndAlike (Compiled.SameText f.boundValues f'.boundValues) (f.clause qualifier types count)
      (f'.clause qualifier types count) := by
  refine (h.predicate qualifier types count).bind fun p p' hp => ?_
  cases hp with
  | none hvalues hvalues' => exact .ok ⟨rfl, hvalues.symm, hvalues'.symm⟩
  | some hone =>
    exact .ok ⟨congrArg (Piece.text " WHERE " :: ·) hone.pieces, hone.values, hone.values'⟩

/-- Alike records have the same columns. -/
theorem Record.Alike.columns {r r' : Record} (h : r.Alike r') : r.columns = r'.columns :=
  map_eq_map_of_forall₂ h fun _ _ hfield => hfield.1

/-- The placeholders of alike records are the same. -/
theorem Record.Alike.fieldPlaceholders {r r' : Record} (h : r.Alike r') (types : ColumnTypes)
    (number : Nat) :
    Statement.fieldPlaceholders types number r.fields =
      Statement.fieldPlaceholders types number r'.fields := by
  obtain ⟨fields⟩ := r
  obtain ⟨fields'⟩ := r'
  rw [Record.Alike] at h
  dsimp only at h ⊢
  induction h generalizing number with
  | nil => rfl
  | @cons field field' rest rest' hfield _ ih =>
    rw [Statement.fieldPlaceholders, Statement.fieldPlaceholders, ih (number + 1), hfield.1,
      types.placeholder_eq_of_class field'.1 number hfield.2]

/-- Alike records have equally many fields. -/
theorem Record.Alike.size {r r' : Record} (h : r.Alike r') : r.size = r'.size :=
  h.length_eq

/-- Alike records both have a field, or neither has. -/
theorem Record.Alike.isEmpty {r r' : Record} (h : r.Alike r') : r.isEmpty = r'.isEmpty := by
  have hcolumns := congrArg List.isEmpty h.columns
  rwa [Record.columns, Record.columns, List.isEmpty_map, List.isEmpty_map] at hcolumns

/-- One of alike records sets a column if the other does. -/
theorem Record.Alike.isNone_get? {r r' : Record} (h : r.Alike r') (column : String) :
    (r.get? column).isNone = (r'.get? column).isNone := by
  rw [Bool.eq_iff_iff, Option.isNone_iff_eq_none, Option.isNone_iff_eq_none, Record.get?,
    Record.get?, getField?_eq_none_iff, getField?_eq_none_iff]
  have hcolumns : r.fields.map Prod.fst = r'.fields.map Prod.fst := h.columns
  rw [hcolumns]

/-- The assignments of alike records are written in the same way. -/
theorem Record.Alike.assignments {r r' : Record} (h : r.Alike r') (info : TableInfo) :
    Statement.assignments r info = Statement.assignments r' info := by
  rw [Statement.assignments, Statement.assignments, h.fieldPlaceholders, h.isNone_get?]

namespace Statement

/-- The statements that select rows by alike filters. -/
theorem select_alike (table : String) (columns : ColumnSpec) {options options' : QueryOptions}
    (info : TableInfo) (h : options.Alike options') :
    EndAlike (SameText options.filter.boundValues options'.filter.boundValues)
      (select table columns options info) (select table columns options' info) := by
  obtain ⟨hfilter, hothers⟩ := h
  rw [hothers, select, select]
  refine .bind_same fun _ => ?_
  cases columns.isEmpty with
  | true => exact .error _
  | false =>
    refine (hfilter.whereClause _ info 0).bind fun rows rows' hrows => ?_
    refine .bind_same fun order => .ok ⟨?_, hrows.values, hrows.values'⟩
    rw [Statement.sql, Statement.sql, hrows.pieces]

/-- The statements that count rows by alike filters. -/
theorem count_alike (table : String) (columns : ColumnSpec) {options options' : QueryOptions}
    (info : TableInfo) (h : options.Alike options') :
    EndAlike (SameText options.filter.boundValues options'.filter.boundValues)
      (count table columns options info) (count table columns options' info) := by
  obtain ⟨hfilter, hothers⟩ := h
  rw [hothers, count, count]
  refine .bind_same fun _ => ?_
  cases columns.hasJoins with
  | true => exact .error _
  | false =>
    refine (hfilter.whereClause none info 0).bind fun rows rows' hrows => ?_
    refine .ok ⟨?_, hrows.values, hrows.values'⟩
    rw [Statement.sql, Statement.sql, hrows.pieces]

/-- The statements that insert alike records. -/
theorem insert_alike (table : String) {row row' : Record} (returning : Option String)
    (types : ColumnTypes) (h : row.Alike row') :
    EndAlike (SameText row.values row'.values) (insert table row returning types)
      (insert table row' returning types) := by
  rw [insert, insert, ← h.columns, ← h.fieldPlaceholders, ← h.isEmpty]
  refine .bind_same fun _ => ?_
  cases row.isEmpty with
  | true => exact .error _
  | false =>
    refine .bind_same fun _ => ?_
    exact .bind_same fun returned => .ok ⟨rfl, rfl, rfl⟩

/-- The statements that update rows by alike records and filters. -/
theorem update_alike (table : String) {data data' : Record} {options options' : QueryOptions}
    (info : TableInfo) (hdata : data.Alike data') (hoptions : options.Alike options') :
    EndAlike (SameText (data.values ++ options.filter.boundValues)
        (data'.values ++ options'.filter.boundValues))
      (update table data options info) (update table data' options' info) := by
  obtain ⟨hfilter, hothers⟩ := hoptions
  rw [hothers, update, update, ← hdata.columns, ← hdata.assignments, ← hdata.size]
  refine .bind_same fun _ => .bind_same fun _ => ?_
  dsimp only
  cases (assignments data info).isEmpty with
  | true => exact .error _
  | false =>
    refine (hfilter.whereClause none info data.size).bind fun rows rows' hrows => ?_
    refine .bind_same fun returned => .ok ⟨?_, ?_, ?_⟩
    · rw [Statement.sql, Statement.sql, hrows.pieces]
    · rw [hrows.values]
    · rw [hrows.values']

/-- The statements that delete rows by alike filters. -/
theorem delete_alike (table : String) {filter filter' : Filter} (types : ColumnTypes)
    (h : filter.Alike filter') :
    EndAlike (SameText filter.boundValues filter'.boundValues) (delete table filter types)
      (delete table filter' types) := by
  rw [delete, delete]
  refine .bind_same fun _ => ?_
  refine (h.clause none types 0).bind fun rows rows' hrows => ?_
  refine .ok ⟨?_, hrows.values, hrows.values'⟩
  rw [Statement.sql, Statement.sql, hrows.pieces]

/-- A schema stands in front of a table exactly if there is a point in it. -/
theorem isSome_catalogTarget (table : String) :
    (catalogTarget table).1.isSome = decide ('.' ∈ table.toList) := by
  rw [catalogTarget]
  cases h : Text.cutAt ['.'] table.toList with
  | none =>
    refine (decide_eq_false fun hmem => ?_).symm
    -- the first point is a place to cut at
    obtain ⟨before, after, htable, hbefore⟩ := List.eq_append_cons_of_mem hmem
    have hcut := Text.cutAt_append [] hbefore after
    rw [List.nil_append, ← htable, h] at hcut
    cases hcut
  | some parts =>
    obtain ⟨schema, name⟩ := parts
    refine (decide_eq_true ?_).symm
    rw [Text.append_of_cutAt h]
    simp

/-- Whether a schema is asked for is the same for tables that both have a point, or both have
none. -/
theorem schemaPredicate_alike {table table' : String}
    (h : '.' ∈ table.toList ↔ '.' ∈ table'.toList) (number : Nat) :
    (schemaPredicate number (catalogTarget table).1).1 =
      (schemaPredicate number (catalogTarget table').1).1 := by
  have hsome : (catalogTarget table).1.isSome = (catalogTarget table').1.isSome := by
    rw [isSome_catalogTarget, isSome_catalogTarget, decide_eq_decide.mpr h]
  cases hschema : (catalogTarget table).1 with
  | none =>
    have hother : (catalogTarget table').1 = none := by
      rwa [hschema, eq_comm, Option.isSome_none, Option.isSome_eq_false_iff,
        Option.isNone_iff_eq_none] at hsome
    rw [hother]
  | some schema =>
    obtain ⟨other, hother⟩ : ∃ other, (catalogTarget table').1 = some other := by
      rwa [hschema, eq_comm, Option.isSome_some, Option.isSome_iff_exists] at hsome
    rw [hother]
    rfl

/-- The questions for one column of alike tables. -/
theorem columnExists_alike {table table' : String} (column column' : String)
    (h : '.' ∈ table.toList ↔ '.' ∈ table'.toList) :
    SameText (.text (catalogTarget table).2 :: .text column :: schemaValues table)
      (.text (catalogTarget table').2 :: .text column' :: schemaValues table')
      (columnExists table column) (columnExists table' column') := by
  refine ⟨?_, ?_, ?_⟩
  · rw [Statement.sql, Statement.sql, columnExists, columnExists]
    dsimp only
    rw [schemaPredicate_alike h]
  · exact (columnExists_means table column).parameters
  · exact (columnExists_means table' column').parameters

/-- The questions for the columns of alike tables. -/
theorem tableColumns_alike {table table' : String}
    (h : '.' ∈ table.toList ↔ '.' ∈ table'.toList) :
    SameText (.text (catalogTarget table).2 :: schemaValues table)
      (.text (catalogTarget table').2 :: schemaValues table')
      (tableColumns table) (tableColumns table') := by
  refine ⟨?_, ?_, ?_⟩
  · rw [Statement.sql, Statement.sql, tableColumns, tableColumns]
    dsimp only
    rw [schemaPredicate_alike h]
  · exact (tableColumns_means table).parameters
  · exact (tableColumns_means table').parameters

end Statement

/-- Values do not show in a statement. Of two requests that differ in values of one class only,
either both are rejected with the same error, or both get the same text, each with its own
values. -/
theorem Request.values_never_show {r r' : Request} (h : r.Alike r') :
    EndAlike (Statement.SameText r.values r'.values) r.statement r'.statement := by
  cases h with
  | select table columns info hoptions =>
    exact Statement.select_alike table columns info hoptions
  | count table columns info hoptions =>
    exact Statement.count_alike table columns info hoptions
  | insert table returning types hrow => exact Statement.insert_alike table returning types hrow
  | update table info hdata hoptions => exact Statement.update_alike table info hdata hoptions
  | delete table types hfilter => exact Statement.delete_alike table types hfilter
  | columnExists column column' htable =>
    exact .ok (Statement.columnExists_alike column column' htable)
  | tableColumns htable => exact .ok (Statement.tableColumns_alike htable)

/-- Setting a text and comparing with a double, or setting a truth value and comparing with a null:
both updates have one text. -/
theorem Request.values_never_show_update :
    let info : TableInfo := { columnTypes := .ofList [("name", "citext"), ("age", "int4")] }
    ∃ s s', (Request.update "users" ⟨[("name", .text "$2' --")]⟩
        { filter := ⟨[⟨.and, "age", ">", .value (.float default)⟩]⟩ } info).statement = .ok s ∧
      (Request.update "users" ⟨[("name", .bool true)]⟩
        { filter := ⟨[⟨.and, "age", ">", .value .null⟩]⟩ } info).statement = .ok s' ∧
      s.sql = "UPDATE users SET name=COALESCE($1::citext, name) WHERE age > $2 RETURNING id" ∧
      Statement.SameText [.text "$2' --", .float default] [.bool true, .null] s s' := by
  intro info
  have hdata : Record.Alike ⟨[("name", .text "$2' --")]⟩ ⟨[("name", .bool true)]⟩ :=
    .cons ⟨rfl, rfl⟩ .nil
  have hoptions : QueryOptions.Alike
      { filter := ⟨[⟨.and, "age", ">", .value (.float default)⟩]⟩ }
      { filter := ⟨[⟨.and, "age", ">", .value .null⟩]⟩ } :=
    ⟨.cons ⟨rfl, rfl, rfl, rfl⟩ .nil, rfl⟩
  refine ⟨_, _, rfl, rfl, by decide +kernel, ?_⟩
  cases values_never_show (.update "users" info hdata hoptions) with
  | ok h => exact h

end TableQuery
