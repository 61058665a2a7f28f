import TableQuery.Proofs.Fields
import TableQuery.Proofs.Statement.Binding
import TableQuery.Proofs.Statement.Untyped

/-!
# What declared types do

Declared types put casts behind placeholders and do nothing else. Which placeholder has which cast
is decided by the column as the caller wrote it, the kind of the value, and whether a pattern is
matched; a column with a qualifier is no key of a table's types and is not cast.
-/

namespace TableQuery

open TableQuery.Sql

/-- A value that a statement binds, and what it is bound for. -/
structure BoundValue where
  /-- The column, as the caller wrote it. -/
  column : String
  /-- The value. -/
  value : Value
  /-- The operator of the condition that compares the two; nothing for a field of a record. -/
  operator : Option String

/-- The kinds of values that are cast: the others compare with, and are assigned to, a whole family
of types. -/
inductive Value.Castable : Value → Prop where
  /-- Texts. -/
  | text (s : String) : Castable (.text s)
  /-- Integers. -/
  | int (n : Int64) : Castable (.int n)
  /-- Truth values. -/
  | bool (b : Bool) : Castable (.bool b)
  /-- JSON values. -/
  | json (j : Json) : Castable (.json j)

/-- The value that a condition binds, if there is one. -/
def Condition.compared (c : Condition) : List BoundValue :=
  c.value.bound.map fun v => ⟨c.column, v, some (canonicalOperator c.operator)⟩

/-- The values that a filter binds. -/
def Filter.compared (f : Filter) : List BoundValue :=
  f.conditions.flatMap Condition.compared

/-- The values that a record binds. -/
def Record.stored (r : Record) : List BoundValue :=
  r.fields.map fun field => ⟨field.1, field.2, none⟩

namespace Request

/-- The declared types of a request. The catalog is asked without any. -/
def types : Request → ColumnTypes
  | .select _ _ _ info => info.columnTypes
  | .count _ _ _ info => info.columnTypes
  | .insert _ _ _ types => types
  | .update _ _ _ info => info.columnTypes
  | .delete _ _ types => types
  | .columnExists _ _ => .empty
  | .tableColumns _ => .empty

/-- The values that a request binds, in order: those of the record, and behind them those of the
filter. -/
def bound : Request → List BoundValue
  | .select _ _ options _ => options.filter.compared
  | .count _ _ options _ => options.filter.compared
  | .insert _ row _ _ => row.stored
  | .update _ data options _ => data.stored ++ options.filter.compared
  | .delete _ filter _ => filter.compared
  | .columnExists table column =>
    (given (.columnExists table column)).map fun g => ⟨g.1, g.2, some "="⟩
  | .tableColumns table => (given (.tableColumns table)).map fun g => ⟨g.1, g.2, some "="⟩

end Request

/-- A column that has a declared type is among the keys. -/
theorem ColumnTypes.mem_of_get? {types : ColumnTypes} {column : String} {t : TypeName}
    (h : types.get? column = some t) : column ∈ types.entries.map Prod.fst := by
  by_contra hnone
  have hget : types.get? column = none := getField?_eq_none_iff.2 hnone
  rw [hget] at h
  cases h

namespace BoundValue

/-- The cast of the placeholder of a bound value. -/
def cast (b : BoundValue) (types : ColumnTypes) : Option TypeName :=
  if b.operator.any fun operator => patternOperators.contains operator then none
  else if ColumnTypes.castsValue b.value then types.get? b.column
  else none

/-- A value is cast exactly if it is of a kind that is. -/
theorem castsValue_iff (v : Value) : ColumnTypes.castsValue v = true ↔ v.Castable := by
  constructor
  · intro h
    cases v with
    | text s => exact .text s
    | int n => exact .int n
    | bool b => exact .bool b
    | json j => exact .json j
    | _ => cases h
  · rintro (_ | _ | _ | _) <;> rfl

/-- A bound value is cast to the declared type of its column, if it is of a kind that is cast and
matches no pattern. -/
theorem cast_eq_some_iff (b : BoundValue) (types : ColumnTypes) (t : TypeName) :
    b.cast types = some t ↔
      types.get? b.column = some t ∧ b.value.Castable ∧
        ∀ operator ∈ b.operator, operator ∉ patternOperators := by
  have hpattern : (b.operator.any fun operator => patternOperators.contains operator) = true ↔
      ¬∀ operator ∈ b.operator, operator ∉ patternOperators := by
    cases b.operator with
    | none => simp
    | some operator => simp
  rw [cast]
  split
  · next h => exact iff_of_false (by rintro ⟨⟩) fun hall => hpattern.1 h hall.2.2
  · next h =>
    rw [hpattern, not_not] at h
    split
    · next hvalue => exact ⟨fun ht => ⟨ht, (castsValue_iff _).1 hvalue, h⟩, fun ht => ht.1⟩
    · next hvalue =>
      exact iff_of_false (by rintro ⟨⟩) fun hall => hvalue ((castsValue_iff _).2 hall.2.1)

/-- Nothing is cast behind a column with a qualifier if no key of the types has one. -/
theorem cast_of_point {b : BoundValue} {types : ColumnTypes}
    (hkeys : ∀ key ∈ types.entries.map Prod.fst, '.' ∉ key.toList) (h : '.' ∈ b.column.toList) :
    b.cast types = none := by
  cases hcast : b.cast types with
  | none => rfl
  | some t =>
    have hget := ((b.cast_eq_some_iff types t).1 hcast).1
    exact absurd h (hkeys _ (ColumnTypes.mem_of_get? hget))

end BoundValue

/-- The placeholders of bound values, numbered from a number on. -/
def placed (types : ColumnTypes) : Nat → List BoundValue → List Placeholder
  | _, [] => []
  | number, b :: rest => ⟨number, b.cast types⟩ :: placed types (number + 1) rest

/-- Further bound values go on with the numbers. -/
theorem placed_append (types : ColumnTypes) (number : Nat) (first second : List BoundValue) :
    placed types number (first ++ second) =
      placed types number first ++ placed types (number + first.length) second := by
  induction first generalizing number with
  | nil => rfl
  | cons b rest ih =>
    rw [List.cons_append, placed, placed, ih, List.length_cons, Nat.add_right_comm, Nat.add_assoc]
    rfl

/-- The placeholder at a place has the number of that place. -/
theorem getElem?_placed (types : ColumnTypes) (number : Nat) (bound : List BoundValue) (i : Nat) :
    (placed types number bound)[i]? = bound[i]?.map fun b => ⟨number + i, b.cast types⟩ := by
  induction bound generalizing number i with
  | nil => rfl
  | cons b rest ih =>
    rw [placed]
    cases i with
    | zero => rfl
    | succ i =>
      rw [List.getElem?_cons_succ, List.getElem?_cons_succ, ih, Nat.add_right_comm, Nat.add_assoc]

/-- There is one placeholder for each bound value. -/
theorem length_placed (types : ColumnTypes) (number : Nat) (bound : List BoundValue) :
    (placed types number bound).length = bound.length := by
  induction bound generalizing number with
  | nil => rfl
  | cons b rest ih => rw [placed, List.length_cons, List.length_cons, ih]

/-- The placeholders of a record are those of its bound values. -/
theorem map_snd_boundFields (types : ColumnTypes) (number : Nat)
    (fields : List (String × Value)) :
    (boundFields types number fields).map Prod.snd =
      placed types number (Record.stored ⟨fields⟩) := by
  induction fields generalizing number with
  | nil => rfl
  | cons field rest ih =>
    rw [boundFields, List.map_cons, ih]
    rfl

/-- The placeholders of conditions are those of their bound values. -/
theorem map_snd_testsFrom (qualifier : Option String) (types : ColumnTypes) (count : Nat)
    (conditions : List Condition) :
    ((testsFrom qualifier types count conditions).flatMap fun t => t.2.bindings).map Prod.snd =
      placed types (count + 1) (Filter.compared ⟨conditions⟩) := by
  induction conditions generalizing count with
  | nil => rfl
  | cons c rest ih =>
    have hcompared : Filter.compared ⟨c :: rest⟩ = c.compared ++ Filter.compared ⟨rest⟩ :=
      List.flatMap_cons
    have hlength : c.compared.length = c.value.bound.length := List.length_map _
    rw [testsFrom, List.flatMap_cons, List.map_append, ih, hcompared, placed_append, hlength,
      Nat.add_right_comm]
    refine congrArg (fun front => front ++ _) ?_
    rw [Condition.test, Condition.compared]
    cases c.value <;> rfl

/-- The placeholders of a filter are those of its bound values. -/
theorem Filter.map_snd_meaning (f : Filter) (qualifier : Option String) (types : ColumnTypes)
    (count : Nat) :
    ((f.meaning qualifier types count).elim [] RowPredicate.bindings).map Prod.snd =
      placed types (count + 1) f.compared := by
  rw [Filter.gather_meaning RowPredicate.bindings (fun _ _ => rfl) fun _ _ => rfl]
  exact map_snd_testsFrom qualifier types count f.conditions

/-- The placeholders of a clause on rows are those of the bound values of its filter. -/
theorem Filter.map_snd_rows (f : Filter) (qualifier : Option String) (info : TableInfo)
    (count : Nat) :
    ((f.rows qualifier info count).elim [] RowPredicate.bindings).map Prod.snd =
      placed info.columnTypes (count + 1) f.compared := by
  rw [f.bindings_rows, f.map_snd_meaning]

/-- The placeholders of a test for a schema are those of its bound values. -/
theorem map_snd_withSchema {number : Nat} {p : RowPredicate} {given : List (String × Value)}
    (h : p.bindings.map Prod.snd =
      placed .empty 1 (given.map fun g => ⟨g.1, g.2, some "="⟩))
    (hnumber : 1 + given.length = number) (table : String) :
    (withSchema number p (Statement.catalogTarget table).1).bindings.map Prod.snd =
      placed .empty 1 ((given ++ schemaGiven table).map fun g => ⟨g.1, g.2, some "="⟩) := by
  rw [schemaGiven]
  cases (Statement.catalogTarget table).1 with
  | none => simpa [withSchema] using h
  | some schema =>
    subst hnumber
    rw [List.map_append, placed_append, List.length_map, ← h]
    exact List.map_append

namespace Request

/-- The placeholders of a query are those of the values that are bound, numbered from 1 on. -/
theorem placeholders_query (r : Request) : r.query.placeholders = placed r.types 1 r.bound := by
  cases r with
  | select table columns options info => exact options.filter.map_snd_rows _ info 0
  | count table columns options info => exact options.filter.map_snd_rows none info 0
  | insert table row returning types => exact map_snd_boundFields types 1 row.fields
  | update table data options info =>
    have hlength : data.stored.length = data.size := List.length_map _
    have hfields : ((data.assignments info).flatMap Assignment.binding).map Prod.snd =
        placed info.columnTypes 1 data.stored := by
      rw [flatMap_binding_assignments]
      exact map_snd_boundFields info.columnTypes 1 data.fields
    rw [bound, placed_append, hlength, Nat.add_comm 1, types, ← options.filter.map_snd_rows none,
      ← hfields]
    exact List.map_append
  | delete table filter types => exact filter.map_snd_meaning none types 0
  | columnExists table column =>
    have htests : (RowPredicate.both (catalogTest "table_name" 1)
        (catalogTest "column_name" 2)).bindings.map Prod.snd =
        placed .empty 1 ([("table_name", Value.text (Statement.catalogTarget table).2),
          ("column_name", .text column)].map fun g => ⟨g.1, g.2, some "="⟩) := rfl
    exact map_snd_withSchema htests rfl table
  | tableColumns table =>
    have htest : (catalogTest "table_name" 1).bindings.map Prod.snd =
        placed .empty 1 ([("table_name", Value.text (Statement.catalogTarget table).2)].map
          fun g => ⟨g.1, g.2, some "="⟩) := rfl
    exact map_snd_withSchema htest rfl table

/-- The values that are bound, in order. -/
theorem map_value_bound (r : Request) : r.bound.map BoundValue.value = r.values := by
  have hcatalog : ∀ given : List (String × Value),
      (given.map fun g => BoundValue.mk g.1 g.2 (some "=")).map BoundValue.value =
        given.map Prod.snd := fun given => List.map_map
  have hfilter : ∀ f : Filter, f.compared.map BoundValue.value = f.boundValues := by
    intro f
    rw [Filter.compared, Filter.boundValues, List.map_flatMap]
    refine congrArg (fun values => f.conditions.flatMap values) (funext fun c => ?_)
    rw [Condition.compared, List.map_map]
    exact List.map_id _
  have hrecord : ∀ data : Record, data.stored.map BoundValue.value = data.values :=
    fun data => List.map_map
  cases r with
  | select table columns options info => exact hfilter _
  | count table columns options info => exact hfilter _
  | insert table row returning types => exact hrecord row
  | update table data options info =>
    rw [bound, List.map_append, hfilter, hrecord]
    rfl
  | delete table filter types => exact hfilter filter
  | columnExists table column =>
    rw [bound, hcatalog, map_snd_given]
  | tableColumns table =>
    rw [bound, hcatalog, map_snd_given]

end Request

namespace Request

/-- Declared types change casts and nothing else. The same request without declared types is built
as well, its text is that of the statement without the casts behind its placeholders, and it binds
the same values. The placeholder of a value has a cast exactly if its column, as the caller wrote
it, has a declared type, the value is a text, an integer, a truth value or JSON, and it is not the
pattern of a condition. So no column with a qualifier is cast if no key of the types has one. -/
theorem types_only_cast {r : Request} {s : Statement} (h : r.statement = .ok s)
    (hextra : r.AddsNothing) :
    (∃ plain, r.untyped.statement = .ok plain ∧ plain.sql = withoutCasts s.sql ∧
      plain.parameters = s.parameters) ∧
    ∃ q, Query.ofText s.sql = some q ∧ q.placeholders.length = r.bound.length ∧
      ∀ (i : Nat) (b : BoundValue), r.bound[i]? = some b → s.parameters[i]? = some b.value ∧
        ∃ cast, q.placeholders[i]? = some ⟨i + 1, cast⟩ ∧
          (∀ t, cast = some t ↔ r.types.get? b.column = some t ∧ b.value.Castable ∧
            ∀ operator ∈ b.operator, operator ∉ patternOperators) ∧
          ((∀ key ∈ r.types.entries.map Prod.fst, '.' ∉ key.toList) → '.' ∈ b.column.toList →
            cast = none) := by
  have hmeans := means h hextra
  constructor
  · refine ⟨s.bare, ?_, r.sql_bare h hextra, rfl⟩
    rw [r.statement_untyped, h]
    rfl
  · refine ⟨r.query, hmeans.ofText, ?_, fun i b hb => ⟨?_, b.cast r.types, ?_, ?_, ?_⟩⟩
    · rw [r.placeholders_query, length_placed]
    · rw [hmeans.parameters, ← r.map_value_bound, List.getElem?_map, hb]
      rfl
    · rw [r.placeholders_query, getElem?_placed, hb, Nat.add_comm]
      rfl
    · exact b.cast_eq_some_iff r.types
    · exact BoundValue.cast_of_point

/-- Two values of an update are cast, one of them to a quoted type whose name looks like a cast
itself. The pattern is not. -/
theorem types_only_cast_update :
    ∃ s, statement (.update "users" ⟨[("name", .text "Ann")]⟩
        { filter := ⟨[.equal "age" (.int 3), .compare "name" "like" (.text "A%")]⟩ }
        { columnTypes := ColumnTypes.ofList [("name", "\"a$1::b\""), ("age", "int4")] }) = .ok s ∧
      s.sql = "UPDATE users SET name=COALESCE($1::\"a$1::b\", name) " ++
        "WHERE age = $2::int4 AND name LIKE $3 RETURNING id" ∧
      withoutCasts s.sql = "UPDATE users SET name=COALESCE($1, name) " ++
        "WHERE age = $2 AND name LIKE $3 RETURNING id" := by
  obtain ⟨⟨plain, hplain, hsql, -⟩, -⟩ := types_only_cast (r := .update "users"
    ⟨[("name", .text "Ann")]⟩
    { filter := ⟨[.equal "age" (.int 3), .compare "name" "like" (.text "A%")]⟩ }
    { columnTypes := ColumnTypes.ofList [("name", "\"a$1::b\""), ("age", "int4")] }) rfl trivial
  cases hplain
  refine ⟨_, rfl, by decide +kernel, ?_⟩
  rw [← hsql]
  decide +kernel

end Request

end TableQuery
