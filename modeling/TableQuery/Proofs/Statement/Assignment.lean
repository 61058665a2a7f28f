import TableQuery.Proofs.Fields
import TableQuery.Proofs.Statement.Request

/-!
# What an update does to a row

The assignments of an update, as they stand in its text, are carried out on a row: a bound value is
written unless it is null, and a stamp is the current time. So an update writes the fields of its
record that are not null, stamps the row where the record leaves the stamp alone, and changes
nothing else.
-/

namespace TableQuery

open TableQuery.Sql

namespace Sql

namespace Assignment

/-- The column that is assigned. -/
def column : Assignment → String
  | .bound column _ _ => column
  | .now column => column

/-- The value that is assigned: what is bound, or the value of a column of the row if that is null,
or the current time. -/
def value? (parameters : List Value) (now : Value) (row : String → Value) :
    Assignment → Option Value
  | .bound _ p otherwise =>
    (p.value? parameters).map fun v => if v.isNull then row otherwise else v
  | .now _ => some now

/-- The column that is assigned, with its new value. -/
def change? (parameters : List Value) (now : Value) (row : String → Value) (a : Assignment) :
    Option (String × Value) :=
  (a.value? parameters now row).map (a.column, ·)

end Assignment

/-- The row behind some assignments. All of them read the row as it was before. There is none if a
column is assigned twice or a placeholder has no value. -/
def assign? (parameters : List Value) (now : Value) (row : String → Value)
    (assignments : List Assignment) : Option (String → Value) :=
  if (assignments.map Assignment.column).Nodup then
    (assignments.mapM (Assignment.change? parameters now row)).map fun changes column =>
      (getField? column changes).getD (row column)
  else none

end Sql

/-- What an update of a row by a record does to it, column by column. -/
structure PartialUpdate (data : Record) (info : TableInfo) (now : Value)
    (row updated : String → Value) : Prop where
  /-- A field with a value is written. -/
  written : ∀ column v, (column, v) ∈ data.fields → v.isNull = false → updated column = v
  /-- A field that is null keeps what was there. -/
  kept : ∀ column v, (column, v) ∈ data.fields → v.isNull = true → updated column = row column
  /-- The row is stamped if the table has the column for it and the record leaves it alone. -/
  stamped : info.updatedAt = true → data.get? updatedAtColumn = none →
    updated updatedAtColumn = now
  /-- All other columns are unchanged. -/
  unchanged : ∀ column, column ∉ data.columns →
    (info.updatedAt = true → column ≠ updatedAtColumn) → updated column = row column

variable {data : Record} {info : TableInfo}

/-- An update stamps its rows if the table has the column for it and the record leaves it alone. -/
theorem TableInfo.stamps_iff : info.stamps data = true ↔
    info.updatedAt = true ∧ data.get? updatedAtColumn = none := by
  rw [stamps, Bool.and_eq_true, Option.isNone_iff_eq_none]

/-- What an update changes in a row: every field, and the stamp. -/
def Record.changes (data : Record) (info : TableInfo) (now : Value) (row : String → Value) :
    List (String × Value) :=
  (data.fields.map fun f => (f.1, if f.2.isNull then row f.1 else f.2)) ++
    if info.stamps data then [(updatedAtColumn, now)] else []

/-- The columns that are assigned: those of the record, and the stamp. -/
theorem map_column_assignments (data : Record) (info : TableInfo) :
    (data.assignments info).map Assignment.column =
      data.columns ++ if info.stamps data then [updatedAtColumn] else [] := by
  have hfields : (boundFields info.columnTypes 1 data.fields).map
      (fun p => (Assignment.bound p.1 p.2 p.1).column) = data.columns :=
    map_fst_boundFields info.columnTypes 1 data.fields
  rw [Record.assignments, List.map_append, List.map_map]
  refine congrArg₂ _ hfields ?_
  split <;> rfl

/-- The columns that change are those that are assigned. -/
theorem map_fst_changes (data : Record) (info : TableInfo) (now : Value) (row : String → Value) :
    (data.changes info now row).map Prod.fst =
      (data.assignments info).map Assignment.column := by
  rw [map_column_assignments, Record.changes, List.map_append, List.map_map]
  refine congrArg₂ _ rfl ?_
  split <;> rfl

/-- A record with different columns assigns no column twice. -/
theorem nodup_assignments (h : data.columns.Nodup) (info : TableInfo) :
    ((data.assignments info).map Assignment.column).Nodup := by
  rw [map_column_assignments]
  split
  · next hstamps =>
    -- the stamp is there only if the record has no field for it
    have hfree : updatedAtColumn ∉ data.columns :=
      getField?_eq_none_iff.1 (TableInfo.stamps_iff.1 hstamps).2
    exact h.append (List.nodup_singleton _) (List.disjoint_singleton.2 hfree)
  · rwa [List.append_nil]

/-- Fields that are bound from a number on have their own values at their placeholders. -/
theorem map_value?_boundFields (types : ColumnTypes) (more : List Value)
    (fields : List (String × Value)) (before : List Value) :
    (boundFields types (before.length + 1) fields).map
        (fun p => (p.1, p.2.value? (before ++ fields.map Prod.snd ++ more))) =
      fields.map fun f => (f.1, some f.2) := by
  induction fields generalizing before with
  | nil => rfl
  | cons field rest ih =>
    obtain ⟨name, v⟩ := field
    have hrest := ih (before ++ [v])
    rw [List.length_append, List.length_singleton, List.append_assoc before,
      List.singleton_append] at hrest
    have hfirst : (before ++ v :: rest.map Prod.snd ++ more)[before.length]? = some v := by
      simp
    rw [boundFields, List.map_cons, List.map_cons, List.map_cons, Placeholder.value?_succ, hfirst,
      hrest]

/-- The assignments of fields change their columns to their values. -/
theorem mapM_change?_boundFields (types : ColumnTypes) (now : Value) (row : String → Value)
    (more : List Value) (fields : List (String × Value)) :
    ((boundFields types 1 fields).map fun p => Assignment.bound p.1 p.2 p.1).mapM
        (Assignment.change? (fields.map Prod.snd ++ more) now row) =
      some (fields.map fun f => (f.1, if f.2.isNull then row f.1 else f.2)) := by
  have hvalues := map_value?_boundFields types more fields []
  have hchange : ∀ p : String × Placeholder,
      Assignment.change? (fields.map Prod.snd ++ more) now row (.bound p.1 p.2 p.1) =
        (p.2.value? (fields.map Prod.snd ++ more)).map fun v =>
          (p.1, if v.isNull then row p.1 else v) := by
    intro p
    rw [Assignment.change?, Assignment.value?, Option.map_map]
    rfl
  have hchanges := congrArg
    (List.map fun c : String × Option Value =>
      c.2.map fun v => (c.1, if v.isNull then row c.1 else v)) hvalues
  rw [List.map_map, List.map_map] at hchanges
  refine mapM_of_map_eq ?_
  rw [List.map_map, List.map_map]
  refine Eq.trans ?_ hchanges
  exact List.map_congr_left fun p _ => hchange p

/-- The assignments of an update make its changes, whatever is bound behind its fields. -/
theorem assign?_assignments (h : data.columns.Nodup) (info : TableInfo) (now : Value)
    (row : String → Value) (more : List Value) :
    assign? (data.values ++ more) now row (data.assignments info) =
      some fun column => (getField? column (data.changes info now row)).getD (row column) := by
  have hfields := mapM_change?_boundFields info.columnTypes now row more data.fields
  have hstamp : (if info.stamps data then [Assignment.now updatedAtColumn] else []).mapM
      (Assignment.change? (data.values ++ more) now row) =
        some (if info.stamps data then [(updatedAtColumn, now)] else []) := by
    split <;> rfl
  have hchanges : (data.assignments info).mapM
      (Assignment.change? (data.values ++ more) now row) = some (data.changes info now row) := by
    rw [Record.assignments, List.mapM_append, hstamp]
    exact congrArg (· >>= fun changes => some (changes ++ _)) hfields
  rw [assign?, if_pos (nodup_assignments h info), hchanges, Option.map_some]

/-- The changes of a record update a row in part. -/
theorem partialUpdate_changes (h : data.columns.Nodup) (info : TableInfo) (now : Value)
    (row : String → Value) : PartialUpdate data info now row fun column =>
      (getField? column (data.changes info now row)).getD (row column) := by
  have hnodup : ((data.changes info now row).map Prod.fst).Nodup := by
    rw [map_fst_changes]
    exact nodup_assignments h info
  have hchange : ∀ column v, (column, v) ∈ data.changes info now row →
      (getField? column (data.changes info now row)).getD (row column) = v := by
    intro column v hmem
    rw [(getField?_eq_some_iff hnodup).2 hmem, Option.getD_some]
  have hfield : ∀ column v, (column, v) ∈ data.fields →
      (getField? column (data.changes info now row)).getD (row column) =
        if v.isNull then row column else v := fun column v hmem =>
    hchange column _ (List.mem_append_left _ (List.mem_map_of_mem hmem))
  refine ⟨fun column v hmem hv => ?_, fun column v hmem hv => ?_, fun hinfo hfree => ?_,
    fun column hcolumn hstamp => ?_⟩
  · rw [hfield column v hmem, hv]
    rfl
  · rw [hfield column v hmem, if_pos hv]
  · refine hchange updatedAtColumn now (List.mem_append_right _ ?_)
    rw [if_pos (TableInfo.stamps_iff.2 ⟨hinfo, hfree⟩)]
    exact List.mem_singleton_self _
  · have hnone : getField? column (data.changes info now row) = none := by
      rw [getField?_eq_none_iff, map_fst_changes, map_column_assignments, List.mem_append, not_or]
      refine ⟨hcolumn, fun hmem => ?_⟩
      split at hmem
      · next hstamps =>
        exact hstamp (TableInfo.stamps_iff.1 hstamps).1 (List.mem_singleton.1 hmem)
      · cases hmem
    rw [hnone, Option.getD_none]

/-- The stamp is assigned if the table has the column for it and the record leaves it alone. -/
theorem now_mem_assignments_iff {column : String} :
    .now column ∈ data.assignments info ↔ column = updatedAtColumn ∧ info.updatedAt = true ∧
      data.get? updatedAtColumn = none := by
  have hfields : Assignment.now column ∉ (boundFields info.columnTypes 1 data.fields).map
      fun p => .bound p.1 p.2 p.1 := by
    intro hmem
    obtain ⟨p, -, hp⟩ := List.mem_map.1 hmem
    cases hp
  rw [← TableInfo.stamps_iff, Record.assignments, List.mem_append, or_iff_right hfields]
  split
  · next hstamps => simp [hstamps]
  · next hstamps => simp [hstamps]

/-- What an update does to every row. Its text is read back as assignments, with no column assigned
twice, and carried out with the values that are bound: fields with a value are written, fields that
are null keep what was there, the row is stamped if the table has the column for it and the record
leaves it alone, and nothing else is changed. -/
theorem update_partial {table : String} {options : QueryOptions} {s : Statement}
    (hbuilt : data.Built) (h : Statement.update table data options info = .ok s) :
    ∃ assignments rows returning,
      Query.ofText s.sql = some (.update table assignments rows returning) ∧
      (assignments.map Assignment.column).Nodup ∧
      (∀ column, .now column ∈ assignments ↔ column = updatedAtColumn ∧ info.updatedAt = true ∧
        data.get? updatedAtColumn = none) ∧
      ∀ now row, ∃ updated, assign? s.parameters now row assignments = some updated ∧
        PartialUpdate data info now row updated := by
  have hmeans := update_means h
  have hcolumns := hbuilt.nodup_columns
  refine ⟨_, _, _, hmeans.ofText, nodup_assignments hcolumns info,
    fun column => now_mem_assignments_iff, fun now row => ?_⟩
  rw [hmeans.parameters]
  exact ⟨_, assign?_assignments hcolumns info now row _,
    partialUpdate_changes hcolumns info now row⟩

/-- An update with a name and a null for the age writes the name, keeps age and id, and stamps. -/
theorem update_partial_null :
    let data := (Record.empty.set "name" (.text "Ann")).set "age" .null
    let info : TableInfo := { updatedAt := true, columnTypes := .ofList [("name", "citext")] }
    ∃ s assignments rows returning, Statement.update "users" data {} info = .ok s ∧
      s.sql = "UPDATE users SET name=COALESCE($1::citext, name), age=COALESCE($2, age), " ++
        "updated_at=NOW() RETURNING id" ∧
      Query.ofText s.sql = some (.update "users" assignments rows returning) ∧
      ∀ now row, ∃ updated, assign? s.parameters now row assignments = some updated ∧
        updated "name" = .text "Ann" ∧ updated "age" = row "age" ∧ updated "id" = row "id" ∧
        updated updatedAtColumn = now := by
  intro data info
  have hbuilt : data.Built := (Record.Built.empty.set "name" (.text "Ann")).set "age" .null
  obtain ⟨s, hs⟩ : ∃ s, Statement.update "users" data {} info = .ok s := ⟨_, rfl⟩
  obtain ⟨assignments, rows, returning, htext, -, -, hrows⟩ := update_partial hbuilt hs
  refine ⟨s, assignments, rows, returning, hs, ?_, htext, fun now row => ?_⟩
  · cases hs
    decide +kernel
  · obtain ⟨updated, hupdated, hpartial⟩ := hrows now row
    exact ⟨updated, hupdated, hpartial.written "name" _ (.head _) rfl,
      hpartial.kept "age" _ (.tail _ (.head _)) rfl,
      hpartial.unchanged "id" (by decide) (fun _ => by decide), hpartial.stamped rfl rfl⟩

/-!
## The columns of records in statements

A record has one field for each of its columns, in the order in which the columns were first given,
with the value that was given last. So an insertion names no column twice, and an update assigns no
column twice, the stamp included.
-/

/-- A record has one field for each column that was given for it. -/
structure Record.OneFieldEach (r : Record) (given : List (String × Value)) : Prop where
  /-- The columns are different. -/
  nodup_columns : r.columns.Nodup
  /-- They stand in the order in which they were first given. -/
  columns_eq : r.columns = (given.map Prod.fst).eraseDups
  /-- A field holds the value that was given last for its column. -/
  mem_fields_iff : ∀ column value, (column, value) ∈ r.fields ↔
    (given.reverse.find? fun f => f.1 = column).map Prod.snd = some value
  /-- Another value for a column replaces its value, and nothing else. -/
  fields_replaced : ∀ column ∈ r.columns, ∀ value, (r.set column value).fields =
    r.fields.map fun f => if f.1 = column then (column, value) else f
  /-- A new column is added behind the others. -/
  fields_added : ∀ column ∉ r.columns, ∀ value,
    (r.set column value).fields = r.fields ++ [(column, value)]

/-- Records that callers can build have one field for each column. -/
theorem Record.BuiltFrom.oneFieldEach {given : List (String × Value)} {r : Record}
    (h : r.BuiltFrom given) : r.OneFieldEach given where
  nodup_columns := h.built.nodup_columns
  columns_eq := h.columns_eq
  mem_fields_iff column value := by
    rw [← h.get?_eq, Record.get?, getField?_eq_some_iff h.built.nodup_columns]
  fields_replaced _ hcolumn _ := putField_of_mem h.built.nodup_columns hcolumn
  fields_added _ hcolumn _ := putField_of_notMem hcolumn

/-- A record that callers can build has one field for each column that was given, in the order of
their first places and with the last values; another value replaces the old one in place. So the
columns that an insertion of the record names, read back from its text, are different, and so are
the columns that an update by the record assigns: those of the record, and the stamp where it is
added. -/
theorem Record.columns_once {given : List (String × Value)} {r : Record}
    (h : r.BuiltFrom given) :
    r.OneFieldEach given ∧
    (∀ table returning types s, Statement.insert table r returning types = .ok s →
      ∃ columns placeholders returned,
        Query.ofText s.sql = some (.insert table columns placeholders returned) ∧
        columns = r.columns ∧ columns.Nodup) ∧
    ∀ table options info s, Statement.update table r options info = .ok s →
      ∃ assignments rows returned,
        Query.ofText s.sql = some (.update table assignments rows returned) ∧
        assignments.map Assignment.column =
          r.columns ++ (if info.stamps r then [updatedAtColumn] else []) ∧
        (assignments.map Assignment.column).Nodup := by
  have hcolumns := h.built.nodup_columns
  refine ⟨h.oneFieldEach, fun table returning types s hs => ?_,
    fun table options info s hs => ?_⟩
  · exact ⟨_, _, _, (insert_means hs).ofText, rfl, hcolumns⟩
  · exact ⟨_, _, _, (update_means hs).ofText, map_column_assignments r info,
      nodup_assignments hcolumns info⟩

/-- A column that is given twice is written once, at its first place and with its second value. -/
theorem Record.columns_once_replaced :
    let r := ((Record.empty.set "name" (.text "Ann")).set "age" (.int 3)).set "name" (.text "Bo")
    let given : List (String × Value) :=
      [("name", .text "Ann"), ("age", .int 3), ("name", .text "Bo")]
    r.BuiltFrom given ∧ r.columns = ["name", "age"] ∧ ("name", .text "Bo") ∈ r.fields ∧
      ∃ s assignments rows returned, Statement.update "users" r {} { updatedAt := true } = .ok s ∧
        Query.ofText s.sql = some (.update "users" assignments rows returned) ∧
        assignments.map Assignment.column = ["name", "age", "updated_at"] := by
  intro r given
  have hbuilt : r.BuiltFrom given := ((BuiltFrom.empty.set "name" _).set "age" _).set "name" _
  obtain ⟨heach, -, hupdates⟩ := columns_once hbuilt
  obtain ⟨s, hs⟩ : ∃ s, Statement.update "users" r {} { updatedAt := true } = .ok s := ⟨_, rfl⟩
  obtain ⟨assignments, rows, returned, htext, hassigned, -⟩ := hupdates _ _ _ s hs
  exact ⟨hbuilt, heach.columns_eq, (heach.mem_fields_iff _ _).2 rfl, s, assignments, rows, returned,
    hs, htext, hassigned⟩

end TableQuery
