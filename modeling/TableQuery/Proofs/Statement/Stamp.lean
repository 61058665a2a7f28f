import TableQuery.Proofs.Statement.Assignment

/-!
# When an update refreshes the stamp

A table may have a column for the time of the last update. An update sets it to the current time
unless its record has a field for it, and then the field counts like any other one: a value is
written, and a null keeps what was there. So the old stamp stays exactly where the record gives the
column a null.
-/

namespace TableQuery

open TableQuery.Sql

/-- The assignment gives the column of the stamp a new value: the current time, or a bound value
that is not null. -/
def Sql.Assignment.Refreshes (parameters : List Value) : Assignment → Prop
  | .now column => column = updatedAtColumn
  | .bound column p _ =>
    column = updatedAtColumn ∧ ∃ v, p.value? parameters = some v ∧ v ≠ .null

/-- The stamp behind an update: the current time if the record has no field for it, and otherwise
that field, where a null stands for the old stamp. -/
def Record.stamp (data : Record) (now old : Value) : Value :=
  match data.get? updatedAtColumn with
  | none => now
  | some v => if v.isNull then old else v

variable {data : Record} {info : TableInfo}

/-- The fields of a record are bound: what stands at the placeholder for a column is the value of
its field, whatever is bound behind the fields. -/
theorem exists_bound_iff (types : ColumnTypes) (fields : List (String × Value))
    (more : List Value) {column : String} {v : Value} :
    (∃ p, (column, p) ∈ boundFields types 1 fields ∧
      p.value? (fields.map Prod.snd ++ more) = some v) ↔ (column, v) ∈ fields := by
  have hvalues := map_value?_boundFields types more fields []
  have hfield :
      (column, some v) ∈ fields.map (fun f => (f.1, some f.2)) ↔ (column, v) ∈ fields := by
    simp
  rw [← hfield, ← hvalues, List.mem_map]
  constructor
  · rintro ⟨p, hmem, hp⟩
    exact ⟨(column, p), hmem, Prod.ext rfl hp⟩
  · rintro ⟨⟨name, p⟩, hmem, hp⟩
    obtain ⟨rfl, hp⟩ := Prod.ext_iff.1 hp
    exact ⟨p, hmem, hp⟩

/-- The bound values of an update are those of its fields. -/
theorem bound_mem_assignments_iff {column otherwise : String} {p : Placeholder} :
    .bound column p otherwise ∈ data.assignments info ↔
      (column, p) ∈ boundFields info.columnTypes 1 data.fields ∧ otherwise = column := by
  have hstamp : Assignment.bound column p otherwise ∉
      (if info.stamps data then [Assignment.now updatedAtColumn] else []) := by
    split
    · intro hmem
      cases List.mem_singleton.1 hmem
    · exact List.not_mem_nil
  rw [Record.assignments, List.mem_append, or_iff_left hstamp, List.mem_map]
  constructor
  · rintro ⟨⟨name, q⟩, hmem, hq⟩
    cases hq
    exact ⟨hmem, rfl⟩
  · rintro ⟨hmem, rfl⟩
    exact ⟨_, hmem, rfl⟩

/-- The stamp is refreshed by an assignment unless the record gives its column a null. -/
theorem exists_refreshes_iff (h : data.columns.Nodup) (hinfo : info.updatedAt = true)
    (more : List Value) :
    (∃ a ∈ data.assignments info, a.Refreshes (data.values ++ more)) ↔
      data.get? updatedAtColumn ≠ some .null := by
  constructor
  · rintro ⟨a, hmem, hrefreshes⟩ hnull
    cases a with
    | now column =>
      obtain ⟨-, -, hfree⟩ := now_mem_assignments_iff.1 hmem
      rw [hfree] at hnull
      cases hnull
    | bound column p otherwise =>
      obtain ⟨rfl, v, hp, hv⟩ := hrefreshes
      have hfield : (updatedAtColumn, v) ∈ data.fields :=
        (exists_bound_iff info.columnTypes data.fields more).1
          ⟨p, (bound_mem_assignments_iff.1 hmem).1, hp⟩
      rw [Record.get?, (getField?_eq_some_iff h).2 hfield] at hnull
      exact hv (Option.some.inj hnull)
  · intro hnull
    cases hfield : data.get? updatedAtColumn with
    | none => exact ⟨_, now_mem_assignments_iff.2 ⟨rfl, hinfo, hfield⟩, rfl⟩
    | some v =>
      have hmem : (updatedAtColumn, v) ∈ data.fields := (getField?_eq_some_iff h).1 hfield
      obtain ⟨p, hbound, hp⟩ := (exists_bound_iff info.columnTypes data.fields more).2 hmem
      have hv : v ≠ .null := by
        rintro rfl
        exact hnull hfield
      exact ⟨_, bound_mem_assignments_iff.2 ⟨hbound, rfl⟩, rfl, v, hp, hv⟩

/-- An update in part leaves the stamp of its record behind. -/
theorem PartialUpdate.stamp {now : Value} {row updated : String → Value}
    (h : PartialUpdate data info now row updated) (hcolumns : data.columns.Nodup)
    (hinfo : info.updatedAt = true) :
    updated updatedAtColumn = data.stamp now (row updatedAtColumn) := by
  rw [Record.stamp]
  cases hfield : data.get? updatedAtColumn with
  | none => exact h.stamped hinfo hfield
  | some v =>
    have hmem : (updatedAtColumn, v) ∈ data.fields := (getField?_eq_some_iff hcolumns).1 hfield
    dsimp only
    split
    · next hv => exact h.kept updatedAtColumn v hmem hv
    · next hv => exact h.written updatedAtColumn v hmem (Bool.eq_false_iff.2 hv)

/-- An update of a table with a stamp. Some assignment in its text gives the column of the stamp a
new value, unless the record gives that column a null. In every row the stamp becomes the current
time if the record has no field for it, and the value of its field otherwise; for a null the old
stamp stays. -/
theorem update_refreshes_iff {table : String} {options : QueryOptions} {s : Statement}
    (hbuilt : data.Built) (hinfo : info.updatedAt = true)
    (h : Statement.update table data options info = .ok s) :
    ∃ assignments rows returning,
      Query.ofText s.sql = some (.update table assignments rows returning) ∧
      ((∃ a ∈ assignments, a.Refreshes s.parameters) ↔
        data.get? updatedAtColumn ≠ some .null) ∧
      ∀ now row, ∃ updated, assign? s.parameters now row assignments = some updated ∧
        updated updatedAtColumn = data.stamp now (row updatedAtColumn) := by
  have hmeans := update_means h
  have hcolumns := hbuilt.nodup_columns
  refine ⟨_, _, _, hmeans.ofText, ?_, fun now row => ?_⟩
  · rw [hmeans.parameters]
    exact exists_refreshes_iff hcolumns hinfo _
  · rw [hmeans.parameters]
    exact ⟨_, assign?_assignments hcolumns info now row _,
      (partialUpdate_changes hcolumns info now row).stamp hcolumns hinfo⟩

/-- An update with a name only stamps its rows. -/
theorem update_refreshes_name :
    let data := Record.empty.set "name" (.text "Ann")
    let info : TableInfo := { updatedAt := true }
    ∃ s assignments rows returning, Statement.update "users" data {} info = .ok s ∧
      Query.ofText s.sql = some (.update "users" assignments rows returning) ∧
      (∃ a ∈ assignments, a.Refreshes s.parameters) ∧
      ∀ now row, ∃ updated, assign? s.parameters now row assignments = some updated ∧
        updated updatedAtColumn = now := by
  intro data info
  have hbuilt : data.Built := Record.Built.empty.set "name" (.text "Ann")
  obtain ⟨s, hs⟩ : ∃ s, Statement.update "users" data {} info = .ok s := ⟨_, rfl⟩
  obtain ⟨assignments, rows, returning, htext, hrefreshes, hrows⟩ :=
    update_refreshes_iff hbuilt rfl hs
  have hfree : data.get? updatedAtColumn = none := rfl
  refine ⟨s, assignments, rows, returning, hs, htext, hrefreshes.2 ?_, hrows⟩
  rw [hfree]
  intro hnull
  cases hnull

/-- An update with a null for the stamp binds that null and has no other assignment of it, so every
row keeps its old stamp. -/
theorem stamp_kept_by_null :
    let data := (Record.empty.set "name" (.text "Ann")).set updatedAtColumn .null
    let info : TableInfo := { updatedAt := true }
    let assignments : List Assignment := [.bound "name" ⟨1, none⟩ "name",
      .bound updatedAtColumn ⟨2, none⟩ updatedAtColumn]
    ∃ s, Statement.update "users" data {} info = .ok s ∧
      Query.ofText s.sql = some (.update "users" assignments none ["id"]) ∧
      (∀ a ∈ assignments, ¬ a.Refreshes s.parameters) ∧
      ∀ now row, ∃ updated, assign? s.parameters now row assignments = some updated ∧
        updated updatedAtColumn = row updatedAtColumn := by
  intro data info assignments
  obtain ⟨s, hs⟩ : ∃ s, Statement.update "users" data {} info = .ok s := ⟨_, rfl⟩
  have hmeans := update_means hs
  refine ⟨s, hs, hmeans.ofText, ?_, fun now row => ?_⟩
  · cases hs
    refine List.forall_mem_cons.2 ⟨fun h => ?_, List.forall_mem_singleton.2 fun h => ?_⟩
    · exact absurd h.1 (by decide)
    · obtain ⟨-, v, hv, hsome⟩ := h
      exact hsome (Option.some.inj hv).symm
  · cases hs
    exact ⟨_, rfl, rfl⟩

end TableQuery
