import TableQuery.Proofs.Checks
import TableQuery.Proofs.Results.Normalization
import TableQuery.Wire.Cell

/-!
# Nulls in results

What callers get as null, in the rows of a result, in the elements of an array and all the way from
the cells of the server. Besides null itself and the JSON null it is every double that is not
finite: JSON has no form for it. A time, a text or any other number never turns into null.
-/

namespace TableQuery

/-- The values that have null as their JSON: null, the JSON null, and doubles that are not
finite. -/
def Value.ShowsNull : Value → Prop
  | .null => True
  | .float x => x.isFinite = false
  | .json j => j = .null
  | _ => False

/-- The contents that have null as their JSON. -/
def Content.ShowsNull : Content → Prop
  | .float x => x.isFinite = false
  | .json j => j = .null
  | _ => False

/-- The cells that have null as their JSON. An array never has. -/
def Cell.ShowsNull : Cell → Prop
  | .null => True
  | .content c => c.ShowsNull
  | .array _ => False

/-- The JSON of a double is null exactly if the double is not finite. -/
theorem Value.floatJson_eq_null_iff (x : Binary64) :
    floatJson x = .null ↔ x.isFinite = false := by
  rw [floatJson]
  cases x.isFinite with
  | true => exact ⟨fun h => (by cases h), fun h => (by cases h)⟩
  | false => exact ⟨fun _ => rfl, fun _ => rfl⟩

/-- The JSON of a value is null exactly for the values that show null. -/
theorem Value.toJson_eq_null_iff (v : Value) : v.toJson = .null ↔ v.ShowsNull := by
  cases v with
  | null => exact ⟨fun _ => trivial, fun _ => rfl⟩
  | float x => exact floatJson_eq_null_iff x
  | json j => exact Iff.rfl
  | _ => exact ⟨fun h => (by cases h), False.elim⟩

/-- A value that is shown as a time shows no null. -/
theorem Value.not_showsNull_of_temporalText? {zone : TimeZone} {kind : ColumnKind} {cell : Value}
    {text : String} (h : temporalText? zone kind cell = some text) : ¬cell.ShowsNull := by
  cases cell with
  | timestamp i => exact id
  | localTimestamp w => exact id
  | date d => exact id
  | _ => cases kind <;> cases h

/-- A cell is shown as null exactly if its value shows null, whatever kind its column has. -/
theorem renderCell_eq_null_iff (zone : TimeZone) (kind : ColumnKind) (cell : Value) :
    renderCell zone kind cell = .null ↔ cell.ShowsNull := by
  rw [renderCell]
  cases h : temporalText? zone kind cell with
  | none => exact cell.toJson_eq_null_iff
  | some text =>
    exact ⟨fun h => (by cases h), fun hnull =>
      absurd hnull (Value.not_showsNull_of_temporalText? h)⟩

/-- The cells of a result are shown in the row at their place, and as null exactly if their value
shows null. -/
theorem ResultSet.shown_eq_null_iff (zone : TimeZone) {set : ResultSet}
    (hnames : (set.columns.map ResultColumn.name).Nodup) {i j : ℕ} {cells : List Value}
    {column : ResultColumn} {cell : Value} (hrow : set.rows[i]? = some cells)
    (hcolumn : set.columns[j]? = some column) (hcell : cells[j]? = some cell)
    (hkept : column.name ≠ softDeleteColumn) :
    ∃ row shown, (set.normalize zone)[i]? = some row ∧
      getField? column.name row = some shown ∧ (shown = .null ↔ cell.ShowsNull) := by
  refine ⟨normalizeRow zone set.columns cells, renderCell zone column.kind cell, ?_,
    getField?_normalizeRow hnames hcolumn hcell hkept, renderCell_eq_null_iff zone _ cell⟩
  rw [normalize, List.getElem?_map, hrow, Option.map_some]

/-- The value of a content shows null exactly if the content does. -/
theorem Content.showsNull_value {c : Content} {v : Value} (h : c.value = .ok v) :
    v.ShowsNull ↔ c.ShowsNull := by
  cases c with
  | numeric n =>
    rw [Content.value] at h
    cases htext : n.text with
    | error fault =>
      rw [htext] at h
      cases h
    | ok text =>
      rw [htext] at h
      cases h
      exact Iff.rfl
  | _ =>
    cases h
    exact Iff.rfl

/-- An element of an array is null exactly if it was, or if its content shows null. -/
theorem elementJson_eq_null_iff {item : Option Content} {shown : Json}
    (h : elementJson item = .ok shown) :
    shown = .null ↔ item = none ∨ ∃ c ∈ item, c.ShowsNull := by
  cases item with
  | none =>
    cases h
    exact ⟨fun _ => .inl rfl, fun _ => rfl⟩
  | some c =>
    rw [elementJson] at h
    cases hvalue : c.value with
    | error fault =>
      rw [hvalue] at h
      cases h
    | ok v =>
      rw [hvalue] at h
      cases h
      simp [v.toJson_eq_null_iff, Content.showsNull_value hvalue]

/-- An array is read as a JSON array with one element for each of its own, and no others are null
than those that were or whose content shows null. -/
theorem Cell.elements_of_array {items : List (Option Content)} {v : Value}
    (h : (Cell.array items).value = .ok v) :
    ∃ shown, v = .json (.array shown) ∧ List.Forall₂
      (fun item (j : Json) => j = .null ↔ item = none ∨ ∃ c ∈ item, c.ShowsNull) items shown := by
  rw [Cell.value] at h
  cases hitems : items.mapM elementJson with
  | error fault =>
    rw [hitems] at h
    cases h
  | ok shown =>
    rw [hitems] at h
    cases h
    exact ⟨shown, rfl, (mapM_ok_iff.1 hitems).imp fun _ _ => elementJson_eq_null_iff⟩

/-- The value of a cell shows null exactly if the cell does. -/
theorem Cell.showsNull_value {cell : Cell} {v : Value} (h : cell.value = .ok v) :
    v.ShowsNull ↔ cell.ShowsNull := by
  cases cell with
  | null =>
    cases h
    exact Iff.rfl
  | content c => exact Content.showsNull_value h
  | array items =>
    obtain ⟨shown, rfl, -⟩ := Cell.elements_of_array h
    exact ⟨fun hnull => (by cases hnull), False.elim⟩

/-- A cell that can be read shows null exactly if it does so itself, or if its column is of the type
that has no contents. -/
theorem WireColumn.showsNull_read {column : WireColumn} {position : ℕ} {cell : Cell} {v : Value}
    (h : column.read position cell = .ok v) :
    v.ShowsNull ↔ column.type.name = ColumnType.voidName ∨ cell.ShowsNull := by
  rw [WireColumn.read] at h
  split at h
  · cases h
  · split at h
    · next hvoid =>
      cases h
      exact ⟨fun _ => .inl hvoid, fun _ => trivial⟩
    · next hvoid =>
      cases hvalue : cell.value with
      | error fault =>
        rw [hvalue] at h
        cases h
      | ok w =>
        rw [hvalue] at h
        cases h
        rw [Cell.showsNull_value hvalue, or_iff_right hvoid]

/-- Every cell of a row is read at its place. -/
theorem read_of_readCells {position : ℕ} {columns : List WireColumn} {cells : List Cell}
    {values : List Value} (h : readCells position columns cells = .ok values) {j : ℕ}
    {column : WireColumn} {cell : Cell} (hcolumn : columns[j]? = some column)
    (hcell : cells[j]? = some cell) :
    ∃ v, values[j]? = some v ∧ column.read (position + j) cell = .ok v := by
  induction j generalizing position columns cells values with
  | zero =>
    cases columns with
    | nil => cases hcolumn
    | cons first columns =>
      cases cells with
      | nil => cases hcell
      | cons one cells =>
        cases hcolumn
        cases hcell
        obtain ⟨v, hv, h⟩ := ok_of_bind h
        obtain ⟨vs, -, h⟩ := ok_of_bind h
        cases h
        exact ⟨v, rfl, hv⟩
  | succ j ih =>
    cases columns with
    | nil => cases hcolumn
    | cons first columns =>
      cases cells with
      | nil => cases hcell
      | cons one cells =>
        obtain ⟨v, -, h⟩ := ok_of_bind h
        obtain ⟨vs, hvs, h⟩ := ok_of_bind h
        cases h
        obtain ⟨w, hw, hread⟩ := ih hvs hcolumn hcell
        exact ⟨w, hw, by rwa [Nat.add_assoc, Nat.add_comm 1 j] at hread⟩

/-- A result with rows that can be read has its columns, and for every row the values of its
cells. -/
theorem WireResult.rows_of_read {result : WireResult} {set : ResultSet}
    (h : result.read = .ok set) {i : ℕ} {cells : List Cell} (hrow : result.rows[i]? = some cells) :
    set.columns = result.columns.map (fun c => ⟨c.name, ColumnKind.ofTypeName c.type.name⟩) ∧
      ∃ values, set.rows[i]? = some values ∧ readCells 0 result.columns cells = .ok values := by
  rw [WireResult.read] at h
  split at h
  · next hnone =>
    rw [List.isEmpty_iff.1 hnone] at hrow
    cases hrow
  · obtain ⟨rows, hrows, h⟩ := ok_of_bind h
    cases h
    refine ⟨rfl, ?_⟩
    have hall := List.forall₂_iff_get.1 (mapM_ok_iff.1 hrows)
    obtain ⟨hlt, hget⟩ := List.getElem?_eq_some_iff.1 hrow
    have hlt' : i < rows.length := hall.1 ▸ hlt
    refine ⟨rows[i], List.getElem?_eq_getElem hlt', ?_⟩
    rw [← hget]
    exact hall.2 i hlt hlt'

/-- Which nulls callers get, in a time zone. -/
structure NullsShown (zone : TimeZone) : Prop where
  /-- A cell of a result is null to callers exactly if its value shows null, whatever the kind of
  its column: if it is null, a JSON null or a double that is not finite. -/
  cell : ∀ (set : ResultSet) (i j : ℕ) (cells : List Value) (column : ResultColumn) (cell : Value),
    (set.columns.map ResultColumn.name).Nodup → set.rows[i]? = some cells →
      set.columns[j]? = some column → cells[j]? = some cell → column.name ≠ softDeleteColumn →
        ∃ row shown, (set.normalize zone)[i]? = some row ∧
          getField? column.name row = some shown ∧ (shown = .null ↔ cell.ShowsNull)
  /-- An element of an array is null exactly if it was null in the array, or a JSON null or a double
  that is not finite. -/
  element : ∀ (items : List (Option Content)) (v : Value), (Cell.array items).value = .ok v →
    ∃ shown, v = .json (.array shown) ∧ List.Forall₂
      (fun item (j : Json) => j = .null ↔ item = none ∨ ∃ c ∈ item, c.ShowsNull) items shown
  /-- So a cell of the server is null to callers exactly if it was null, a JSON null or a double
  that is not finite, or if its type has no contents. -/
  wire : ∀ (result : WireResult) (set : ResultSet) (i j : ℕ) (cells : List Cell)
    (column : WireColumn) (cell : Cell), result.read = .ok set →
      (result.columns.map WireColumn.name).Nodup → result.rows[i]? = some cells →
        result.columns[j]? = some column → cells[j]? = some cell →
          column.name ≠ softDeleteColumn →
            ∃ row shown, (set.normalize zone)[i]? = some row ∧
              getField? column.name row = some shown ∧
              (shown = .null ↔ column.type.name = ColumnType.voidName ∨ cell.ShowsNull)

/-- No other values turn into null on their way to callers than doubles that are not finite. -/
theorem nulls_shown (zone : TimeZone) : NullsShown zone where
  cell set i j cells column cell hnames hrow hcolumn hcell hkept :=
    ResultSet.shown_eq_null_iff zone hnames hrow hcolumn hcell hkept
  element items v h := Cell.elements_of_array h
  wire result set i j cells column cell hread hnames hrow hcolumn hcell hkept := by
    obtain ⟨hcolumns, values, hvalues, hcells⟩ := WireResult.rows_of_read hread hrow
    obtain ⟨v, hv, hreadCell⟩ := read_of_readCells hcells hcolumn hcell
    have hnames' : (set.columns.map ResultColumn.name).Nodup := by
      rw [hcolumns, List.map_map]
      exact hnames
    have hcolumn' : set.columns[j]? =
        some ⟨column.name, ColumnKind.ofTypeName column.type.name⟩ := by
      rw [hcolumns, List.getElem?_map, hcolumn, Option.map_some]
    obtain ⟨row, shown, hrow', hshown, hnull⟩ :=
      ResultSet.shown_eq_null_iff zone hnames' hvalues hcolumn' hv hkept
    exact ⟨row, shown, hrow', hshown, hnull.trans (WireColumn.showsNull_read hreadCell)⟩

/-- A negative infinity beside a text in a row, and another one in an array between a number and a
null. -/
theorem nulls_shown_infinite :
    (∃ row shown,
      ((ResultSet.mk [⟨"x", .other⟩, ⟨"s", .other⟩]
        [[.float (.infinity true), .text "null"]]).normalize ⟨"UTC", 0, []⟩)[0]? = some row ∧
      getField? "x" row = some shown ∧ shown = .null) ∧
    ∃ shown, (Cell.array [some (.integer 1), none, some (.float (.infinity true))]).value =
        .ok (.json (.array shown)) ∧ shown[2]? = some .null := by
  constructor
  · obtain ⟨row, shown, hrow, hshown, hnull⟩ :=
      (nulls_shown ⟨"UTC", 0, []⟩).cell
        (ResultSet.mk [⟨"x", .other⟩, ⟨"s", .other⟩] [[.float (.infinity true), .text "null"]])
        0 0 _ _ _ (by decide) rfl rfl rfl (by decide)
    exact ⟨row, shown, hrow, hshown, hnull.2 rfl⟩
  · obtain ⟨shown, hvalue, hall⟩ := (nulls_shown ⟨"UTC", 0, []⟩).element
      [some (.integer 1), none, some (.float (.infinity true))] _ rfl
    cases hall with
    | cons _ hall =>
      cases hall with
      | cons _ hall =>
        cases hall with
        | cons hlast _ =>
          rw [hlast.2 (.inr ⟨_, rfl, rfl⟩)] at hvalue
          exact ⟨_, congrArg Except.ok hvalue, rfl⟩

/-- A double that is not a number is a value, neither null nor a JSON null, and callers get null for
it, in a row as in an array. -/
theorem null_of_nan :
    (ResultSet.mk [⟨"x", .other⟩] [[.float .nan]]).normalize ⟨"UTC", 0, []⟩ = [[("x", .null)]] ∧
      (Cell.array [some (.float .nan)]).value = .ok (.json (.array [.null])) ∧
      Value.float .nan ≠ .null ∧ Value.float .nan ≠ .json .null :=
  ⟨rfl, rfl, (by rintro ⟨⟩), (by rintro ⟨⟩)⟩

end TableQuery
