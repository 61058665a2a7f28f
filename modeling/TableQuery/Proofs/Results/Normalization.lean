import TableQuery.Proofs.Fields
import TableQuery.ResultSet

/-!
# Rows as callers get them

Every row of a result becomes one row for callers. It may be shorter or longer than the list of
columns, and names may stand in that list more than once: a row has every name once, at its first
place, with the last cell that stands under it, and never the name of the column that marks deleted
rows. Times are shown in the zone of the caller. A clock without a zone is taken for UTC, so it
shows what the moment shows; a date shows the same in every zone, and what is not a time of the kind
of its column is shown as its own JSON.
-/

/-!
## Rows of results

What callers get of a row whose columns have different names: every cell under the name of its
column, in the order of the columns. Only the column that marks deleted rows is left out.
-/

namespace TableQuery

/-- Of the first of two lists that are paired, those entries are left that have a partner. -/
theorem map_fst_zip_eq_take {α β : Type} (first : List α) (second : List β) :
    (first.zip second).map Prod.fst = first.take second.length := by
  induction first generalizing second with
  | nil => simp
  | cons a first ih =>
    cases second with
    | nil => rfl
    | cons b second => simp [ih]

/-- The cells of a row that are kept, under the names of their columns. -/
def shownCells (zone : TimeZone) (columns : List ResultColumn) (cells : List Value) : Row :=
  ((columns.zip cells).filter fun p => p.1.name != softDeleteColumn).map fun p =>
    (p.1.name, renderCell zone p.1.kind p.2)

/-- The names of the cells that are kept are those of the columns with a cell, except that of the
column that marks deleted rows. -/
theorem map_fst_shownCells (zone : TimeZone) (columns : List ResultColumn) (cells : List Value) :
    (shownCells zone columns cells).map Prod.fst =
      ((columns.take cells.length).map ResultColumn.name).filter (· != softDeleteColumn) := by
  have hkept : (columns.zip cells).filter (fun p => p.1.name != softDeleteColumn) =
      (columns.zip cells).filter ((fun c => c.name != softDeleteColumn) ∘ Prod.fst) := rfl
  have hnames : (shownCells zone columns cells).map Prod.fst =
      (((columns.zip cells).filter fun p => p.1.name != softDeleteColumn).map Prod.fst).map
        ResultColumn.name := by
    rw [shownCells, List.map_map, List.map_map]
    rfl
  rw [hnames, hkept, ← List.filter_map, map_fst_zip_eq_take, List.filter_map]
  rfl

/-- Columns with different names show their cells under different names. -/
theorem nodup_shownCells {columns : List ResultColumn}
    (hnames : (columns.map ResultColumn.name).Nodup) (zone : TimeZone) (cells : List Value) :
    ((shownCells zone columns cells).map Prod.fst).Nodup := by
  have htake : ((columns.take cells.length).map ResultColumn.name).Sublist
      (columns.map ResultColumn.name) := (List.take_sublist _ _).map _
  rw [map_fst_shownCells]
  exact hnames.sublist (List.filter_sublist.trans htake)

/-- A row of columns with different names is its cells that are kept. -/
theorem normalizeRow_of_nodup {columns : List ResultColumn}
    (hnames : (columns.map ResultColumn.name).Nodup) (zone : TimeZone) (cells : List Value) :
    normalizeRow zone columns cells = shownCells zone columns cells :=
  gatherFields_of_nodup (nodup_shownCells hnames zone cells)

/-- A row of columns with different names shows every cell, except that of the column that marks
deleted rows, under the name of its column. -/
theorem getField?_normalizeRow {zone : TimeZone} {columns : List ResultColumn}
    {cells : List Value} (hnames : (columns.map ResultColumn.name).Nodup) {i : ℕ}
    {column : ResultColumn} {cell : Value} (hcolumn : columns[i]? = some column)
    (hcell : cells[i]? = some cell) (hkept : column.name ≠ softDeleteColumn) :
    getField? column.name (normalizeRow zone columns cells) =
      some (renderCell zone column.kind cell) := by
  have hzip : (columns.zip cells)[i]? = some (column, cell) :=
    List.getElem?_zip_eq_some.2 ⟨hcolumn, hcell⟩
  rw [normalizeRow_of_nodup hnames, getField?_eq_some_iff (nodup_shownCells hnames zone cells)]
  exact List.mem_map.2 ⟨(column, cell),
    List.mem_filter.2 ⟨List.mem_of_getElem? hzip, bne_iff_ne.2 hkept⟩, rfl⟩

/-- The names of a full row of columns with different names are those of its columns, in their
order, except that of the column that marks deleted rows. -/
theorem map_fst_normalizeRow {zone : TimeZone} {columns : List ResultColumn}
    {cells : List Value} (hnames : (columns.map ResultColumn.name).Nodup)
    (hlength : cells.length = columns.length) :
    (normalizeRow zone columns cells).map Prod.fst =
      (columns.map ResultColumn.name).filter (· != softDeleteColumn) := by
  rw [normalizeRow_of_nodup hnames, map_fst_shownCells, hlength, List.take_length]

/-! ## Rows whatever the columns are -/

/-- The last entry of a list that passes a test: it passes, and none behind it does. -/
theorem find?_reverse_eq_some_iff {α : Type} {p : α → Bool} {xs : List α} {x : α} :
    xs.reverse.find? p = some x ↔
      ∃ i : ℕ, xs[i]? = some x ∧ p x = true ∧
        ∀ (j : ℕ) (y : α), i < j → xs[j]? = some y → p y = false := by
  rw [List.find?_eq_some_iff_append]
  constructor
  · rintro ⟨hx, behind, before, hsplit, hbehind⟩
    have hxs : xs = before.reverse ++ x :: behind.reverse := by
      have hreverse := congrArg List.reverse hsplit
      simpa using hreverse
    refine ⟨before.length, by simp [hxs], hx, fun j y hj hy => ?_⟩
    have hmem : y ∈ behind := by
      obtain ⟨k, rfl⟩ := Nat.exists_eq_add_of_lt hj
      rw [hxs, List.getElem?_append_right (by simp; omega)] at hy
      have hindex : before.length + k + 1 - before.reverse.length = k + 1 := by simp; omega
      rw [hindex, List.getElem?_cons_succ] at hy
      exact List.mem_reverse.1 (List.mem_of_getElem? hy)
    simpa using hbehind y hmem
  · rintro ⟨i, hi, hx, hbehind⟩
    obtain ⟨hlt, hget⟩ := List.getElem?_eq_some_iff.1 hi
    refine ⟨hx, (xs.drop (i + 1)).reverse, (xs.take i).reverse, ?_, fun y hy => ?_⟩
    · have hxs : xs = xs.take i ++ x :: xs.drop (i + 1) := by
        rw [← hget, ← List.drop_eq_getElem_cons hlt, List.take_append_drop]
      have hreverse := congrArg List.reverse hxs
      simpa using hreverse
    · obtain ⟨k, hk⟩ := List.mem_iff_getElem?.1 (List.mem_reverse.1 hy)
      rw [List.getElem?_drop] at hk
      rw [hbehind (i + 1 + k) y (by omega) hk]
      rfl

/-- A column and a cell stand at one place of a row and are the last ones of a name there. -/
structure LastOfName (columns : List ResultColumn) (cells : List Value) (name : String)
    (column : ResultColumn) (cell : Value) (i : ℕ) : Prop where
  /-- The column stands at the place. -/
  column_at : columns[i]? = some column
  /-- The cell stands at the place. -/
  cell_at : cells[i]? = some cell
  /-- The column has the name. -/
  name_eq : column.name = name
  /-- No column behind it that has a cell has the name. -/
  last : ∀ (j : ℕ) (later : ResultColumn), i < j → j < cells.length →
    columns[j]? = some later → later.name ≠ name

/-- What callers get of a row. -/
structure RowShown (zone : TimeZone) (columns : List ResultColumn) (cells : List Value)
    (row : Row) : Prop where
  /-- The names are those of the columns with a cell, in the order in which they come first. -/
  names : row.map Prod.fst = (((columns.take cells.length).map ResultColumn.name).filter
    (· != softDeleteColumn)).eraseDups
  /-- No name comes twice. -/
  nodup : (row.map Prod.fst).Nodup
  /-- The column that marks deleted rows is left out. -/
  softDelete : softDeleteColumn ∉ row.map Prod.fst
  /-- A name has what its last cell shows under the kind of that cell's column. -/
  value : ∀ (name : String) (shown : Json), getField? name row = some shown ↔
    name ≠ softDeleteColumn ∧ ∃ column cell i, LastOfName columns cells name column cell i ∧
      shown = renderCell zone column.kind cell

/-- The last cell of a name, among columns and cells side by side. -/
theorem lastOfName_iff {columns : List ResultColumn} {cells : List Value} {name : String}
    {column : ResultColumn} {cell : Value} :
    (columns.zip cells).reverse.find? (fun p => p.1.name = name) = some (column, cell) ↔
      ∃ i, LastOfName columns cells name column cell i := by
  rw [find?_reverse_eq_some_iff]
  refine exists_congr fun i => ⟨?_, fun h => ⟨?_, decide_eq_true h.name_eq, ?_⟩⟩
  · rintro ⟨hplace, hname, hlast⟩
    obtain ⟨hcolumn, hcell⟩ := List.getElem?_zip_eq_some.1 hplace
    refine ⟨hcolumn, hcell, of_decide_eq_true hname, fun j later hj hlt hlater => ?_⟩
    have hzip : (columns.zip cells)[j]? = some (later, cells[j]) :=
      List.getElem?_zip_eq_some.2 ⟨hlater, List.getElem?_eq_getElem hlt⟩
    exact of_decide_eq_false (hlast j (later, cells[j]) hj hzip)
  · exact List.getElem?_zip_eq_some.2 ⟨h.column_at, h.cell_at⟩
  · intro j p hj hp
    obtain ⟨hlater, hcell⟩ := List.getElem?_zip_eq_some.1 hp
    have hlt : j < cells.length := (List.getElem?_eq_some_iff.1 hcell).1
    exact decide_eq_false (h.last j p.1 hj hlt hlater)

/-- A name has the last cell of that name, unless it marks deleted rows. -/
theorem getField?_normalizeRow_eq_some_iff (zone : TimeZone) (columns : List ResultColumn)
    (cells : List Value) (name : String) (shown : Json) :
    getField? name (normalizeRow zone columns cells) = some shown ↔
      name ≠ softDeleteColumn ∧ ∃ column cell i, LastOfName columns cells name column cell i ∧
        shown = renderCell zone column.kind cell := by
  have hrow : getField? name (normalizeRow zone columns cells) =
      ((columns.zip cells).reverse.find? fun p =>
        (p.1.name != softDeleteColumn) = true ∧ decide (p.1.name = name) = true).map
          fun p => renderCell zone p.1.kind p.2 := by
    have hgather : normalizeRow zone columns cells =
        gatherFields (shownCells zone columns cells) := rfl
    rw [hgather, getField?_gatherFields, shownCells, ← List.map_reverse, ← List.filter_reverse,
      List.find?_map, List.find?_filter, Option.map_map]
    rfl
  rw [hrow]
  by_cases hname : name = softDeleteColumn
  · have hnone : ((columns.zip cells).reverse.find? fun p =>
        (p.1.name != softDeleteColumn) = true ∧ decide (p.1.name = name) = true) = none := by
      rw [List.find?_eq_none]
      intro p _ hboth
      obtain ⟨hkept, hsame⟩ := of_decide_eq_true hboth
      exact bne_iff_ne.1 hkept ((of_decide_eq_true hsame).trans hname)
    rw [hnone, Option.map_none]
    exact ⟨fun h => (by cases h), fun h => absurd hname h.1⟩
  · have htest : (fun p : ResultColumn × Value =>
        decide ((p.1.name != softDeleteColumn) = true ∧ decide (p.1.name = name) = true)) =
          fun p => decide (p.1.name = name) := by
      funext p
      rw [decide_eq_decide, bne_iff_ne, decide_eq_true_iff]
      exact ⟨And.right, fun hsame => ⟨fun hmark => hname (hsame.symm.trans hmark), hsame⟩⟩
    rw [htest, Option.map_eq_some_iff]
    constructor
    · rintro ⟨⟨column, cell⟩, hfound, hshown⟩
      obtain ⟨i, hlast⟩ := lastOfName_iff.1 hfound
      exact ⟨hname, column, cell, i, hlast, hshown.symm⟩
    · rintro ⟨-, column, cell, i, hlast, hshown⟩
      exact ⟨(column, cell), lastOfName_iff.2 ⟨i, hlast⟩, hshown.symm⟩

/-- A row shows the last cell of every name, in the order of the names. -/
theorem rowShown_normalizeRow (zone : TimeZone) (columns : List ResultColumn)
    (cells : List Value) : RowShown zone columns cells (normalizeRow zone columns cells) where
  names := by
    rw [← map_fst_shownCells zone]
    exact map_fst_gatherFields _
  nodup := nodup_gatherFields _
  softDelete := by
    rw [← getField?_eq_none_iff, Option.eq_none_iff_forall_ne_some]
    intro shown hshown
    exact ((getField?_normalizeRow_eq_some_iff zone columns cells _ shown).1 hshown).1 rfl
  value := getField?_normalizeRow_eq_some_iff zone columns cells

/-- A value is a time of the kind that is declared. -/
inductive ColumnKind.Holds : ColumnKind → Value → Prop where
  /-- A moment. -/
  | timestamp (i : Instant) : Holds .timestamp (.timestamp i)
  /-- A clock without a zone. -/
  | localTimestamp (w : WallClock) : Holds .localTimestamp (.localTimestamp w)
  /-- A date. -/
  | date (d : Date) : Holds .date (.date d)

/-- What is not a time of the kind of its column is shown as its own JSON. -/
theorem renderCell_of_not_holds (zone : TimeZone) {kind : ColumnKind} {cell : Value}
    (h : ¬kind.Holds cell) : renderCell zone kind cell = cell.toJson := by
  have hnone : temporalText? zone kind cell = none := by
    rw [temporalText?]
    · rintro i rfl rfl
      exact h (.timestamp i)
    · rintro w rfl rfl
      exact h (.localTimestamp w)
    · rintro d rfl rfl
      exact h (.date d)
  rw [renderCell, hnone]

/-- Midnight shows the date and no time of day. -/
theorem secondText_midnight (d : Date) :
    (WallClock.midnight d).secondText = d.text ++ " 00:00:00" := by
  have hdate : (WallClock.midnight d).date = d := by
    have hdays : (d.days * WallClock.daySeconds).fdiv WallClock.daySeconds = d.days :=
      Int.mul_fdiv_cancel d.days (by decide)
    rw [WallClock.date, WallClock.midnight, hdays]
  have hsecond : (WallClock.midnight d).secondOfDay = 0 := by
    rw [WallClock.secondOfDay, WallClock.midnight, Int.mul_fmod_left]
    rfl
  have htime : ' ' :: WallClock.timeChars 0 = " 00:00:00".toList := by decide
  rw [WallClock.secondText, hdate, hsecond, htime, Date.text, String.ofList_append,
    String.ofList_toList]

/-- What callers get of a cell, in a time zone. -/
structure CellsShown (zone : TimeZone) : Prop where
  /-- A moment shows the clock of the zone to the second, and so does the clock that UTC shows at
  that moment. -/
  moment : ∀ i : Instant,
    renderCell zone .timestamp (.timestamp i) = .string (zone.localTime i).secondText ∧
      renderCell zone .localTimestamp (.localTimestamp i.utc) =
        .string (zone.localTime i).secondText
  /-- A date shows midnight, whatever the zone. -/
  date : ∀ d : Date, renderCell zone .date (.date d) = .string (d.text ++ " 00:00:00")
  /-- What is not a time of the kind of its column is shown as its own JSON. -/
  other : ∀ (kind : ColumnKind) (cell : Value), ¬kind.Holds cell →
    renderCell zone kind cell = cell.toJson
  /-- A text is never taken for a time. -/
  text : ∀ (kind : ColumnKind) (s : String), renderCell zone kind (.text s) = .string s

/-- Cells are shown by the declared kinds of their columns. -/
theorem cellsShown (zone : TimeZone) : CellsShown zone where
  moment _ := ⟨rfl, rfl⟩
  date d := by
    rw [← secondText_midnight]
    rfl
  other _ _ h := renderCell_of_not_holds zone h
  text kind s := renderCell_of_not_holds zone (by rintro ⟨⟩)

/-- Callers get one row for every row of a result, in order, with every name once, at its first
place and with its last cell. -/
theorem ResultSet.normalize_shown (set : ResultSet) (zone : TimeZone) :
    List.Forall₂ (RowShown zone set.columns) set.rows (set.normalize zone) ∧ CellsShown zone := by
  refine ⟨?_, cellsShown zone⟩
  rw [normalize, List.forall₂_map_right_iff, List.forall₂_same]
  exact fun cells _ => rowShown_normalizeRow zone set.columns cells

/-- A repeated name keeps its first place and its last value; what has no column or no cell and the
mark of deleted rows are left out. -/
example :
    (ResultSet.mk
      [⟨"a", .other⟩, ⟨"deleted_at", .other⟩, ⟨"b", .other⟩, ⟨"a", .date⟩, ⟨"c", .other⟩]
      [[.int 1, .null, .bool true, .date ⟨0⟩], [.int 2]]).normalize ⟨"UTC", 0, []⟩ =
        [[("a", .string "1970-01-01 00:00:00"), ("b", .bool true)], [("a", .integer 2)]] := rfl

end TableQuery
