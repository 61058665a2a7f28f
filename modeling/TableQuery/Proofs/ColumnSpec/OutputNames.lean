import Mathlib.Data.List.Pairwise
import TableQuery.ColumnSpec.Reader
import TableQuery.Proofs.ColumnSpec.Selection
import TableQuery.Proofs.Results.Normalization
import TableQuery.Proofs.Text.Cut

/-!
# The names of selected columns

A joined column is given a name of its own: the table with its point replaced, an underscore, and
the column. These names can run into each other and into the columns of the primary table, since
tables and columns may hold underscores themselves. They are different exactly for specs without
such clashes, and then every selected column is found in the rows that callers get.
-/

namespace TableQuery

open TableQuery.Sql

namespace Sql

/-- What follows the last point of a text. -/
def bareName (s : String) : String :=
  String.ofList (s.toList.reverse.takeWhile (· ≠ '.')).reverse

/-- The name of a column in a result: the new name, or the column without what qualifies it. -/
def OutputColumn.name (c : OutputColumn) : String :=
  c.newName.getD (bareName c.column)

/-- The columns of a select list; an empty text has none. -/
def outputColumns? (text : String) : Option (List OutputColumn) := do
  match ← lex text.toList with
  | [] => some []
  | tokens =>
    match readList readOutputColumn tokens with
    | some (columns, []) => some columns
    | _ => none

/-- A text without a point holds none when it is read backwards. -/
theorem notPoint_of_mem_reverse {s : String} (h : '.' ∉ s.toList) :
    ∀ c ∈ s.toList.reverse, decide (c ≠ '.') = true := by
  intro c hmem
  rw [decide_eq_true_iff]
  rintro rfl
  exact h (List.mem_reverse.1 hmem)

/-- A text without a point is its bare name. -/
theorem bareName_of_notMem {s : String} (h : '.' ∉ s.toList) : bareName s = s := by
  rw [bareName, List.takeWhile_eq_self_iff.2 (notPoint_of_mem_reverse h), List.reverse_reverse,
    String.ofList_toList]

/-- The bare name of a qualified column is the column. -/
theorem bareName_qualified (qualifier : String) {column : String} (h : '.' ∉ column.toList) :
    bareName (qualifier ++ "." ++ column) = column := by
  have hchars : (qualifier ++ "." ++ column).toList.reverse =
      column.toList.reverse ++ '.' :: qualifier.toList.reverse := by
    simp
  have hstop : ('.' :: qualifier.toList.reverse).takeWhile (· ≠ '.') = [] :=
    List.takeWhile_cons_of_neg (by decide)
  rw [bareName, hchars, List.takeWhile_append_of_pos (notPoint_of_mem_reverse h), hstop,
    List.append_nil, List.reverse_reverse, String.ofList_toList]

/-- A select list is read back from its tokens. -/
theorem outputColumns?_of_lexed {text : String} {columns : List OutputColumn}
    (h : Lexed text (listTokens (columns.map OutputColumn.tokens))) :
    outputColumns? text = some columns := by
  have hlex : lex text.toList = some (listTokens (columns.map OutputColumn.tokens)) := h
  cases columns with
  | nil =>
    rw [outputColumns?, hlex]
    rfl
  | cons c others =>
    have hread : readList readOutputColumn
        (listTokens ((c :: others).map OutputColumn.tokens) ++ []) = some (c :: others, []) :=
      readList_listTokens (fun rest => rest.head? ≠ some (keyword "AS"))
        (fun more => by rw [List.head?_cons]; decide)
        (fun a _ rest hrest => readOutputColumn_tokens a hrest) (List.cons_ne_nil _ _)
        (by simp) (by simp)
    rw [List.append_nil] at hread
    rw [outputColumns?, hlex]
    generalize listTokens ((c :: others).map OutputColumn.tokens) = tokens at hread
    cases tokens with
    | nil =>
      rw [readList] at hread
      cases hread
    | cons t tokens => simp only [Option.bind_eq_bind, Option.bind_some, hread]

end Sql

namespace Join

/-- The new name of a joined column. -/
def newName (j : Join) (column : String) : String :=
  j.columnStem ++ "_" ++ column

/-- The new names of two joins run into each other: their tables look alike and a column is taken
from both of them, or the second table looks like the first one with the beginning of one of its
columns. -/
def Clashes (a b : Join) : Prop :=
  ∃ column ∈ b.columns, (a.columnStem = b.columnStem ∧ column ∈ a.columns) ∨
    ∃ middle, b.columnStem = a.columnStem ++ "_" ++ middle ∧ middle ++ "_" ++ column ∈ a.columns

/-- When two new names are the same. -/
theorem newName_eq_iff {a b : Join} {c d : String} : a.newName c = b.newName d ↔
    (a.columnStem = b.columnStem ∧ c = d) ∨
      (∃ middle, b.columnStem = a.columnStem ++ "_" ++ middle ∧ c = middle ++ "_" ++ d) ∨
        ∃ middle, a.columnStem = b.columnStem ++ "_" ++ middle ∧ d = middle ++ "_" ++ c := by
  have hchars : ∀ s t : String, (s ++ "_" ++ t).toList = s.toList ++ '_' :: t.toList := by
    intro s t
    simp
  have hmiddle : ∀ s t c d : String,
      (∃ middle, t.toList = s.toList ++ '_' :: middle ∧ c.toList = middle ++ '_' :: d.toList) ↔
        ∃ middle, t = s ++ "_" ++ middle ∧ c = middle ++ "_" ++ d := by
    intro s t c d
    constructor
    · rintro ⟨middle, ht, hc⟩
      refine ⟨String.ofList middle, String.toList_inj.1 ?_, String.toList_inj.1 ?_⟩
      · rw [hchars, String.toList_ofList, ht]
      · rw [hchars, String.toList_ofList, hc]
    · rintro ⟨middle, rfl, rfl⟩
      exact ⟨middle.toList, hchars s middle, hchars middle d⟩
  rw [newName, newName, ← String.toList_inj, hchars, hchars, Text.append_cons_eq_append_cons_iff,
    hmiddle, hmiddle, String.toList_inj, String.toList_inj]

/-- Two joins give one name twice exactly if their names run into each other. -/
theorem exists_newName_iff {a b : Join} :
    (∃ c ∈ a.columns, ∃ d ∈ b.columns, a.newName c = b.newName d) ↔ a.Clashes b ∨ b.Clashes a := by
  constructor
  · rintro ⟨c, hc, d, hd, hname⟩
    rcases newName_eq_iff.1 hname with ⟨hstem, rfl⟩ | ⟨middle, hstem, rfl⟩ | ⟨middle, hstem, rfl⟩
    · exact .inl ⟨c, hd, .inl ⟨hstem, hc⟩⟩
    · exact .inl ⟨d, hd, .inr ⟨middle, hstem, hc⟩⟩
    · exact .inr ⟨c, hc, .inr ⟨middle, hstem, hd⟩⟩
  · rintro (⟨d, hd, hclash⟩ | ⟨c, hc, hclash⟩)
    · rcases hclash with ⟨hstem, hc⟩ | ⟨middle, hstem, hc⟩
      · exact ⟨d, hc, d, hd, newName_eq_iff.2 (.inl ⟨hstem, rfl⟩)⟩
      · exact ⟨_, hc, d, hd, newName_eq_iff.2 (.inr (.inl ⟨middle, hstem, rfl⟩))⟩
    · rcases hclash with ⟨hstem, hd⟩ | ⟨middle, hstem, hd⟩
      · exact ⟨c, hc, c, hd, newName_eq_iff.2 (.inl ⟨hstem.symm, rfl⟩)⟩
      · exact ⟨c, hc, _, hd, newName_eq_iff.2 (.inr (.inr ⟨middle, hstem, rfl⟩))⟩

/-- A join gives different columns different names. -/
theorem newName_injective (j : Join) : Function.Injective j.newName :=
  fun _ _ h => (String.append_right_inj _).1 h

/-- The joined columns have their new names. -/
theorem map_name_outputs (j : Join) :
    j.outputs.map OutputColumn.name = j.columns.map j.newName := by
  rw [outputs, List.map_map]
  rfl

end Join

/-- The column of the primary table that an entry selects. -/
def SpecItem.column? : SpecItem → Option String
  | .column name => some name
  | .join _ => none

namespace ColumnSpec

/-- The columns of the primary table that a spec names, in order. -/
def columnNames (s : ColumnSpec) : List String :=
  s.items.filterMap SpecItem.column?

/-- Two columns of a spec get one name: a column of the primary table, which no join replaces, is
spelled like the new name of a joined column, or the names of two joins run into each other. -/
inductive Clashes (s : ColumnSpec) : Prop where
  /-- A column of the primary table is spelled like the new name of a joined column. -/
  | column {name column : String} {j : Join} (hname : name ∈ s.columnNames)
      (hkept : ∀ k ∈ s.joins, k.fromColumn ≠ name) (hj : j ∈ s.joins) (hcolumn : column ∈ j.columns)
      (hsame : name = j.newName column)
  /-- The names of two joins run into each other. -/
  | joins {a b : Join} (ha : a ∈ s.joins) (hb : b ∈ s.joins) (hne : a ≠ b) (h : a.Clashes b)

/-- The names of what an entry selects. -/
def itemNames (joins : List Join) : SpecItem → List String
  | .join j => j.columns.map j.newName
  | .column name => if joins.any fun j => j.fromColumn = name then [] else [name]

variable {s : ColumnSpec}

/-- A column of the spec is one of its entries. -/
theorem mem_columnNames_iff {name : String} : name ∈ s.columnNames ↔ .column name ∈ s.items := by
  rw [columnNames, List.mem_filterMap]
  constructor
  · rintro ⟨item, hmem, hitem⟩
    cases item with
    | column other =>
      cases hitem
      exact hmem
    | join j => cases hitem
  · exact fun hmem => ⟨_, hmem, rfl⟩

/-- A join of the spec is one of its entries. -/
theorem mem_joins_iff {j : Join} : j ∈ s.joins ↔ .join j ∈ s.items := by
  rw [joins, List.mem_filterMap]
  constructor
  · rintro ⟨item, hmem, hitem⟩
    cases item with
    | column name => cases hitem
    | join other =>
      cases hitem
      exact hmem
  · exact fun hmem => ⟨_, hmem, rfl⟩

/-- The names of a column are itself, unless a join replaces it. -/
theorem mem_itemNames_column {joins : List Join} {name other : String} :
    other ∈ itemNames joins (.column name) ↔ other = name ∧ ∀ j ∈ joins, j.fromColumn ≠ name := by
  rw [itemNames]
  split
  · next hkey =>
    obtain ⟨j, hj, hname⟩ := List.any_eq_true.1 hkey
    exact ⟨fun h => (by cases h), fun h => absurd (of_decide_eq_true hname) (h.2 j hj)⟩
  · next hkey =>
    rw [List.mem_singleton]
    refine ⟨fun h => ⟨h, fun j hj hname => hkey ?_⟩, And.left⟩
    exact List.any_eq_true.2 ⟨j, hj, decide_eq_true hname⟩

/-- The names of what a spec selects are the names of what its entries select. -/
theorem map_name_outputs (h : ∀ name ∈ s.columnNames, isIdentifier name = true) (table : String) :
    (s.outputs table).map OutputColumn.name = s.items.flatMap (itemNames s.joins) := by
  have hpoint : ∀ name, .column name ∈ s.items → '.' ∉ name.toList := fun name hmem =>
    notMem_of_isIdentifierChars (h name (mem_columnNames_iff.2 hmem)) (by decide)
  rw [outputs]
  split
  · rw [List.map_flatMap]
    refine List.flatMap_congr fun item hmem => ?_
    cases item with
    | join j => exact j.map_name_outputs
    | column name =>
      have hplain : name.toList.contains '.' = false := by simpa using hpoint name hmem
      rw [itemOutputs, itemNames, hplain]
      split
      · rfl
      · exact congrArg (fun name => [name]) (bareName_qualified table (hpoint name hmem))
  · next hjoins =>
    have hnone : s.joins = [] := by simpa [hasJoins] using hjoins
    rw [baseColumns, List.map_map, List.map_map, List.map_eq_flatMap, hnone]
    refine List.flatMap_congr fun item hmem => ?_
    cases item with
    | join j =>
      have hj := mem_joins_iff.2 hmem
      rw [hnone] at hj
      cases hj
    | column name => exact congrArg (fun name => [name]) (bareName_of_notMem (hpoint name hmem))

/-- A spec clashes exactly if two of its entries select one name. -/
theorem clashes_iff : s.Clashes ↔ ∃ x ∈ s.items, ∃ y ∈ s.items, x ≠ y ∧
    ∃ name, name ∈ itemNames s.joins x ∧ name ∈ itemNames s.joins y := by
  constructor
  · rintro (⟨hname, hkept, hj, hcolumn, hsame⟩ | ⟨ha, hb, hne, hclash⟩)
    · exact ⟨_, mem_columnNames_iff.1 hname, _, mem_joins_iff.1 hj, SpecItem.noConfusion, _,
        mem_itemNames_column.2 ⟨rfl, hkept⟩, List.mem_map.2 ⟨_, hcolumn, hsame.symm⟩⟩
    · obtain ⟨c, hc, d, hd, hname⟩ := Join.exists_newName_iff.2 (.inl hclash)
      exact ⟨_, mem_joins_iff.1 ha, _, mem_joins_iff.1 hb, fun h => hne (SpecItem.join.inj h), _,
        List.mem_map.2 ⟨c, hc, rfl⟩, List.mem_map.2 ⟨d, hd, hname.symm⟩⟩
  · rintro ⟨x, hx, y, hy, hne, name, hnx, hny⟩
    cases x with
    | column first =>
      obtain ⟨rfl, hkept⟩ := mem_itemNames_column.1 hnx
      cases y with
      | column second =>
        obtain ⟨rfl, -⟩ := mem_itemNames_column.1 hny
        exact absurd rfl hne
      | join j =>
        obtain ⟨column, hcolumn, hname⟩ := List.mem_map.1 hny
        exact .column (mem_columnNames_iff.2 hx) hkept (mem_joins_iff.2 hy) hcolumn hname.symm
    | join a =>
      obtain ⟨c, hc, hfirst⟩ := List.mem_map.1 hnx
      cases y with
      | column second =>
        obtain ⟨rfl, hkept⟩ := mem_itemNames_column.1 hny
        exact .column (mem_columnNames_iff.2 hy) hkept (mem_joins_iff.2 hx) hc hfirst.symm
      | join b =>
        obtain ⟨d, hd, hsecond⟩ := List.mem_map.1 hny
        have hjoins : a ≠ b := fun h => hne (congrArg SpecItem.join h)
        have hname : a.newName c = b.newName d := hfirst.trans hsecond.symm
        rcases Join.exists_newName_iff.1 ⟨c, hc, d, hd, hname⟩ with hclash | hclash
        · exact .joins (mem_joins_iff.2 hx) (mem_joins_iff.2 hy) hjoins hclash
        · exact .joins (mem_joins_iff.2 hy) (mem_joins_iff.2 hx) hjoins.symm hclash

/-- A spec with different columns and different joined tables has no entry twice. -/
theorem nodup_items (hcolumns : s.columnNames.Nodup) (htables : (s.joins.map Join.table).Nodup) :
    s.items.Nodup := by
  have hjoins : s.joins.Nodup := htables.of_map
  rw [columnNames] at hcolumns
  rw [joins] at hjoins
  generalize s.items = items at hcolumns hjoins
  induction items with
  | nil => exact List.nodup_nil
  | cons item items ih =>
    rw [List.nodup_cons]
    cases item with
    | column name =>
      obtain ⟨hnew, hrest⟩ := List.nodup_cons.1 hcolumns
      refine ⟨fun hmem => hnew ?_, ih hrest hjoins⟩
      exact List.mem_filterMap.2 ⟨_, hmem, rfl⟩
    | join j =>
      obtain ⟨hnew, hrest⟩ := List.nodup_cons.1 hjoins
      refine ⟨fun hmem => hnew ?_, ih hcolumns hrest⟩
      exact List.mem_filterMap.2 ⟨_, hmem, rfl⟩

/-- All selected columns have different names exactly if the spec has no clash. -/
theorem nodup_names_iff (hnames : s.columnNames.Nodup) (htables : (s.joins.map Join.table).Nodup)
    (hcolumns : ∀ j ∈ s.joins, j.columns.Nodup) :
    (s.items.flatMap (itemNames s.joins)).Nodup ↔ ¬ s.Clashes := by
  have hitem : ∀ item ∈ s.items, (itemNames s.joins item).Nodup := by
    intro item hmem
    cases item with
    | column name =>
      rw [itemNames]
      split
      · exact List.nodup_nil
      · exact List.nodup_singleton name
    | join j => exact (hcolumns j (mem_joins_iff.2 hmem)).map j.newName_injective
  rw [List.nodup_flatMap, and_iff_right hitem, clashes_iff]
  constructor
  · rintro hdisjoint ⟨x, hx, y, hy, hne, name, hnx, hny⟩
    have hsymm : Std.Symm (Function.onFun List.Disjoint (itemNames s.joins)) :=
      ⟨fun _ _ h name hx hy => h hy hx⟩
    exact hdisjoint.forall hx hy hne hnx hny
  · intro hnone
    refine (nodup_items hnames htables).pairwise_of_forall_ne fun x hx y hy hne name hnx hny => ?_
    exact hnone ⟨x, hx, y, hy, hne, name, hnx, hny⟩

end ColumnSpec

/-- Different columns of a spec end up in different places. The spec names different columns of the
primary table without qualifiers and joins different tables, each with different columns. Then the
columns of its select list have different names exactly if the spec has no clash, and in that case
the rows that callers get of such columns have every one of these names, in their order, with its
own cell. Only the column that marks deleted rows is left out. -/
theorem selected_columns_kept {s : ColumnSpec} {table : String}
    (htable : isQualifiedIdentifier table = true)
    (hplain : ∀ name ∈ s.columnNames, isIdentifier name = true) (hnames : s.columnNames.Nodup)
    (htables : (s.joins.map Join.table).Nodup) (hcolumns : ∀ j ∈ s.joins, j.columns.Nodup) :
    ∃ columns, outputColumns? (s.selectList table) = some columns ∧
      ((columns.map OutputColumn.name).Nodup ↔ ¬ s.Clashes) ∧
      (¬ s.Clashes → ∀ (set : ResultSet) (zone : TimeZone),
        set.columns.map ResultColumn.name = columns.map OutputColumn.name →
        ∀ (i : ℕ) cells, set.rows[i]? = some cells → cells.length = set.columns.length →
        ∃ row, (set.normalize zone)[i]? = some row ∧
          row.map Prod.fst =
            (columns.map OutputColumn.name).filter (· != softDeleteColumn) ∧
          ∀ (k : ℕ) column cell, set.columns[k]? = some column → cells[k]? = some cell →
            column.name ≠ softDeleteColumn →
            getField? column.name row = some (renderCell zone column.kind cell)) := by
  have hdistinct : ((s.outputs table).map OutputColumn.name).Nodup ↔ ¬ s.Clashes := by
    rw [ColumnSpec.map_name_outputs hplain]
    exact ColumnSpec.nodup_names_iff hnames htables hcolumns
  refine ⟨s.outputs table, outputColumns?_of_lexed (ColumnSpec.selectList_lexed htable), hdistinct,
    fun hclash set zone hset i cells hcells hlength => ?_⟩
  have hnodup : (set.columns.map ResultColumn.name).Nodup := by
    rw [hset]
    exact hdistinct.2 hclash
  refine ⟨normalizeRow zone set.columns cells, ?_, ?_, fun k column cell hcolumn hcell hkept => ?_⟩
  · rw [ResultSet.normalize, List.getElem?_map, hcells, Option.map_some]
  · rw [map_fst_normalizeRow hnodup hlength, hset]
  · exact getField?_normalizeRow hnodup hcolumn hcell hkept

/-- A column and two columns of a joined table: their names are different, and so the spec has no
clash. A row of them has the three names. -/
theorem selected_columns_kept_join :
    ∃ s columns row, ColumnSpec.parse "id,owner->org(org_id)\x7bname,size\x7d" = .ok s ∧
      s.columnNames = ["id"] ∧ s.joins = [⟨"org", "owner", "org_id", ["name", "size"]⟩] ∧
      s.selectList "users" = "users.id, org.name AS org_name, org.size AS org_size" ∧
      outputColumns? (s.selectList "users") = some columns ∧ ¬ s.Clashes ∧
      (ResultSet.mk [⟨"id", .other⟩, ⟨"org_name", .other⟩, ⟨"org_size", .other⟩]
        [[.int 1, .text "a", .null]]).normalize ⟨"UTC", 0, []⟩ = [row] ∧
      row.map Prod.fst = ["id", "org_name", "org_size"] ∧
      getField? "org_name" row = some (.string "a") := by
  obtain ⟨s, hs⟩ : ∃ s, ColumnSpec.parse "id,owner->org(org_id)\x7bname,size\x7d" = .ok s :=
    ⟨_, rfl⟩
  have hnames : s.columnNames = ["id"] := by
    cases hs
    rfl
  have hjoins : s.joins = [⟨"org", "owner", "org_id", ["name", "size"]⟩] := by
    cases hs
    rfl
  have htext : s.selectList "users" = "users.id, org.name AS org_name, org.size AS org_size" := by
    cases hs
    decide +kernel
  have htable : isQualifiedIdentifier "users" = true := by decide
  have hplain : ∀ name ∈ s.columnNames, isIdentifier name = true := by
    rw [hnames]
    decide
  have hjoined : ∀ j ∈ s.joins, j.columns.Nodup := by
    rw [hjoins]
    decide
  obtain ⟨columns, hread, hdistinct, hrows⟩ := selected_columns_kept htable hplain
    (by rw [hnames]; decide) (by rw [hjoins]; decide) hjoined
  have hcolumns : outputColumns? (s.selectList "users") = some [⟨"users.id", none⟩,
      ⟨"org.name", some "org_name"⟩, ⟨"org.size", some "org_size"⟩] := by
    rw [htext]
    decide +kernel
  obtain rfl : columns = _ := Option.some.inj (hread.symm.trans hcolumns)
  have hclash : ¬ s.Clashes := hdistinct.1 (by decide +kernel)
  obtain ⟨row, hrow, hkeys, hcells⟩ := hrows hclash
    ⟨[⟨"id", .other⟩, ⟨"org_name", .other⟩, ⟨"org_size", .other⟩], [[.int 1, .text "a", .null]]⟩
    ⟨"UTC", 0, []⟩ rfl 0 _ rfl rfl
  refine ⟨s, _, row, hs, hnames, hjoins, htext, hread, hclash, ?_, hkeys,
    hcells 1 ⟨"org_name", .other⟩ (.text "a") rfl rfl (by decide)⟩
  exact congrArg (fun row => [row]) (Option.some.inj hrow)

/-- A column that is spelled like the new name of a joined column: the result has two columns of one
name, and a row shows the second one only. A column of the primary table that marks deleted rows is
not shown at all. -/
theorem columns_lost :
    (∃ s columns, ColumnSpec.parse "org_name,owner->org(id)\x7bname\x7d" = .ok s ∧
      s.columnNames = ["org_name"] ∧ s.joins = [⟨"org", "owner", "id", ["name"]⟩] ∧
      s.selectList "users" = "users.org_name, org.name AS org_name" ∧
      outputColumns? (s.selectList "users") = some columns ∧
      ¬ (columns.map OutputColumn.name).Nodup) ∧
    normalizeRow ⟨"UTC", 0, []⟩ [⟨"org_name", .other⟩, ⟨"org_name", .other⟩]
      [.text "a", .text "b"] = [("org_name", .string "b")] ∧
    normalizeRow ⟨"UTC", 0, []⟩ [⟨"id", .other⟩, ⟨softDeleteColumn, .other⟩]
      [.int 1, .null] = [("id", .integer 1)] := by
  refine ⟨?_, rfl, rfl⟩
  obtain ⟨s, hs⟩ : ∃ s, ColumnSpec.parse "org_name,owner->org(id)\x7bname\x7d" = .ok s := ⟨_, rfl⟩
  have htext : s.selectList "users" = "users.org_name, org.name AS org_name" := by
    cases hs
    decide +kernel
  refine ⟨s, [⟨"users.org_name", none⟩, ⟨"org.name", some "org_name"⟩], hs, ?_, ?_, htext, ?_, ?_⟩
  · cases hs
    rfl
  · cases hs
    rfl
  · rw [htext]
    decide +kernel
  · decide +kernel

end TableQuery
