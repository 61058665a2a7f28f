import Mathlib.Data.List.Nodup
import TableQuery.Proofs.Statement.Untyped

/-!
# The tables of a selection

Every join of a spec adds one table behind the primary one and takes its columns from that table, by
name. Tables are not renamed, so a column belongs to one table of the statement only where no two of
them have one name.
-/

namespace TableQuery

open TableQuery.Sql

namespace Sql

/-- What stands in front of the last point of a text. -/
def qualifierOf (s : String) : String :=
  String.ofList ((s.toList.reverse.dropWhile (· ≠ '.')).drop 1).reverse

/-- The table that a column of a select list is taken from, as it is written. -/
def OutputColumn.table (c : OutputColumn) : String :=
  qualifierOf c.column

/-- The column has a new name, as joined columns do. -/
def OutputColumn.isJoined (c : OutputColumn) : Bool :=
  c.newName.isSome

/-- What stands in front of a column without a point is its qualifier. -/
theorem qualifierOf_qualified (qualifier : String) {column : String} (h : '.' ∉ column.toList) :
    qualifierOf (qualifier ++ "." ++ column) = qualifier := by
  have hchars : (qualifier ++ "." ++ column).toList.reverse =
      column.toList.reverse ++ '.' :: qualifier.toList.reverse := by
    simp
  have hcolumn : ∀ c ∈ column.toList.reverse, decide (c ≠ '.') = true := by
    intro c hmem
    rw [decide_eq_true_iff]
    rintro rfl
    exact h (List.mem_reverse.1 hmem)
  have hstop : ('.' :: qualifier.toList.reverse).dropWhile (· ≠ '.') =
      '.' :: qualifier.toList.reverse := List.dropWhile_cons_of_neg (by decide)
  rw [qualifierOf, hchars, List.dropWhile_append_of_pos hcolumn, hstop, List.drop_one,
    List.tail_cons, List.reverse_reverse, String.ofList_toList]

end Sql

/-- The columns of a join have new names, and the joined table stands in front of them. -/
theorem Join.table_of_mem_outputs {j : Join} (h : j.WellFormed) :
    ∀ item ∈ j.outputs, item.isJoined = true ∧ item.table = j.table := by
  intro item hitem
  obtain ⟨column, hcolumn, rfl⟩ := List.mem_map.1 hitem
  have hpoint : '.' ∉ column.toList :=
    notMem_of_isIdentifierChars (h.columns column hcolumn) (by decide)
  exact ⟨rfl, qualifierOf_qualified j.table hpoint⟩

/-- A join selects something. -/
theorem Join.outputs_ne_nil {j : Join} (h : j.WellFormed) : j.outputs ≠ [] :=
  mt List.map_eq_nil_iff.1 h.columns_ne_nil

/-- The joined columns of a select list are those of the joins, one join after the other. -/
theorem ColumnSpec.filter_isJoined_outputs (s : ColumnSpec) (table : String) :
    (s.outputs table).filter OutputColumn.isJoined = s.joins.flatMap Join.outputs := by
  have hitem : ∀ joins item, (itemOutputs joins table item).filter OutputColumn.isJoined =
      item.join?.toList.flatMap Join.outputs := by
    intro joins item
    cases item with
    | column name =>
      rw [itemOutputs]
      split
      · rfl
      · split <;> rfl
    | join j =>
      have hall : ∀ item ∈ j.outputs, item.isJoined = true := by
        intro item hmem
        obtain ⟨column, -, rfl⟩ := List.mem_map.1 hmem
        rfl
      rw [itemOutputs, List.filter_eq_self.2 hall]
      exact (List.append_nil _).symm
  have hitems : ∀ (joins : List Join) (items : List SpecItem),
      (items.flatMap (itemOutputs joins table)).filter OutputColumn.isJoined =
        (items.filterMap SpecItem.join?).flatMap Join.outputs := by
    intro joins items
    induction items with
    | nil => rfl
    | cons item items ih =>
      rw [List.flatMap_cons, List.filter_append, ih, hitem, List.filterMap_cons]
      cases item <;> simp [SpecItem.join?]
  rw [outputs]
  split
  · exact hitems s.joins s.items
  · next hjoins =>
    have hnone : s.joins = [] := by simpa [hasJoins] using hjoins
    rw [hnone, List.filter_eq_nil_iff.2]
    · rfl
    · intro item hmem
      obtain ⟨name, -, rfl⟩ := List.mem_map.1 hmem
      exact Bool.false_ne_true

/-- Of some names behind a first one each stands once among all of them exactly if all of them are
different. -/
theorem forall_count_eq_one_iff {first : String} {names : List String} :
    (∀ name ∈ names, (first :: names).count name = 1) ↔ (first :: names).Nodup := by
  rw [List.nodup_iff_count_eq_one]
  constructor
  · intro h name hmem
    by_cases hbehind : name ∈ names
    · exact h name hbehind
    · obtain rfl : name = first := (List.mem_cons.1 hmem).resolve_right hbehind
      rw [List.count_cons_self, List.count_eq_zero_of_not_mem hbehind]
  · exact fun h name hmem => h name (List.mem_cons_of_mem _ hmem)

/-- The tables in front of the joined columns are those of the joins. -/
theorem ColumnSpec.isJoined_table_iff (s : ColumnSpec) (table name : String) :
    (∃ item ∈ s.outputs table, item.isJoined = true ∧ item.table = name) ↔
      name ∈ s.joins.map Join.table := by
  have hjoined : ∀ item, item ∈ s.outputs table ∧ item.isJoined = true ↔
      ∃ j ∈ s.joins, item ∈ j.outputs := by
    intro item
    rw [← List.mem_filter, s.filter_isJoined_outputs, List.mem_flatMap]
  rw [List.mem_map]
  constructor
  · rintro ⟨item, hmem, hisJoined, rfl⟩
    obtain ⟨j, hj, hitem⟩ := (hjoined item).1 ⟨hmem, hisJoined⟩
    exact ⟨j, hj, (Join.table_of_mem_outputs (s.wellFormed_of_mem_joins hj) item hitem).2.symm⟩
  · rintro ⟨j, hj, rfl⟩
    have hwell := s.wellFormed_of_mem_joins hj
    obtain ⟨item, hitem⟩ := List.exists_mem_of_ne_nil _ (Join.outputs_ne_nil hwell)
    obtain ⟨hmem, hisJoined⟩ := (hjoined item).2 ⟨j, hj, hitem⟩
    exact ⟨item, hmem, hisJoined, (Join.table_of_mem_outputs hwell item hitem).2⟩

namespace Statement

/-- The text of a selection is its head, and behind it come clauses that begin with a delimiter. -/
theorem select_head {table : String} {columns : ColumnSpec} {options : QueryOptions}
    {info : TableInfo} {s : Statement} (h : select table columns options info = .ok s) :
    ∃ clauses, s.sql = "SELECT " ++ columns.selectList table ++ " FROM " ++ table ++
      columns.joinClauses table ++ clauses ∧ startsFree clauses = true := by
  obtain ⟨ht, -, hcheck, order, horder, rfl⟩ := select_ok h
  have hrows := (Filter.wellSpaced_writtenRows hcheck
    (isQualifiedIdentifier_of_mem_qualifier ht columns) info 0).2
  refine ⟨_, by rw [sql, renderPieces_cons, Piece.render], ?_⟩
  rw [renderPieces_append, renderPieces_append]
  exact startsFree_append hrows
    (startsFree_append (wellSpaced_order horder).2 (startsFree_behind options))

/-- The tables of a selection, read back from its text up to the joins: the primary one, and one for
each join in the order of the spec. The joined columns of the select list are those of the joins,
one join after the other, and in front of each of them stands the table of its own join. Each of
these tables stands for one place of the statement exactly if all of its tables have different
names. -/
theorem select_tables {table : String} {columns : ColumnSpec} {options : QueryOptions}
    {info : TableInfo} {s : Statement} (h : select table columns options info = .ok s) :
    ∃ output chain,
      (∃ head tail, s.sql = head ++ tail ∧ startsFree tail = true ∧
        Query.ofText head = some (.select output table chain none none none none)) ∧
      (options.AddsNothing → ∃ rows order offset limit,
        Query.ofText s.sql = some (.select output table chain rows order offset limit)) ∧
      chain = columns.joins.map (fun j =>
        ⟨j.table, table ++ "." ++ j.fromColumn, j.table ++ "." ++ j.toColumn⟩) ∧
      output.filter OutputColumn.isJoined = columns.joins.flatMap Join.outputs ∧
      (∀ j ∈ columns.joins, ∀ item ∈ j.outputs, item.table = j.table) ∧
      ((∀ item ∈ output, item.isJoined = true →
        (table :: chain.map JoinedTable.table).count item.table = 1) ↔
          (table :: columns.joins.map Join.table).Nodup) := by
  obtain ⟨ht, hempty, -⟩ := select_ok h
  obtain ⟨clauses, hsql, hfree⟩ := select_head h
  have houtputs := ColumnSpec.outputs_ne_nil hempty table
  have htables : (columns.joins.map fun j => j.joined table).map JoinedTable.table =
      columns.joins.map Join.table := by
    rw [List.map_map]
    rfl
  refine ⟨columns.outputs table, columns.joins.map fun j => j.joined table,
    ⟨_, clauses, hsql, hfree, ?head⟩, ?whole, rfl, columns.filter_isJoined_outputs table, ?own,
    ?distinct⟩
  case head =>
    have hreadable : (Query.select (columns.outputs table) table
        (columns.joins.map fun j => j.joined table) none none none none).Readable :=
      ⟨houtputs, by rintro _ ⟨⟩, by rintro _ ⟨⟩⟩
    exact Query.ofText_of_lexed hreadable (selectHead_lexed ht columns)
  case whole =>
    intro hextra
    exact ⟨_, _, _, _, (select_means hextra h).ofText⟩
  case own =>
    intro j hj item hitem
    exact (Join.table_of_mem_outputs (columns.wellFormed_of_mem_joins hj) item hitem).2
  case distinct =>
    rw [htables, ← forall_count_eq_one_iff]
    constructor
    · intro hall name hname
      obtain ⟨item, hmem, hisJoined, rfl⟩ := (columns.isJoined_table_iff table name).2 hname
      exact hall item hmem hisJoined
    · intro hall item hmem hisJoined
      exact hall item.table ((columns.isJoined_table_iff table _).1 ⟨item, hmem, hisJoined, rfl⟩)

/-- Two joins to different tables take their columns from a table of their own each. -/
theorem select_tables_distinct :
    ∃ columns s output chain,
      ColumnSpec.parse "id,owner->org(id)\x7bname\x7d,team->app.team(key)\x7btitle,size\x7d" =
        .ok columns ∧
      select "users" columns { limit := some 10 } {} = .ok s ∧
      s.sql = "SELECT users.id, org.name AS org_name, app.team.title AS app_team_title, " ++
        "app.team.size AS app_team_size FROM users LEFT JOIN org ON users.owner=org.id " ++
        "LEFT JOIN app.team ON users.team=app.team.key LIMIT 10" ∧
      (∃ rows order offset limit,
        Query.ofText s.sql = some (.select output "users" chain rows order offset limit)) ∧
      chain.map JoinedTable.table = ["org", "app.team"] ∧
      (output.filter OutputColumn.isJoined).map OutputColumn.table =
        ["org", "app.team", "app.team"] ∧
      ∀ item ∈ output, item.isJoined = true →
        ("users" :: chain.map JoinedTable.table).count item.table = 1 := by
  obtain ⟨columns, s, hcolumns, hs, htext, hjoins, hjoined⟩ : ∃ columns s,
      ColumnSpec.parse "id,owner->org(id)\x7bname\x7d,team->app.team(key)\x7btitle,size\x7d" =
        .ok columns ∧
      select "users" columns { limit := some 10 } {} = .ok s ∧
      s.sql = "SELECT users.id, org.name AS org_name, app.team.title AS app_team_title, " ++
        "app.team.size AS app_team_size FROM users LEFT JOIN org ON users.owner=org.id " ++
        "LEFT JOIN app.team ON users.team=app.team.key LIMIT 10" ∧
      columns.joins.map Join.table = ["org", "app.team"] ∧
      (columns.joins.flatMap Join.outputs).map OutputColumn.table =
        ["org", "app.team", "app.team"] := by
    refine ⟨_, _, rfl, rfl, ?_, ?_, ?_⟩ <;> decide +kernel
  obtain ⟨output, chain, -, hread, hchain, houtput, -, hdistinct⟩ := select_tables hs
  refine ⟨columns, s, output, chain, hcolumns, hs, htext, hread (by rintro _ ⟨⟩), ?_, ?_, ?_⟩
  · rw [← hjoins, hchain, List.map_map]
    rfl
  · rw [houtput, hjoined]
  · rw [hdistinct, hjoins]
    decide

/-- Two joins to one table are accepted and not told apart: both joined columns of the statement
have the same text, and two of its tables have the name in front of them. -/
theorem joined_table_repeated :
    ∃ columns s, ColumnSpec.parse "buyer->org(id)\x7bname\x7d,seller->org(id)\x7bname\x7d" =
        .ok columns ∧
      select "users" columns {} {} = .ok s ∧
      s.sql = "SELECT org.name AS org_name, org.name AS org_name FROM users " ++
        "LEFT JOIN org ON users.buyer=org.id LEFT JOIN org ON users.seller=org.id" ∧
      Query.ofText s.sql = some (.select
        [⟨"org.name", some "org_name"⟩, ⟨"org.name", some "org_name"⟩] "users"
        [⟨"org", "users.buyer", "org.id"⟩, ⟨"org", "users.seller", "org.id"⟩]
        none none none none) ∧
      OutputColumn.table ⟨"org.name", some "org_name"⟩ = "org" ∧
      ["users", "org", "org"].count "org" = 2 := by
  refine ⟨_, _, rfl, rfl, ?_, ?_, ?_, ?_⟩ <;> decide +kernel

end Statement

end TableQuery
