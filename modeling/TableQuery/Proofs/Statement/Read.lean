import TableQuery.Proofs.Statement.Parts
import TableQuery.Statement.Read

/-!
# What reading statements say

The query that a selection or a count means. The text of the statement has the tokens of that query,
and it binds the values of the filter.
-/

namespace TableQuery

open TableQuery.Sql

/-- The table that qualifies the columns of a selection: a spec with joins needs one. -/
def ColumnSpec.qualifier (columns : ColumnSpec) (table : String) : Option String :=
  if columns.hasJoins then some table else none

namespace Statement

/-- The query that a selection means. -/
def selectQuery (table : String) (columns : ColumnSpec) (options : QueryOptions)
    (info : TableInfo) : Query :=
  .select (columns.outputs table) table (columns.joins.map fun j => j.joined table)
    (options.filter.rows (columns.qualifier table) info 0) options.sorting
    (pagingNumber options.skip) (pagingNumber options.limit)

/-- The columns whose values a count counts. -/
def countColumns (columns : ColumnSpec) : List String :=
  if columns.isEmpty then ["*"] else columns.baseColumns

/-- The query that a count means. -/
def countQuery (table : String) (columns : ColumnSpec) (options : QueryOptions)
    (info : TableInfo) : Query :=
  .count (countColumns columns) table (options.filter.rows none info 0)

end Statement

/-- A qualifier is the table itself. -/
theorem isQualifiedIdentifier_of_mem_qualifier {table : String}
    (h : isQualifiedIdentifier table = true) (columns : ColumnSpec) :
    ∀ t ∈ columns.qualifier table, isQualifiedIdentifier t = true := by
  intro t ht
  rw [ColumnSpec.qualifier] at ht
  split at ht
  · cases ht
    exact h
  · cases ht

/-- The text that names the table behind `FROM`. -/
theorem from_follows {table : String} (h : isQualifiedIdentifier table = true) :
    Follows (" FROM " ++ table) [keyword "FROM", nameToken table] := by
  have hfrom : Follows " FROM " [keyword "FROM"] := by decide
  exact hfrom.append_of_getLast (Lexed.word (isWord_of_isQualifiedIdentifier h)) (by decide)

/-- What a selection is written as in front of its clauses is read as a selection without them. -/
theorem selectHead_lexed {table : String} (ht : isQualifiedIdentifier table = true)
    (columns : ColumnSpec) :
    Lexed ("SELECT " ++ columns.selectList table ++ " FROM " ++ table ++ columns.joinClauses table)
      (Query.select (columns.outputs table) table (columns.joins.map fun j => j.joined table)
        none none none none).tokens := by
  have hselect : Lexed "SELECT " [keyword "SELECT"] := by decide
  have hlist := hselect.append_of_getLast (columns.selectList_lexed ht) (by decide)
  have hall := hlist.append ((from_follows ht).append (columns.joinClauses_follows ht))
  simp only [Query.tokens, rowTokens, orderTokens, pagingTokens, List.append_nil]
  simp only [String.append_assoc] at hall ⊢
  exact hall

/-- A direction is one of two words. -/
theorem direction_of_mem_sorting {o : QueryOptions} :
    ∀ s ∈ o.sorting, ∀ direction ∈ s.2, direction = "ASC" ∨ direction = "DESC" := by
  intro s hs direction hd
  simp only [QueryOptions.sorting] at hs
  split at hs
  · cases hs
  · split at hs
    · cases hs
    · cases hs
      cases hd
      cases o.order.getD .ascending
      · exact Or.inl rfl
      · exact Or.inr rfl

/-- A selection means its query and binds the values of its filter. -/
theorem select_means {table : String} {columns : ColumnSpec} {options : QueryOptions}
    {info : TableInfo} {s : Statement} (hextra : options.AddsNothing)
    (h : Statement.select table columns options info = .ok s) :
    s.Means (Statement.selectQuery table columns options info) options.filter.boundValues := by
  obtain ⟨⟨⟩, htable, h⟩ := ok_of_bind h
  have ht := isQualifiedIdentifier_of_checkTable htable
  cases hempty : columns.isEmpty with
  | true =>
    rw [hempty] at h
    cases h
  | false =>
    rw [hempty] at h
    obtain ⟨rows, hrows, h⟩ := ok_of_bind h
    obtain ⟨order, horder, h⟩ := ok_of_bind h
    cases h
    obtain ⟨haccepted, hvalues, hclause⟩ :=
      whereClause_ok (isQualifiedIdentifier_of_mem_qualifier ht columns) hrows
    refine ⟨⟨ColumnSpec.outputs_ne_nil hempty table,
      options.filter.readable_rows haccepted _ info 0, direction_of_mem_sorting⟩, ?_, hvalues⟩
    have hoffset : Follows " OFFSET " [keyword "OFFSET"] := by decide
    have hlimit : Follows " LIMIT " [keyword "LIMIT"] := by decide
    have hpaging := (pagingPieces_follows hoffset (by decide) options.skip).append
      (pagingPieces_follows hlimit (by decide) options.limit)
    have hall := (selectHead_lexed ht columns).append
      (hclause.append ((orderPieces_ok horder).append hpaging))
    simp only [Statement.sql, renderPieces_append, renderPieces_cons,
      extraPieces_of_addsNothing hextra, renderPieces_nil, String.append_empty, Piece.render]
    simp only [Query.tokens, rowTokens, orderTokens, pagingTokens, String.append_assoc,
      List.append_assoc, List.cons_append, List.nil_append] at hall ⊢
    exact hall

/-- The columns that a count counts are written as their tokens. -/
theorem countColumns_lexed {columns : ColumnSpec} (hjoins : columns.hasJoins = false)
    (table : String) :
    Statement.countColumns columns ≠ [] ∧
      Lexed (if columns.isEmpty then "*" else columns.selectList table)
        (listTokens ((Statement.countColumns columns).map fun c => [nameToken c])) := by
  rw [Statement.countColumns]
  split
  · exact ⟨by simp, by decide⟩
  · next hempty =>
    have hitems : columns.items ≠ [] := by simpa [ColumnSpec.isEmpty] using hempty
    rw [ColumnSpec.selectList_of_not_hasJoins hjoins]
    exact ⟨by simpa [ColumnSpec.baseColumns] using hitems,
      Lexed.join_names fun name hmem => ColumnSpec.isWord_of_mem_baseColumns hmem⟩

/-- A count means its query and binds the values of its filter. -/
theorem count_means {table : String} {columns : ColumnSpec} {options : QueryOptions}
    {info : TableInfo} {s : Statement} (hextra : options.AddsNothing)
    (h : Statement.count table columns options info = .ok s) :
    s.Means (Statement.countQuery table columns options info) options.filter.boundValues := by
  obtain ⟨⟨⟩, htable, h⟩ := ok_of_bind h
  have ht := isQualifiedIdentifier_of_checkTable htable
  cases hjoins : columns.hasJoins with
  | true =>
    rw [hjoins] at h
    cases h
  | false =>
    rw [hjoins] at h
    obtain ⟨rows, hrows, h⟩ := ok_of_bind h
    cases h
    obtain ⟨haccepted, hvalues, hclause⟩ := whereClause_ok isQualifiedIdentifier_of_mem_none hrows
    obtain ⟨hne, htarget⟩ := countColumns_lexed hjoins table
    refine ⟨⟨hne, options.filter.readable_rows haccepted none info 0⟩, ?_, hvalues⟩
    have hcount : Lexed "SELECT COUNT(" [keyword "SELECT", keyword "COUNT", .opening] := by decide
    have hclose : Follows ") FROM " [.closing, keyword "FROM"] := by decide
    have htable := Lexed.word (isWord_of_isQualifiedIdentifier ht)
    have hall := (hcount.append_of_getLast htarget (by decide)).append
      ((hclose.append_of_getLast htable (by decide)).append hclause)
    simp only [Statement.sql, renderPieces_append, renderPieces_cons,
      extraPieces_of_addsNothing hextra, renderPieces_nil, String.append_empty, Piece.render]
    simp only [String.append_assoc, List.append_assoc] at hall ⊢
    exact hall

end TableQuery
