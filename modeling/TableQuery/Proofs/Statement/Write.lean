import TableQuery.Proofs.Checks
import TableQuery.Proofs.Statement.Parts
import TableQuery.Statement.Write

/-!
# What writing statements say

The query that an insertion, an update or a deletion means. The text of the statement has the
tokens of that query. The fields of the record are bound first, in their order, and the values of
the filter behind them.
-/

namespace TableQuery

open TableQuery.Sql

/-- The placeholders of fields, numbered from `number` on, each with its column. -/
def boundFields (types : ColumnTypes) : Nat → List (String × Value) → List (String × Placeholder)
  | _, [] => []
  | number, (column, value) :: rest =>
    (column, ⟨number, if ColumnTypes.castsValue value then types.get? column else none⟩) ::
      boundFields types (number + 1) rest

/-- The update stamps its rows: the table has the column for it, and the record leaves it alone. -/
def TableInfo.stamps (info : TableInfo) (data : Record) : Bool :=
  info.updatedAt && (data.get? updatedAtColumn).isNone

/-- The assignments of an update: one for each field, and the stamp. -/
def Record.assignments (data : Record) (info : TableInfo) : List Assignment :=
  (boundFields info.columnTypes 1 data.fields).map (fun p => .bound p.1 p.2 p.1) ++
    if info.stamps data then [.now updatedAtColumn] else []

namespace Statement

/-- The query that an insertion means. -/
def insertQuery (table : String) (row : Record) (returning : Option String)
    (types : ColumnTypes) : Query :=
  .insert table row.columns ((boundFields types 1 row.fields).map Prod.snd)
    (returnedColumns returning)

/-- The query that an update means. -/
def updateQuery (table : String) (data : Record) (options : QueryOptions) (info : TableInfo) :
    Query :=
  .update table (data.assignments info) (options.filter.rows none info data.size)
    (returnedColumns options.returning)

/-- The query that a deletion means. -/
def deleteQuery (table : String) (filter : Filter) (types : ColumnTypes) : Query :=
  .delete table (filter.meaning none types 0)

end Statement

/-- A column that passes its check is an identifier. -/
theorem isIdentifier_of_checkColumn {column : String} (h : checkColumn column = .ok ()) :
    isIdentifier column = true := by
  rw [checkColumn] at h
  split at h
  · assumption
  · cases h

/-- The placeholders of fields are the pieces of the placeholders that are meant. -/
theorem fieldPlaceholders_eq (types : ColumnTypes) (number : Nat)
    (fields : List (String × Value)) :
    Statement.fieldPlaceholders types number fields =
      (boundFields types number fields).map fun p => (p.1, p.2.piece) := by
  induction fields generalizing number with
  | nil => rfl
  | cons field rest ih =>
    obtain ⟨column, value⟩ := field
    rw [Statement.fieldPlaceholders, boundFields, ih]
    rfl

/-- Fields keep their columns. -/
theorem map_fst_boundFields (types : ColumnTypes) (number : Nat)
    (fields : List (String × Value)) :
    (boundFields types number fields).map Prod.fst = fields.map Prod.fst := by
  induction fields generalizing number with
  | nil => rfl
  | cons field rest ih =>
    obtain ⟨column, value⟩ := field
    rw [boundFields, List.map_cons, List.map_cons, ih]

/-- Where there are fields there are placeholders. -/
theorem boundFields_ne_nil {types : ColumnTypes} {number : Nat} {fields : List (String × Value)}
    (h : fields ≠ []) : boundFields types number fields ≠ [] := by
  cases fields with
  | nil => exact absurd rfl h
  | cons field rest => exact List.cons_ne_nil _ _

/-- The placeholders of fields are written with commas between them. -/
theorem renderPieces_fieldPlaceholders (types : ColumnTypes) (number : Nat)
    (fields : List (String × Value)) :
    renderPieces (separated ", "
      ((Statement.fieldPlaceholders types number fields).map fun p => [p.2])) =
      Text.join ", " ((boundFields types number fields).map fun p => p.2.piece.render) := by
  simp only [renderPieces_separated, fieldPlaceholders_eq, List.map_map, Function.comp_def,
    renderPieces_cons, renderPieces_nil, String.append_empty]

/-- The columns of fields that pass their check are identifiers. -/
theorem isIdentifier_of_mem_columns {row : Record} (h : row.columns.forM checkColumn = .ok ()) :
    ∀ column ∈ row.columns, isIdentifier column = true :=
  fun column hmem => isIdentifier_of_checkColumn (forM_ok_iff.1 h column hmem)

/-- An insertion means its query and binds the values of its record. -/
theorem insert_means {table : String} {row : Record} {returning : Option String}
    {types : ColumnTypes} {s : Statement}
    (h : Statement.insert table row returning types = .ok s) :
    s.Means (Statement.insertQuery table row returning types) row.values := by
  obtain ⟨⟨⟩, htable, h⟩ := ok_of_bind h
  have ht := isQualifiedIdentifier_of_checkTable htable
  cases hempty : row.isEmpty with
  | true =>
    rw [hempty] at h
    cases h
  | false =>
    rw [hempty] at h
    obtain ⟨⟨⟩, hcolumns, h⟩ := ok_of_bind h
    obtain ⟨returned, hreturned, h⟩ := ok_of_bind h
    cases h
    have hne : row.fields ≠ [] := by simpa [Record.isEmpty] using hempty
    have hsome : row.columns ≠ [] := by simpa [Record.columns] using hne
    have hbound : (boundFields types 1 row.fields).map Prod.snd ≠ [] :=
      mt List.map_eq_nil_iff.1 (boundFields_ne_nil hne)
    refine ⟨⟨hsome, hbound, (returningList_ok hreturned).1⟩, ?_, rfl⟩
    have hinto : Lexed "INSERT INTO " [keyword "INSERT", keyword "INTO"] := by decide
    have hopen : Follows "(" [.opening] := by decide
    have hvalues : Follows ") VALUES(" [.closing, keyword "VALUES", .opening] := by decide
    have hclose : Follows ") RETURNING " [.closing, keyword "RETURNING"] := by decide
    have hnames := Lexed.join_names fun column hmem =>
      isWord_of_isIdentifier (isIdentifier_of_mem_columns hcolumns column hmem)
    have hplaceholders : Lexed
        (Text.join ", " ((boundFields types 1 row.fields).map fun p => p.2.piece.render))
        (listTokens ((boundFields types 1 row.fields).map fun p => [p.2.token])) :=
      Lexed.join fun p _ => p.2.lexed
    have hhead := (hinto.append_of_getLast (Lexed.word (isWord_of_isQualifiedIdentifier ht))
      (by decide)).append (hopen.append_of_getLast hnames (by decide))
    have htail := (hvalues.append_of_getLast hplaceholders (by decide)).append
      (hclose.append_of_getLast (returningList_ok hreturned).2 (by decide))
    have hall := hhead.append htail
    have htokens : (Statement.insertQuery table row returning types).tokens =
        ([keyword "INSERT", keyword "INTO"] ++ [.word table.toList] ++
          ([.opening] ++ listTokens (row.columns.map fun c => [nameToken c]))) ++
        ([.closing, keyword "VALUES", .opening] ++
            listTokens ((boundFields types 1 row.fields).map fun p => [p.2.token]) ++
          ([.closing, keyword "RETURNING"] ++
            listTokens ((returnedColumns returning).map fun c => [nameToken c]))) := by
      simp [Statement.insertQuery, Query.tokens, nameToken, Function.comp_def]
    rw [htokens, Statement.sql, List.cons_append, renderPieces_cons, renderPieces_append,
      renderPieces_fieldPlaceholders, renderPieces_cons, renderPieces_nil, String.append_empty]
    simp only [Piece.render, String.append_assoc] at hall ⊢
    exact hall

/-- The text of an assignment from pieces has the tokens of the assignment. -/
theorem assignment_lexed {column : String} (h : isIdentifier column = true) (p : Placeholder) :
    Lexed (renderPieces (Statement.assignment column p.piece))
      (Assignment.bound column p column).tokens := by
  have hword := isWord_of_isIdentifier h
  have hopen : Lexed "COALESCE(" [keyword "COALESCE", .opening] := by decide
  have hcomma : Follows ", " [Token.comma] := by decide
  have hclose : Follows ")" [Token.closing] := by decide
  have hvalue := hopen.append_of_getLast p.lexed (by decide)
  have hother := (hcomma.append_of_getLast (Lexed.word hword) (by decide)).append hclose
  have hfree : ("COALESCE(" ++ p.piece.render ++ (", " ++ column ++ ")")).toList.head?.any
      isWordChar = true := by
    have hhead : "COALESCE(".toList = 'C' :: "OALESCE(".toList := by decide
    rw [String.append_assoc, String.toList_append, hhead]
    rfl
  have hall := Lexed.equals hword (hvalue.append hother) hfree
  have htext : renderPieces (Statement.assignment column p.piece) =
      column ++ "=" ++ ("COALESCE(" ++ p.piece.render ++ (", " ++ column ++ ")")) := by
    have hequals : "=COALESCE(" = "=" ++ "COALESCE(" := by decide
    simp only [Statement.assignment, renderPieces_cons, renderPieces_nil, Piece.render, hequals,
      String.append_assoc, String.append_empty]
  rw [htext]
  exact hall

/-- The stamp has the tokens of its assignment. -/
theorem stamp_lexed :
    Lexed (renderPieces [.text (updatedAtColumn ++ "=NOW()")])
      (Assignment.now updatedAtColumn).tokens := by
  decide +kernel

/-- The pieces of an assignment. -/
def assignmentPieces : Assignment → List Piece
  | .bound column p _ => Statement.assignment column p.piece
  | .now column => [.text (column ++ "=NOW()")]

/-- The assignments of an update are written as the assignments that are meant. -/
theorem assignments_eq (data : Record) (info : TableInfo) :
    Statement.assignments data info = (data.assignments info).map assignmentPieces := by
  rw [Statement.assignments, Record.assignments, fieldPlaceholders_eq, List.map_map]
  cases hstamp : info.stamps data with
  | true =>
    rw [TableInfo.stamps] at hstamp
    rw [hstamp, if_pos rfl, if_pos rfl, List.map_append, List.map_map]
    rfl
  | false =>
    rw [TableInfo.stamps] at hstamp
    rw [hstamp, if_neg (by decide), if_neg (by decide), List.append_nil, List.map_map]
    rfl

/-- Every assignment of an update has its tokens. -/
theorem assignments_lexed {data : Record} (h : data.columns.forM checkColumn = .ok ())
    (info : TableInfo) : ∀ a ∈ data.assignments info,
      Lexed (renderPieces (assignmentPieces a)) a.tokens := by
  intro a hmem
  rcases List.mem_append.1 hmem with hfield | hstamp
  · obtain ⟨p, hp, rfl⟩ := List.mem_map.1 hfield
    have hcolumn : p.1 ∈ data.columns := by
      rw [Record.columns, ← map_fst_boundFields info.columnTypes 1]
      exact List.mem_map_of_mem hp
    exact assignment_lexed (isIdentifier_of_mem_columns h p.1 hcolumn) p.2
  · split at hstamp
    · rw [List.mem_singleton.1 hstamp]
      exact stamp_lexed
    · cases hstamp

/-- An update means its query. It binds the values of its record and then those of its filter. -/
theorem update_means {table : String} {data : Record} {options : QueryOptions}
    {info : TableInfo} {s : Statement}
    (h : Statement.update table data options info = .ok s) :
    s.Means (Statement.updateQuery table data options info)
      (data.values ++ options.filter.boundValues) := by
  obtain ⟨⟨⟩, htable, h⟩ := ok_of_bind h
  obtain ⟨⟨⟩, hcolumns, h⟩ := ok_of_bind h
  have ht := isQualifiedIdentifier_of_checkTable htable
  dsimp only at h
  cases hempty : (Statement.assignments data info).isEmpty with
  | true =>
    rw [hempty] at h
    cases h
  | false =>
    rw [hempty] at h
    obtain ⟨rows, hrows, h⟩ := ok_of_bind h
    obtain ⟨returned, hreturned, h⟩ := ok_of_bind h
    cases h
    obtain ⟨haccepted, hvalues, hclause⟩ := whereClause_ok isQualifiedIdentifier_of_mem_none hrows
    obtain ⟨hne, hreturns⟩ := returningList_ok hreturned
    have hsets : data.assignments info ≠ [] := by
      rw [assignments_eq] at hempty
      simpa using hempty
    refine ⟨⟨hsets, options.filter.readable_rows haccepted none info data.size, hne⟩, ?_,
      by rw [hvalues]⟩
    have hupdate : Lexed "UPDATE " [keyword "UPDATE"] := by decide
    have hset : Follows " SET " [keyword "SET"] := by decide
    have hreturning : Follows " RETURNING " [keyword "RETURNING"] := by decide
    have hlist : Lexed (renderPieces (separated ", " (Statement.assignments data info)))
        (listTokens ((data.assignments info).map Assignment.tokens)) := by
      rw [renderPieces_separated, assignments_eq, List.map_map]
      exact Lexed.join (assignments_lexed hcolumns info)
    have hhead := (hupdate.append_of_getLast (Lexed.word (isWord_of_isQualifiedIdentifier ht))
      (by decide)).append (hset.append_of_getLast hlist (by decide))
    have hall := hhead.append
      (hclause.append (hreturning.append_of_getLast hreturns (by decide)))
    simp only [Statement.sql, List.cons_append, renderPieces_append, renderPieces_cons,
      renderPieces_nil, String.append_empty, Piece.render, Statement.updateQuery, Query.tokens]
    simp only [String.append_assoc, List.cons_append, List.nil_append, nameToken] at hall ⊢
    exact hall

/-- A deletion means its query and binds the values of its filter. -/
theorem delete_means {table : String} {filter : Filter} {types : ColumnTypes} {s : Statement}
    (h : Statement.delete table filter types = .ok s) :
    s.Means (Statement.deleteQuery table filter types) filter.boundValues := by
  obtain ⟨⟨⟩, htable, h⟩ := ok_of_bind h
  have ht := isQualifiedIdentifier_of_checkTable htable
  obtain ⟨rows, hrows, h⟩ := ok_of_bind h
  cases h
  obtain ⟨haccepted, hvalues, hclause⟩ := clause_ok isQualifiedIdentifier_of_mem_none hrows
  refine ⟨filter.readable_meaning haccepted _ _ _, ?_, hvalues⟩
  have hdelete : Lexed "DELETE FROM " [keyword "DELETE", keyword "FROM"] := by decide
  have hall := (hdelete.append_of_getLast (Lexed.word (isWord_of_isQualifiedIdentifier ht))
    (by decide)).append hclause
  simp only [Statement.sql, renderPieces_cons, Piece.render]
  exact hall

end TableQuery
