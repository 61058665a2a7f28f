import TableQuery.Proofs.Schema.CatalogRows
import TableQuery.Proofs.Statement.Alike
import TableQuery.Proofs.Statement.Request

/-!
# Questions to the catalog

The questions to the catalog have four texts: one column or all of them, with or without a schema.
No other statement that is built has one of these texts, whatever the caller adds to it: in the
questions the first name of the select list is followed by a cast, and nowhere else.
-/

namespace TableQuery

open TableQuery.Sql

/-- The texts of the questions to the catalog. They depend on nothing but whether a schema is
given. -/
def catalogTexts : List String :=
  [.tableColumns "table", .tableColumns "schema.table", .columnExists "table" "column",
    .columnExists "schema.table" "column"].map Statement.sql

/-- Every question to the catalog has one of these texts. -/
theorem Statement.AsksCatalog.sql_mem {statement : Statement} (h : statement.AsksCatalog) :
    statement.sql ∈ catalogTexts := by
  cases h with
  | columnExists table column =>
    by_cases hpoint : '.' ∈ table.toList
    · rw [(columnExists_alike column "column"
        (iff_of_true hpoint (by decide : '.' ∈ "schema.table".toList))).sql]
      exact .tail _ (.tail _ (.tail _ (.head _)))
    · rw [(columnExists_alike column "column"
        (iff_of_false hpoint (by decide : '.' ∉ "table".toList))).sql]
      exact .tail _ (.tail _ (.head _))
  | tableColumns table =>
    by_cases hpoint : '.' ∈ table.toList
    · rw [(tableColumns_alike
        (iff_of_true hpoint (by decide : '.' ∈ "schema.table".toList))).sql]
      exact .tail _ (.head _)
    · rw [(tableColumns_alike (iff_of_false hpoint (by decide : '.' ∉ "table".toList))).sql]
      exact .head _

/-- A character of a name that is written without a cast. -/
def isNameChar (c : Char) : Bool :=
  isWordChar c && c ≠ ':'

/-- A character that ends a name at the beginning of a statement. -/
def isNameEnd (c : Char) : Bool :=
  c = ' ' || c = ',' || c = '('

/-- What follows the name that begins at the eighth character: in a selection the first one of the
select list. -/
def behindName? (text : String) : Option Char :=
  ((text.toList.drop 7).dropWhile isNameChar).head?

/-- What follows a name behind seven characters. -/
theorem behindName?_of_toList_eq {text : String} {front name rest : List Char} {c : Char}
    (htext : text.toList = front ++ (name ++ c :: rest)) (hfront : front.length = 7)
    (hname : ∀ d ∈ name, isNameChar d = true) (hc : isNameEnd c = true) :
    behindName? text = some c := by
  have hend : isNameChar c = false := by
    simp only [isNameEnd, Bool.or_eq_true, decide_eq_true_eq] at hc
    rcases hc with (rfl | rfl) | rfl <;> decide
  rw [behindName?, htext, List.drop_left' hfront, List.dropWhile_append_of_pos hname,
    List.dropWhile_cons_of_neg (by rw [hend]; decide)]
  rfl

/-- What follows the name stays the same in a longer text. -/
theorem behindName?_append {text : String} {c : Char} (h : behindName? text = some c)
    (more : String) : behindName? (text ++ more) = some c := by
  rw [behindName?] at h ⊢
  have hne : ((text.toList.drop 7).dropWhile isNameChar).isEmpty = false := by
    cases hrest : (text.toList.drop 7).dropWhile isNameChar with
    | nil =>
      rw [hrest] at h
      cases h
    | cons d rest => rfl
  rw [String.toList_append, List.drop_append, List.dropWhile_append, hne, if_neg (by decide),
    List.head?_append, h]
  rfl

/-- The first piece of a statement tells what follows the name. -/
theorem Statement.behindName?_sql {s : Statement} {head : String} {pieces : List Piece}
    (hpieces : s.pieces = .text head :: pieces) {c : Char} (h : behindName? head = some c) :
    behindName? s.sql = some c := by
  rw [Statement.sql, hpieces, renderPieces_cons, Piece.render]
  exact behindName?_append h _

/-- In the questions to the catalog the first name is followed by its cast. -/
theorem Statement.AsksCatalog.behindName?_eq {statement : Statement}
    (h : statement.AsksCatalog) : behindName? statement.sql = some ':' := by
  cases h with
  | columnExists table column =>
    exact Statement.behindName?_sql rfl (behindName?_append (by decide +kernel) _)
  | tableColumns table =>
    refine Statement.behindName?_sql rfl ?_
    exact behindName?_append (behindName?_append (by decide +kernel) _) _

/-- The texts of the questions have the cast of their first name in common. -/
theorem behindName?_of_mem_catalogTexts {text : String} (h : text ∈ catalogTexts) :
    behindName? text = some ':' := by
  obtain ⟨statement, hmem, rfl⟩ := List.mem_map.1 h
  have hasks : statement.AsksCatalog := by
    simp only [List.mem_cons, List.not_mem_nil, or_false] at hmem
    rcases hmem with rfl | rfl | rfl | rfl
    · exact .tableColumns _
    · exact .tableColumns _
    · exact .columnExists _ _
    · exact .columnExists _ _
  exact hasks.behindName?_eq

/-- The characters of identifiers are those of names. -/
theorem isNameChar_of_isIdentifierPart {c : Char} (h : isIdentifierPart c = true) :
    isNameChar c = true := by
  have hcolon : c ≠ ':' := by
    rintro rfl
    exact absurd h (by decide)
  rw [isNameChar, isWordChar, h, decide_eq_true hcolon]
  rfl

/-- The characters of a name with at most one qualifier are those of names. -/
theorem isNameChar_of_nameText {name : List Char} (h : NameText name) :
    ∀ c ∈ name, isNameChar c = true := by
  have hpart : ∀ {cs : List Char}, isIdentifierChars cs = true → ∀ c ∈ cs, isNameChar c = true :=
    fun hcs c hc =>
      isNameChar_of_isIdentifierPart (List.all_eq_true.1 (all_isIdentifierPart hcs) c hc)
  cases h with
  | plain hname => exact hpart hname
  | qualified hqualifier hname =>
    exact List.forall_mem_append.2
      ⟨hpart hqualifier, List.forall_mem_cons.2 ⟨by decide, hpart hname⟩⟩

/-- A column of a table is written in the characters of names. -/
theorem isNameChar_columnOf {table column : String}
    (ht : ∀ c ∈ table.toList, isNameChar c = true)
    (hc : ∀ c ∈ column.toList, isNameChar c = true) :
    ∀ c ∈ (table ++ "." ++ column).toList, isNameChar c = true := by
  rw [String.toList_append, String.toList_append]
  have hpoint : ∀ c ∈ ".".toList, isNameChar c = true := List.all_eq_true.1 (by decide)
  exact List.forall_mem_append.2 ⟨List.forall_mem_append.2 ⟨ht, hpoint⟩, hc⟩

/-- A column of a spec is written in the characters of names. -/
theorem isNameChar_column {name : String} (h : (SpecItem.column name).WellFormed) :
    ∀ c ∈ name.toList, isNameChar c = true := by
  rcases h with rfl | h
  · exact List.all_eq_true.1 (by decide)
  · exact isNameChar_of_nameText (isQualifiedChars_iff.1 h)

/-- The columns that a spec selects are written in the characters of names. -/
theorem isNameChar_outputs {columns : ColumnSpec} {table : String}
    (ht : isQualifiedIdentifier table = true) {o : OutputColumn}
    (ho : o ∈ columns.outputs table) : ∀ c ∈ o.column.toList, isNameChar c = true := by
  have htable := isNameChar_of_nameText (isQualifiedChars_iff.1 ht)
  rw [ColumnSpec.outputs] at ho
  split at ho
  · obtain ⟨item, hitem, ho⟩ := List.mem_flatMap.1 ho
    have hwell := columns.wellFormed item hitem
    cases item with
    | join j =>
      obtain ⟨column, hcolumn, rfl⟩ := List.mem_map.1 ho
      exact isNameChar_columnOf
        (isNameChar_of_nameText (isQualifiedChars_iff.1 (Join.WellFormed.table hwell)))
        (isNameChar_of_nameText (.plain (Join.WellFormed.columns hwell column hcolumn)))
    | column name =>
      have hname := isNameChar_column hwell
      rw [ColumnSpec.itemOutputs] at ho
      split at ho
      · cases ho
      · split at ho
        · rw [List.mem_singleton.1 ho]
          exact hname
        · rw [List.mem_singleton.1 ho]
          exact isNameChar_columnOf htable hname
  · obtain ⟨name, hname, rfl⟩ := List.mem_map.1 ho
    obtain ⟨item, hitem, rfl⟩ := List.mem_map.1 hname
    have hwell := columns.wellFormed item hitem
    cases item with
    | column name => exact isNameChar_column hwell
    | join j => exact isNameChar_of_nameText (.plain (Join.WellFormed.fromColumn hwell))

/-- A select list begins with its first column, and a blank or a comma ends it. -/
theorem exists_behind_column (o : OutputColumn) (others : List OutputColumn) (rest : List Char) :
    ∃ c more, (Text.join ", " ((o :: others).map OutputColumn.text)).toList ++ ' ' :: rest =
      o.column.toList ++ c :: more ∧ isNameEnd c = true := by
  have hlist : ∃ c more, (Text.join ", " ((o :: others).map OutputColumn.text)).toList ++
      ' ' :: rest = o.text.toList ++ c :: more ∧ isNameEnd c = true := by
    cases others with
    | nil => exact ⟨' ', rest, by simp [Text.join], rfl⟩
    | cons next others => exact ⟨',', _, by simp [Text.join]; rfl, rfl⟩
  obtain ⟨c, more, htext, hc⟩ := hlist
  rw [htext, OutputColumn.text]
  cases o.newName with
  | none => exact ⟨c, more, rfl, hc⟩
  | some name => exact ⟨' ', _, by simp; rfl, rfl⟩

/-- In a selection the first column is followed by a comma or a blank. -/
theorem behindName?_selectList {table : String} {columns : ColumnSpec}
    (ht : isQualifiedIdentifier table = true) (hempty : columns.isEmpty = false) :
    ∃ c, isNameEnd c = true ∧
      behindName? ("SELECT " ++ columns.selectList table ++ " FROM ") = some c := by
  obtain ⟨o, others, houtputs⟩ :=
    List.exists_cons_of_ne_nil (ColumnSpec.outputs_ne_nil hempty table)
  have hname := isNameChar_outputs ht (houtputs ▸ List.mem_cons_self)
  obtain ⟨c, more, hbehind, hc⟩ := exists_behind_column o others "FROM ".toList
  have htext : ("SELECT " ++ columns.selectList table ++ " FROM ").toList =
      "SELECT ".toList ++ (o.column.toList ++ c :: more) := by
    rw [← hbehind, ← houtputs, ← ColumnSpec.selection_eq, String.append_assoc,
      String.toList_append, String.toList_append]
    rfl
  exact ⟨c, hc, behindName?_of_toList_eq htext rfl hname hc⟩

/-- A statement is no question to the catalog if its first piece has a name behind seven characters
and the end of a name behind it. -/
theorem Statement.notMem_catalogTexts {s : Statement} {head : String} {pieces : List Piece}
    (hpieces : s.pieces = .text head :: pieces) {c : Char} (hc : isNameEnd c = true)
    (hhead : behindName? head = some c) : s.sql ∉ catalogTexts := by
  intro hmem
  have hcast := behindName?_of_mem_catalogTexts hmem
  rw [Statement.behindName?_sql hpieces hhead] at hcast
  cases hcast
  exact absurd hc (by decide)

/-- A selection from a table is no question to the catalog, whatever the caller adds to it. -/
theorem select_notMem_catalogTexts {table : String} {columns : ColumnSpec} {options : QueryOptions}
    {info : TableInfo} {s : Statement}
    (h : Statement.select table columns options info = .ok s) : s.sql ∉ catalogTexts := by
  obtain ⟨⟨⟩, htable, h⟩ := ok_of_bind h
  cases hempty : columns.isEmpty with
  | true =>
    rw [hempty] at h
    cases h
  | false =>
    rw [hempty] at h
    obtain ⟨rows, -, h⟩ := ok_of_bind h
    obtain ⟨order, -, h⟩ := ok_of_bind h
    cases h
    obtain ⟨c, hc, hlist⟩ :=
      behindName?_selectList (isQualifiedIdentifier_of_checkTable htable) hempty
    exact Statement.notMem_catalogTexts rfl hc
      (behindName?_append (behindName?_append hlist table) _)

/-- A count is no question to the catalog. -/
theorem count_notMem_catalogTexts {table : String} {columns : ColumnSpec} {options : QueryOptions}
    {info : TableInfo} {s : Statement}
    (h : Statement.count table columns options info = .ok s) : s.sql ∉ catalogTexts := by
  obtain ⟨⟨⟩, -, h⟩ := ok_of_bind h
  cases hjoins : columns.hasJoins with
  | true =>
    rw [hjoins] at h
    cases h
  | false =>
    rw [hjoins] at h
    obtain ⟨rows, -, h⟩ := ok_of_bind h
    cases h
    have hcount : behindName? "SELECT COUNT(" = some '(' := by decide
    exact Statement.notMem_catalogTexts rfl (by decide)
      (behindName?_append (behindName?_append (behindName?_append hcount _) _) table)

/-- An insertion is no question to the catalog. -/
theorem insert_notMem_catalogTexts {table : String} {row : Record} {returning : Option String}
    {types : ColumnTypes} {s : Statement}
    (h : Statement.insert table row returning types = .ok s) : s.sql ∉ catalogTexts := by
  obtain ⟨⟨⟩, -, h⟩ := ok_of_bind h
  cases hempty : row.isEmpty with
  | true =>
    rw [hempty] at h
    cases h
  | false =>
    rw [hempty] at h
    obtain ⟨⟨⟩, -, h⟩ := ok_of_bind h
    obtain ⟨returned, -, h⟩ := ok_of_bind h
    cases h
    have hinto : behindName? "INSERT INTO " = some ' ' := by decide
    have htable := behindName?_append (behindName?_append hinto table) "("
    exact Statement.notMem_catalogTexts rfl (by decide)
      (behindName?_append (behindName?_append htable _) _)

/-- An update is no question to the catalog: its table is followed by a blank. -/
theorem update_notMem_catalogTexts {table : String} {data : Record} {options : QueryOptions}
    {info : TableInfo} {s : Statement}
    (h : Statement.update table data options info = .ok s) : s.sql ∉ catalogTexts := by
  obtain ⟨⟨⟩, htable, h⟩ := ok_of_bind h
  obtain ⟨⟨⟩, -, h⟩ := ok_of_bind h
  have ht := isQualifiedIdentifier_of_checkTable htable
  dsimp only at h
  cases hempty : (Statement.assignments data info).isEmpty with
  | true =>
    rw [hempty] at h
    cases h
  | false =>
    rw [hempty] at h
    obtain ⟨rows, -, h⟩ := ok_of_bind h
    obtain ⟨returned, -, h⟩ := ok_of_bind h
    cases h
    have htext : ("UPDATE " ++ table ++ " SET ").toList =
        "UPDATE ".toList ++ (table.toList ++ ' ' :: "SET ".toList) := by
      rw [String.append_assoc, String.toList_append, String.toList_append]
      rfl
    have hname := isNameChar_of_nameText (isQualifiedChars_iff.1 ht)
    exact Statement.notMem_catalogTexts rfl (by decide)
      (behindName?_of_toList_eq htext rfl hname (by decide))

/-- A deletion is no question to the catalog. -/
theorem delete_notMem_catalogTexts {table : String} {filter : Filter} {types : ColumnTypes}
    {s : Statement} (h : Statement.delete table filter types = .ok s) :
    s.sql ∉ catalogTexts := by
  obtain ⟨⟨⟩, -, h⟩ := ok_of_bind h
  obtain ⟨rows, -, h⟩ := ok_of_bind h
  cases h
  have hfrom : behindName? "DELETE FROM " = some ' ' := by decide
  exact Statement.notMem_catalogTexts rfl (by decide) (behindName?_append hfrom table)

/-- Of the statements that are built, those with one of the texts are the questions to the catalog,
and no others. -/
theorem Request.sql_mem_catalogTexts_iff {r : Request} {s : Statement}
    (h : r.statement = .ok s) : s.sql ∈ catalogTexts ↔ s.AsksCatalog := by
  refine ⟨fun hmem => ?_, fun hasks => hasks.sql_mem⟩
  cases r with
  | select table columns options info => exact absurd hmem (select_notMem_catalogTexts h)
  | count table columns options info => exact absurd hmem (count_notMem_catalogTexts h)
  | insert table row returning types => exact absurd hmem (insert_notMem_catalogTexts h)
  | update table data options info => exact absurd hmem (update_notMem_catalogTexts h)
  | delete table filter types => exact absurd hmem (delete_notMem_catalogTexts h)
  | columnExists table column =>
    cases h
    exact .columnExists table column
  | tableColumns table =>
    cases h
    exact .tableColumns table

end TableQuery
