import TableQuery.Proofs.ColumnSpec.Selection
import TableQuery.Proofs.Filter.Meaning
import TableQuery.Statement.Read

/-!
# What the parts of statements say

The clause on rows, the order, the paging and the returned columns of a statement, each with the
tokens that its text has. A clause on rows keeps deleted rows out by a test that is joined to the
whole predicate of the filter.
-/

namespace TableQuery

open TableQuery.Sql

/-- The column that marks deleted rows, as it is written. -/
def liveColumn (qualifier : Option String) : String :=
  match qualifier with
  | some table => table ++ "." ++ softDeleteColumn
  | none => softDeleteColumn

/-- The predicate on rows of a statement behind `count` parameters: that of its filter, and on a
table with soft deletion both that and the test for rows that are not deleted. -/
def Filter.rows (f : Filter) (qualifier : Option String) (info : TableInfo) (count : Nat) :
    Option RowPredicate :=
  let meaning := f.meaning qualifier info.columnTypes count
  if info.softDelete then some (joined .both (.isNull (liveColumn qualifier)) meaning) else meaning

/-- The column that marks deleted rows is a word. -/
theorem isWord_liveColumn {qualifier : Option String}
    (hq : ∀ table ∈ qualifier, isQualifiedIdentifier table = true) :
    isWord (liveColumn qualifier).toList = true := by
  have hcolumn : isWord softDeleteColumn.toList = true := by decide
  cases qualifier with
  | none => exact hcolumn
  | some table =>
    simpa [liveColumn] using
      isWord_qualified (isWord_of_isQualifiedIdentifier (hq table rfl)) hcolumn

/-- The text that keeps deleted rows out has the tokens of a test for null. -/
theorem lexed_liveRows {qualifier : Option String}
    (hq : ∀ table ∈ qualifier, isQualifiedIdentifier table = true) :
    Lexed (liveRows qualifier) (RowPredicate.isNull (liveColumn qualifier)).tokens := by
  have hnull : Follows " IS NULL" [keyword "IS", keyword "NULL"] := by decide
  have htext : liveRows qualifier = liveColumn qualifier ++ " IS NULL" := by
    cases qualifier <;> rfl
  rw [htext]
  exact (Lexed.word (isWord_liveColumn hq)).append hnull

/-- The guarded predicate has the tokens of both its sides: parentheses stand around the filter
exactly if it has alternatives. -/
theorem guardedPieces_follows {f : Filter} {qualifier : Option String} {types : ColumnTypes}
    {count : Nat} {compiled : Option Compiled}
    (hq : ∀ table ∈ qualifier, isQualifiedIdentifier table = true)
    (h : f.predicate qualifier types count = .ok compiled) :
    Follows (renderPieces (guardedPieces f qualifier compiled)) (rowTokens (some
      (joined .both (.isNull (liveColumn qualifier)) (f.meaning qualifier types count)))) := by
  have hwhere : Follows " WHERE " [keyword "WHERE"] := by decide
  have hlive := lexed_liveRows hq
  obtain ⟨-, -, ⟨rfl, hnone⟩ | ⟨p, e, rfl, he, hp⟩⟩ := Filter.predicate_ok hq h
  · rw [hnone, guardedPieces, renderPieces_cons, renderPieces_nil, String.append_empty]
    exact hwhere.append_of_getLast hlive (by decide)
  · have hbefore : (joined .both (.isNull (liveColumn qualifier)) (some e)).tokens =
        (if e.isEither then parenthesized e.tokens else e.tokens) ++ keyword "AND" ::
          (RowPredicate.isNull (liveColumn qualifier)).tokens := rfl
    rw [he, rowTokens, hbefore, Filter.isEither_meaning he, guardedPieces]
    split
    · next hor =>
      have hopen : Follows " WHERE (" [keyword "WHERE", .opening] := by decide
      have hclose : Follows ") AND " [.closing, keyword "AND"] := by decide
      have hguard := hclose.append_of_getLast hlive (by decide)
      have hall := (hopen.append_of_getLast hp (by decide)).append hguard
      rw [List.cons_append, renderPieces_cons, renderPieces_append, renderPieces_cons,
        renderPieces_nil, String.append_empty]
      simpa [Piece.render, parenthesized, String.append_assoc] using hall
    · have hand : Follows " AND " [keyword "AND"] := by decide
      have hguard := hand.append_of_getLast hlive (by decide)
      have hall := (hwhere.append_of_getLast hp (by decide)).append hguard
      rw [List.cons_append, renderPieces_cons, renderPieces_append, renderPieces_cons,
        renderPieces_nil, String.append_empty]
      simpa [Piece.render, String.append_assoc] using hall

/-- What the predicate of a filter says behind the keyword of a clause on rows. -/
theorem predicate_follows {f : Filter} {qualifier : Option String} {types : ColumnTypes}
    {count : Nat} {p : Compiled} (hq : ∀ table ∈ qualifier, isQualifiedIdentifier table = true)
    (h : f.predicate qualifier types count = .ok (some p)) :
    Follows (renderPieces (.text " WHERE " :: p.pieces))
      (rowTokens (f.meaning qualifier types count)) := by
  have hwhere : Follows " WHERE " [keyword "WHERE"] := by decide
  obtain ⟨-, -, ⟨hnone, -⟩ | ⟨p, e, hsome, he, hp⟩⟩ := Filter.predicate_ok hq h
  · cases hnone
  · cases hsome
    rw [he, renderPieces_cons]
    exact hwhere.append_of_getLast hp (by decide)

/-- What the clause on rows of a read or an update says: its text has the tokens of the guarded
predicate, and it binds the values of the filter. -/
theorem whereClause_ok {f : Filter} {qualifier : Option String} {info : TableInfo} {count : Nat}
    {rows : Compiled} (hq : ∀ table ∈ qualifier, isQualifiedIdentifier table = true)
    (h : whereClause f qualifier info count = .ok rows) :
    (∀ c ∈ f.conditions, c.Accepted) ∧ rows.values = f.boundValues ∧
      Follows (renderPieces rows.pieces) (rowTokens (f.rows qualifier info count)) := by
  obtain ⟨compiled, hp, h⟩ := ok_of_bind h
  obtain ⟨haccepted, hvalues, hcases⟩ := Filter.predicate_ok hq hp
  rw [← hvalues, Filter.rows]
  cases hsoft : info.softDelete with
  | true =>
    simp only [hsoft, if_true] at h ⊢
    cases h
    refine ⟨haccepted, ?_, guardedPieces_follows hq hp⟩
    cases compiled <;> rfl
  | false =>
    simp only [hsoft, Bool.false_eq_true, if_false] at h ⊢
    cases compiled with
    | none =>
      cases h
      obtain ⟨-, hnone⟩ | ⟨p, e, hsome, -⟩ := hcases
      · rw [hnone]
        exact ⟨haccepted, rfl, Follows.empty⟩
      · cases hsome
    | some p =>
      cases h
      exact ⟨haccepted, rfl, predicate_follows hq hp⟩

/-- What the clause on rows of a deletion says: its text has the tokens of the filter's predicate,
and it binds the values of the filter. -/
theorem clause_ok {f : Filter} {qualifier : Option String} {types : ColumnTypes} {count : Nat}
    {rows : Compiled} (hq : ∀ table ∈ qualifier, isQualifiedIdentifier table = true)
    (h : f.clause qualifier types count = .ok rows) :
    (∀ c ∈ f.conditions, c.Accepted) ∧ rows.values = f.boundValues ∧
      Follows (renderPieces rows.pieces) (rowTokens (f.meaning qualifier types count)) := by
  obtain ⟨compiled, hp, h⟩ := ok_of_bind h
  obtain ⟨haccepted, hvalues, hcases⟩ := Filter.predicate_ok hq hp
  rw [← hvalues]
  cases compiled with
  | none =>
    cases h
    obtain ⟨-, hnone⟩ | ⟨p, e, hsome, -⟩ := hcases
    · rw [hnone]
      exact ⟨haccepted, rfl, Follows.empty⟩
    · cases hsome
  | some p =>
    cases h
    exact ⟨haccepted, rfl, predicate_follows hq hp⟩

/-- The guarded predicate of accepted conditions uses known operators only. -/
theorem Filter.readable_rows {f : Filter} (h : ∀ c ∈ f.conditions, c.Accepted)
    (qualifier : Option String) (info : TableInfo) (count : Nat) :
    ∀ p ∈ f.rows qualifier info count, p.Readable := by
  have hmeaning := f.readable_meaning h qualifier info.columnTypes count
  intro p hp
  rw [Filter.rows] at hp
  split at hp
  · cases hp
    cases hm : f.meaning qualifier info.columnTypes count with
    | none => exact List.forall_mem_nil _
    | some e =>
      have he := hmeaning e hm
      exact List.forall_mem_append.2 ⟨he, List.forall_mem_nil _⟩
  · exact hmeaning p hp

/-- Every row that satisfies the guarded predicate is a row that is not deleted. -/
theorem Filter.isNull_of_rows {f : Filter} {qualifier : Option String} {info : TableInfo}
    {count : Nat} (hsoft : info.softDelete = true) {p : RowPredicate}
    (hp : f.rows qualifier info count = some p) {row : StoredRow} (h : p.Holds row) :
    row.isNull (liveColumn qualifier) = true := by
  simp only [Filter.rows, hsoft, if_true, Option.some.injEq] at hp
  subst hp
  cases hm : f.meaning qualifier info.columnTypes count with
  | none =>
    rw [hm] at h
    exact Option.some.inj h
  | some e =>
    rw [hm] at h
    exact Option.some.inj (RowPredicate.holds_both.1 h).2

/-- There is no predicate exactly for an empty filter on a table without soft deletion. -/
theorem Filter.rows_eq_none_iff {f : Filter} {qualifier : Option String} {info : TableInfo}
    {count : Nat} :
    f.rows qualifier info count = none ↔ f.isEmpty = true ∧ info.softDelete = false := by
  have hmeaning : f.meaning qualifier info.columnTypes count = none ↔ f.isEmpty = true :=
    f.meaning_eq_none_iff
  rw [Filter.rows, ← hmeaning]
  cases info.softDelete <;> simp

/-- The column and the direction to sort by, if a column is given. -/
def QueryOptions.sorting (o : QueryOptions) : Option (String × Option String) :=
  match o.orderBy with
  | none => none
  | some column =>
    if column.isEmpty then none else some (column, some (o.order.getD .ascending).keyword)

/-- The number of a count, unless it is absent or zero. -/
def pagingNumber (count : Option UInt64) : Option String :=
  match count with
  | some n => if n = 0 then none else some (Decimal.natText n.toNat)
  | none => none

/-- The text that the caller adds is absent or blank. -/
def QueryOptions.AddsNothing (o : QueryOptions) : Prop :=
  ∀ text ∈ o.extra, Text.isBlankText text = true

/-- The columns that are returned. -/
def returnedColumns (returning : Option String) : List String :=
  match ColumnSpec.parse (returning.getD "") with
  | .ok spec => if spec.isEmpty then [defaultReturning] else spec.baseColumns
  | .error _ => []

/-- A number is a word. -/
theorem isWord_natText (n : Nat) : isWord (Decimal.natText n).toList = true := by
  have hne : Decimal.digits n ≠ [] := Nat.toDigits_ne_nil
  simp only [Decimal.natText, String.toList_ofList, isWord, Bool.and_eq_true, List.all_eq_true]
  refine ⟨by simpa using hne, fun c hc => ?_⟩
  simp [isWordChar, isIdentifierPart, Char.isAlphanum, Decimal.isDigit_of_mem_digits hc]

/-- A blank text adds nothing. -/
theorem extraPieces_of_addsNothing {o : QueryOptions} (h : o.AddsNothing) :
    extraPieces o.extra = [] := by
  cases he : o.extra with
  | none => rfl
  | some text => exact if_pos (h text he)

/-- What an order says. -/
theorem orderPieces_ok {o : QueryOptions} {pieces : List Piece}
    (h : orderPieces o.orderBy o.order = .ok pieces) :
    Follows (renderPieces pieces) (orderTokens o.sorting) := by
  rw [QueryOptions.sorting]
  cases ho : o.orderBy with
  | none =>
    rw [ho] at h
    cases h
    exact Follows.empty
  | some column =>
    simp only [orderPieces, ho] at h
    split at h
    · next hempty =>
      cases h
      simp only [hempty, if_true]
      exact Follows.empty
    · next hempty =>
      split at h
      · next hname =>
        cases h
        have hby : Follows " ORDER BY " [keyword "ORDER", keyword "BY"] := by decide
        have hdirection : Follows (" " ++ (o.order.getD .ascending).keyword)
            [nameToken (o.order.getD .ascending).keyword] := by
          cases o.order.getD .ascending <;> decide
        have hall := (hby.append_of_getLast (Lexed.word (isWord_of_isQualifiedIdentifier hname))
          (by decide)).append hdirection
        simp only [hempty, Bool.false_eq_true, if_false, renderPieces_cons, renderPieces_nil,
          String.append_empty, Piece.render]
        rw [String.append_assoc]
        exact hall
      · cases h

/-- What paging says, behind a text that is read as its keyword. -/
theorem pagingPieces_follows {text word : String} (htext : Follows text [keyword word])
    (hend : endsFree text = true) (count : Option UInt64) :
    Follows (renderPieces (pagingPieces text count)) (pagingTokens word (pagingNumber count)) := by
  cases count with
  | none => exact Follows.empty
  | some n =>
    simp only [pagingPieces, pagingNumber]
    split
    · exact Follows.empty
    · rw [renderPieces_cons, renderPieces_nil, String.append_empty]
      exact htext.append_of_getLast (Lexed.word (isWord_natText n.toNat)) hend

/-- A spec without joins selects its columns. -/
theorem ColumnSpec.selectList_of_not_hasJoins {s : ColumnSpec} (h : s.hasJoins = false)
    (table : String) : s.selectList table = Text.join ", " s.baseColumns := by
  rw [selectList, selection, h, if_neg (by decide)]

/-- What the list of returned columns says. At least one column is returned. -/
theorem returningList_ok {returning : Option String} {text : String}
    (h : returningList returning = .ok text) :
    returnedColumns returning ≠ [] ∧
      Lexed text (listTokens ((returnedColumns returning).map fun c => [nameToken c])) := by
  rw [returnedColumns]
  obtain ⟨spec, hspec, h⟩ := ok_of_bind h
  rw [hspec]
  cases hempty : spec.isEmpty with
  | true =>
    simp only [hempty, if_true] at h ⊢
    cases h
    exact ⟨by simp, by decide⟩
  | false =>
    simp only [hempty, Bool.false_eq_true, if_false] at h ⊢
    split at h
    · cases h
    · next hjoins =>
      cases h
      have hitems : spec.items ≠ [] := by simpa [ColumnSpec.isEmpty] using hempty
      rw [ColumnSpec.selectList_of_not_hasJoins (by simpa using hjoins)]
      exact ⟨by simpa [ColumnSpec.baseColumns] using hitems,
        Lexed.join_names fun name hmem => ColumnSpec.isWord_of_mem_baseColumns hmem⟩

/-- A table that passes its check is an identifier with at most one qualifier. -/
theorem isQualifiedIdentifier_of_checkTable {table : String} (h : checkTable table = .ok ()) :
    isQualifiedIdentifier table = true := by
  rw [checkTable] at h
  split at h
  · assumption
  · cases h

/-- No qualifier needs no check. -/
theorem isQualifiedIdentifier_of_mem_none :
    ∀ t ∈ (none : Option String), isQualifiedIdentifier t = true :=
  fun _ ht => by cases ht

/-- What a statement means: its text has the tokens of a query that can be read back, and it binds
given values. -/
structure Statement.Means (s : Statement) (q : Query) (values : List Value) : Prop where
  /-- The query can be read back from its tokens. -/
  readable : q.Readable
  /-- The text has the tokens of the query. -/
  lexed : Lexed s.sql q.tokens
  /-- These values are bound. -/
  parameters : s.parameters = values

/-- The text of a statement is read as the query that it means. -/
theorem Statement.Means.ofText {s : Statement} {q : Query} {values : List Value}
    (h : s.Means q values) : Query.ofText s.sql = some q :=
  Query.ofText_of_lexed h.readable h.lexed

end TableQuery
