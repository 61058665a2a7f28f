import TableQuery.Proofs.Filter.Written
import TableQuery.Proofs.Sql.Casts
import TableQuery.Proofs.Statement.Request

/-!
# Requests without declared types

What is asked for with no type declared for any column is the same statement without its casts: the
pieces are the same but for the casts of placeholders, and these can be deleted from the text.
-/

namespace TableQuery

open TableQuery.Sql

/-- A part of a statement without casts. -/
def Compiled.bare (p : Compiled) : Compiled :=
  { p with pieces := p.pieces.map Piece.bare }

/-- A statement without casts. -/
def Statement.bare (s : Statement) : Statement :=
  { s with pieces := s.pieces.map Piece.bare }

/-- The facts about a table without the types of its columns. -/
def TableInfo.untyped (info : TableInfo) : TableInfo :=
  { info with columnTypes := .empty }

/-- The request without declared types. -/
def Request.untyped : Request → Request
  | .select table columns options info => .select table columns options info.untyped
  | .count table columns options info => .count table columns options info.untyped
  | .insert table row returning _ => .insert table row returning .empty
  | .update table data options info => .update table data options info.untyped
  | .delete table filter _ => .delete table filter .empty
  | .columnExists table column => .columnExists table column
  | .tableColumns table => .tableColumns table

/-- Nothing is cast without declared types. -/
theorem Condition.castType_empty (c : Condition) (v : Value) : c.castType .empty v = none := by
  rw [castType]
  split
  · rfl
  · split <;> rfl

/-- A condition is written without its cast where no types are declared. -/
theorem Condition.written_empty (c : Condition) (qualifier : Option String) (types : ColumnTypes)
    (count : Nat) :
    c.written qualifier .empty count = (c.written qualifier types count).bare := by
  rw [written, written]
  cases c.value with
  | isNull => rfl
  | notNull => rfl
  | value v =>
    dsimp only
    rw [c.castType_empty]
    rfl

/-- Conditions that follow others are written without casts where no types are declared. -/
theorem writtenRest_empty (qualifier : Option String) (types : ColumnTypes) (count : Nat)
    (conditions : List Condition) :
    writtenRest qualifier .empty count conditions =
      (writtenRest qualifier types count conditions).bare := by
  induction conditions generalizing count with
  | nil => rfl
  | cons c rest ih =>
    rw [writtenRest, writtenRest, ih, c.written_empty qualifier types]
    simp only [Compiled.bare, List.map_cons, List.map_append]
    rfl

namespace Filter

/-- A filter is written without casts where no types are declared. -/
theorem written_empty (f : Filter) (qualifier : Option String) (types : ColumnTypes)
    (count : Nat) :
    f.written qualifier .empty count = (f.written qualifier types count).map Compiled.bare := by
  rw [written, written]
  cases f.conditions with
  | nil => rfl
  | cons c rest =>
    dsimp only
    rw [writtenRest_empty qualifier types, c.written_empty qualifier types]
    simp only [Compiled.bare, Option.map_some, List.map_append]

/-- The clause of a filter is written without casts where no types are declared. -/
theorem writtenClause_empty (f : Filter) (qualifier : Option String) (types : ColumnTypes)
    (count : Nat) :
    f.writtenClause qualifier .empty count =
      (f.writtenClause qualifier types count).map Piece.bare := by
  rw [writtenClause, writtenClause, f.written_empty qualifier types]
  cases f.written qualifier types count <;> rfl

/-- The clause on rows is written without casts where no types are declared. -/
theorem writtenRows_untyped (f : Filter) (qualifier : Option String) (info : TableInfo)
    (count : Nat) :
    f.writtenRows qualifier info.untyped count =
      (f.writtenRows qualifier info count).map Piece.bare := by
  have hwritten := f.written_empty qualifier info.columnTypes count
  rw [writtenRows, writtenRows, TableInfo.untyped]
  dsimp only
  rw [hwritten, f.writtenClause_empty qualifier info.columnTypes]
  split
  · cases f.written qualifier info.columnTypes count with
    | none => rfl
    | some p =>
      simp only [guardedPieces, Option.map_some, Compiled.bare]
      split <;> simp [Piece.bare]
  · rfl

end Filter

/-- An order has no casts. -/
theorem map_bare_order {orderBy : Option String} {order : Option SortOrder} {pieces : List Piece}
    (h : orderPieces orderBy order = .ok pieces) : pieces.map Piece.bare = pieces := by
  cases orderBy with
  | none =>
    cases h
    rfl
  | some column =>
    rw [orderPieces] at h
    split at h
    · cases h
      rfl
    · split at h
      · cases h
        rfl
      · cases h

/-- Paging has no casts. -/
theorem map_bare_paging (keyword : String) (count : Option UInt64) :
    (pagingPieces keyword count).map Piece.bare = pagingPieces keyword count := by
  unfold pagingPieces
  split
  · split <;> rfl
  · rfl

/-- What a caller adds has no casts of its own. -/
theorem map_bare_extra (extra : Option String) :
    (extraPieces extra).map Piece.bare = extraPieces extra := by
  unfold extraPieces
  split
  · split <;> rfl
  · rfl

namespace Statement

/-- The placeholders of fields have no casts where no types are declared. -/
theorem fieldPlaceholders_empty (types : ColumnTypes) (number : Nat)
    (fields : List (String × Value)) :
    fieldPlaceholders .empty number fields =
      (fieldPlaceholders types number fields).map fun p => (p.1, p.2.bare) := by
  induction fields generalizing number with
  | nil => rfl
  | cons field rest ih =>
    obtain ⟨column, value⟩ := field
    have hplaceholder : ColumnTypes.empty.placeholder column number value =
        (types.placeholder column number value).bare := by
      rw [ColumnTypes.placeholder]
      split <;> rfl
    rw [fieldPlaceholders, fieldPlaceholders, ih, hplaceholder]
    rfl

/-- The assignments of an update have no casts where no types are declared. -/
theorem assignments_untyped (data : Record) (info : TableInfo) :
    assignments data info.untyped = (assignments data info).map (List.map Piece.bare) := by
  have hfields : (fieldPlaceholders .empty 1 data.fields).map (fun p => assignment p.1 p.2) =
      ((fieldPlaceholders info.columnTypes 1 data.fields).map fun p =>
        assignment p.1 p.2).map (List.map Piece.bare) := by
    rw [fieldPlaceholders_empty info.columnTypes, List.map_map, List.map_map]
    rfl
  rw [assignments, assignments, TableInfo.untyped]
  dsimp only
  rw [hfields]
  split
  · rw [List.map_append]
    rfl
  · rfl

/-- A selection without declared types is the selection without casts. -/
theorem select_untyped (table : String) (columns : ColumnSpec) (options : QueryOptions)
    (info : TableInfo) :
    select table columns options info.untyped =
      (select table columns options info).map bare := by
  rw [select, select]
  cases checkTable table with
  | error e => rfl
  | ok u =>
    cases columns.isEmpty with
    | true => rfl
    | false =>
      change (whereClause options.filter _ info.untyped 0 >>= _) =
        Except.map bare (whereClause options.filter _ info 0 >>= _)
      rw [whereClause_eq, whereClause_eq, Filter.writtenRows_untyped]
      cases options.filter.check with
      | error e => rfl
      | ok u =>
        cases horder : orderPieces options.orderBy options.order with
        | error e => rfl
        | ok order =>
          change Except.ok _ = Except.ok (bare _)
          simp only [bare, List.map_append, List.map_cons, map_bare_order horder,
            map_bare_extra, map_bare_paging]
          rfl

/-- A count without declared types is the count without casts. -/
theorem count_untyped (table : String) (columns : ColumnSpec) (options : QueryOptions)
    (info : TableInfo) :
    count table columns options info.untyped = (count table columns options info).map bare := by
  rw [count, count]
  cases checkTable table with
  | error e => rfl
  | ok u =>
    cases columns.hasJoins with
    | true => rfl
    | false =>
      change (whereClause options.filter none info.untyped 0 >>= _) =
        Except.map bare (whereClause options.filter none info 0 >>= _)
      rw [whereClause_eq, whereClause_eq, Filter.writtenRows_untyped]
      cases options.filter.check with
      | error e => rfl
      | ok u =>
        change Except.ok _ = Except.ok (bare _)
        simp only [bare, List.map_append, List.map_cons, map_bare_extra]
        rfl

/-- An insertion without declared types is the insertion without casts. -/
theorem insert_untyped (table : String) (row : Record) (returning : Option String)
    (types : ColumnTypes) :
    insert table row returning .empty = (insert table row returning types).map bare := by
  rw [insert, insert, fieldPlaceholders_empty types]
  cases checkTable table with
  | error e => rfl
  | ok u =>
    cases row.isEmpty with
    | true => rfl
    | false =>
      cases row.columns.forM checkColumn with
      | error e => rfl
      | ok u =>
        cases returningList returning with
        | error e => rfl
        | ok returned =>
          change Except.ok _ = Except.ok (bare _)
          simp only [bare, List.map_append, List.map_cons, map_bare_separated, List.map_map]
          rfl

/-- An update without declared types is the update without casts. -/
theorem update_untyped (table : String) (data : Record) (options : QueryOptions)
    (info : TableInfo) :
    update table data options info.untyped = (update table data options info).map bare := by
  rw [update, update, assignments_untyped]
  cases checkTable table with
  | error e => rfl
  | ok u =>
    cases data.columns.forM checkColumn with
    | error e => rfl
    | ok u =>
      dsimp only
      rw [List.isEmpty_map]
      cases (assignments data info).isEmpty with
      | true => rfl
      | false =>
        change (whereClause options.filter none info.untyped data.size >>= _) =
          Except.map bare (whereClause options.filter none info data.size >>= _)
        rw [whereClause_eq, whereClause_eq, Filter.writtenRows_untyped]
        cases options.filter.check with
        | error e => rfl
        | ok u =>
          cases returningList options.returning with
          | error e => rfl
          | ok returned =>
            change Except.ok _ = Except.ok (bare _)
            simp only [bare, List.map_append, List.map_cons, map_bare_separated]
            rfl

/-- A deletion without declared types is the deletion without casts. -/
theorem delete_untyped (table : String) (filter : Filter) (types : ColumnTypes) :
    delete table filter .empty = (delete table filter types).map bare := by
  rw [delete, delete]
  cases checkTable table with
  | error e => rfl
  | ok u =>
    change (filter.clause none .empty 0 >>= _) = Except.map bare (filter.clause none types 0 >>= _)
    rw [filter.clause_eq, filter.clause_eq, filter.writtenClause_empty none types]
    cases filter.check <;> rfl

/-- The test for a schema has no cast. -/
theorem map_bare_schemaPredicate (number : Nat) (schema : Option String) :
    (schemaPredicate number schema).1.map Piece.bare = (schemaPredicate number schema).1 := by
  cases schema <;> rfl

/-- A question for one column has no casts. -/
theorem bare_columnExists (table column : String) :
    (columnExists table column).bare = columnExists table column := by
  simp only [columnExists, bare, List.map_append, map_bare_schemaPredicate]
  rfl

/-- A question for all columns has no casts. -/
theorem bare_tableColumns (table : String) : (tableColumns table).bare = tableColumns table := by
  simp only [tableColumns, bare, List.map_append, map_bare_schemaPredicate]
  rfl

end Statement

/-- What is asked for without declared types is built exactly if it is built with them, and then it
is the same statement without casts. -/
theorem Request.statement_untyped (r : Request) :
    r.untyped.statement = r.statement.map Statement.bare := by
  cases r with
  | select table columns options info => exact Statement.select_untyped table columns options info
  | count table columns options info => exact Statement.count_untyped table columns options info
  | insert table row returning types => exact Statement.insert_untyped table row returning types
  | update table data options info => exact Statement.update_untyped table data options info
  | delete table filter types => exact Statement.delete_untyped table filter types
  | columnExists table column =>
    exact congrArg Except.ok (Statement.bare_columnExists table column).symm
  | tableColumns table => exact congrArg Except.ok (Statement.bare_tableColumns table).symm

/-- A word holds no dollar sign. -/
theorem notMem_dollar_of_isWord {s : String} (h : isWord s.toList = true) : '$' ∉ s.toList :=
  notMem_dollar (Lexed.word h) rfl

/-- Texts without dollar signs in a row hold none. -/
theorem notMem_dollar_append {s t : String} (hs : '$' ∉ s.toList) (ht : '$' ∉ t.toList) :
    '$' ∉ (s ++ t).toList := by
  rw [String.toList_append, List.mem_append, not_or]
  exact ⟨hs, ht⟩

/-- A condition that passes its check is well spaced. -/
theorem Condition.wellSpaced_written {c : Condition} (h : c.check = .ok ())
    {qualifier : Option String} (hq : ∀ table ∈ qualifier, isQualifiedIdentifier table = true)
    (types : ColumnTypes) (count : Nat) :
    WellSpaced (c.written qualifier types count).pieces := by
  have hcompile := c.compile_eq qualifier types count
  rw [h] at hcompile
  obtain ⟨haccepted, -, -⟩ := compile_ok hq hcompile
  have hcolumn := notMem_dollar_of_isWord (isWord_writtenColumn haccepted.1 hq)
  have hoperators : ∀ operator ∈ operators, '$' ∉ operator.toList := by decide
  rw [written]
  cases hvalue : c.value with
  | isNull => exact ⟨notMem_dollar_append hcolumn (by decide), trivial⟩
  | notNull => exact ⟨notMem_dollar_append hcolumn (by decide), trivial⟩
  | value v =>
    have hknown := hoperators _ (haccepted.2 (by rw [hvalue]; exact List.cons_ne_nil _ _))
    exact ⟨notMem_dollar_append (notMem_dollar_append (notMem_dollar_append hcolumn (by decide))
      hknown) (by decide), rfl, trivial⟩

/-- Conditions that follow others begin with a delimiter. -/
theorem startsFree_writtenRest (qualifier : Option String) (types : ColumnTypes) (count : Nat)
    (conditions : List Condition) :
    startsFree (renderPieces (writtenRest qualifier types count conditions).pieces) = true := by
  cases conditions with
  | nil => rfl
  | cons c rest => exact startsFree_cons (by cases c.connective <;> decide) _

/-- Conditions that pass their checks are well spaced behind others. -/
theorem wellSpaced_writtenRest {conditions : List Condition}
    (h : conditions.forM Condition.check = .ok ()) {qualifier : Option String}
    (hq : ∀ table ∈ qualifier, isQualifiedIdentifier table = true) (types : ColumnTypes)
    (count : Nat) : WellSpaced (writtenRest qualifier types count conditions).pieces := by
  induction conditions generalizing count with
  | nil => trivial
  | cons c rest ih =>
    obtain ⟨u, hc, hrest⟩ := ok_of_bind h
    have hkeyword : '$' ∉ c.connective.keyword.toList := by cases c.connective <;> decide
    exact ⟨hkeyword, (Condition.wellSpaced_written hc hq types count).append (ih hrest _)
      (startsFree_writtenRest qualifier types _ rest)⟩

namespace Filter

variable {f : Filter} {qualifier : Option String}

/-- A filter that passes its check is well spaced. -/
theorem wellSpaced_written (h : f.check = .ok ())
    (hq : ∀ table ∈ qualifier, isQualifiedIdentifier table = true) (types : ColumnTypes)
    (count : Nat) : ∀ p ∈ f.written qualifier types count, WellSpaced p.pieces := by
  intro p hp
  rw [check] at h
  rw [written] at hp
  cases hf : f.conditions with
  | nil =>
    rw [hf] at hp
    cases hp
  | cons c rest =>
    rw [hf] at h hp
    cases hp
    obtain ⟨u, hc, hrest⟩ := ok_of_bind h
    exact (Condition.wellSpaced_written hc hq types count).append
      (wellSpaced_writtenRest hrest hq types _) (startsFree_writtenRest qualifier types _ rest)

/-- The clause of a filter that passes its check is well spaced and begins with a blank. -/
theorem wellSpaced_writtenClause (h : f.check = .ok ())
    (hq : ∀ table ∈ qualifier, isQualifiedIdentifier table = true) (types : ColumnTypes)
    (count : Nat) :
    WellSpaced (f.writtenClause qualifier types count) ∧
      startsFree (renderPieces (f.writtenClause qualifier types count)) = true := by
  have hwritten := wellSpaced_written h hq types count
  rw [writtenClause]
  cases hp : f.written qualifier types count with
  | none => exact ⟨trivial, rfl⟩
  | some p => exact ⟨⟨by decide, hwritten p hp⟩, startsFree_cons (by decide) _⟩

/-- A guard behind a filter, with a parenthesis around the filter if there is one, leaves it well
spaced. -/
theorem wellSpaced_guarded {pieces : List Piece} (h : WellSpaced pieces)
    {front behind guard : String} (hfront : '$' ∉ front.toList)
    (hbehind : '$' ∉ (behind ++ guard).toList)
    (hdelimiter : behind.toList.head?.any isDelimiter = true) :
    WellSpaced (.text front :: pieces ++ [.text (behind ++ guard)]) := by
  have hhead : (behind ++ guard).toList.head?.any isDelimiter = true := by
    rw [String.toList_append]
    cases hcs : behind.toList with
    | nil =>
      rw [hcs] at hdelimiter
      cases hdelimiter
    | cons c cs => rwa [hcs] at hdelimiter
  exact ⟨hfront, h.append ⟨hbehind, trivial⟩ (startsFree_cons hhead [])⟩

/-- The clause on rows of a filter that passes its check is well spaced and begins with a blank. -/
theorem wellSpaced_writtenRows (h : f.check = .ok ())
    (hq : ∀ table ∈ qualifier, isQualifiedIdentifier table = true) (info : TableInfo)
    (count : Nat) :
    WellSpaced (f.writtenRows qualifier info count) ∧
      startsFree (renderPieces (f.writtenRows qualifier info count)) = true := by
  have hlive := notMem_dollar (lexed_liveRows hq) rfl
  have hwritten := wellSpaced_written h hq info.columnTypes count
  rw [writtenRows]
  split
  · cases hp : f.written qualifier info.columnTypes count with
    | none =>
      exact ⟨⟨notMem_dollar_append (s := " WHERE ") (by decide) hlive, trivial⟩,
        startsFree_cons (by simp [isDelimiter]) _⟩
    | some p =>
      rw [guardedPieces]
      split
      · exact ⟨wellSpaced_guarded (hwritten p hp) (by decide)
          (notMem_dollar_append (by decide) hlive) (by decide), startsFree_cons (by decide) _⟩
      · exact ⟨wellSpaced_guarded (hwritten p hp) (by decide)
          (notMem_dollar_append (by decide) hlive) (by decide), startsFree_cons (by decide) _⟩
  · exact wellSpaced_writtenClause h hq info.columnTypes count

end Filter

namespace Statement

/-- What a selection that is built looks like: its head, the clause on rows and the order, and
behind them what the caller adds and the paging. -/
theorem select_ok {table : String} {columns : ColumnSpec} {options : QueryOptions}
    {info : TableInfo} {s : Statement} (h : select table columns options info = .ok s) :
    isQualifiedIdentifier table = true ∧ columns.isEmpty = false ∧ options.filter.check = .ok () ∧
      ∃ order, orderPieces options.orderBy options.order = .ok order ∧
        s = ⟨.text ("SELECT " ++ columns.selectList table ++ " FROM " ++ table ++
            columns.joinClauses table) ::
          (options.filter.writtenRows (columns.qualifier table) info 0 ++ (order ++
            (extraPieces options.extra ++ (pagingPieces " OFFSET " options.skip ++
              pagingPieces " LIMIT " options.limit)))), options.filter.boundValues, false⟩ := by
  obtain ⟨⟨⟩, htable, h⟩ := ok_of_bind h
  refine ⟨isQualifiedIdentifier_of_checkTable htable, ?_⟩
  cases hempty : columns.isEmpty with
  | true =>
    rw [hempty] at h
    cases h
  | false =>
    rw [hempty] at h
    obtain ⟨rows, hrows, h⟩ := ok_of_bind h
    obtain ⟨order, horder, h⟩ := ok_of_bind h
    cases h
    obtain ⟨hcheck, rfl⟩ := of_whereClause hrows
    refine ⟨rfl, hcheck, order, horder, ?_⟩
    simp only [List.cons_append, List.append_assoc]
    rfl

/-- An order is well spaced and begins with a blank. -/
theorem wellSpaced_order {options : QueryOptions} {order : List Piece}
    (h : orderPieces options.orderBy options.order = .ok order) :
    WellSpaced order ∧ startsFree (renderPieces order) = true := by
  obtain ⟨hlexed, hfree⟩ := orderPieces_ok h
  refine ⟨.of_lexed hlexed ?_, hfree⟩
  rcases options.sorting with _ | ⟨column, _ | direction⟩ <;> rfl

/-- Paging is well spaced and begins with a blank. -/
theorem wellSpaced_paging (skip limit : Option UInt64) :
    WellSpaced (pagingPieces " OFFSET " skip ++ pagingPieces " LIMIT " limit) ∧
      startsFree (renderPieces (pagingPieces " OFFSET " skip ++ pagingPieces " LIMIT " limit)) =
        true := by
  have hoffset : Follows " OFFSET " [keyword "OFFSET"] := by decide
  have hlimit : Follows " LIMIT " [keyword "LIMIT"] := by decide
  have hpaging := (pagingPieces_follows hoffset (by decide) skip).append
    (pagingPieces_follows hlimit (by decide) limit)
  rw [← renderPieces_append] at hpaging
  refine ⟨.of_lexed hpaging.lexed ?_, hpaging.free⟩
  cases pagingNumber skip <;> cases pagingNumber limit <;> rfl

/-- What a caller adds, and the paging behind it, begins with a blank. -/
theorem startsFree_behind (options : QueryOptions) :
    startsFree (renderPieces (extraPieces options.extra ++ (pagingPieces " OFFSET " options.skip ++
      pagingPieces " LIMIT " options.limit))) = true := by
  have hextra : startsFree (renderPieces (extraPieces options.extra)) = true := by
    unfold extraPieces
    split
    · split
      · rfl
      · exact startsFree_cons (by simp [isDelimiter]) []
    · rfl
  rw [renderPieces_append]
  exact startsFree_append hextra (wellSpaced_paging options.skip options.limit).2

/-- A selection is well spaced. -/
theorem wellSpaced_select {table : String} {columns : ColumnSpec} {options : QueryOptions}
    {info : TableInfo} {s : Statement} (hextra : options.AddsNothing)
    (h : select table columns options info = .ok s) : WellSpaced s.pieces := by
  obtain ⟨ht, -, hcheck, order, horder, rfl⟩ := select_ok h
  obtain ⟨hrows, hrowsFree⟩ := Filter.wellSpaced_writtenRows hcheck
    (isQualifiedIdentifier_of_mem_qualifier ht columns) info 0
  obtain ⟨horder, horderFree⟩ := wellSpaced_order horder
  obtain ⟨hpaging, hpagingFree⟩ := wellSpaced_paging options.skip options.limit
  have htailFree : startsFree (renderPieces (order ++ (pagingPieces " OFFSET " options.skip ++
      pagingPieces " LIMIT " options.limit))) = true := by
    rw [renderPieces_append]
    exact startsFree_append horderFree hpagingFree
  rw [extraPieces_of_addsNothing hextra, List.nil_append]
  exact ⟨notMem_dollar (selectHead_lexed ht columns) (Query.filterMap_tokens _),
    hrows.append (horder.append hpaging hpagingFree) htailFree⟩

/-- A count is well spaced. -/
theorem wellSpaced_count {table : String} {columns : ColumnSpec} {options : QueryOptions}
    {info : TableInfo} {s : Statement} (hextra : options.AddsNothing)
    (h : count table columns options info = .ok s) : WellSpaced s.pieces := by
  obtain ⟨⟨⟩, htable, h⟩ := ok_of_bind h
  have ht := isQualifiedIdentifier_of_checkTable htable
  cases hjoins : columns.hasJoins with
  | true =>
    rw [hjoins] at h
    cases h
  | false =>
    rw [hjoins] at h
    obtain ⟨rows, hrows, h⟩ := ok_of_bind h
    cases h
    obtain ⟨hcheck, rfl⟩ := of_whereClause hrows
    obtain ⟨hrows, hfree⟩ := Filter.wellSpaced_writtenRows hcheck
      isQualifiedIdentifier_of_mem_none info 0
    have htarget := notMem_dollar (countColumns_lexed hjoins table).2 (filterMap_names _)
    have htable := notMem_dollar_of_isWord (isWord_of_isQualifiedIdentifier ht)
    simp only [extraPieces_of_addsNothing hextra, List.append_nil]
    exact ⟨notMem_dollar_append (notMem_dollar_append (notMem_dollar_append (by decide) htarget)
      (by decide)) htable, hrows⟩

/-- The list of returned columns holds no dollar sign. -/
theorem notMem_dollar_returning {returning : Option String} {text : String}
    (h : returningList returning = .ok text) : '$' ∉ text.toList :=
  notMem_dollar (returningList_ok h).2 (filterMap_names _)

/-- An insertion is well spaced. -/
theorem wellSpaced_insert {table : String} {row : Record} {returning : Option String}
    {types : ColumnTypes} {s : Statement} (h : insert table row returning types = .ok s) :
    WellSpaced s.pieces := by
  obtain ⟨⟨⟩, htable, h⟩ := ok_of_bind h
  have ht := isQualifiedIdentifier_of_checkTable htable
  cases hempty : row.isEmpty with
  | true =>
    rw [hempty] at h
    cases h
  | false =>
    rw [hempty] at h
    obtain ⟨⟨⟩, hcolumns, h⟩ := ok_of_bind h
    obtain ⟨returned, hreturned, h⟩ := ok_of_bind h
    cases h
    have htable := notMem_dollar_of_isWord (isWord_of_isQualifiedIdentifier ht)
    have hnames := notMem_dollar (Lexed.join_names fun column hmem =>
      isWord_of_isIdentifier (isIdentifier_of_mem_columns hcolumns column hmem)) (filterMap_names _)
    have hplaceholders : WellSpaced (separated ", "
        ((fieldPlaceholders types 1 row.fields).map fun p => [p.2])) := by
      rw [fieldPlaceholders_eq, List.map_map]
      refine .separated (by decide) (by decide) fun part hpart => ?_
      obtain ⟨p, -, rfl⟩ := List.mem_map.1 hpart
      exact ⟨rfl, trivial⟩
    have hreturns := notMem_dollar_append (s := ") RETURNING ") (by decide)
      (notMem_dollar_returning hreturned)
    rw [List.cons_append]
    exact ⟨notMem_dollar_append (notMem_dollar_append (notMem_dollar_append (notMem_dollar_append
      (by decide) htable) (by decide)) hnames) (by decide),
      hplaceholders.append ⟨hreturns, trivial⟩ (startsFree_cons (by simp [isDelimiter]) [])⟩

/-- The assignments of an update are well spaced. -/
theorem wellSpaced_assignments {data : Record} (h : data.columns.forM checkColumn = .ok ())
    (info : TableInfo) : ∀ part ∈ assignments data info, WellSpaced part := by
  intro part hpart
  rw [assignments_eq] at hpart
  obtain ⟨a, hmem, rfl⟩ := List.mem_map.1 hpart
  rcases List.mem_append.1 hmem with hfield | hstamp
  · obtain ⟨p, hp, rfl⟩ := List.mem_map.1 hfield
    have hcolumn : p.1 ∈ data.columns := by
      rw [Record.columns, ← map_fst_boundFields info.columnTypes 1]
      exact List.mem_map_of_mem hp
    have hname := notMem_dollar_of_isWord
      (isWord_of_isIdentifier (isIdentifier_of_mem_columns h p.1 hcolumn))
    exact ⟨notMem_dollar_append hname (by decide), startsFree_cons (by simp [isDelimiter]) _,
      notMem_dollar_append (notMem_dollar_append (by decide) hname) (by decide), trivial⟩
  · split at hstamp
    · rw [List.mem_singleton.1 hstamp]
      exact ⟨by decide, trivial⟩
    · cases hstamp

/-- An update is well spaced. -/
theorem wellSpaced_update {table : String} {data : Record} {options : QueryOptions}
    {info : TableInfo} {s : Statement} (h : update table data options info = .ok s) :
    WellSpaced s.pieces := by
  obtain ⟨⟨⟩, htable, h⟩ := ok_of_bind h
  obtain ⟨⟨⟩, hcolumns, h⟩ := ok_of_bind h
  have ht := isQualifiedIdentifier_of_checkTable htable
  dsimp only at h
  cases hempty : (assignments data info).isEmpty with
  | true =>
    rw [hempty] at h
    cases h
  | false =>
    rw [hempty] at h
    obtain ⟨rows, hrows, h⟩ := ok_of_bind h
    obtain ⟨returned, hreturned, h⟩ := ok_of_bind h
    cases h
    obtain ⟨hcheck, rfl⟩ := of_whereClause hrows
    obtain ⟨hrows, hfree⟩ := Filter.wellSpaced_writtenRows hcheck
      isQualifiedIdentifier_of_mem_none info data.size
    have htable := notMem_dollar_of_isWord (isWord_of_isQualifiedIdentifier ht)
    have hsets : WellSpaced (separated ", " (assignments data info)) :=
      .separated (by decide) (by decide) (wellSpaced_assignments hcolumns info)
    have hreturns := notMem_dollar_append (s := " RETURNING ") (by decide)
      (notMem_dollar_returning hreturned)
    rw [List.cons_append, List.cons_append]
    exact ⟨notMem_dollar_append (notMem_dollar_append (by decide) htable) (by decide),
      (hsets.append hrows hfree).append ⟨hreturns, trivial⟩
        (startsFree_cons (by simp [isDelimiter]) [])⟩

/-- A deletion is well spaced. -/
theorem wellSpaced_delete {table : String} {filter : Filter} {types : ColumnTypes} {s : Statement}
    (h : delete table filter types = .ok s) : WellSpaced s.pieces := by
  obtain ⟨⟨⟩, htable, h⟩ := ok_of_bind h
  have ht := isQualifiedIdentifier_of_checkTable htable
  obtain ⟨rows, hrows, h⟩ := ok_of_bind h
  cases h
  rw [filter.clause_eq] at hrows
  obtain ⟨⟨⟩, hcheck, rfl⟩ := map_ok_iff.1 hrows
  have htable := notMem_dollar_of_isWord (isWord_of_isQualifiedIdentifier ht)
  exact ⟨notMem_dollar_append (by decide) htable,
    (Filter.wellSpaced_writtenClause hcheck isQualifiedIdentifier_of_mem_none types 0).1⟩

/-- The test for a schema is well spaced and begins with a blank. -/
theorem wellSpaced_schemaPredicate (number : Nat) (schema : Option String) :
    WellSpaced (schemaPredicate number schema).1 ∧
      startsFree (renderPieces (schemaPredicate number schema).1) = true := by
  cases schema with
  | none => exact ⟨trivial, rfl⟩
  | some schema => exact ⟨⟨by decide +kernel, rfl, trivial⟩, startsFree_cons (by decide) _⟩

/-- A question for one column is well spaced. -/
theorem wellSpaced_columnExists (table column : String) :
    WellSpaced (columnExists table column).pieces := by
  obtain ⟨hschema, hfree⟩ := wellSpaced_schemaPredicate 3 (catalogTarget table).1
  have hfront : WellSpaced [.text (
      "SELECT column_name::text AS column_name FROM information_schema.columns " ++
      "WHERE table_name = "), .placeholder 1 none,
      .text " AND column_name = ", .placeholder 2 none] :=
    ⟨by decide +kernel, startsFree_cons (by decide) _, by decide +kernel, rfl, trivial⟩
  exact hfront.append hschema hfree

/-- A question for all columns is well spaced. -/
theorem wellSpaced_tableColumns (table : String) : WellSpaced (tableColumns table).pieces := by
  obtain ⟨hschema, hfree⟩ := wellSpaced_schemaPredicate 2 (catalogTarget table).1
  have hfront : WellSpaced [.text (
      "SELECT column_name::text AS column_name, data_type::text AS data_type, " ++
      "udt_schema::text AS udt_schema, udt_name::text AS udt_name " ++
      "FROM information_schema.columns WHERE table_name = "), .placeholder 1 none] :=
    ⟨by decide +kernel, rfl, trivial⟩
  have horder : WellSpaced [.text " ORDER BY ordinal_position"] := ⟨by decide +kernel, trivial⟩
  exact (hfront.append hschema hfree).append horder (startsFree_cons (by decide) [])

end Statement

/-- Every statement that is built is well spaced. -/
theorem Request.wellSpaced {r : Request} {s : Statement} (h : r.statement = .ok s)
    (hextra : r.AddsNothing) : WellSpaced s.pieces := by
  cases r with
  | select table columns options info => exact Statement.wellSpaced_select hextra h
  | count table columns options info => exact Statement.wellSpaced_count hextra h
  | insert table row returning types => exact Statement.wellSpaced_insert h
  | update table data options info => exact Statement.wellSpaced_update h
  | delete table filter types => exact Statement.wellSpaced_delete h
  | columnExists table column =>
    cases h
    exact Statement.wellSpaced_columnExists table column
  | tableColumns table =>
    cases h
    exact Statement.wellSpaced_tableColumns table

/-- The text of a statement without its casts is that of the statement without declared types. -/
theorem Request.sql_bare {r : Request} {s : Statement} (h : r.statement = .ok s)
    (hextra : r.AddsNothing) : s.bare.sql = withoutCasts s.sql :=
  (withoutCasts_renderPieces (r.wellSpaced h hextra)).symm

end TableQuery
