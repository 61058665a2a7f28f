import TableQuery.Proofs.Filter.Acceptance
import TableQuery.Proofs.Statement.Casts

/-!
# The table in front of the columns of a filter

In a selection with joins a column of the primary table may be written with or without the table in
front. Both spellings are written in the same way, and both bind the same values. But declared types
are looked up under the name as it was given: behind the spelling with the table no value is cast,
so the two statements are the same exactly if nothing was cast behind the other one.
-/

namespace TableQuery

open TableQuery.Sql

/-- A condition, and the same condition, or the condition with a table in front of its column if
that has no qualifier. -/
inductive Condition.Qualified (table : String) : Condition → Condition → Prop where
  /-- The condition is left as it is. -/
  | kept (c : Condition) : Qualified table c c
  /-- The table is put in front of the column. -/
  | qualified (c : Condition) (hcolumn : '.' ∉ c.column.toList) :
    Qualified table c { c with column := table ++ "." ++ c.column }

/-- A filter, and the filter with a table in front of some of the columns that have no qualifier. -/
def Filter.Qualified (table : String) (f f' : Filter) : Prop :=
  List.Forall₂ (Condition.Qualified table) f.conditions f'.conditions

/-- The value that a condition compares with is cast: its column, as it is given, has a declared
type, it is of a kind that is cast, and it is no pattern. -/
def Condition.IsCast (c : Condition) (types : ColumnTypes) : Prop :=
  ∃ v t, c.value = .value v ∧ types.get? c.column = some t ∧ v.Castable ∧
    canonicalOperator c.operator ∉ patternOperators

namespace Condition.Qualified

variable {table : String} {c c' : Condition}

/-- The two conditions join what stands before them in the same way. -/
theorem connective (h : Qualified table c c') : c'.connective = c.connective := by
  cases h <;> rfl

/-- The two conditions have one operator. -/
theorem operator (h : Qualified table c c') : c'.operator = c.operator := by
  cases h <;> rfl

/-- The two conditions have one right-hand side. -/
theorem value (h : Qualified table c c') : c'.value = c.value := by
  cases h <;> rfl

/-- Behind the table as qualifier both columns are written in the same way. -/
theorem writtenColumn (h : Qualified table c c') :
    c'.writtenColumn (some table) = c.writtenColumn (some table) := by
  cases h with
  | kept => rfl
  | qualified hcolumn =>
    have hpoint : (table ++ "." ++ c.column).toList.contains '.' = true := by simp
    rw [Condition.writtenColumn, Condition.writtenColumn, hpoint, if_pos rfl,
      if_neg (by simpa using hcolumn)]

/-- A name is a column behind an identifier exactly if it is one by itself. -/
theorem nameText_iff (h : Qualified table c c') (ht : isIdentifier table = true) :
    NameText c'.column.toList ↔ NameText c.column.toList := by
  cases h with
  | kept => rfl
  | qualified hcolumn =>
    have hcut : Text.cutAt ['.'] (table ++ "." ++ c.column).toList =
        some (table.toList, c.column.toList) := by
      have hfree := notMem_of_isIdentifierChars ht (c := '.') (by decide)
      simpa using Text.cutAt_append [] hfree c.column.toList
    have hnone : Text.cutAt ['.'] c.column.toList = none := Text.cutAt_eq_none hcolumn
    have ht : isIdentifierChars table.toList = true := ht
    rw [← isQualifiedChars_iff, ← isQualifiedChars_iff, isQualifiedChars, isQualifiedChars]
    dsimp only
    rw [hcut, hnone]
    dsimp only
    rw [ht, Bool.true_and]

/-- One condition is valid exactly if the other one is. -/
theorem valid_iff (h : Qualified table c c') (ht : isIdentifier table = true) :
    c'.Valid ↔ c.Valid := by
  have hknown : c'.OperatorKnown ↔ c.OperatorKnown := by
    rw [OperatorKnown, OperatorKnown, h.operator]
  constructor
  · intro hvalid
    exact ⟨(h.nameText_iff ht).1 hvalid.column,
      fun v hv => hknown.1 (hvalid.operator v (h.value.trans hv))⟩
  · intro hvalid
    exact ⟨(h.nameText_iff ht).2 hvalid.column,
      fun v hv => hknown.2 (hvalid.operator v (h.value.symm.trans hv))⟩

end Condition.Qualified

/-- The casts of a condition are those of the values that it binds. -/
theorem Condition.casts_written (c : Condition) (qualifier : Option String) (types : ColumnTypes)
    (count : Nat) :
    casts (c.written qualifier types count).pieces = c.compared.map fun b => b.cast types := by
  rw [written, compared]
  cases c.value <;> rfl

/-- The casts of conditions that follow others are those of the values that they bind. -/
theorem casts_writtenRest (qualifier : Option String) (types : ColumnTypes) (count : Nat)
    (conditions : List Condition) :
    casts (writtenRest qualifier types count conditions).pieces =
      (conditions.flatMap Condition.compared).map fun b => b.cast types := by
  induction conditions generalizing count with
  | nil => rfl
  | cons c rest ih =>
    rw [writtenRest, List.flatMap_cons, List.map_append, ← ih,
      ← c.casts_written qualifier types count, ← casts_append]
    rfl

namespace Filter

/-- The casts of a filter are those of the values that it binds. -/
theorem casts_written (f : Filter) (qualifier : Option String) (types : ColumnTypes) (count : Nat) :
    (f.written qualifier types count).elim [] (fun p => casts p.pieces) =
      f.compared.map fun b => b.cast types := by
  rw [written, compared]
  cases f.conditions with
  | nil => rfl
  | cons c rest =>
    rw [Option.elim_some, casts_append, c.casts_written, casts_writtenRest, List.flatMap_cons,
      List.map_append]

/-- The casts of a clause on rows are those of the values that its filter binds. -/
theorem casts_writtenRows (f : Filter) (qualifier : Option String) (info : TableInfo)
    (count : Nat) :
    casts (f.writtenRows qualifier info count) =
      f.compared.map fun b => b.cast info.columnTypes := by
  have hguarded : ∀ (front guard : String) (pieces : List Piece),
      casts (.text front :: pieces ++ [.text guard]) = casts pieces := by
    intro front guard pieces
    exact (casts_append _ _).trans (List.append_nil _)
  rw [← f.casts_written qualifier info.columnTypes count, writtenRows, writtenClause]
  cases f.written qualifier info.columnTypes count with
  | none => split <;> rfl
  | some p =>
    rw [Option.elim_some]
    split
    · rw [guardedPieces]
      split
      · exact hguarded _ _ _
      · exact hguarded _ _ _
    · rfl

end Filter

namespace Condition.Qualified

variable {table : String} {c c' : Condition} {types : ColumnTypes}

/-- The spelling with the table has a qualifier. -/
theorem point_mem (table column : String) : '.' ∈ (table ++ "." ++ column).toList := by
  simp

/-- Behind the spelling with the table nothing is cast, if no key of the types has a qualifier. -/
theorem castType_eq (hkeys : ∀ key ∈ types.entries.map Prod.fst, '.' ∉ key.toList)
    (h : Qualified table c c') (v : Value) :
    c'.castType types v = c.castType types v ∨ c'.castType types v = none := by
  cases h with
  | kept => exact .inl rfl
  | qualified =>
    have hnone : (BoundValue.mk (table ++ "." ++ c.column) v
        (some (canonicalOperator c.operator))).cast types = none :=
      BoundValue.cast_of_point hkeys (point_mem table c.column)
    exact .inr hnone

/-- The spelling with the table is written in the same way, but for a cast that it loses. -/
theorem uncast_written (hkeys : ∀ key ∈ types.entries.map Prod.fst, '.' ∉ key.toList)
    (h : Qualified table c c') (count : Nat) :
    List.Forall₂ Piece.Uncast (c.written (some table) types count).pieces
      (c'.written (some table) types count).pieces := by
  have hcast := h.castType_eq hkeys
  rw [written, written, h.value, h.operator, h.writtenColumn]
  cases c.value with
  | isNull => exact uncast_refl _
  | notNull => exact uncast_refl _
  | value v =>
    refine .cons (.refl _) (.cons ?_ .nil)
    rcases hcast v with heq | hnone
    · exact .inl (by rw [heq])
    · exact .inr (by rw [hnone]; rfl)

/-- Both spellings bind the same value. -/
theorem values_written (h : Qualified table c c') (types : ColumnTypes) (count : Nat) :
    (c'.written (some table) types count).values = (c.written (some table) types count).values := by
  rw [Condition.values_written, Condition.values_written, h.value]

/-- The casts of both spellings are the same exactly if the first one had none, or if they are one
spelling. -/
theorem casts_eq_iff (hkeys : ∀ key ∈ types.entries.map Prod.fst, '.' ∉ key.toList)
    (h : Qualified table c c') :
    (c'.compared.map fun b => b.cast types) = (c.compared.map fun b => b.cast types) ↔
      c'.column = c.column ∨ ¬c.IsCast types := by
  cases h with
  | kept => exact iff_of_true rfl (.inl rfl)
  | qualified hcolumn =>
    have hdifferent : table ++ "." ++ c.column ≠ c.column := fun heq =>
      hcolumn (heq ▸ point_mem table c.column)
    rw [or_iff_right hdifferent, compared, compared, IsCast]
    cases c.value with
    | isNull => exact iff_of_true rfl (by rintro ⟨v, t, ⟨⟩, -⟩)
    | notNull => exact iff_of_true rfl (by rintro ⟨v, t, ⟨⟩, -⟩)
    | value v =>
      generalize canonicalOperator c.operator = operator
      have hnone : BoundValue.cast ⟨table ++ "." ++ c.column, v, some operator⟩ types = none :=
        BoundValue.cast_of_point hkeys (point_mem table c.column)
      have hsome := BoundValue.cast_eq_some_iff ⟨c.column, v, some operator⟩ types
      change [BoundValue.cast ⟨table ++ "." ++ c.column, v, some operator⟩ types] =
        [BoundValue.cast ⟨c.column, v, some operator⟩ types] ↔ _
      rw [hnone, List.singleton_inj]
      constructor
      · rintro heq ⟨v', t, ⟨⟩, hget, hcastable, hpattern⟩
        have hcast := (hsome t).2 ⟨hget, hcastable, fun operator ho => by cases ho; exact hpattern⟩
        cases heq.trans hcast
      · intro hnot
        refine Option.eq_none_iff_forall_ne_some.2 (fun t ht => hnot ?_) |>.symm
        obtain ⟨hget, hcastable, hpattern⟩ := (hsome t).1 ht
        exact ⟨v, t, rfl, hget, hcastable, hpattern _ rfl⟩

end Condition.Qualified

/-- Conditions behind others are written in the same way with the table in front of their columns,
but for casts that they lose. -/
theorem uncast_writtenRest {table : String} {types : ColumnTypes}
    (hkeys : ∀ key ∈ types.entries.map Prod.fst, '.' ∉ key.toList)
    {conditions conditions' : List Condition}
    (h : List.Forall₂ (Condition.Qualified table) conditions conditions') (count : Nat) :
    List.Forall₂ Piece.Uncast (writtenRest (some table) types count conditions).pieces
      (writtenRest (some table) types count conditions').pieces := by
  induction h generalizing count with
  | nil => exact .nil
  | @cons c c' rest rest' hc _ ih =>
    rw [writtenRest, writtenRest, hc.connective, hc.values_written types count]
    exact .cons (.refl _) (List.rel_append (hc.uncast_written hkeys count) (ih _))

namespace Filter.Qualified

variable {table : String} {f f' : Filter}

/-- One filter passes its check exactly if the other one does. -/
theorem check_iff (h : Qualified table f f') (ht : isIdentifier table = true) :
    f'.check = .ok () ↔ f.check = .ok () := by
  rw [f.check_ok_iff, f'.check_ok_iff]
  obtain ⟨conditions⟩ := f
  obtain ⟨conditions'⟩ := f'
  change List.Forall₂ _ conditions conditions' at h
  dsimp only
  induction h with
  | nil => exact iff_of_true (List.forall_mem_nil _) (List.forall_mem_nil _)
  | cons hc _ ih => rw [List.forall_mem_cons, List.forall_mem_cons, hc.valid_iff ht, ih]

/-- Both filters bind the same values. -/
theorem boundValues (h : Qualified table f f') : f'.boundValues = f.boundValues := by
  rw [Filter.boundValues, Filter.boundValues]
  obtain ⟨conditions⟩ := f
  obtain ⟨conditions'⟩ := f'
  change List.Forall₂ _ conditions conditions' at h
  dsimp only
  induction h with
  | nil => rfl
  | cons hc _ ih => rw [List.flatMap_cons, List.flatMap_cons, ih, hc.value]

/-- Both filters have an alternative, or neither has. -/
theorem hasDisjunction (h : Qualified table f f') : f'.hasDisjunction = f.hasDisjunction := by
  obtain ⟨conditions⟩ := f
  obtain ⟨conditions'⟩ := f'
  change List.Forall₂ _ conditions conditions' at h
  rw [Filter.hasDisjunction, Filter.hasDisjunction]
  cases h with
  | nil => rfl
  | cons _ hrest =>
    dsimp only [List.tail_cons]
    induction hrest with
    | nil => rfl
    | cons hc _ ih => rw [List.any_cons, List.any_cons, ih, hc.connective]

/-- Both filters are written in the same way, but for casts that the second one lost. -/
theorem uncast_written {types : ColumnTypes}
    (hkeys : ∀ key ∈ types.entries.map Prod.fst, '.' ∉ key.toList) (h : Qualified table f f')
    (count : Nat) :
    Option.Rel (fun p p' => List.Forall₂ Piece.Uncast p.pieces p'.pieces)
      (f.written (some table) types count) (f'.written (some table) types count) := by
  obtain ⟨conditions⟩ := f
  obtain ⟨conditions'⟩ := f'
  change List.Forall₂ _ conditions conditions' at h
  rw [Filter.written, Filter.written]
  cases h with
  | nil => exact .none
  | @cons c c' rest rest' hc hrest =>
    dsimp only
    rw [hc.values_written types count]
    exact .some (List.rel_append (hc.uncast_written hkeys count) (uncast_writtenRest hkeys hrest _))

/-- The clauses on rows of both filters are written in the same way, but for casts that the second
one lost. -/
theorem uncast_writtenRows {info : TableInfo}
    (hkeys : ∀ key ∈ info.columnTypes.entries.map Prod.fst, '.' ∉ key.toList)
    (h : Qualified table f f') (count : Nat) :
    List.Forall₂ Piece.Uncast (f.writtenRows (some table) info count)
      (f'.writtenRows (some table) info count) := by
  have hguarded : ∀ (front guard : String) {pieces pieces' : List Piece},
      List.Forall₂ Piece.Uncast pieces pieces' →
      List.Forall₂ Piece.Uncast (.text front :: pieces ++ [.text guard])
        (.text front :: pieces' ++ [.text guard]) :=
    fun front guard _ _ hpieces => .cons (.refl _) (List.rel_append hpieces (uncast_refl _))
  have hwritten := h.uncast_written hkeys count
  rw [Filter.writtenRows, Filter.writtenRows, writtenClause, writtenClause]
  generalize f.written (some table) info.columnTypes count = written at hwritten
  generalize f'.written (some table) info.columnTypes count = written' at hwritten
  split
  · cases hwritten with
    | none => exact uncast_refl _
    | some hpieces =>
      rw [guardedPieces, guardedPieces, h.hasDisjunction]
      split
      · exact hguarded _ _ hpieces
      · exact hguarded _ _ hpieces
  · cases hwritten with
    | none => exact .nil
    | some hpieces => exact .cons (.refl _) hpieces

/-- Both filters have the same casts exactly if no condition that was given the table had one. -/
theorem casts_eq_iff {types : ColumnTypes}
    (hkeys : ∀ key ∈ types.entries.map Prod.fst, '.' ∉ key.toList) (h : Qualified table f f') :
    (f'.compared.map fun b => b.cast types) = (f.compared.map fun b => b.cast types) ↔
      List.Forall₂ (fun c c' => c'.column = c.column ∨ ¬c.IsCast types) f.conditions
        f'.conditions := by
  obtain ⟨conditions⟩ := f
  obtain ⟨conditions'⟩ := f'
  change List.Forall₂ _ conditions conditions' at h
  rw [compared, compared]
  dsimp only
  induction h with
  | nil => exact iff_of_true rfl .nil
  | @cons c c' rest rest' hc _ ih =>
    have hlength : (c'.compared.map fun b => b.cast types).length =
        (c.compared.map fun b => b.cast types).length := by
      rw [Condition.compared, Condition.compared, hc.value]
      simp
    rw [List.flatMap_cons, List.flatMap_cons, List.map_append, List.map_append,
      List.forall₂_cons, ← hc.casts_eq_iff hkeys, ← ih]
    constructor
    · exact fun happend => List.append_inj happend hlength
    · rintro ⟨hone, hothers⟩
      rw [hone, hothers]

end Filter.Qualified

namespace Statement

/-- A selection is built exactly if the selection with the table in front of columns of its filter
is. -/
theorem exists_select_iff {table : String} {options : QueryOptions} {filter : Filter}
    (ht : isIdentifier table = true) (hf : options.filter.Qualified table filter)
    (columns : ColumnSpec) (info : TableInfo) :
    (∃ s', select table columns { options with filter := filter } info = .ok s') ↔
      ∃ s, select table columns options info = .ok s := by
  rw [← verdict_ok_iff, ← verdict_ok_iff, verdict_select, verdict_select, selectCheck, selectCheck]
  cases checkTable table with
  | error e => rfl
  | ok u =>
    cases checkFilled columns.isEmpty "columns" with
    | error e => rfl
    | ok u =>
      have hcheck := hf.check_iff ht
      change (filter.check >>= _) = _ ↔ (options.filter.check >>= _) = _
      constructor
      · intro h
        obtain ⟨⟨⟩, hone, hrest⟩ := ok_of_bind h
        rw [hcheck.1 hone]
        exact hrest
      · intro h
        obtain ⟨⟨⟩, hone, hrest⟩ := ok_of_bind h
        rw [hcheck.2 hone]
        exact hrest

/-- The table in front of columns of the filter leaves a selection with joins the same but for
casts. Both selections are built or neither is, they bind the same values, and without casts they
have the same text. They are the same exactly if every condition that was given the table compares
with a value that was not cast. -/
theorem select_qualified {table : String} {columns : ColumnSpec} {options : QueryOptions}
    {info : TableInfo} {filter : Filter} (ht : isIdentifier table = true)
    (hjoins : columns.hasJoins = true)
    (hkeys : ∀ key ∈ info.columnTypes.entries.map Prod.fst, '.' ∉ key.toList)
    (hf : options.filter.Qualified table filter) :
    ((∃ s', select table columns { options with filter := filter } info = .ok s') ↔
      ∃ s, select table columns options info = .ok s) ∧
    ∀ s s', select table columns options info = .ok s →
      select table columns { options with filter := filter } info = .ok s' →
      s'.parameters = s.parameters ∧ s'.catalog = s.catalog ∧
      withoutCasts s'.sql = withoutCasts s.sql ∧
      (s'.sql = s.sql ↔ List.Forall₂ (fun c c' => c'.column = c.column ∨
        ¬c.IsCast info.columnTypes) options.filter.conditions filter.conditions) := by
  refine ⟨exists_select_iff ht hf columns info, fun s s' h h' => ?_⟩
  obtain ⟨htable, -, hcheck, order, horder, rfl⟩ := select_ok h
  obtain ⟨-, -, hcheck', order', horder', rfl⟩ := select_ok h'
  cases horder.symm.trans horder'
  have hqualifier : columns.qualifier table = some table := by
    rw [ColumnSpec.qualifier, hjoins, if_pos rfl]
  have hq := isQualifiedIdentifier_of_mem_qualifier htable columns
  obtain ⟨horder, horderFree⟩ := wellSpaced_order horder
  have hrows := hf.uncast_writtenRows hkeys 0
  rw [← hqualifier] at hrows
  refine ⟨hf.boundValues, rfl, ?_, ?_⟩
  · -- up to the order the pieces are well spaced; what the caller adds may be any text
    have hfront : ∀ f : Filter, f.check = .ok () → ∀ head : String, '$' ∉ head.toList →
        WellSpaced (.text head :: (f.writtenRows (columns.qualifier table) info 0 ++ order)) := by
      intro f hf head hhead
      exact ⟨hhead, (Filter.wellSpaced_writtenRows hf hq info 0).1.append horder horderFree⟩
    have hhead := notMem_dollar (selectHead_lexed htable columns) (Query.filterMap_tokens _)
    have hbehind := startsFree_behind options
    have hsplit : ∀ (head : String) (rows behind : List Piece),
        renderPieces (.text head :: (rows ++ (order ++ behind))) =
          renderPieces (.text head :: (rows ++ order)) ++ renderPieces behind := by
      intro head rows behind
      rw [← renderPieces_append, List.cons_append, List.append_assoc]
    rw [sql, sql, hsplit, hsplit, withoutCasts_append (hfront _ hcheck' _ hhead) hbehind,
      withoutCasts_append (hfront _ hcheck _ hhead) hbehind, List.map_cons, List.map_cons,
      List.map_append, List.map_append, map_bare_uncast hrows]
  · rw [← hf.casts_eq_iff hkeys, ← filter.casts_writtenRows (columns.qualifier table) info 0,
      ← options.filter.casts_writtenRows (columns.qualifier table) info 0,
      ← renderPieces_eq_iff hrows]
    simp only [sql, renderPieces_cons, renderPieces_append, String.append_right_inj,
      String.append_left_inj]

/-- A pattern is never cast, so the table in front of its column changes nothing, beside a column
whose value is cast. -/
theorem select_qualified_pattern :
    ∃ columns s s', ColumnSpec.parse "id,owner->org(id)\x7bname\x7d" = .ok columns ∧
      select "users" columns
        { filter := ⟨[.equal "id" (.text "9b2c"), .compare "name" "like" (.text "A%")]⟩ }
        { columnTypes := ColumnTypes.ofList [("id", "uuid"), ("name", "text")] } = .ok s ∧
      select "users" columns
        { filter := ⟨[.equal "id" (.text "9b2c"), .compare "users.name" "like" (.text "A%")]⟩ }
        { columnTypes := ColumnTypes.ofList [("id", "uuid"), ("name", "text")] } = .ok s' ∧
      s.sql = "SELECT users.id, org.name AS org_name FROM users " ++
        "LEFT JOIN org ON users.owner=org.id " ++
        "WHERE users.id = $1::uuid AND users.name LIKE $2" ∧
      s'.sql = s.sql := by
  have hqualified : Filter.Qualified "users"
      ⟨[.equal "id" (.text "9b2c"), .compare "name" "like" (.text "A%")]⟩
      ⟨[.equal "id" (.text "9b2c"), .compare "users.name" "like" (.text "A%")]⟩ :=
    .cons (.kept _) (.cons (.qualified (.compare "name" "like" (.text "A%")) (by decide)) .nil)
  have hpattern : ¬(Condition.compare "name" "like" (.text "A%")).IsCast
      (ColumnTypes.ofList [("id", "uuid"), ("name", "text")]) := by
    rintro ⟨v, t, -, -, -, hoperator⟩
    exact hoperator (by decide +kernel)
  have hkeys : ∀ key ∈ (ColumnTypes.ofList [("id", "uuid"), ("name", "text")]).entries.map Prod.fst,
      '.' ∉ key.toList := by decide +kernel
  obtain ⟨columns, hcolumns⟩ :
      ∃ columns, ColumnSpec.parse "id,owner->org(id)\x7bname\x7d" = .ok columns := ⟨_, rfl⟩
  have hjoins : columns.hasJoins = true := by
    cases hcolumns
    rfl
  obtain ⟨s, hs, htext⟩ : ∃ s, select "users" columns
      { filter := ⟨[.equal "id" (.text "9b2c"), .compare "name" "like" (.text "A%")]⟩ }
      { columnTypes := ColumnTypes.ofList [("id", "uuid"), ("name", "text")] } = .ok s ∧
      s.sql = "SELECT users.id, org.name AS org_name FROM users " ++
        "LEFT JOIN org ON users.owner=org.id " ++
        "WHERE users.id = $1::uuid AND users.name LIKE $2" := by
    cases hcolumns
    exact ⟨_, rfl, by decide +kernel⟩
  obtain ⟨hbuilt, hall⟩ := @select_qualified "users" columns
    { filter := ⟨[.equal "id" (.text "9b2c"), .compare "name" "like" (.text "A%")]⟩ }
    { columnTypes := ColumnTypes.ofList [("id", "uuid"), ("name", "text")] }
    ⟨[.equal "id" (.text "9b2c"), .compare "users.name" "like" (.text "A%")]⟩ (by decide) hjoins
    hkeys hqualified
  obtain ⟨s', hs'⟩ := hbuilt.2 ⟨s, hs⟩
  refine ⟨columns, s, s', hcolumns, hs, hs', htext, ?_⟩
  exact (hall s s' hs hs').2.2.2.2 (.cons (.inl rfl) (.cons (.inr hpattern) .nil))

/-- An identifier of type `uuid` is cast, and behind the same column with the table in front of it
the same value is not. -/
theorem qualified_column_uncast :
    ∃ columns s s', ColumnSpec.parse "id,owner->org(id)\x7bname\x7d" = .ok columns ∧
      columns.hasJoins = true ∧
      select "users" columns { filter := ⟨[.equal "id" (.text "9b2c")]⟩ }
        { columnTypes := ColumnTypes.ofList [("id", "uuid")] } = .ok s ∧
      select "users" columns { filter := ⟨[.equal "users.id" (.text "9b2c")]⟩ }
        { columnTypes := ColumnTypes.ofList [("id", "uuid")] } = .ok s' ∧
      s.sql = "SELECT users.id, org.name AS org_name FROM users " ++
        "LEFT JOIN org ON users.owner=org.id WHERE users.id = $1::uuid" ∧
      s'.sql = "SELECT users.id, org.name AS org_name FROM users " ++
        "LEFT JOIN org ON users.owner=org.id WHERE users.id = $1" := by
  refine ⟨_, _, _, rfl, rfl, rfl, rfl, ?_, ?_⟩ <;> decide +kernel

end Statement

end TableQuery
