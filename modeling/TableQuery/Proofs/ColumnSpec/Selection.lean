import TableQuery.ColumnSpec.Basic
import TableQuery.Proofs.Filter.Meaning
import TableQuery.Proofs.Sql.Query

/-!
# What a column spec selects

The columns and joined tables of a spec as parts of a query. A well-formed spec is written in words
only, so its select list and its join clauses have the tokens of these parts.
-/

namespace TableQuery

open TableQuery.Sql

/-- The written form of one column of a select list. -/
def Sql.OutputColumn.text (c : OutputColumn) : String :=
  match c.newName with
  | none => c.column
  | some name => c.column ++ " AS " ++ name

/-- The column and its new name are words. -/
def Sql.OutputColumn.InWords (c : OutputColumn) : Prop :=
  isWord c.column.toList = true ∧ ∀ name ∈ c.newName, isWord name.toList = true

/-- A column in words has the tokens of the column. -/
theorem Sql.OutputColumn.lexed {c : OutputColumn} (h : c.InWords) : Lexed c.text c.tokens := by
  obtain ⟨column, newName⟩ := c
  have hcolumn := Lexed.word h.1
  cases newName with
  | none => exact hcolumn
  | some name =>
    have has : Lexed " AS " [keyword "AS"] := by decide
    have hfront := hcolumn.append_of_head has (by decide)
    exact hfront.append_of_getLast (Lexed.word (h.2 name rfl)) (endsFree_append _ (by decide))

namespace Join

variable {j : Join}

/-- The joined columns with their new names. -/
def outputs (j : Join) : List OutputColumn :=
  j.columns.map fun column =>
    ⟨j.table ++ "." ++ column, some (j.columnStem ++ "_" ++ column)⟩

/-- The join as a part of a query. -/
def joined (j : Join) (primary : String) : JoinedTable :=
  ⟨j.table, primary ++ "." ++ j.fromColumn, j.table ++ "." ++ j.toColumn⟩

/-- The new name of a joined column is a word. -/
theorem isWord_newName (h : j.WellFormed) {column : String} (hc : isIdentifier column = true) :
    isWord (j.columnStem ++ "_" ++ column).toList = true := by
  have htable := isWord_of_isQualifiedIdentifier h.table
  have hcolumn := isWord_of_isIdentifier hc
  simp only [isWord, Bool.and_eq_true, List.all_eq_true] at htable hcolumn ⊢
  refine ⟨by simp, fun c hmem => ?_⟩
  simp only [columnStem, Text.replaceChar, String.toList_append, String.toList_ofList,
    List.mem_append, List.mem_map] at hmem
  obtain (⟨d, hd, rfl⟩ | hunderscore) | hc := hmem
  · split
    · decide
    · exact htable.2 d hd
  · have he : c = '_' := by simpa using hunderscore
    rw [he]
    decide
  · exact hcolumn.2 c hc

/-- The joined columns are written in words. -/
theorem inWords_outputs (h : j.WellFormed) : ∀ c ∈ j.outputs, c.InWords := by
  intro c hmem
  obtain ⟨column, hcolumn, rfl⟩ := List.mem_map.1 hmem
  have hname := h.columns column hcolumn
  refine ⟨isWord_columnOf (isWord_of_isQualifiedIdentifier h.table)
    (isWord_of_isIdentifier hname), fun name he => ?_⟩
  cases he
  exact isWord_newName h hname

/-- The joined columns are written as the columns of a query. -/
theorem selectItems_eq (j : Join) : j.selectItems = j.outputs.map OutputColumn.text := by
  simp [selectItems, outputs, OutputColumn.text, String.append_assoc]

/-- A join clause has the tokens of the joined table. -/
theorem clause_follows (h : j.WellFormed) {primary : String}
    (hp : isQualifiedIdentifier primary = true) :
    Follows (j.clause primary) (j.joined primary).tokens := by
  have hjoin : Follows " LEFT JOIN " [keyword "LEFT", keyword "JOIN"] := by decide
  have hon : Follows " ON " [keyword "ON"] := by decide
  have htable := isWord_of_isQualifiedIdentifier h.table
  have hleft := isWord_columnOf (isWord_of_isQualifiedIdentifier hp)
    (isWord_of_isIdentifier h.fromColumn)
  have hright := isWord_columnOf htable (isWord_of_isIdentifier h.toColumn)
  have hhead : (j.table ++ "." ++ j.toColumn).toList.head?.any isWordChar = true := by
    cases hr : (j.table ++ "." ++ j.toColumn).toList with
    | nil => rw [hr] at hright; cases hright
    | cons c cs =>
      rw [hr] at hright
      simp only [isWord, List.all_cons, Bool.and_eq_true] at hright
      exact hright.2.1
  have hcondition := Lexed.equals hleft (Lexed.word hright) hhead
  have htail := hon.append_of_getLast hcondition (by decide)
  have hall := (hjoin.append_of_getLast (Lexed.word htable) (by decide)).append htail
  have htext : j.clause primary = " LEFT JOIN " ++ j.table ++
      (" ON " ++ (primary ++ "." ++ j.fromColumn ++ "=" ++ (j.table ++ "." ++ j.toColumn))) := by
    unfold clause
    simp only [String.append_assoc]
  rw [htext]
  exact hall

end Join

namespace ColumnSpec

/-- What one entry of a spec with joins adds to the select list. -/
def itemOutputs (joins : List Join) (table : String) : SpecItem → List OutputColumn
  | .join j => j.outputs
  | .column name =>
    if joins.any fun j => j.fromColumn = name then []
    else if name.toList.contains '.' then [⟨name, none⟩]
    else [⟨table ++ "." ++ name, none⟩]

/-- The select list of a spec. -/
def outputs (s : ColumnSpec) (table : String) : List OutputColumn :=
  if s.hasJoins then s.items.flatMap (itemOutputs s.joins table)
  else s.baseColumns.map fun name => ⟨name, none⟩

variable {s : ColumnSpec}

/-- The spec selects the texts of its select list. -/
theorem selection_eq (s : ColumnSpec) (table : String) :
    s.selection table = (s.outputs table).map OutputColumn.text := by
  have hitem : ∀ item, itemSelection s.joins table item =
      (itemOutputs s.joins table item).map OutputColumn.text := by
    intro item
    cases item with
    | join j => exact j.selectItems_eq
    | column name =>
      simp only [itemSelection, itemOutputs]
      split
      · rfl
      · split <;> rfl
  rw [selection, outputs]
  split
  · rw [List.map_flatMap]
    exact congrArg (fun f => s.items.flatMap f) (funext hitem)
  · rw [List.map_map]
    exact (List.map_id _).symm

/-- A column of a spec is a word. -/
theorem isWord_column {name : String} (h : (SpecItem.column name).WellFormed) :
    isWord name.toList = true := by
  rcases h with rfl | h
  · decide
  · exact isWord_of_isQualifiedIdentifier h

/-- A join of a spec is well formed. -/
theorem wellFormed_of_mem_joins {j : Join} (h : j ∈ s.joins) : j.WellFormed := by
  obtain ⟨item, hmem, hj⟩ := List.mem_filterMap.1 h
  have hitem := s.wellFormed item hmem
  cases item with
  | column name => cases hj
  | join other =>
    cases hj
    exact hitem

/-- The columns of the primary table are words. -/
theorem isWord_of_mem_baseColumns {name : String} (h : name ∈ s.baseColumns) :
    isWord name.toList = true := by
  obtain ⟨item, hmem, rfl⟩ := List.mem_map.1 h
  have hitem := s.wellFormed item hmem
  cases item with
  | column name => exact isWord_column hitem
  | join j => exact isWord_of_isIdentifier (Join.WellFormed.fromColumn hitem)

/-- The select list of a spec is written in words. -/
theorem inWords_outputs {table : String} (ht : isQualifiedIdentifier table = true) :
    ∀ c ∈ s.outputs table, c.InWords := by
  intro c hmem
  rw [outputs] at hmem
  split at hmem
  · obtain ⟨item, hitem, hc⟩ := List.mem_flatMap.1 hmem
    have hwell := s.wellFormed item hitem
    cases item with
    | join j => exact Join.inWords_outputs hwell c hc
    | column name =>
      have hname := isWord_column hwell
      rw [itemOutputs] at hc
      split at hc
      · cases hc
      · split at hc
        · rw [List.mem_singleton] at hc
          rw [hc]
          exact ⟨hname, fun name he => by cases he⟩
        · rw [List.mem_singleton] at hc
          rw [hc]
          exact ⟨isWord_columnOf (isWord_of_isQualifiedIdentifier ht) hname,
            fun name he => by cases he⟩
  · obtain ⟨name, hname, rfl⟩ := List.mem_map.1 hmem
    exact ⟨isWord_of_mem_baseColumns hname, fun name he => by cases he⟩

/-- A spec with entries selects something: a join always adds columns of its own. -/
theorem outputs_ne_nil (h : s.isEmpty = false) (table : String) : s.outputs table ≠ [] := by
  rw [outputs]
  split
  · next hjoins =>
    have hne : s.joins ≠ [] := by simpa [hasJoins] using hjoins
    obtain ⟨j, hj⟩ := List.exists_mem_of_ne_nil _ hne
    obtain ⟨item, hmem, he⟩ := List.mem_filterMap.1 hj
    have hcolumns := (wellFormed_of_mem_joins hj).columns_ne_nil
    cases item with
    | column name => cases he
    | join other =>
      cases he
      intro hnil
      have hout := List.flatMap_eq_nil_iff.1 hnil _ hmem
      exact hcolumns (List.map_eq_nil_iff.1 hout)
  · have hitems : s.items ≠ [] := by simpa [isEmpty] using h
    simpa [baseColumns] using hitems

/-- The select list of a spec has the tokens of its columns. -/
theorem selectList_lexed {table : String} (ht : isQualifiedIdentifier table = true) :
    Lexed (s.selectList table) (listTokens ((s.outputs table).map OutputColumn.tokens)) := by
  rw [selectList, selection_eq]
  exact Lexed.join fun c hc => OutputColumn.lexed (inWords_outputs ht c hc)

/-- The join clauses of a spec have the tokens of its joined tables. -/
theorem joinClauses_follows {table : String} (ht : isQualifiedIdentifier table = true) :
    Follows (s.joinClauses table)
      ((s.joins.map fun j => j.joined table).flatMap JoinedTable.tokens) := by
  rw [joinClauses]
  have hall : ∀ j ∈ s.joins, j.WellFormed := fun j hj => wellFormed_of_mem_joins hj
  generalize s.joins = joins at hall
  induction joins with
  | nil => exact Follows.empty
  | cons j joins ih =>
    obtain ⟨hj, hrest⟩ := List.forall_mem_cons.1 hall
    have hjoin := (Join.clause_follows hj ht).append (ih hrest)
    rw [List.map_cons, List.map_cons, List.flatMap_cons]
    have htext : String.join (j.clause table :: joins.map fun j => j.clause table) =
        j.clause table ++ String.join (joins.map fun j => j.clause table) :=
      String.toList_inj.1 (by simp [String.toList_join])
    rw [htext]
    exact hjoin

end ColumnSpec

end TableQuery
