import TableQuery.Proofs.Statement.Parts
import TableQuery.Statement.Catalog

/-!
# What catalog statements say

The queries on the catalog. Names are bound, never written, so the text depends on nothing but
whether a schema is given.
-/

namespace TableQuery

open TableQuery.Sql

/-- A test of a catalog column for equality with a parameter. -/
def catalogTest (column : String) (number : Nat) : RowPredicate :=
  .compare column "=" ⟨number, none⟩

/-- A predicate on the catalog with the test for a schema, if one is given. -/
def withSchema (number : Nat) (p : RowPredicate) (schema : Option String) : RowPredicate :=
  match schema with
  | none => p
  | some _ => .both p (catalogTest "table_schema" number)

/-- A test of a catalog column uses a known operator. -/
theorem readable_catalogTest (column : String) (number : Nat) :
    (catalogTest column number).Readable := by
  intro operator hmem
  rw [List.mem_singleton.1 hmem]
  decide

/-- A predicate on the catalog uses no other operator than equality. -/
theorem readable_withSchema {p : RowPredicate} (hp : p.Readable) (number : Nat)
    (schema : Option String) : (withSchema number p schema).Readable := by
  cases schema with
  | none => exact hp
  | some schema => exact List.forall_mem_append.2 ⟨hp, readable_catalogTest _ _⟩

/-- The tokens of a catalog test. -/
theorem tokens_catalogTest (column : String) (number : Nat) :
    (catalogTest column number).tokens =
      [nameToken column, .comparison ['='], (Placeholder.mk number none).token] := by
  have hoperator : operatorTokens "=" = [.comparison ['=']] := by decide
  rw [catalogTest, RowPredicate.tokens, hoperator]
  rfl

/-- The tokens of the test for a schema, with its connective. -/
def schemaTokens (number : Nat) : Option String → List Token
  | none => []
  | some _ => keyword "AND" :: (catalogTest "table_schema" number).tokens

/-- The text of the test for a schema has its tokens. -/
theorem schemaPredicate_follows (number : Nat) (schema : Option String) :
    Follows (renderPieces (Statement.schemaPredicate number schema).1)
      (schemaTokens number schema) := by
  cases schema with
  | none => exact Follows.empty
  | some schema =>
    have hand : Follows " AND table_schema = "
        [keyword "AND", nameToken "table_schema", .comparison ['=']] := by decide +kernel
    have htest := hand.append_of_getLast (Placeholder.lexed ⟨number, none⟩) (by decide)
    simp only [Statement.schemaPredicate, renderPieces_cons, renderPieces_nil,
      String.append_empty, schemaTokens, tokens_catalogTest]
    exact htest

/-- A test for a schema adds its tokens. -/
theorem tokens_withSchema {p : RowPredicate} (hp : p.isEither = false) (number : Nat)
    (schema : Option String) :
    (withSchema number p schema).tokens = p.tokens ++ schemaTokens number schema := by
  cases schema with
  | none => exact (List.append_nil _).symm
  | some schema => exact RowPredicate.tokens_both hp rfl

namespace Statement

/-- A column of the catalog as text under its own name. -/
def catalogColumn (name : String) : OutputColumn :=
  ⟨name ++ "::text", some name⟩

/-- The query that asks for one column. -/
def columnExistsQuery (table : String) : Query :=
  .select [catalogColumn "column_name"] "information_schema.columns" []
    (some (withSchema 3 (.both (catalogTest "table_name" 1) (catalogTest "column_name" 2))
      (catalogTarget table).1)) none none none

/-- The query that asks for all columns. -/
def tableColumnsQuery (table : String) : Query :=
  .select (["column_name", "data_type", "udt_schema", "udt_name"].map catalogColumn)
    "information_schema.columns" []
    (some (withSchema 2 (catalogTest "table_name" 1) (catalogTarget table).1))
    (some ("ordinal_position", none)) none none

/-- The name of a schema as a value, if there is one. -/
def schemaValues (table : String) : List Value :=
  (catalogTarget table).1.toList.map .text

/-- The values of the test for a schema. -/
theorem schemaPredicate_values (number : Nat) (schema : Option String) :
    (schemaPredicate number schema).2 = schema.toList.map .text := by
  cases schema <;> rfl

/-- The question for one column means its query. It binds the name of the table, the column and the
schema. -/
theorem columnExists_means (table column : String) :
    (columnExists table column).Means (columnExistsQuery table)
      (.text (catalogTarget table).2 :: .text column :: schemaValues table) := by
  have htests : (RowPredicate.both (catalogTest "table_name" 1)
      (catalogTest "column_name" 2)).Readable :=
    List.forall_mem_append.2 ⟨readable_catalogTest _ _, readable_catalogTest _ _⟩
  refine ⟨⟨by simp, fun p hp => ?_, fun o ho => by cases ho⟩, ?_, ?_⟩
  · cases hp
    exact readable_withSchema htests 3 _
  · have hhead : Lexed
        ("SELECT column_name::text AS column_name FROM information_schema.columns " ++
          "WHERE table_name = ")
        (keyword "SELECT" :: (listTokens ([catalogColumn "column_name"].map OutputColumn.tokens) ++
          [keyword "FROM", nameToken "information_schema.columns", keyword "WHERE",
            nameToken "table_name", .comparison ['=']])) := by decide +kernel
    have hand : Follows " AND column_name = "
        [keyword "AND", nameToken "column_name", .comparison ['=']] := by decide +kernel
    have hend := fun front => endsFree_append front (t := "WHERE table_name = ") (by decide)
    have hall := (hhead.append_of_getLast (Placeholder.lexed ⟨1, none⟩) (hend _)).append
      ((hand.append_of_getLast (Placeholder.lexed ⟨2, none⟩) (by decide)).append
        (schemaPredicate_follows 3 (catalogTarget table).1))
    have hboth : (RowPredicate.both (catalogTest "table_name" 1)
        (catalogTest "column_name" 2)).tokens = _ := RowPredicate.tokens_both rfl rfl
    have hrows := tokens_withSchema (p := .both (catalogTest "table_name" 1)
      (catalogTest "column_name" 2)) rfl 3 (catalogTarget table).1
    rw [columnExistsQuery, Query.tokens, rowTokens, hrows, hboth]
    simp only [tokens_catalogTest, orderTokens, pagingTokens, List.append_nil]
    simp only [columnExists, Statement.sql, renderPieces_append, renderPieces_cons,
      renderPieces_nil, String.append_empty, Placeholder.piece, Piece.render.eq_1,
      String.append_assoc, List.append_assoc] at hall ⊢
    exact hall
  · rw [schemaValues, ← schemaPredicate_values 3]
    rfl

/-- The question for all columns means its query. It binds the name of the table and the schema. -/
theorem tableColumns_means (table : String) :
    (tableColumns table).Means (tableColumnsQuery table)
      (.text (catalogTarget table).2 :: schemaValues table) := by
  refine ⟨⟨by simp, fun p hp => ?_, fun o ho direction hd => ?_⟩, ?_, ?_⟩
  · cases hp
    exact readable_withSchema (readable_catalogTest _ _) 2 _
  · cases ho
    cases hd
  · have hhead : Lexed
        ("SELECT column_name::text AS column_name, data_type::text AS data_type, " ++
          "udt_schema::text AS udt_schema, udt_name::text AS udt_name " ++
          "FROM information_schema.columns WHERE table_name = ")
        (keyword "SELECT" :: (listTokens ((["column_name", "data_type", "udt_schema",
          "udt_name"].map catalogColumn).map OutputColumn.tokens) ++
          [keyword "FROM", nameToken "information_schema.columns", keyword "WHERE",
            nameToken "table_name", .comparison ['=']])) := by decide +kernel
    have horder : Follows " ORDER BY ordinal_position"
        (orderTokens (some ("ordinal_position", none))) := by decide +kernel
    have hend := fun front => endsFree_append front
      (t := "FROM information_schema.columns WHERE table_name = ") (by decide)
    have hall := (hhead.append_of_getLast (Placeholder.lexed ⟨1, none⟩) (hend _)).append
      ((schemaPredicate_follows 2 (catalogTarget table).1).append horder)
    have hrows := tokens_withSchema (p := catalogTest "table_name" 1) rfl 2 (catalogTarget table).1
    rw [tableColumnsQuery, Query.tokens, rowTokens, hrows]
    simp only [tokens_catalogTest, pagingTokens, List.append_nil]
    simp only [tableColumns, Statement.sql, renderPieces_append, renderPieces_cons,
      renderPieces_nil, String.append_empty, Placeholder.piece, Piece.render.eq_1,
      String.append_assoc, List.append_assoc] at hall ⊢
    exact hall
  · rw [schemaValues, ← schemaPredicate_values 2]
    rfl

end Statement

end TableQuery
