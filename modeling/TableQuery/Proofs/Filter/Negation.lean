import TableQuery.Filter.Parameters
import TableQuery.Proofs.Filter.Expression

/-!
# Negated comparisons

An expression of a column, an operator of equality and a literal is read at that operator, whatever
the literal holds. The predicate of a comparison with `!=` or `<>` is that of the comparison with
`=` up to its operator. The words that stand for null and not null leave no place for an operator:
there the comparison and its negation have one predicate.
-/

namespace TableQuery

open TableQuery.Text

/-- The operators of equality and its negation. None of them is the beginning of another one. -/
def equalityOperators : List String := ["=", "!=", "<>"]

/-- An operator of equality is found whatever stands behind it. -/
theorem operatorAt?_equality {op : String} (h : op ∈ equalityOperators) (rest : List Char) :
    operatorAt? (op.toList ++ rest) = some (op, op) := by
  simp only [equalityOperators, List.mem_cons, List.not_mem_nil, or_false] at h
  rcases h with rfl | rfl | rfl <;> rfl

namespace Condition

/-- An expression of a column, an operator of equality and a literal is read as that comparison. -/
theorem parse_equality {column op : String} (hcolumn : isQualifiedIdentifier column = true)
    (hop : op ∈ equalityOperators) (literal : String) :
    Condition.parse (column ++ op ++ literal) =
      .ok (.withValue column op (literalSide (trimChars literal.toList))) := by
  have hentry : ∀ op ∈ equalityOperators, (op, op) ∈ compactOperators := by decide
  have hblank : isBlankText "" = true := by decide
  have hparse : Condition.parse ("" ++ column ++ "" ++ op ++ literal) = _ :=
    parse_of_operatorAt? hcolumn (hentry op hop) hblank hblank (operatorAt?_equality hop _)
  simpa using hparse

variable {column op : String} {qualifier : Option String} {types : ColumnTypes} {count : ℕ}

/-- A comparison by an operator of equality is written with that operator. -/
theorem compile_equality (hcolumn : isQualifiedIdentifier column = true)
    (hop : op ∈ equalityOperators) (v : Value) :
    (withValue column op (.value v)).compile qualifier types count =
      .ok ⟨[.text ((isNull column).writtenColumn qualifier ++ " " ++ op ++ " "),
        types.placeholder column (count + 1) v], [v]⟩ := by
  have hknown : ∀ op ∈ equalityOperators, operator? op = some op ∧
      patternOperators.contains op = false := by
    decide +kernel
  obtain ⟨hoperator, hpattern⟩ := hknown op hop
  have hcheck : isQualifiedIdentifier (withValue column op (.value v)).column = true := hcolumn
  rw [compile, if_pos hcheck]
  simp only [withValue, hoperator, hpattern]
  rfl

/-- A filter of one condition is the clause of its predicate. -/
theorem compile_single {c : Condition} {parameters : List Value} {one : Compiled}
    (h : c.compile qualifier types parameters.length = .ok one) :
    Filter.compile ⟨[c]⟩ parameters qualifier types =
      .ok (" WHERE " ++ renderPieces one.pieces, parameters ++ one.values) := by
  have hpredicate : Filter.predicate ⟨[c]⟩ qualifier types parameters.length =
      .ok (some ⟨one.pieces ++ [], one.values ++ []⟩) := by
    simp only [Filter.predicate, h]
    rfl
  have hclause : Filter.clause ⟨[c]⟩ qualifier types parameters.length =
      .ok ⟨.text " WHERE " :: one.pieces, one.values⟩ := by
    rw [Filter.clause, hpredicate, List.append_nil, List.append_nil]
    rfl
  rw [Filter.compile, hclause]
  exact congrArg (fun text => Except.ok (text, parameters ++ one.values)) (renderPieces_cons _ _)

end Condition

/-- The clause and the parameters of a filter that is given as one expression, behind given
parameters. -/
def compileExpression (expression : String) (parameters : List Value) (qualifier : Option String)
    (types : ColumnTypes) : Except InputError (String × List Value) := do
  Filter.compile ⟨[← Condition.parse expression]⟩ parameters qualifier types

/-- The test of a word that stands for null or not null. -/
def markerTest (word : String) : String :=
  if word = "null" then " IS NULL" else " IS NOT NULL"

/-- The words that stand for null and not null are markers. -/
theorem literalSide_of_mem {literal : String} (h : Text.trim literal ∈ markerWords) :
    literalSide (trimChars literal.toList) =
      if Text.trim literal = "null" then .isNull else .notNull := by
  have hword : String.ofList (trimChars literal.toList) = Text.trim literal := rfl
  rw [literalSide, hword]
  simp only [markerWords, List.mem_cons, List.not_mem_nil, or_false] at h
  rcases h with h | h | h <;> rw [h] <;> rfl

/-- A word that stands for null or not null is compiled to its test, whatever the operator. -/
theorem compile_marker {column : String} (hcolumn : isQualifiedIdentifier column = true)
    {literal : String} (h : Text.trim literal ∈ markerWords) (op : String)
    (qualifier : Option String) (types : ColumnTypes) (count : ℕ) :
    (Condition.withValue column op (literalSide (trimChars literal.toList))).compile
        qualifier types count =
      .ok ⟨[.text ((Condition.isNull column).writtenColumn qualifier ++
        markerTest (Text.trim literal))], []⟩ := by
  have hcheck : isQualifiedIdentifier
      (Condition.withValue column op (literalSide (trimChars literal.toList))).column = true :=
    hcolumn
  rw [Condition.compile, if_pos hcheck, Condition.withValue, literalSide_of_mem h, markerTest]
  by_cases hnull : Text.trim literal = "null"
  · rw [if_pos hnull, if_pos hnull]
    rfl
  · rw [if_neg hnull, if_neg hnull]
    rfl

/-- An expression that is read as one condition is compiled to the clause of its predicate. -/
theorem compileExpression_of_parse {expression : String} {c : Condition}
    {parameters : List Value} {qualifier : Option String} {types : ColumnTypes} {one : Compiled}
    (hparse : Condition.parse expression = .ok c)
    (h : c.compile qualifier types parameters.length = .ok one) :
    compileExpression expression parameters qualifier types =
      .ok (" WHERE " ++ renderPieces one.pieces, parameters ++ one.values) := by
  rw [compileExpression, hparse]
  exact Condition.compile_single h

section Equality

variable {column op : String} (hcolumn : isQualifiedIdentifier column = true)
  (hop : op ∈ equalityOperators) (literal : String) (parameters : List Value)
  (qualifier : Option String) (types : ColumnTypes)

include hcolumn hop

/-- A comparison with an ordinary literal is written with its operator and binds the literal. -/
theorem compileExpression_value (hliteral : Text.trim literal ∉ markerWords) :
    compileExpression (column ++ op ++ literal) parameters qualifier types =
      .ok (" WHERE " ++ (Condition.isNull column).writtenColumn qualifier ++ " " ++ op ++ " " ++
          (types.placeholder column (parameters.length + 1)
            (literalValue (trimChars literal.toList))).render,
        parameters ++ [literalValue (trimChars literal.toList)]) := by
  have hparse := Condition.parse_equality hcolumn hop literal
  rw [literalSide_of_notMem hliteral] at hparse
  rw [compileExpression_of_parse hparse (Condition.compile_equality hcolumn hop _)]
  simp only [renderPieces_cons, renderPieces_nil, Piece.render, String.append_assoc,
    String.append_empty]

/-- A comparison with a word that stands for null or not null is the test of that word. -/
theorem compileExpression_marker (hliteral : Text.trim literal ∈ markerWords) :
    compileExpression (column ++ op ++ literal) parameters qualifier types =
      .ok (" WHERE " ++ (Condition.isNull column).writtenColumn qualifier ++
        markerTest (Text.trim literal), parameters) := by
  rw [compileExpression_of_parse (Condition.parse_equality hcolumn hop literal)
    (compile_marker hcolumn hliteral op qualifier types parameters.length)]
  simp only [renderPieces_cons, renderPieces_nil, Piece.render, String.append_assoc,
    String.append_empty, List.append_nil]

end Equality

/-- A comparison of a column with a literal by `!=` or `<>` beside the one by `=`. For an ordinary
literal their clauses have one placeholder, which binds one value, and differ in their operator. For
a word that stands for null or not null the clauses are the same, and only there. -/
theorem negation_of_equality {column op : String} (hcolumn : isQualifiedIdentifier column = true)
    (hop : op ∈ ["!=", "<>"]) (literal : String) (parameters : List Value)
    (qualifier : Option String) (types : ColumnTypes) :
    let written := (Condition.isNull column).writtenColumn qualifier
    let v := literalValue (trimChars literal.toList)
    let placeholder := (types.placeholder column (parameters.length + 1) v).render
    let comparison := fun op => " WHERE " ++ written ++ " " ++ op ++ " " ++ placeholder
    let test := " WHERE " ++ written ++ markerTest (Text.trim literal)
    let positive := compileExpression (column ++ "=" ++ literal) parameters qualifier types
    let negative := compileExpression (column ++ op ++ literal) parameters qualifier types
    (Text.trim literal ∉ markerWords → positive = .ok (comparison "=", parameters ++ [v]) ∧
      negative = .ok (comparison op, parameters ++ [v])) ∧
    (Text.trim literal ∈ markerWords → positive = .ok (test, parameters) ∧
      negative = .ok (test, parameters)) ∧
    (negative = positive ↔ Text.trim literal ∈ markerWords) := by
  intro written v placeholder comparison test positive negative
  have hequal : "=" ∈ equalityOperators := List.mem_cons_self
  have hnegated : op ∈ equalityOperators := List.mem_cons_of_mem _ hop
  have hordinary : Text.trim literal ∉ markerWords →
      positive = .ok (comparison "=", parameters ++ [v]) ∧
        negative = .ok (comparison op, parameters ++ [v]) := fun hliteral =>
    ⟨compileExpression_value hcolumn hequal literal parameters qualifier types hliteral,
      compileExpression_value hcolumn hnegated literal parameters qualifier types hliteral⟩
  have hmarker : Text.trim literal ∈ markerWords →
      positive = .ok (test, parameters) ∧ negative = .ok (test, parameters) := fun hliteral =>
    ⟨compileExpression_marker hcolumn hequal literal parameters qualifier types hliteral,
      compileExpression_marker hcolumn hnegated literal parameters qualifier types hliteral⟩
  refine ⟨hordinary, hmarker, ?_, fun hliteral => ?_⟩
  · -- the two clauses of an ordinary literal are not equally long
    intro hsame
    by_contra hliteral
    rw [(hordinary hliteral).1, (hordinary hliteral).2] at hsame
    have hlength : (comparison op).length = (comparison "=").length :=
      congrArg String.length (Prod.ext_iff.1 (Except.ok.inj hsame)).1
    have htwo : ∀ op ∈ ["!=", "<>"], op.length = 2 := by decide
    have hone : "=".length = 1 := by decide
    simp only [comparison, String.length_append, htwo op hop, hone] at hlength
    omega
  · rw [(hmarker hliteral).1, (hmarker hliteral).2]

/-- A comparison of a qualified column with a number by `<>`, behind one parameter and with a cast,
is the negation of the one by `=`. -/
theorem negation_of_equality_number :
    let types := ColumnTypes.ofList [("org.size", "int4")]
    isQualifiedIdentifier "org.size" = true ∧ "<>" ∈ ["!=", "<>"] ∧
      compileExpression "org.size= 7 " [.null] (some "t") types =
        .ok (" WHERE org.size = $2::int4", [.null, .int 7]) ∧
      compileExpression "org.size<> 7 " [.null] (some "t") types =
        .ok (" WHERE org.size <> $2::int4", [.null, .int 7]) := by
  intro types
  have hcolumn : isQualifiedIdentifier "org.size" = true := by decide
  have hop : "<>" ∈ ["!=", "<>"] := by decide
  have hliteral : Text.trim " 7 " ∉ markerWords := by decide
  have hpositive : "org.size= 7 " = "org.size" ++ "=" ++ " 7 " := rfl
  have hnegative : "org.size<> 7 " = "org.size" ++ "<>" ++ " 7 " := rfl
  obtain ⟨hordinary, -, -⟩ := negation_of_equality hcolumn hop " 7 " [.null] (some "t") types
  obtain ⟨hequal, hnotEqual⟩ := hordinary hliteral
  refine ⟨hcolumn, hop, ?_, ?_⟩
  · exact (congrArg (compileExpression · [.null] (some "t") types) hpositive).trans hequal
  · exact (congrArg (compileExpression · [.null] (some "t") types) hnegative).trans hnotEqual

/-- A column that is asked by `!=` whether it is null is tested for null all the same. -/
theorem negation_of_null :
    compileExpression "deleted_at=null" [] none .empty = .ok (" WHERE deleted_at IS NULL", []) ∧
      compileExpression "deleted_at!=null" [] none .empty =
        .ok (" WHERE deleted_at IS NULL", []) := by
  constructor <;> rfl

end TableQuery
