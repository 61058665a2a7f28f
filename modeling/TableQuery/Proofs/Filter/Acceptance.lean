import TableQuery.Filter.Parameters
import TableQuery.Proofs.Filter.Written
import TableQuery.Proofs.Text.Blank

/-!
# Which filters are accepted

A filter is compiled exactly if each of its conditions is valid: its column is a name, and before a
value it has one of the known operators, however its words are spelled and spaced. Otherwise the
first condition that is not valid gives the error, and the parameters of the caller are as they
were, whatever the conditions before it have pushed.
-/

namespace TableQuery

open TableQuery.Text

/-- The operator that some words spell: in upper case with one blank between them, and `=` where
there are no words. -/
def spelledOperator (ws : List (List Char)) : String :=
  if ws = [] then "=" else String.ofList (upperChars ([' '].intercalate ws))

namespace Condition

/-- The words of its operator spell one of the known operators. -/
def OperatorKnown (c : Condition) : Prop :=
  ∃ ws, Words c.operator.toList ws ∧ spelledOperator ws ∈ operators

/-- A condition is valid if its column is a name with at most one qualifier and an operator before
a value is known. Behind a mark for null the operator does not matter. -/
structure Valid (c : Condition) : Prop where
  /-- The column is a name. -/
  column : NameText c.column.toList
  /-- The operator before a value is known. -/
  operator : ∀ v, c.value = .value v → c.OperatorKnown

/-- Why a condition is rejected. The column is looked at first. -/
inductive Rejected (c : Condition) : InputError → Prop where
  /-- The column is no name. -/
  | column (hcolumn : ¬NameText c.column.toList) :
    Rejected c (.malformedFilter c.column .invalidColumn)
  /-- The column is a name, and the operator before a value is not known. -/
  | operator {v : Value} (hcolumn : NameText c.column.toList) (hvalue : c.value = .value v)
    (hoperator : ¬c.OperatorKnown) :
    Rejected c (.malformedFilter c.column (.unsupportedOperator c.operator))

end Condition

/-- The canonical form of an operator is what its words spell. -/
theorem canonicalOperator_eq (given : String) :
    canonicalOperator given = spelledOperator (words given.toList) := by
  have hjoined : ∀ ws : List (List Char),
      (String.intercalate " " (ws.map String.ofList)).toList = [' '].intercalate ws := by
    intro ws
    have hwords : (ws.map String.ofList).map String.toList = ws := by
      simp [List.map_map, Function.comp_def]
    rw [String.toList_intercalate, hwords]
    rfl
  rw [canonicalOperator, spelledOperator]
  cases words given.toList with
  | nil => rfl
  | cons w ws =>
    rw [if_neg (List.cons_ne_nil w ws), ← hjoined]

namespace Condition

/-- The operator of a condition is known exactly if its canonical form is. -/
theorem operatorKnown_iff (c : Condition) :
    c.OperatorKnown ↔ ∃ operator, operator? c.operator = some operator := by
  have hknown : c.OperatorKnown ↔ canonicalOperator c.operator ∈ operators := by
    rw [canonicalOperator_eq]
    constructor
    · rintro ⟨ws, hws, hmem⟩
      rwa [hws.words_eq]
    · intro hmem
      exact ⟨_, words_iff.2 rfl, hmem⟩
  rw [hknown, operator?]
  constructor
  · intro hmem
    exact ⟨_, if_pos (List.contains_iff_mem.2 hmem)⟩
  · rintro ⟨operator, h⟩
    obtain ⟨rfl, hmem⟩ := of_operator? h
    exact hmem

/-- The check of a condition passes if the condition is valid, and else it says why not. -/
theorem check_cases (c : Condition) :
    (c.Valid ∧ c.check = .ok ()) ∨ ∃ e, c.Rejected e ∧ ¬c.Valid ∧ c.check = .error e := by
  rw [check]
  by_cases hcolumn : isQualifiedIdentifier c.column = true
  · have hname : NameText c.column.toList := isQualifiedChars_iff.1 hcolumn
    rw [if_pos hcolumn]
    cases hvalue : c.value with
    | isNull => exact .inl ⟨⟨hname, fun v hv => by cases hvalue.symm.trans hv⟩, rfl⟩
    | notNull => exact .inl ⟨⟨hname, fun v hv => by cases hvalue.symm.trans hv⟩, rfl⟩
    | value v =>
      cases hoperator : operator? c.operator with
      | some operator =>
        have hknown : c.OperatorKnown := c.operatorKnown_iff.2 ⟨operator, hoperator⟩
        exact .inl ⟨⟨hname, fun _ _ => hknown⟩, rfl⟩
      | none =>
        have hunknown : ¬c.OperatorKnown := by
          rw [c.operatorKnown_iff, hoperator]
          rintro ⟨operator, ⟨⟩⟩
        exact .inr ⟨_, .operator hname hvalue hunknown,
          fun hvalid => hunknown (hvalid.operator v hvalue), rfl⟩
  · have hname : ¬NameText c.column.toList := mt isQualifiedChars_iff.2 hcolumn
    rw [if_neg hcolumn]
    exact .inr ⟨_, .column hname, fun hvalid => hname hvalid.column, rfl⟩

/-- A condition passes its check exactly if it is valid. -/
theorem check_ok_iff (c : Condition) : c.check = .ok () ↔ c.Valid := by
  rcases c.check_cases with ⟨hvalid, hcheck⟩ | ⟨e, -, hinvalid, hcheck⟩
  · exact iff_of_true hcheck hvalid
  · exact iff_of_false (by rw [hcheck]; rintro ⟨⟩) hinvalid

/-- A condition that fails its check is rejected with that error. -/
theorem rejected_of_check {c : Condition} {e : InputError} (h : c.check = .error e) :
    c.Rejected e := by
  rcases c.check_cases with ⟨-, hcheck⟩ | ⟨e', hrejected, -, hcheck⟩
  · cases hcheck.symm.trans h
  · cases hcheck.symm.trans h
    exact hrejected

end Condition

/-- A filter passes its check exactly if its conditions are valid. -/
theorem Filter.check_ok_iff (f : Filter) : f.check = .ok () ↔ ∀ c ∈ f.conditions, c.Valid := by
  rw [check, forM_ok_iff]
  exact forall₂_congr fun c _ => c.check_ok_iff

namespace ParameterM

variable {α β : Type}

/-- A failure ends the work, and what was pushed before it stays pushed. -/
theorem run_bind (x : ParameterM α) (f : α → ParameterM β) (parameters : List Value) :
    (x >>= f).run parameters =
      match x.run parameters with
      | (.ok a, pushed) => (f a).run pushed
      | (.error e, pushed) => (.error e, pushed) := by
  change ExceptT.bindCont f (x.run parameters).1 (x.run parameters).2 = _
  rcases x.run parameters with ⟨_ | _, pushed⟩ <;> rfl

end ParameterM

/-- A condition that passes its check pushes its value, and one that fails pushes nothing. -/
theorem Condition.run_write (c : Condition) (qualifier : Option String) (types : ColumnTypes)
    (parameters : List Value) :
    (c.write qualifier types).run parameters =
      match c.check with
      | .ok _ => (.ok (c.written qualifier types parameters.length).pieces,
          parameters ++ c.value.bound)
      | .error e => (.error e, parameters) := by
  have hread : (c.write qualifier types).run parameters =
    (do
      let one ← MonadExcept.ofExcept (c.compile qualifier types parameters.length)
      modify (· ++ one.values)
      return one.pieces : ParameterM _).run parameters := rfl
  rw [hread, c.compile_eq, ← c.values_written qualifier types parameters.length]
  cases c.check <;> rfl

/-- A condition and others behind it push their values in order, if the others do so behind the
value of the first one. Before a failure some values may have been pushed. -/
theorem Condition.run_write_rest {c : Condition} {rest : List Condition}
    {qualifier : Option String} {types : ColumnTypes} {parameters more : List Value}
    (hrest : (writeRest qualifier types rest).run (parameters ++ c.value.bound) =
      match rest.forM Condition.check with
      | .ok _ =>
        (.ok (writtenRest qualifier types (parameters ++ c.value.bound).length rest).pieces,
          parameters ++ c.value.bound ++ rest.flatMap fun c => c.value.bound)
      | .error e => (.error e, parameters ++ c.value.bound ++ more))
    (join : List Piece → List Piece → List Piece) :
    ∃ more, (do
        let one ← c.write qualifier types
        let others ← writeRest qualifier types rest
        return join one others : ParameterM _).run parameters =
      match (c :: rest).forM Condition.check with
      | .ok _ => (.ok (join (c.written qualifier types parameters.length).pieces
          (writtenRest qualifier types (parameters.length + c.value.bound.length) rest).pieces),
          parameters ++ (c :: rest).flatMap fun c => c.value.bound)
      | .error e => (.error e, parameters ++ more) := by
  rw [ParameterM.run_bind, c.run_write, forM_cons]
  cases c.check with
  | error e => exact ⟨[], by rw [List.append_nil]; rfl⟩
  | ok u =>
    refine ⟨c.value.bound ++ more, ?_⟩
    dsimp only
    rw [ParameterM.run_bind, hrest]
    change _ = match rest.forM Condition.check with | .ok _ => _ | .error e => _
    rw [List.flatMap_cons, ← List.append_assoc, ← List.append_assoc, List.length_append]
    cases rest.forM Condition.check <;> rfl

/-- Conditions that pass their checks push their values in order. Before a failure some values may
have been pushed. -/
theorem run_writeRest (qualifier : Option String) (types : ColumnTypes)
    (conditions : List Condition) (parameters : List Value) :
    ∃ more, (writeRest qualifier types conditions).run parameters =
      match conditions.forM Condition.check with
      | .ok _ => (.ok (writtenRest qualifier types parameters.length conditions).pieces,
          parameters ++ conditions.flatMap fun c => c.value.bound)
      | .error e => (.error e, parameters ++ more) := by
  induction conditions generalizing parameters with
  | nil => exact ⟨[], by rw [List.flatMap_nil, List.append_nil]; rfl⟩
  | cons c rest ih =>
    obtain ⟨more, hrest⟩ := ih (parameters ++ c.value.bound)
    rw [writtenRest, c.values_written]
    exact Condition.run_write_rest hrest fun one others =>
      .text c.connective.keyword :: one ++ others

namespace Filter

/-- A filter that passes its check pushes its values in order. Before a failure some values may
have been pushed. -/
theorem run_write (f : Filter) (qualifier : Option String) (types : ColumnTypes)
    (parameters : List Value) :
    ∃ more, (f.write qualifier types).run parameters =
      match f.check with
      | .ok _ => (.ok (f.writtenClause qualifier types parameters.length),
          parameters ++ f.boundValues)
      | .error e => (.error e, parameters ++ more) := by
  rw [write, check, writtenClause, written, boundValues]
  cases f.conditions with
  | nil => exact ⟨[], by rw [List.flatMap_nil, List.append_nil]; rfl⟩
  | cons c rest =>
    obtain ⟨more, hrest⟩ := run_writeRest qualifier types rest (parameters ++ c.value.bound)
    dsimp only
    rw [c.values_written]
    exact Condition.run_write_rest hrest fun one others => .text " WHERE " :: (one ++ others)

/-- A filter is compiled exactly if it passes its check. -/
theorem compile_eq (f : Filter) (parameters : List Value) (qualifier : Option String)
    (types : ColumnTypes) :
    f.compile parameters qualifier types =
      f.check.map fun _ => (renderPieces (f.writtenClause qualifier types parameters.length),
        parameters ++ f.boundValues) := by
  rw [compile, f.clause_eq]
  cases f.check <;> rfl

/-- What is pushed one after the other are the parameters of the compiled filter. After a failure
nothing of it is left. -/
theorem compileInto_eq (f : Filter) (parameters : List Value) (qualifier : Option String)
    (types : ColumnTypes) :
    f.compileInto parameters qualifier types =
      match f.compile parameters qualifier types with
      | .ok (sql, all) => (.ok sql, all)
      | .error e => (.error e, parameters) := by
  obtain ⟨more, hrun⟩ := f.run_write qualifier types parameters
  rw [compileInto, hrun, f.compile_eq]
  cases f.check with
  | ok u => rfl
  | error e => exact congrArg (Prod.mk _) (List.take_left' rfl)

/-- A filter is compiled into given parameters exactly if all of its conditions are valid, and then
its values stand behind these parameters in their order. Else the error is that of the first
condition that is not valid, and the parameters are exactly those that were given. -/
theorem compileInto_atomic (f : Filter) (parameters : List Value) (qualifier : Option String)
    (types : ColumnTypes) :
    ((∃ sql, (f.compileInto parameters qualifier types).1 = .ok sql) ↔
      ∀ c ∈ f.conditions, c.Valid) ∧
    (∀ sql, (f.compileInto parameters qualifier types).1 = .ok sql →
      (f.compileInto parameters qualifier types).2 = parameters ++ f.boundValues) ∧
    ∀ e, (f.compileInto parameters qualifier types).1 = .error e →
      (f.compileInto parameters qualifier types).2 = parameters ∧
      ∃ before c rest, f.conditions = before ++ c :: rest ∧ (∀ b ∈ before, b.Valid) ∧
        c.Rejected e := by
  rw [compileInto_eq, compile_eq, ← f.check_ok_iff]
  cases hcheck : f.check with
  | ok u =>
    refine ⟨iff_of_true ⟨_, rfl⟩ rfl, fun _ _ => rfl, ?_⟩
    intro e he
    cases he
  | error e =>
    refine ⟨iff_of_false ?_ ?_, ?_, ?_⟩
    · rintro ⟨sql, hsql⟩
      cases hsql
    · rintro ⟨⟩
    · intro sql hsql
      cases hsql
    · intro e' he
      cases he
      obtain ⟨before, c, rest, hsplit, hbefore, hc⟩ := forM_error_iff.1 hcheck
      exact ⟨rfl, before, c, rest, hsplit, fun b hb => b.check_ok_iff.1 (hbefore b hb),
        Condition.rejected_of_check hc⟩

end Filter

end TableQuery
