import TableQuery.Proofs.Filter.Meaning
import TableQuery.Proofs.Statement.Verdict

/-!
# How a filter is written

Whether a filter is compiled is decided by its checks alone. What it is then written as can be said
for every filter, without a failure: one piece of text for each condition, a placeholder behind it
where it compares with a value, and the values in their order.
-/

namespace TableQuery

/-- What a condition that passes its check is written as, behind `count` parameters. -/
def Condition.written (c : Condition) (qualifier : Option String) (types : ColumnTypes)
    (count : Nat) : Compiled :=
  match c.value with
  | .isNull => ⟨[.text (c.writtenColumn qualifier ++ " IS NULL")], []⟩
  | .notNull => ⟨[.text (c.writtenColumn qualifier ++ " IS NOT NULL")], []⟩
  | .value v =>
    ⟨[.text (c.writtenColumn qualifier ++ " " ++ canonicalOperator c.operator ++ " "),
      .placeholder (count + 1) (c.castType types v)], [v]⟩

/-- What conditions that follow others are written as. -/
def writtenRest (qualifier : Option String) (types : ColumnTypes) :
    Nat → List Condition → Compiled
  | _, [] => ⟨[], []⟩
  | count, c :: rest =>
    let one := c.written qualifier types count
    let others := writtenRest qualifier types (count + one.values.length) rest
    ⟨.text c.connective.keyword :: one.pieces ++ others.pieces, one.values ++ others.values⟩

namespace Filter

/-- What the predicate of a filter is written as; an empty filter has none. -/
def written (f : Filter) (qualifier : Option String) (types : ColumnTypes) (count : Nat) :
    Option Compiled :=
  match f.conditions with
  | [] => none
  | c :: rest =>
    let one := c.written qualifier types count
    let others := writtenRest qualifier types (count + one.values.length) rest
    some ⟨one.pieces ++ others.pieces, one.values ++ others.values⟩

/-- What the clause of a filter is written as. -/
def writtenClause (f : Filter) (qualifier : Option String) (types : ColumnTypes) (count : Nat) :
    List Piece :=
  match f.written qualifier types count with
  | none => []
  | some p => .text " WHERE " :: p.pieces

/-- What the clause on rows of a read or an update is written as. -/
def writtenRows (f : Filter) (qualifier : Option String) (info : TableInfo) (count : Nat) :
    List Piece :=
  if info.softDelete then guardedPieces f qualifier (f.written qualifier info.columnTypes count)
  else f.writtenClause qualifier info.columnTypes count

end Filter

/-- A condition is compiled exactly if it passes its check, and then to what it is written as. -/
theorem Condition.compile_eq (c : Condition) (qualifier : Option String) (types : ColumnTypes)
    (count : Nat) :
    c.compile qualifier types count = c.check.map fun _ => c.written qualifier types count := by
  rw [compile, check, written]
  split
  · cases c.value with
    | isNull => rfl
    | notNull => rfl
    | value v =>
      cases hoperator : operator? c.operator with
      | none => rfl
      | some operator =>
        obtain ⟨rfl, -⟩ := of_operator? hoperator
        exact congrArg (fun p => Except.ok (Compiled.mk [_, p] [v]))
          (c.placeholder_eq types (count + 1) v)
  · rfl

/-- A condition that is compiled binds its value, whatever its qualifier is. -/
theorem Condition.values_written (c : Condition) (qualifier : Option String) (types : ColumnTypes)
    (count : Nat) : (c.written qualifier types count).values = c.value.bound := by
  rw [written]
  cases c.value <;> rfl

/-- Conditions that follow others are compiled exactly if all of them pass their checks. -/
theorem compileRest_eq (qualifier : Option String) (types : ColumnTypes) (count : Nat)
    (conditions : List Condition) :
    compileRest qualifier types count conditions =
      (conditions.forM Condition.check).map fun _ =>
        writtenRest qualifier types count conditions := by
  induction conditions generalizing count with
  | nil => rfl
  | cons c rest ih =>
    rw [compileRest, c.compile_eq, forM_cons]
    cases c.check with
    | error e => rfl
    | ok u =>
      change (compileRest qualifier types _ rest >>= _) = Except.map _ (rest.forM Condition.check)
      rw [ih]
      cases rest.forM Condition.check <;> rfl

/-- The values of conditions that follow others are bound in their order. -/
theorem values_writtenRest (qualifier : Option String) (types : ColumnTypes) (count : Nat)
    (conditions : List Condition) :
    (writtenRest qualifier types count conditions).values =
      conditions.flatMap fun c => c.value.bound := by
  induction conditions generalizing count with
  | nil => rfl
  | cons c rest ih =>
    rw [writtenRest, List.flatMap_cons, ← ih, ← c.values_written qualifier types count]

namespace Filter

/-- The predicate of a filter is compiled exactly if the filter passes its check. -/
theorem predicate_eq (f : Filter) (qualifier : Option String) (types : ColumnTypes)
    (count : Nat) :
    f.predicate qualifier types count =
      f.check.map fun _ => f.written qualifier types count := by
  rw [predicate, check, written]
  cases f.conditions with
  | nil => rfl
  | cons c rest =>
    dsimp only
    rw [c.compile_eq, forM_cons]
    cases c.check with
    | error e => rfl
    | ok u =>
      change (compileRest qualifier types _ rest >>= _) = Except.map _ (rest.forM Condition.check)
      rw [compileRest_eq]
      cases rest.forM Condition.check <;> rfl

/-- The values of a filter are bound in their order. -/
theorem values_written (f : Filter) (qualifier : Option String) (types : ColumnTypes)
    (count : Nat) :
    (f.written qualifier types count).elim [] Compiled.values = f.boundValues := by
  rw [written, boundValues]
  cases f.conditions with
  | nil => rfl
  | cons c rest =>
    rw [Option.elim_some, values_writtenRest, c.values_written, List.flatMap_cons]

/-- The clause of a filter is compiled exactly if the filter passes its check. -/
theorem clause_eq (f : Filter) (qualifier : Option String) (types : ColumnTypes) (count : Nat) :
    f.clause qualifier types count =
      f.check.map fun _ => ⟨f.writtenClause qualifier types count, f.boundValues⟩ := by
  rw [clause, f.predicate_eq, writtenClause, ← f.values_written qualifier types count]
  cases f.check with
  | error e => rfl
  | ok u => cases f.written qualifier types count <;> rfl

end Filter

/-- The clause on rows is compiled exactly if the filter passes its check. -/
theorem whereClause_eq (f : Filter) (qualifier : Option String) (info : TableInfo) (count : Nat) :
    whereClause f qualifier info count =
      f.check.map fun _ => ⟨f.writtenRows qualifier info count, f.boundValues⟩ := by
  rw [whereClause, f.predicate_eq, Filter.writtenRows, Filter.writtenClause,
    ← f.values_written qualifier info.columnTypes count]
  cases f.check with
  | error e => rfl
  | ok u =>
    cases info.softDelete <;> cases f.written qualifier info.columnTypes count <;> rfl

/-- A clause on rows that was compiled is that of a filter that passes its check. -/
theorem of_whereClause {f : Filter} {qualifier : Option String} {info : TableInfo} {count : Nat}
    {rows : Compiled} (h : whereClause f qualifier info count = .ok rows) :
    f.check = .ok () ∧ rows = ⟨f.writtenRows qualifier info count, f.boundValues⟩ := by
  rw [whereClause_eq] at h
  obtain ⟨⟨⟩, hcheck, rfl⟩ := map_ok_iff.1 h
  exact ⟨hcheck, rfl⟩

/-!
## Filters with one connective

Where all conditions behind the first one are joined alike, a filter is one chain: all of its tests,
or at least one of them. Its clause is the texts of its conditions with the connective between
them, none left out and none merged.
-/

open TableQuery.Sql

section Along

variable {α : Type} {make : Condition → ℕ → α}

/-- What is made of conditions, each behind the values that those before it bind. -/
def alongConditions (make : Condition → ℕ → α) : ℕ → List Condition → List α
  | _, [] => []
  | count, c :: rest => make c count :: alongConditions make (count + c.value.bound.length) rest

/-- One thing is made of each condition. -/
theorem length_alongConditions (count : ℕ) (conditions : List Condition) :
    (alongConditions make count conditions).length = conditions.length := by
  induction conditions generalizing count with
  | nil => rfl
  | cons c rest ih => rw [alongConditions, List.length_cons, ih, List.length_cons]

/-- What is made of the condition at a place. -/
theorem getElem?_alongConditions (count : ℕ) (conditions : List Condition) (i : ℕ) :
    (alongConditions make count conditions)[i]? = conditions[i]?.map fun c =>
      make c (count + ((conditions.take i).flatMap fun c => c.value.bound).length) := by
  induction conditions generalizing count i with
  | nil => rfl
  | cons c rest ih =>
    cases i with
    | zero => rfl
    | succ i =>
      rw [alongConditions, List.getElem?_cons_succ, List.getElem?_cons_succ, ih,
        List.take_succ_cons, List.flatMap_cons, List.length_append, Nat.add_assoc]

/-- Conditions that are changed but keep their values keep their numbers. -/
theorem alongConditions_map {change : Condition → Condition}
    (hvalue : ∀ c, (change c).value = c.value) (count : ℕ) (conditions : List Condition) :
    alongConditions make count (conditions.map change) =
      alongConditions (fun c => make (change c)) count conditions := by
  induction conditions generalizing count with
  | nil => rfl
  | cons c rest ih =>
    rw [List.map_cons, alongConditions, alongConditions, ih, hvalue]

end Along

/-- The tests of conditions, in their order. -/
def conditionTests (qualifier : Option String) (types : ColumnTypes) (count : ℕ)
    (conditions : List Condition) : List RowPredicate :=
  alongConditions (fun c => c.test qualifier types) count conditions

/-- The texts of conditions, in their order. -/
def conditionTexts (qualifier : Option String) (types : ColumnTypes) (count : ℕ)
    (conditions : List Condition) : List String :=
  alongConditions (fun c count => renderPieces (c.written qualifier types count).pieces) count
    conditions

/-- The tests without their connectives are those of the conditions. -/
theorem map_snd_testsFrom_eq (qualifier : Option String) (types : ColumnTypes) (count : ℕ)
    (conditions : List Condition) :
    (testsFrom qualifier types count conditions).map Prod.snd =
      conditionTests qualifier types count conditions := by
  induction conditions generalizing count with
  | nil => rfl
  | cons c rest ih =>
    rw [testsFrom, List.map_cons, ih]
    rfl

/-- The connectives of the tests are those of the conditions. -/
theorem forall_mem_testsFrom_iff {qualifier : Option String} {types : ColumnTypes} {count : ℕ}
    {conditions : List Condition} {connective : Connective} :
    (∀ t ∈ testsFrom qualifier types count conditions, t.1 = connective) ↔
      ∀ c ∈ conditions, c.connective = connective := by
  induction conditions generalizing count with
  | nil => exact ⟨fun _ => List.forall_mem_nil _, fun _ => List.forall_mem_nil _⟩
  | cons c rest ih => rw [testsFrom, List.forall_mem_cons, List.forall_mem_cons, ih]

/-- Tests under AND go on with the run under way. -/
theorem runsFrom_and {tests : List (Connective × RowPredicate)} (h : ∀ t ∈ tests, t.1 = .and)
    (run : List RowPredicate) : runsFrom run tests = [run ++ tests.map Prod.snd] := by
  induction tests generalizing run with
  | nil => rw [runsFrom, List.map_nil, List.append_nil]
  | cons t rest ih =>
    obtain ⟨connective, p⟩ := t
    obtain ⟨rfl, hrest⟩ := List.forall_mem_cons.1 h
    rw [runsFrom, ih hrest, List.append_assoc]
    rfl

/-- Alternatives are runs of their own. -/
theorem runsFrom_or {tests : List (Connective × RowPredicate)} (h : ∀ t ∈ tests, t.1 = .or)
    (run : List RowPredicate) :
    runsFrom run tests = run :: (tests.map Prod.snd).map fun p => [p] := by
  induction tests generalizing run with
  | nil => rfl
  | cons t rest ih =>
    obtain ⟨connective, p⟩ := t
    obtain ⟨rfl, hrest⟩ := List.forall_mem_cons.1 h
    rw [runsFrom, ih hrest]
    rfl

/-- Runs of one test each are these tests. -/
theorem filterMap_allOf_singletons (tests : List RowPredicate) :
    (tests.map fun p => [p]).filterMap allOf = tests := by
  rw [List.filterMap_map]
  exact List.filterMap_some

namespace Filter

variable {f : Filter} {connective : Connective}

/-- Tests that are joined alike: all of them under AND, at least one of them under OR. -/
def chain : Connective → List RowPredicate → Option RowPredicate
  | .and => allOf
  | .or => anyOf

/-- A filter with one connective means the chain of its tests. -/
theorem meaning_eq_chain (h : ∀ c ∈ f.conditions.tail, c.connective = connective)
    (qualifier : Option String) (types : ColumnTypes) (count : ℕ) :
    f.meaning qualifier types count =
      chain connective (conditionTests qualifier types count f.conditions) := by
  rw [meaning]
  cases hf : f.conditions with
  | nil => cases connective <;> rfl
  | cons c rest =>
    rw [hf, List.tail_cons] at h
    rw [testsFrom, andRuns]
    have htests : ∀ t ∈ testsFrom qualifier types (count + c.value.bound.length) rest,
        t.1 = connective := forall_mem_testsFrom_iff.2 h
    cases connective with
    | and =>
      rw [runsFrom_and htests, map_snd_testsFrom_eq]
      rfl
    | or =>
      rw [runsFrom_or htests, List.filterMap_cons, filterMap_allOf_singletons,
        map_snd_testsFrom_eq]
      rfl

end Filter

/-- Further conditions with one connective are written with it between them. -/
theorem renderPieces_writtenRest {connective : Connective} {qualifier : Option String}
    {types : ColumnTypes} {conditions : List Condition}
    (h : ∀ c ∈ conditions, c.connective = connective) (count : ℕ) (first : String) :
    first ++ renderPieces (writtenRest qualifier types count conditions).pieces =
      Text.join connective.keyword
        (first :: conditionTexts qualifier types count conditions) := by
  induction conditions generalizing count first with
  | nil => simp [writtenRest, conditionTexts, alongConditions, Text.join, renderPieces_nil]
  | cons c rest ih =>
    obtain ⟨rfl, hrest⟩ := List.forall_mem_cons.1 h
    have htexts : conditionTexts qualifier types count (c :: rest) =
        renderPieces (c.written qualifier types count).pieces ::
          conditionTexts qualifier types (count + c.value.bound.length) rest := rfl
    have hjoin (second : String) (others : List String) :
        Text.join c.connective.keyword (first :: second :: others) =
          first ++ (c.connective.keyword ++ Text.join c.connective.keyword (second :: others)) := by
      simp [Text.join, String.append_assoc]
    rw [writtenRest, htexts, hjoin, ← ih hrest, c.values_written, List.cons_append,
      renderPieces_cons, renderPieces_append]
    rfl

/-- The clause of a filter with one connective: its conditions with the connective between them. -/
theorem Filter.renderPieces_writtenClause {f : Filter} {connective : Connective}
    (h : ∀ c ∈ f.conditions.tail, c.connective = connective) (qualifier : Option String)
    (types : ColumnTypes) (count : ℕ) :
    renderPieces (f.writtenClause qualifier types count) =
      if f.conditions = [] then ""
      else " WHERE " ++
        Text.join connective.keyword (conditionTexts qualifier types count f.conditions) := by
  rw [writtenClause, written]
  cases hf : f.conditions with
  | nil => rfl
  | cons c rest =>
    rw [hf, List.tail_cons] at h
    have htexts : conditionTexts qualifier types count (c :: rest) =
        renderPieces (c.written qualifier types count).pieces ::
          conditionTexts qualifier types (count + c.value.bound.length) rest := rfl
    rw [if_neg (List.cons_ne_nil c rest), htexts, ← renderPieces_writtenRest h, ← c.values_written,
      ← renderPieces_append, renderPieces_cons]
    rfl

end TableQuery
