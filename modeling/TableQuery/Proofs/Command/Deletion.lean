import TableQuery.Proofs.Command.BoundData
import TableQuery.Proofs.Filter.Acceptance
import TableQuery.Proofs.Filter.Written

/-!
# Deletions on the command line

A deletion without conditions has to be asked for. Every expression that is given becomes one
condition of the statement, in the order of the expressions, and nothing that cannot be read is
passed over: one expression, cast or table that is not valid, and there is no statement.
-/

namespace TableQuery

open TableQuery.Sql

/-- An expression is read as a further requirement. -/
theorem Condition.connective_of_parse {expression : String} {c : Condition}
    (h : Condition.parse expression = .ok c) : c.connective = .and := by
  simp only [Condition.parse] at h
  split at h
  · cases h
  · split at h
    · cases h
    · cases h
      rfl

namespace Command

/-- Conditions are read exactly as each expression is. -/
theorem readConditions_ok_iff {expressions : List String} {conditions : List Condition} :
    readConditions expressions = .ok conditions ↔
      List.Forall₂ (fun expression c => Condition.parse expression = .ok c) expressions
        conditions := by
  induction expressions generalizing conditions with
  | nil =>
    rw [List.forall₂_nil_left_iff]
    exact ⟨fun h => by cases h; rfl, fun h => by rw [h]; rfl⟩
  | cons expression rest ih =>
    rw [readConditions, List.forall₂_cons_left_iff]
    constructor
    · intro h
      split at h
      · cases h
      · next c hc =>
        obtain ⟨others, hrest, h⟩ := ok_of_bind h
        cases h
        exact ⟨c, others, hc, ih.1 hrest, rfl⟩
    · rintro ⟨c, others, hc, hrest, rfl⟩
      rw [hc, ih.2 hrest]
      rfl

/-- How the conditions of a command are joined. -/
def FilterArguments.connective (a : FilterArguments) : Connective :=
  if a.anyOf then .or else .and

/-- Conditions that are joined alike: behind the first one they get the connective. -/
def joinedBy (connective : Connective) : List Condition → List Condition
  | [] => []
  | c :: cs => c :: cs.map fun c => { c with connective }

/-- Joined conditions have the connective behind the first one. -/
theorem connective_of_mem_tail {connective : Connective} {conditions : List Condition} :
    ∀ c ∈ (joinedBy connective conditions).tail, c.connective = connective := by
  cases conditions with
  | nil => exact List.forall_mem_nil _
  | cons c rest => exact List.forall_mem_map.2 fun _ _ => rfl

/-- What is made of conditions is made of the joined ones, if connectives do not matter for it. -/
theorem alongConditions_joinedBy {α : Type} {make : Condition → ℕ → α}
    (hmake : ∀ c connective, make { c with connective } = make c) (connective : Connective)
    (count : ℕ) (conditions : List Condition) :
    alongConditions make count (joinedBy connective conditions) =
      alongConditions make count conditions := by
  cases conditions with
  | nil => rfl
  | cons c rest =>
    have hvalue : ∀ c : Condition, { c with connective := connective }.value = c.value :=
      fun _ => rfl
    rw [joinedBy, alongConditions, alongConditions, alongConditions_map hvalue]
    simp only [hmake]

/-- Joined conditions bind the values of the conditions. -/
theorem boundValues_joinedBy (connective : Connective) (conditions : List Condition) :
    Filter.boundValues ⟨joinedBy connective conditions⟩ =
      conditions.flatMap fun c => c.value.bound := by
  cases conditions with
  | nil => rfl
  | cons c rest => rw [Filter.boundValues, joinedBy, List.flatMap_cons, List.flatMap_map,
      List.flatMap_cons]

/-- Joined conditions are valid exactly if the conditions are. -/
theorem valid_joinedBy_iff {connective : Connective} {conditions : List Condition} :
    (∀ c ∈ joinedBy connective conditions, c.Valid) ↔ ∀ c ∈ conditions, c.Valid := by
  have hvalid (c : Condition) : Condition.Valid { c with connective } ↔ c.Valid :=
    ⟨fun h => ⟨h.column, h.operator⟩, fun h => ⟨h.column, h.operator⟩⟩
  cases conditions with
  | nil => exact Iff.rfl
  | cons c rest =>
    rw [joinedBy, List.forall_mem_cons, List.forall_mem_cons, List.forall_mem_map]
    exact and_congr Iff.rfl (forall₂_congr fun c _ => hvalid c)

/-- The filter of a command are the conditions that its expressions are read as, joined alike. -/
theorem FilterArguments.filter_eq {a : FilterArguments} {conditions : List Condition}
    (h : List.Forall₂ (fun expression c => Condition.parse expression = .ok c) a.expressions
      conditions) : a.filter = .ok ⟨joinedBy a.connective conditions⟩ := by
  have hand : ∀ c ∈ conditions, c.connective = .and :=
    (forall₂_and_right_iff.1 (h.imp fun _ _ hparse =>
      ⟨hparse, Condition.connective_of_parse hparse⟩)).2
  rw [filter, readConditions_ok_iff.2 h, connective]
  cases conditions with
  | nil => rfl
  | cons c rest =>
    have hsame : rest.map (fun c => { c with connective := .and }) = rest := by
      refine (List.map_congr_left fun c hc => ?_).trans (List.map_id rest)
      rw [← hand c (List.mem_cons_of_mem _ hc)]
      rfl
    rw [joinedBy]
    cases a.anyOf with
    | true => rfl
    | false =>
      rw [if_neg (by decide), hsame]
      rfl

/-- The filter of a command is read exactly if each of its expressions is. -/
theorem FilterArguments.filter_ok_iff {a : FilterArguments} {f : Filter} :
    a.filter = .ok f ↔ ∃ conditions, List.Forall₂ (fun expression c =>
      Condition.parse expression = .ok c) a.expressions conditions ∧
        f = ⟨joinedBy a.connective conditions⟩ := by
  constructor
  · intro h
    obtain ⟨conditions, hread, -⟩ := ok_of_bind h
    have hparsed := readConditions_ok_iff.1 hread
    rw [filter_eq hparsed] at h
    cases h
    exact ⟨conditions, hparsed, rfl⟩
  · rintro ⟨conditions, hparsed, rfl⟩
    exact filter_eq hparsed

/-- A cast as it is written: a column and, behind the first equals sign, the name of a type, perhaps
with blanks around it. -/
def CastText (cast : String) : Prop :=
  ∃ column type, cast.toList = column ++ '=' :: type ∧ '=' ∉ column ∧
    isTypeNameChars (Text.trimChars type) = true

/-- A type is set exactly if it is written as the name of one. -/
theorem exists_insert?_iff (types : ColumnTypes) (column written : String) :
    (∃ next, types.insert? column written = some next) ↔
      isTypeNameChars written.toList = true := by
  rw [ColumnTypes.insert?, TypeName.ofString?]
  split
  · next h => exact iff_of_true ⟨_, rfl⟩ h
  · next h => exact iff_of_false (by rintro ⟨next, ⟨⟩⟩) h

/-- A cast is taken over exactly if it is written as one, whatever casts were taken over before. -/
theorem exists_addCast_iff (types : ColumnTypes) (cast : String) :
    (∃ next, addCast types cast = .ok next) ↔ CastText cast := by
  rw [addCast]
  cases hcut : Text.cutAt ['='] cast.toList with
  | none =>
    refine iff_of_false (by rintro ⟨next, ⟨⟩⟩) ?_
    rintro ⟨column, type, hcast, hcolumn, -⟩
    cases hcut.symm.trans (Text.cutAt_singleton_iff.2 ⟨hcast, hcolumn⟩)
  | some parts =>
    obtain ⟨column, type⟩ := parts
    have hcast : CastText cast ↔ isTypeNameChars (Text.trimChars type) = true := by
      constructor
      · rintro ⟨column', type', htext, hcolumn, htype⟩
        cases hcut.symm.trans (Text.cutAt_singleton_iff.2 ⟨htext, hcolumn⟩)
        exact htype
      · intro htype
        obtain ⟨htext, hcolumn⟩ := Text.cutAt_singleton_iff.1 hcut
        exact ⟨column, type, htext, hcolumn, htype⟩
    rw [hcast]
    have hinsert := exists_insert?_iff types (String.ofList (Text.trimChars column))
      (String.ofList (Text.trimChars type))
    rw [String.toList_ofList] at hinsert
    rw [← hinsert]
    dsimp only
    cases types.insert? (String.ofList (Text.trimChars column))
        (String.ofList (Text.trimChars type)) with
    | some next => exact iff_of_true ⟨next, rfl⟩ ⟨next, rfl⟩
    | none => exact iff_of_false (by rintro ⟨next, ⟨⟩⟩) (by rintro ⟨next, ⟨⟩⟩)

/-- The casts of a command are read exactly if each of them is written as one. -/
theorem exists_readCasts_iff {casts : List String} :
    (∃ types, readCasts casts = .ok types) ↔ ∀ cast ∈ casts, CastText cast :=
  foldlM_ok_iff exists_addCast_iff

/-- A deletion is written exactly if its table and its conditions are valid. -/
theorem exists_delete_iff {table : String} {f : Filter} {types : ColumnTypes} :
    (∃ s, Statement.delete table f types = .ok s) ↔
      NameText table.toList ∧ ∀ c ∈ f.conditions, c.Valid := by
  rw [← verdict_ok_iff, Statement.verdict_delete, Statement.deleteCheck, ← f.check_ok_iff,
    ← isQualifiedChars_iff, checkTable]
  change _ ↔ isQualifiedIdentifier table = true ∧ _
  split
  · next htable => exact (and_iff_right htable).symm
  · next htable => exact iff_of_false (by rintro ⟨⟩) fun h => htable h.1

/-- A statement deletes the rows of the conditions that the expressions of a command are read as. -/
structure DeleteArguments.WrittenAs (a : DeleteArguments) (types : ColumnTypes)
    (conditions : List Condition) (s : Statement) : Prop where
  /-- There is a condition for each expression, and it is what the expression is read as. -/
  parsed : List.Forall₂ (fun expression c => Condition.parse expression = .ok c)
    a.filter.expressions conditions
  /-- There are as many tests as expressions. -/
  count : (conditionTests none types 0 conditions).length = a.filter.expressions.length
  /-- Each test is that of its condition, numbered on from the values in front of it. -/
  tests : ∀ i : ℕ, (conditionTests none types 0 conditions)[i]? = conditions[i]?.map fun c =>
    c.test none types ((conditions.take i).flatMap fun c => c.value.bound).length
  /-- The text is read as the deletion of the rows that pass all tests, or at least one of them. -/
  query : Query.ofText s.sql = some (.delete a.table
    (Filter.chain a.filter.connective (conditionTests none types 0 conditions)))
  /-- The text is written with the connective between the conditions. -/
  text : s.sql = "DELETE FROM " ++ a.table ++
    if conditions = [] then ""
    else " WHERE " ++
      Text.join a.filter.connective.keyword (conditionTexts none types 0 conditions)
  /-- The values of the conditions are bound in their order. -/
  parameters : s.parameters = conditions.flatMap fun c => c.value.bound

/-- Rows to delete are given by conditions, or by the word that all rows may go. -/
theorem DeleteArguments.rows_ok_iff {a : DeleteArguments} {f : Filter} :
    a.rows = .ok f ↔ (a.filter.expressions = [] → a.all = true) ∧ a.filter.filter = .ok f := by
  rw [rows]
  split
  · next h =>
    rw [Bool.and_eq_true, List.isEmpty_iff, Bool.not_eq_true'] at h
    refine iff_of_false (by rintro ⟨⟩) fun hguard => ?_
    rw [hguard.1 h.1] at h
    cases h.2
  · next h =>
    rw [Bool.and_eq_true, List.isEmpty_iff, Bool.not_eq_true', not_and, Bool.not_eq_false] at h
    exact (and_iff_right h).symm

/-- A statement that is printed for a deletion is written as its arguments say. -/
theorem DeleteArguments.writtenAs_of_planDelete {a : DeleteArguments} {casts : List String}
    {s : Statement} (h : planDelete a casts = .ok s) :
    ∃ types conditions, readCasts casts = .ok types ∧ a.WrittenAs types conditions s := by
  obtain ⟨f, hrows, h⟩ := ok_of_bind h
  obtain ⟨types, htypes, h⟩ := ok_of_bind h
  obtain ⟨conditions, hparsed, rfl⟩ := FilterArguments.filter_ok_iff.1
    (DeleteArguments.rows_ok_iff.1 hrows).2
  have hdelete := ofInput_eq_ok_iff.1 h
  have hmeans := delete_means hdelete
  have hmeaning := Filter.meaning_eq_chain (f := ⟨joinedBy a.filter.connective conditions⟩)
    connective_of_mem_tail none types 0
  have htests : conditionTests none types 0 (joinedBy a.filter.connective conditions) =
      conditionTests none types 0 conditions :=
    alongConditions_joinedBy (fun _ _ => rfl) _ 0 conditions
  have hclause := Filter.renderPieces_writtenClause
    (f := ⟨joinedBy a.filter.connective conditions⟩) connective_of_mem_tail none types 0
  have htexts : conditionTexts none types 0 (joinedBy a.filter.connective conditions) =
      conditionTexts none types 0 conditions :=
    alongConditions_joinedBy (fun _ _ => rfl) _ 0 conditions
  refine ⟨types, conditions, htypes, hparsed, ?_, fun i => ?_, ?_, ?_, ?_⟩
  · rw [conditionTests, length_alongConditions, hparsed.length_eq]
  · rw [conditionTests, getElem?_alongConditions]
    simp only [Nat.zero_add]
  · rw [hmeans.ofText, Statement.deleteQuery, hmeaning, htests]
  · obtain ⟨⟨⟩, -, hdelete⟩ := ok_of_bind hdelete
    obtain ⟨rows, hrows, hdelete⟩ := ok_of_bind hdelete
    rw [Filter.clause_eq] at hrows
    obtain ⟨⟨⟩, -, rfl⟩ := map_ok_iff.1 hrows
    cases hdelete
    have hnone : joinedBy a.filter.connective conditions = [] ↔ conditions = [] := by
      cases conditions <;> simp [joinedBy]
    rw [Statement.sql, renderPieces_cons, hclause, htexts]
    simp only [hnone]
    rfl
  · rw [hmeans.parameters, boundValues_joinedBy]

/-- A deletion is written exactly if its table, its expressions and its casts are valid and it has
expressions or the word that all rows may go. -/
theorem exists_planDelete_iff {a : DeleteArguments} {casts : List String} :
    (∃ s, planDelete a casts = .ok s) ↔
      NameText a.table.toList ∧
      (∀ expression ∈ a.filter.expressions, ∃ c, Condition.parse expression = .ok c ∧ c.Valid) ∧
      (∀ cast ∈ casts, CastText cast) ∧ (a.filter.expressions = [] → a.all = true) := by
  rw [← exists_forall₂_iff, ← exists_readCasts_iff]
  constructor
  · rintro ⟨s, h⟩
    obtain ⟨f, hrows, h⟩ := ok_of_bind h
    obtain ⟨types, htypes, h⟩ := ok_of_bind h
    obtain ⟨hguard, hfilter⟩ := DeleteArguments.rows_ok_iff.1 hrows
    obtain ⟨conditions, hparsed, rfl⟩ := FilterArguments.filter_ok_iff.1 hfilter
    obtain ⟨htable, hvalid⟩ := exists_delete_iff.1 ⟨s, ofInput_eq_ok_iff.1 h⟩
    exact ⟨htable, ⟨conditions, forall₂_and_right_iff.2 ⟨hparsed, valid_joinedBy_iff.1 hvalid⟩⟩,
      ⟨types, htypes⟩, hguard⟩
  · rintro ⟨htable, ⟨conditions, hconditions⟩, ⟨types, htypes⟩, hguard⟩
    obtain ⟨hparsed, hvalid⟩ := forall₂_and_right_iff.1 hconditions
    have hrows := DeleteArguments.rows_ok_iff.2 ⟨hguard, FilterArguments.filter_eq hparsed⟩
    obtain ⟨s, hs⟩ : ∃ s, Statement.delete a.table ⟨joinedBy a.filter.connective conditions⟩ types =
        .ok s := exists_delete_iff.2 ⟨htable, valid_joinedBy_iff.2 hvalid⟩
    refine ⟨s, ?_⟩
    rw [planDelete, hrows, htypes]
    exact ofInput_eq_ok_iff.2 hs

/-- A chain of tests is missing exactly if there are no tests. -/
theorem chain_eq_none_iff {connective : Connective} {tests : List RowPredicate} :
    Filter.chain connective tests = none ↔ tests = [] := by
  cases connective <;> cases tests <;> simp [Filter.chain, allOf, anyOf]

/-- A deletion is printed exactly if its table, all of its expressions and all of its casts are
valid and it either has expressions or the word that all rows may go. What is printed has one
condition for each expression, the one that the expression is read as, in their order and joined
alike. So without that word it has conditions, and a deletion without conditions is only printed
with it and without expressions. -/
theorem deletion_is_guarded (a : DeleteArguments) (casts : List String) :
    ((∃ out, (PlanCommand.delete a casts).output = .ok out) ↔
      NameText a.table.toList ∧
      (∀ expression ∈ a.filter.expressions, ∃ c, Condition.parse expression = .ok c ∧ c.Valid) ∧
      (∀ cast ∈ casts, CastText cast) ∧ (a.filter.expressions = [] → a.all = true)) ∧
    ∀ out, (PlanCommand.delete a casts).output = .ok out →
      ∃ s types conditions, out = statementJson s ∧ readCasts casts = .ok types ∧
        a.WrittenAs types conditions s ∧
        (a.all = false → a.filter.expressions ≠ [] ∧
          ∃ p, Query.ofText s.sql = some (.delete a.table (some p))) ∧
        ∀ table, Query.ofText s.sql = some (.delete table none) →
          a.all = true ∧ a.filter.expressions = [] := by
  constructor
  · rw [← exists_planDelete_iff]
    constructor
    · rintro ⟨out, h⟩
      obtain ⟨s, hplan, -⟩ := map_ok_iff.1 h
      exact ⟨s, hplan⟩
    · rintro ⟨s, hplan⟩
      exact ⟨statementJson s, map_ok_iff.2 ⟨s, hplan, rfl⟩⟩
  · intro out h
    obtain ⟨s, hplan, rfl⟩ := map_ok_iff.1 h
    obtain ⟨f, hrows, -⟩ := ok_of_bind hplan
    have hguard := (DeleteArguments.rows_ok_iff.1 hrows).1
    obtain ⟨types, conditions, htypes, hwritten⟩ := DeleteArguments.writtenAs_of_planDelete hplan
    have hnone : conditionTests none types 0 conditions = [] ↔ a.filter.expressions = [] := by
      rw [← List.length_eq_zero_iff, hwritten.count, List.length_eq_zero_iff]
    refine ⟨s, types, conditions, rfl, htypes, hwritten, fun hall => ?_, fun table hquery => ?_⟩
    · have hne : a.filter.expressions ≠ [] := by
        intro hempty
        rw [hguard hempty] at hall
        cases hall
      cases hchain : Filter.chain a.filter.connective (conditionTests none types 0 conditions) with
      | none => exact absurd (hnone.1 (chain_eq_none_iff.1 hchain)) hne
      | some p => exact ⟨hne, p, by rw [hwritten.query, hchain]⟩
    · rw [hwritten.query, Option.some_inj, Query.delete.injEq] at hquery
      have hempty := hnone.1 (chain_eq_none_iff.1 hquery.2)
      exact ⟨hguard hempty, hempty⟩

/-- Two alternatives with a cast, one of them a test for null. -/
theorem deletion_is_guarded_either :
    let a : DeleteArguments := ⟨"users", ⟨["age>=18", "name=null"], true⟩, false⟩
    let printed := "\x7b\"sql\":\"DELETE FROM users WHERE age >= $1::int4 OR name IS NULL\"," ++
      "\"params\":[18]\x7d"
    ∃ out s types conditions, (PlanCommand.delete a ["age=int4"]).output = .ok out ∧
      out.compact = printed ∧ out = statementJson s ∧ a.WrittenAs types conditions s := by
  intro a printed
  obtain ⟨out, hout, htext⟩ : ∃ out, (PlanCommand.delete a ["age=int4"]).output = .ok out ∧
      (out.compact == printed) = true :=
    exists_ok_of_any (by decide +kernel)
  obtain ⟨s, types, conditions, hs, -, hwritten, -⟩ :=
    (deletion_is_guarded a ["age=int4"]).2 out hout
  exact ⟨out, s, types, conditions, hout, eq_of_beq htext, hs, hwritten⟩

end Command

end TableQuery
