import TableQuery.Proofs.Checks
import TableQuery.Proofs.Sql.Predicate

/-!
# What a compiled filter means

A filter is the disjunction of its maximal runs of conditions under AND. The text that it compiles
to has exactly the tokens of that predicate: one flat chain of tests is read by precedence as the
runs are built.
-/

namespace TableQuery

open TableQuery.Sql

/-- The characters of an identifier are a word. -/
theorem isWord_of_isIdentifierChars {cs : List Char} (h : isIdentifierChars cs = true) :
    isWord cs = true := by
  have hall := all_isIdentifierPart h
  cases cs with
  | nil => cases h
  | cons c cs =>
    simp only [isWord, List.isEmpty_cons, Bool.not_false, Bool.true_and, List.all_eq_true] at hall ⊢
    exact fun d hd => by simp [isWordChar, hall d hd]

/-- An identifier is a word. -/
theorem isWord_of_isIdentifier {s : String} (h : isIdentifier s = true) :
    isWord s.toList = true :=
  isWord_of_isIdentifierChars h

/-- A word behind a word and a point is a word. -/
theorem isWord_qualified {xs ys : List Char} (hx : isWord xs = true) (hy : isWord ys = true) :
    isWord (xs ++ '.' :: ys) = true := by
  simp only [isWord, Bool.and_eq_true, List.all_append, List.all_cons] at hx hy ⊢
  exact ⟨by simp, hx.2, by decide, hy.2⟩

/-- A qualified identifier is a word. -/
theorem isWord_of_isQualifiedIdentifier {s : String} (h : isQualifiedIdentifier s = true) :
    isWord s.toList = true := by
  simp only [isQualifiedIdentifier, isQualifiedChars] at h
  split at h
  · exact isWord_of_isIdentifierChars h
  · next qualifier name hcut =>
    simp only [Bool.and_eq_true] at h
    rw [Text.append_of_cutAt hcut, List.append_assoc]
    exact isWord_qualified (isWord_of_isIdentifierChars h.1) (isWord_of_isIdentifierChars h.2)

/-- A column of a table is a word. -/
theorem isWord_columnOf {table column : String} (ht : isWord table.toList = true)
    (hc : isWord column.toList = true) : isWord (table ++ "." ++ column).toList = true := by
  simpa using isWord_qualified ht hc

namespace Condition

/-- The condition can be compiled: its column is an identifier with at most one qualifier, and an
operator that is used is known. -/
def Accepted (c : Condition) : Prop :=
  isQualifiedIdentifier c.column = true ∧
    (c.value.bound ≠ [] → canonicalOperator c.operator ∈ operators)

/-- The type that a bound value is cast to. Patterns are always text. -/
def castType (c : Condition) (types : ColumnTypes) (v : Value) : Option TypeName :=
  if patternOperators.contains (canonicalOperator c.operator) then none
  else if ColumnTypes.castsValue v then types.get? c.column
  else none

/-- The predicate of a condition behind `count` parameters. -/
def test (c : Condition) (qualifier : Option String) (types : ColumnTypes) (count : Nat) :
    RowPredicate :=
  match c.value with
  | .isNull => .isNull (c.writtenColumn qualifier)
  | .notNull => .notNull (c.writtenColumn qualifier)
  | .value v =>
    .compare (c.writtenColumn qualifier) (canonicalOperator c.operator)
      ⟨count + 1, c.castType types v⟩

/-- A condition is one test. -/
theorem isTest_test (c : Condition) (qualifier : Option String) (types : ColumnTypes)
    (count : Nat) : (c.test qualifier types count).isTest = true := by
  rw [test]
  cases c.value <;> rfl

/-- The column of an accepted condition is written as a word. -/
theorem isWord_writtenColumn {c : Condition} (hc : isQualifiedIdentifier c.column = true)
    {qualifier : Option String} (hq : ∀ table ∈ qualifier, isQualifiedIdentifier table = true) :
    isWord (c.writtenColumn qualifier).toList = true := by
  have hcolumn := isWord_of_isQualifiedIdentifier hc
  cases qualifier with
  | none => exact hcolumn
  | some table =>
    rw [writtenColumn]
    split
    · exact hcolumn
    · exact isWord_columnOf (isWord_of_isQualifiedIdentifier (hq table rfl)) hcolumn

/-- Every known operator is read as its tokens. -/
theorem lexed_operator : ∀ operator ∈ operators, Lexed operator (operatorTokens operator) := by
  decide

/-- A known operator between blanks. -/
theorem lexed_operator_blanks {operator : String} (h : operator ∈ operators) :
    Lexed (" " ++ operator ++ " ") (operatorTokens operator) := by
  have hblank : Lexed " " [] := by decide
  have hop := hblank.append_of_getLast (lexed_operator operator h) (by decide)
  simpa using hop.append_of_head hblank (by decide)

/-- An operator that is accepted is a known one in its canonical form. -/
theorem of_operator? {given operator : String} (h : operator? given = some operator) :
    operator = canonicalOperator given ∧ operator ∈ operators := by
  simp only [operator?] at h
  split at h
  · next hmem =>
    cases h
    exact ⟨rfl, by simpa using hmem⟩
  · cases h

/-- A column in words, an operator and a placeholder have the tokens of a comparison. -/
theorem lexed_compare {column operator : String} (hcolumn : isWord column.toList = true)
    (hoperator : operator ∈ operators) (p : Placeholder) :
    Lexed (column ++ " " ++ operator ++ " " ++ p.piece.render)
      (RowPredicate.compare column operator p).tokens := by
  have hfront := (Lexed.word hcolumn).append_of_head (lexed_operator_blanks hoperator)
    (by rw [String.append_assoc]; simp [startsFree, isDelimiter])
  have hall := hfront.append_of_getLast (Placeholder.lexed p)
    (endsFree_append _ (endsFree_append _ (by decide)))
  simpa [RowPredicate.tokens, String.append_assoc] using hall

/-- The placeholder of a bound value with the cast of its condition. -/
theorem placeholder_eq (c : Condition) (types : ColumnTypes) (number : Nat) (v : Value) :
    (if patternOperators.contains (canonicalOperator c.operator)
      then Piece.placeholder number none else types.placeholder c.column number v) =
      (Placeholder.mk number (c.castType types v)).piece := by
  simp only [castType, ColumnTypes.placeholder, Placeholder.piece]
  split <;> rfl

/-- What a condition compiles to: it is accepted, it binds its value, and its text has the tokens
of its test. -/
theorem compile_ok {c : Condition} {qualifier : Option String} {types : ColumnTypes} {count : Nat}
    {p : Compiled} (hq : ∀ table ∈ qualifier, isQualifiedIdentifier table = true)
    (h : c.compile qualifier types count = .ok p) :
    c.Accepted ∧ p.values = c.value.bound ∧
      Lexed (renderPieces p.pieces) (c.test qualifier types count).tokens := by
  simp only [compile] at h
  split at h
  · next hcolumn =>
    have hword := isWord_writtenColumn hcolumn hq
    split at h
    · next hvalue =>
      cases h
      refine ⟨⟨hcolumn, by simp [hvalue, FilterValue.bound]⟩, by rw [hvalue]; rfl, ?_⟩
      have hnull : Lexed " IS NULL" [keyword "IS", keyword "NULL"] := by decide
      rw [test, hvalue, renderPieces_cons, renderPieces_nil, String.append_empty]
      exact (Lexed.word hword).append_of_head hnull (by decide)
    · next hvalue =>
      cases h
      refine ⟨⟨hcolumn, by simp [hvalue, FilterValue.bound]⟩, by rw [hvalue]; rfl, ?_⟩
      have hnull : Lexed " IS NOT NULL" [keyword "IS", keyword "NOT", keyword "NULL"] := by decide
      rw [test, hvalue, renderPieces_cons, renderPieces_nil, String.append_empty]
      exact (Lexed.word hword).append_of_head hnull (by decide)
    · next v hvalue =>
      split at h
      · cases h
      · next op hop =>
        cases h
        obtain ⟨rfl, hmem⟩ := of_operator? hop
        refine ⟨⟨hcolumn, fun _ => hmem⟩, by rw [hvalue]; rfl, ?_⟩
        rw [test, hvalue, placeholder_eq, renderPieces_cons, renderPieces_cons, renderPieces_nil,
          String.append_empty, Piece.render]
        exact lexed_compare hword hmem _
  · cases h

end Condition

/-- The tests of conditions, each with its connective. Those behind a bound value are numbered
on. -/
def testsFrom (qualifier : Option String) (types : ColumnTypes) :
    Nat → List Condition → List (Connective × RowPredicate)
  | _, [] => []
  | count, c :: rest =>
    (c.connective, c.test qualifier types count) ::
      testsFrom qualifier types (count + c.value.bound.length) rest

/-- The runs of tests under AND, behind a run under way. An alternative begins the next run. -/
def runsFrom (run : List RowPredicate) : List (Connective × RowPredicate) → List (List RowPredicate)
  | [] => [run]
  | (.and, p) :: rest => runsFrom (run ++ [p]) rest
  | (.or, p) :: rest => run :: runsFrom [p] rest

/-- The maximal runs of tests under AND. The connective of the first test is ignored. -/
def andRuns : List (Connective × RowPredicate) → List (List RowPredicate)
  | [] => []
  | (_, p) :: rest => runsFrom [p] rest

/-- All of some predicates, joined from left to right; nothing for none of them. -/
def allOf : List RowPredicate → Option RowPredicate
  | [] => none
  | p :: rest => some (rest.foldl .both p)

/-- At least one of some predicates, joined from left to right; nothing for none of them. -/
def anyOf : List RowPredicate → Option RowPredicate
  | [] => none
  | p :: rest => some (rest.foldl .either p)

/-- The predicate of a filter behind `count` parameters: the disjunction of its maximal runs under
AND. An empty filter has none. -/
def Filter.meaning (f : Filter) (qualifier : Option String) (types : ColumnTypes) (count : Nat) :
    Option RowPredicate :=
  anyOf ((andRuns (testsFrom qualifier types count f.conditions)).filterMap allOf)

/-- The tokens of a connective. -/
def Connective.token : Connective → Token
  | .and => Sql.keyword "AND"
  | .or => Sql.keyword "OR"

/-- The tokens of tests in a row, each behind its connective. -/
def chainTokens (tests : List (Connective × RowPredicate)) : List Token :=
  tests.flatMap fun t => t.1.token :: t.2.tokens

/-- Every test of a filter has no connective. -/
theorem isTest_of_mem_testsFrom {qualifier : Option String} {types : ColumnTypes} {count : Nat}
    {conditions : List Condition} {t : Connective × RowPredicate}
    (h : t ∈ testsFrom qualifier types count conditions) : t.2.isTest = true := by
  induction conditions generalizing count with
  | nil => cases h
  | cons c rest ih =>
    rw [testsFrom, List.mem_cons] at h
    rcases h with rfl | h
    · exact c.isTest_test qualifier types count
    · exact ih h

/-- The last run of a chain with the alternatives before it, after tests have been added: a test
under AND goes into the last run, an alternative begins a new one. -/
def extend : Option RowPredicate → RowPredicate → List (Connective × RowPredicate) → RowPredicate
  | alternatives, run, [] => joined .either run alternatives
  | alternatives, run, (.and, p) :: rest => extend alternatives (.both run p) rest
  | alternatives, run, (.or, p) :: rest => extend (some (joined .either run alternatives)) p rest

/-- Adding tests to a chain one after the other builds the disjunction of its runs. -/
theorem extend_eq_anyOf (alternatives : Option RowPredicate) (p : RowPredicate)
    (run : List RowPredicate) (tests : List (Connective × RowPredicate)) :
    some (extend alternatives (run.foldl .both p) tests) =
      anyOf (alternatives.toList ++ (runsFrom (p :: run) tests).filterMap allOf) := by
  induction tests generalizing alternatives p run with
  | nil => cases alternatives <;> rfl
  | cons t rest ih =>
    obtain ⟨connective, q⟩ := t
    cases connective with
    | and =>
      -- the test goes to the end of the run under way
      have hi := ih alternatives p (run ++ [q])
      rw [List.foldl_append] at hi
      exact hi
    | or =>
      -- the run under way is over and joins the alternatives
      have hi := ih (some (joined .either (run.foldl .both p) alternatives)) q []
      rw [extend, runsFrom]
      refine hi.trans ?_
      cases alternatives <;> rfl

/-- A chain of tests has the tokens of the predicate that adding them one after the other builds:
precedence reads the chain as its runs. -/
theorem tokens_extend {tests : List (Connective × RowPredicate)}
    (htests : ∀ t ∈ tests, t.2.isTest = true) (alternatives : Option RowPredicate)
    {run : RowPredicate} (hrun : run.isEither = false) :
    (extend alternatives run tests).tokens =
      (joined .either run alternatives).tokens ++ chainTokens tests := by
  induction tests generalizing alternatives run with
  | nil => simp [extend, chainTokens]
  | cons t rest ih =>
    obtain ⟨connective, q⟩ := t
    obtain ⟨hq, hrest⟩ := List.forall_mem_cons.1 htests
    have hchain : ∀ k,
        chainTokens ((k, q) :: rest) = k.token :: (q.tokens ++ chainTokens rest) := by
      intro k
      rw [chainTokens, List.flatMap_cons]
      rfl
    cases connective with
    | and =>
      rw [extend, ih hrest alternatives rfl, hchain]
      cases alternatives with
      | none => simp [joined, RowPredicate.tokens_both hrun hq, Connective.token]
      | some before =>
        have hand : (RowPredicate.both run q).isEither = false := rfl
        simp [joined, RowPredicate.tokens_either hand, RowPredicate.tokens_either hrun,
          RowPredicate.tokens_both hrun hq, Connective.token]
    | or =>
      have hnot := RowPredicate.isEither_of_isTest hq
      rw [extend, ih hrest _ hnot, hchain]
      simp [joined, RowPredicate.tokens_either hnot, Connective.token]

/-- What is gathered from the leaves of a predicate is gathered from the tests of a chain in their
order. -/
theorem gather_extend {β : Type} (gather : RowPredicate → List β)
    (hboth : ∀ left right, gather (.both left right) = gather left ++ gather right)
    (heither : ∀ left right, gather (.either left right) = gather left ++ gather right)
    (alternatives : Option RowPredicate) (run : RowPredicate)
    (tests : List (Connective × RowPredicate)) :
    gather (extend alternatives run tests) =
      gather (joined .either run alternatives) ++ tests.flatMap fun t => gather t.2 := by
  induction tests generalizing alternatives run with
  | nil => simp [extend]
  | cons t rest ih =>
    obtain ⟨connective, q⟩ := t
    cases connective with
    | and => cases alternatives <;> simp [extend, ih, joined, hboth, heither]
    | or => simp [extend, ih, joined, heither]

/-- A chain is an alternative exactly if a test in it is one. -/
theorem isEither_extend (alternatives : Option RowPredicate) {run : RowPredicate}
    (hrun : run.isEither = false) {tests : List (Connective × RowPredicate)}
    (htests : ∀ t ∈ tests, t.2.isTest = true) :
    (extend alternatives run tests).isEither =
      (alternatives.isSome || tests.any fun t => t.1 = .or) := by
  induction tests generalizing alternatives run with
  | nil =>
    cases alternatives with
    | none => simpa [extend, joined] using hrun
    | some before => rfl
  | cons t rest ih =>
    obtain ⟨connective, q⟩ := t
    obtain ⟨hq, hrest⟩ := List.forall_mem_cons.1 htests
    cases connective with
    | and =>
      have hand : (RowPredicate.both run q).isEither = false := rfl
      simp [extend, ih alternatives hand hrest]
    | or =>
      have hnot := RowPredicate.isEither_of_isTest hq
      simp [extend, ih (some _) hnot hrest]

/-- The operator of an accepted condition is known. -/
theorem readable_test {c : Condition} (h : c.Accepted) (qualifier : Option String)
    (types : ColumnTypes) (count : Nat) : (c.test qualifier types count).Readable := by
  intro operator hmem
  rw [Condition.test] at hmem
  cases hv : c.value with
  | isNull => rw [hv] at hmem; cases hmem
  | notNull => rw [hv] at hmem; cases hmem
  | value v =>
    rw [hv] at hmem
    have heq : operator = canonicalOperator c.operator := List.mem_singleton.1 hmem
    rw [heq]
    exact h.2 (by simp [hv, FilterValue.bound])

/-- The operators of accepted conditions are known. -/
theorem readable_testsFrom {qualifier : Option String} {types : ColumnTypes} {count : Nat}
    {conditions : List Condition} (h : ∀ c ∈ conditions, c.Accepted) :
    ∀ t ∈ testsFrom qualifier types count conditions, t.2.Readable := by
  induction conditions generalizing count with
  | nil => exact List.forall_mem_nil _
  | cons c rest ih =>
    obtain ⟨hc, hrest⟩ := List.forall_mem_cons.1 h
    exact List.forall_mem_cons.2 ⟨readable_test hc qualifier types count, ih hrest⟩

/-- Connectives are kept by the tests. -/
theorem any_testsFrom (qualifier : Option String) (types : ColumnTypes) (count : Nat)
    (conditions : List Condition) :
    ((testsFrom qualifier types count conditions).any fun t => t.1 = .or) =
      conditions.any fun c => c.connective = .or := by
  induction conditions generalizing count with
  | nil => rfl
  | cons c rest ih => simp [testsFrom, ih]

/-- Every connective is read as its token. -/
theorem Connective.follows (connective : Connective) :
    Follows connective.keyword [connective.token] := by
  cases connective <;> decide

/-- Every connective ends with a blank. -/
theorem Connective.endsFree_keyword (connective : Connective) :
    endsFree connective.keyword = true := by
  cases connective <;> decide

/-- What further conditions compile to: they are accepted, they bind their values in order, and
their text has the tokens of their chain. -/
theorem compileRest_ok {qualifier : Option String} {types : ColumnTypes} {count : Nat}
    {conditions : List Condition} {p : Compiled}
    (hq : ∀ table ∈ qualifier, isQualifiedIdentifier table = true)
    (h : compileRest qualifier types count conditions = .ok p) :
    (∀ c ∈ conditions, c.Accepted) ∧ p.values = conditions.flatMap (fun c => c.value.bound) ∧
      Follows (renderPieces p.pieces)
        (chainTokens (testsFrom qualifier types count conditions)) := by
  induction conditions generalizing count p with
  | nil =>
    cases h
    exact ⟨List.forall_mem_nil _, rfl, Follows.empty⟩
  | cons c rest ih =>
    rw [compileRest] at h
    obtain ⟨one, hc, h⟩ := ok_of_bind h
    obtain ⟨others, hr, h⟩ := ok_of_bind h
    cases h
    obtain ⟨haccepted, hvalues, hone⟩ := Condition.compile_ok hq hc
    obtain ⟨hall, hrest, hothers⟩ := ih hr
    rw [hvalues] at hothers
    refine ⟨List.forall_mem_cons.2 ⟨haccepted, hall⟩, by simp [hvalues, hrest], ?_⟩
    have hbehind := c.connective.follows.append_of_getLast (hone.append hothers)
      c.connective.endsFree_keyword
    rw [List.cons_append, renderPieces_cons, renderPieces_append, testsFrom, chainTokens,
      List.flatMap_cons]
    exact hbehind

namespace Filter

variable {f : Filter} {qualifier : Option String} {types : ColumnTypes} {count : Nat}

/-- A filter without conditions asks for nothing. -/
theorem meaning_nil (h : f.conditions = []) : f.meaning qualifier types count = none := by
  rw [meaning, h]
  rfl

/-- The predicate of a filter is built from its first test by adding the others. -/
theorem meaning_cons {c : Condition} {rest : List Condition} (h : f.conditions = c :: rest) :
    f.meaning qualifier types count = some (extend none (c.test qualifier types count)
      (testsFrom qualifier types (count + c.value.bound.length) rest)) := by
  rw [meaning, h]
  exact (extend_eq_anyOf none (c.test qualifier types count) [] _).symm

/-- Only a filter without conditions asks for nothing. -/
theorem meaning_eq_none_iff : f.meaning qualifier types count = none ↔ f.isEmpty = true := by
  rw [isEmpty]
  cases hf : f.conditions with
  | nil => simp [meaning_nil hf]
  | cons c rest => simp [meaning_cons hf]

/-- What is gathered from the leaves of a filter's predicate is gathered from its tests. -/
theorem gather_meaning {β : Type} (gather : RowPredicate → List β)
    (hboth : ∀ left right, gather (.both left right) = gather left ++ gather right)
    (heither : ∀ left right, gather (.either left right) = gather left ++ gather right) :
    (f.meaning qualifier types count).elim [] gather =
      (testsFrom qualifier types count f.conditions).flatMap fun t => gather t.2 := by
  cases hf : f.conditions with
  | nil => rw [meaning_nil hf]; rfl
  | cons c rest =>
    rw [meaning_cons hf, Option.elim_some, gather_extend gather hboth heither, testsFrom,
      List.flatMap_cons]
    rfl

/-- The predicate of accepted conditions uses known operators only. -/
theorem readable_meaning (h : ∀ c ∈ f.conditions, c.Accepted) (qualifier : Option String)
    (types : ColumnTypes) (count : Nat) :
    ∀ e ∈ f.meaning qualifier types count, e.Readable := by
  intro e he operator hmem
  rw [Option.mem_def] at he
  have hgather : (f.meaning qualifier types count).elim [] RowPredicate.operators = _ :=
    gather_meaning RowPredicate.operators (fun _ _ => rfl) fun _ _ => rfl
  rw [he, Option.elim_some] at hgather
  rw [hgather, List.mem_flatMap] at hmem
  obtain ⟨t, ht, ho⟩ := hmem
  exact readable_testsFrom h t ht operator ho

/-- A filter is an alternative exactly if a condition after the first one is. -/
theorem isEither_meaning {e : RowPredicate} (h : f.meaning qualifier types count = some e) :
    e.isEither = f.hasDisjunction := by
  rw [hasDisjunction]
  cases hf : f.conditions with
  | nil =>
    rw [meaning_nil hf] at h
    cases h
  | cons c rest =>
    rw [meaning_cons hf, Option.some.injEq] at h
    have hnot := RowPredicate.isEither_of_isTest (c.isTest_test qualifier types count)
    rw [← h, isEither_extend none hnot fun t => isTest_of_mem_testsFrom, any_testsFrom]
    rfl

/-- What the predicate of a filter compiles to: nothing without conditions, else a text with the
tokens of the filter's meaning that binds the filter's values. -/
theorem predicate_ok {compiled : Option Compiled}
    (hq : ∀ table ∈ qualifier, isQualifiedIdentifier table = true)
    (h : f.predicate qualifier types count = .ok compiled) :
    (∀ c ∈ f.conditions, c.Accepted) ∧
      (compiled.elim [] Compiled.values = f.boundValues) ∧
      ((compiled = none ∧ f.meaning qualifier types count = none) ∨
        ∃ p e, compiled = some p ∧ f.meaning qualifier types count = some e ∧
          Lexed (renderPieces p.pieces) e.tokens) := by
  simp only [predicate] at h
  split at h
  · next hf =>
    cases h
    refine ⟨by rw [hf]; exact List.forall_mem_nil _, by simp [boundValues, hf], ?_⟩
    exact Or.inl ⟨rfl, meaning_nil hf⟩
  · next c rest hf =>
    obtain ⟨one, hc, h⟩ := ok_of_bind h
    obtain ⟨others, hr, h⟩ := ok_of_bind h
    cases h
    obtain ⟨haccepted, hvalues, hone⟩ := Condition.compile_ok hq hc
    obtain ⟨hall, hrest, hothers⟩ := compileRest_ok hq hr
    rw [hvalues] at hothers
    refine ⟨by rw [hf]; exact List.forall_mem_cons.2 ⟨haccepted, hall⟩,
      by simp [boundValues, hf, hvalues, hrest], Or.inr ⟨_, _, rfl, meaning_cons hf, ?_⟩⟩
    have hnot := RowPredicate.isEither_of_isTest (c.isTest_test qualifier types count)
    rw [tokens_extend (fun t => isTest_of_mem_testsFrom) none hnot, renderPieces_append]
    exact hone.append hothers

end Filter

end TableQuery
