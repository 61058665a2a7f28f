import TableQuery.Filter.Parameters
import TableQuery.Proofs.Sql.Placeholder

/-!
# Predicates on rows

The predicate of a WHERE clause as a tree, its tokens, and a reader that goes by precedence:
parentheses first, then AND, then OR, equal connectives from left to right. The reader gives every
tree back from its tokens. A predicate is true, false or unknown on a row.
-/

namespace TableQuery.Sql

open TableQuery.Text

/-- A predicate on rows. -/
inductive RowPredicate where
  /-- A column is null. -/
  | isNull (column : String)
  /-- A column is not null. -/
  | notNull (column : String)
  /-- A column compares with a bound value. -/
  | compare (column operator : String) (placeholder : Placeholder)
  /-- Both predicates. -/
  | both (left right : RowPredicate)
  /-- At least one of the predicates. -/
  | either (left right : RowPredicate)
  deriving DecidableEq, Repr

/-- The token of one part of an operator. -/
def operatorToken (part : List Char) : Token :=
  if part.all isComparisonChar then .comparison part else .word part

/-- The tokens of an operator, one for each of its words. -/
def operatorTokens (operator : String) : List Token :=
  (splitAt ' ' operator.toList).map operatorToken

/-- Tokens in parentheses. -/
def parenthesized (tokens : List Token) : List Token :=
  .opening :: tokens ++ [.closing]

namespace RowPredicate

/-- The predicate is an alternative. -/
def isEither : RowPredicate → Bool
  | .either _ _ => true
  | _ => false

/-- The predicate has no connective. -/
def isTest : RowPredicate → Bool
  | .both _ _ => false
  | .either _ _ => false
  | _ => true

/-- The tokens of a predicate, with parentheses only where precedence asks for them. -/
def tokens : RowPredicate → List Token
  | .isNull column => [.word column.toList, keyword "IS", keyword "NULL"]
  | .notNull column => [.word column.toList, keyword "IS", keyword "NOT", keyword "NULL"]
  | .compare column operator p => .word column.toList :: operatorTokens operator ++ [p.token]
  | .both left right =>
    (if left.isEither then parenthesized left.tokens else left.tokens) ++ keyword "AND" ::
      (if right.isTest then right.tokens else parenthesized right.tokens)
  | .either left right =>
    left.tokens ++ keyword "OR" ::
      (if right.isEither then parenthesized right.tokens else right.tokens)

/-- The operators of the comparisons, from left to right. -/
def operators : RowPredicate → List String
  | .isNull _ => []
  | .notNull _ => []
  | .compare _ operator _ => [operator]
  | .both left right => left.operators ++ right.operators
  | .either left right => left.operators ++ right.operators

/-- The columns that are compared with a bound value, with the placeholders of these values. -/
def bindings : RowPredicate → List (String × Placeholder)
  | .isNull _ => []
  | .notNull _ => []
  | .compare column _ p => [(column, p)]
  | .both left right => left.bindings ++ right.bindings
  | .either left right => left.bindings ++ right.bindings

end RowPredicate

namespace RowPredicate

/-- A test is no alternative. -/
theorem isEither_of_isTest {p : RowPredicate} (h : p.isTest = true) : p.isEither = false := by
  cases p <;> first | rfl | cases h

/-- A test behind a run under AND needs no parentheses. -/
theorem tokens_both {left right : RowPredicate} (hl : left.isEither = false)
    (hr : right.isTest = true) :
    (both left right).tokens = left.tokens ++ keyword "AND" :: right.tokens := by
  rw [tokens, hl, if_neg (by decide), if_pos hr]

/-- A run under AND needs no parentheses behind OR. -/
theorem tokens_either {left right : RowPredicate} (hr : right.isEither = false) :
    (either left right).tokens = left.tokens ++ keyword "OR" :: right.tokens := by
  rw [tokens, hr, if_neg (by decide)]

end RowPredicate

/-- Join a predicate to what was read before it, if anything was. -/
def joined (connect : RowPredicate → RowPredicate → RowPredicate) (p : RowPredicate) :
    Option RowPredicate → RowPredicate
  | none => p
  | some before => connect before p

/-- Read what follows `IS`. -/
def readNullTest (column : List Char) : List Token → Option (RowPredicate × List Token)
  | [] => none
  | t :: rest =>
    if t = keyword "NULL" then some (.isNull (String.ofList column), rest)
    else if t = keyword "NOT" then
      match rest with
      | [] => none
      | u :: rest =>
        if u = keyword "NULL" then some (.notNull (String.ofList column), rest) else none
    else none

/-- Read a column with `IS NULL`, with `IS NOT NULL`, or with an operator of signs, of one word or
of two words and a placeholder. -/
def readTest : List Token → Option (RowPredicate × List Token)
  | .word column :: .comparison sign :: .bound b :: rest =>
    (Placeholder.read? b).map fun p =>
      (.compare (String.ofList column) (String.ofList sign) p, rest)
  | .word column :: .word first :: rest =>
    if .word first = keyword "IS" then readNullTest column rest
    else
      match rest with
      | .bound b :: rest =>
        (Placeholder.read? b).map fun p =>
          (.compare (String.ofList column) (String.ofList first) p, rest)
      | .word second :: .bound b :: rest =>
        (Placeholder.read? b).map fun p =>
          (.compare (String.ofList column) (String.ofList (first ++ ' ' :: second)) p, rest)
      | _ => none
  | _ => none

/-- What was read in an open parenthesis: alternatives that are complete, and the run of
predicates under AND that is not. -/
abbrev Level := Option RowPredicate × Option RowPredicate

mutual

/-- Read a predicate from where an operand must stand. `outer` holds the levels around the open
parentheses, `alternatives` what stands before the last OR, `run` what stands after it. -/
def readOperand (outer : List Level) (alternatives run : Option RowPredicate)
    (tokens : List Token) : Option (RowPredicate × List Token) :=
  match tokens with
  | .opening :: rest => readOperand ((alternatives, run) :: outer) none none rest
  | t :: more =>
    match readTest (t :: more) with
    | none => none
    | some (p, rest) =>
      if rest.length < more.length then readOperator outer alternatives (joined .both p run) rest
      else none
  | [] => none
termination_by tokens.length

/-- Read a predicate from behind an operand: a connective, a closing parenthesis, or its end. -/
def readOperator (outer : List Level) (alternatives : Option RowPredicate) (run : RowPredicate)
    (tokens : List Token) : Option (RowPredicate × List Token) :=
  match tokens, outer with
  | .closing :: rest, (before, outerRun) :: outer =>
    readOperator outer before (joined .both (joined .either run alternatives) outerRun) rest
  | t :: rest, outer =>
    if t = keyword "AND" then readOperand outer alternatives (some run) rest
    else if t = keyword "OR" then
      readOperand outer (some (joined .either run alternatives)) none rest
    else if outer.isEmpty then some (joined .either run alternatives, t :: rest)
    else none
  | [], outer => if outer.isEmpty then some (joined .either run alternatives, []) else none
termination_by tokens.length

end

/-- Read a predicate from the beginning of some tokens, and the tokens behind it. -/
def readPredicate (tokens : List Token) : Option (RowPredicate × List Token) :=
  readOperand [] none none tokens

/-- A known operator is a run of signs, or one or two words that differ from `IS`. -/
theorem operatorTokens_of_mem {operator : String} (h : operator ∈ operators) :
    (∃ sign, operatorTokens operator = [.comparison sign] ∧ String.ofList sign = operator) ∨
    (∃ only, operatorTokens operator = [.word only] ∧ String.ofList only = operator ∧
      Token.word only ≠ keyword "IS") ∨
    ∃ first second, operatorTokens operator = [.word first, .word second] ∧
      String.ofList (first ++ ' ' :: second) = operator ∧ Token.word first ≠ keyword "IS" := by
  simp only [TableQuery.operators, List.mem_cons, List.not_mem_nil, or_false] at h
  rcases h with rfl | rfl | rfl | rfl | rfl | rfl | rfl | rfl | rfl | rfl | rfl
  · exact Or.inl ⟨"=".toList, by decide, rfl⟩
  · exact Or.inl ⟨"!=".toList, by decide, rfl⟩
  · exact Or.inl ⟨"<>".toList, by decide, rfl⟩
  · exact Or.inl ⟨"<".toList, by decide, rfl⟩
  · exact Or.inl ⟨"<=".toList, by decide, rfl⟩
  · exact Or.inl ⟨">".toList, by decide, rfl⟩
  · exact Or.inl ⟨">=".toList, by decide, rfl⟩
  · exact Or.inr (Or.inl ⟨"LIKE".toList, by decide, rfl, by decide⟩)
  · exact Or.inr (Or.inl ⟨"ILIKE".toList, by decide, rfl, by decide⟩)
  · exact Or.inr (Or.inr ⟨"NOT".toList, "LIKE".toList, by decide, rfl, by decide⟩)
  · exact Or.inr (Or.inr ⟨"NOT".toList, "ILIKE".toList, by decide, rfl, by decide⟩)

/-- A comparison with a known operator is read back from its tokens. -/
theorem readTest_compare (column : String) {operator : String} (h : operator ∈ operators)
    (p : Placeholder) (rest : List Token) :
    readTest (.word column.toList :: (operatorTokens operator ++ p.token :: rest)) =
      some (.compare column operator p, rest) := by
  rcases operatorTokens_of_mem h with ⟨sign, ht, ho⟩ | ⟨only, ht, ho, hne⟩ |
    ⟨first, second, ht, ho, hne⟩
  · simp only [ht, List.cons_append, List.nil_append, Placeholder.token, readTest,
      Placeholder.read?_chars, ho, Option.map_some, String.ofList_toList]
  · simp only [ht, List.cons_append, List.nil_append, Placeholder.token, readTest, if_neg hne,
      Placeholder.read?_chars, ho, Option.map_some, String.ofList_toList]
  · simp only [ht, List.cons_append, List.nil_append, Placeholder.token, readTest, if_neg hne,
      Placeholder.read?_chars, ho, Option.map_some, String.ofList_toList]

namespace RowPredicate

/-- Every operator is known. -/
def Readable (p : RowPredicate) : Prop :=
  ∀ operator ∈ p.operators, operator ∈ TableQuery.operators

/-- A test is read back from its tokens. -/
theorem readTest_tokens {p : RowPredicate} (ht : p.isTest = true) (hp : p.Readable)
    (rest : List Token) : readTest (p.tokens ++ rest) = some (p, rest) := by
  cases p with
  | isNull column =>
    simp [tokens, readTest, readNullTest, keyword]
  | notNull column =>
    simp [tokens, readTest, readNullTest, keyword]
  | compare column operator p =>
    have hmem : operator ∈ TableQuery.operators := hp operator (List.mem_singleton_self _)
    simpa [tokens] using readTest_compare column hmem p rest
  | both left right => cases ht
  | either left right => cases ht

/-- The tokens of a test begin with its column and are followed by two more at least. -/
theorem tokens_of_isTest {p : RowPredicate} (ht : p.isTest = true) :
    ∃ column more, p.tokens = .word column :: more ∧ 2 ≤ more.length := by
  cases p with
  | isNull column => exact ⟨_, _, rfl, by simp⟩
  | notNull column => exact ⟨_, _, rfl, by simp⟩
  | compare column operator p =>
    refine ⟨_, _, rfl, ?_⟩
    have hne : operatorTokens operator ≠ [] := by
      simpa [operatorTokens] using splitAt_ne_nil ' ' operator.toList
    have hpos := List.length_pos_iff.2 hne
    change 2 ≤ (operatorTokens operator ++ [p.token]).length
    rw [List.length_append, List.length_singleton]
    omega
  | both left right => cases ht
  | either left right => cases ht

/-- A test in the place of an operand joins the run under way. -/
theorem readOperand_test {p : RowPredicate} (ht : p.isTest = true) (hp : p.Readable)
    (outer : List Level) (alternatives run : Option RowPredicate) (rest : List Token) :
    readOperand outer alternatives run (p.tokens ++ rest) =
      readOperator outer alternatives (joined .both p run) rest := by
  obtain ⟨column, more, he, hmore⟩ := tokens_of_isTest ht
  have hread := readTest_tokens ht hp rest
  rw [he, List.cons_append] at hread
  have hlength : rest.length < (more ++ rest).length := by
    rw [List.length_append]
    omega
  rw [he, List.cons_append, readOperand]
  · simp only [hread, if_pos hlength]
  · exact fun h => by cases h

/-- What stands before the last OR of a predicate. -/
def alternatives : RowPredicate → Option RowPredicate
  | .either left _ => some left
  | _ => none

/-- What stands behind the last OR of a predicate. -/
def lastRun : RowPredicate → RowPredicate
  | .either _ right => right
  | p => p

/-- The two sides of the last OR make up the predicate. -/
theorem joined_lastRun (p : RowPredicate) : joined .either p.lastRun p.alternatives = p := by
  cases p <;> rfl

/-- A predicate without parentheses around it, read where nothing stands before it. -/
def ReadsAlone (p : RowPredicate) : Prop :=
  ∀ outer rest, readOperand outer none none (p.tokens ++ rest) =
    readOperator outer p.alternatives p.lastRun rest

/-- A predicate that is no alternative, read behind alternatives. -/
def ReadsBehindOr (p : RowPredicate) : Prop :=
  ∀ outer alternatives rest, p.isEither = false →
    readOperand outer alternatives none (p.tokens ++ rest) = readOperator outer alternatives p rest

/-- A predicate in parentheses is an operand. -/
theorem ReadsAlone.parenthesized {p : RowPredicate} (h : p.ReadsAlone) (outer : List Level)
    (alternatives run : Option RowPredicate) (rest : List Token) :
    readOperand outer alternatives run (parenthesized p.tokens ++ rest) =
      readOperator outer alternatives (joined .both p run) rest := by
  simp only [Sql.parenthesized, List.cons_append, List.append_assoc, List.nil_append]
  rw [readOperand, h, readOperator, joined_lastRun]

/-- AND puts what stands behind it into the run under way. -/
theorem readOperator_and (outer : List Level) (alternatives : Option RowPredicate)
    (run : RowPredicate) (rest : List Token) :
    readOperator outer alternatives run (keyword "AND" :: rest) =
      readOperand outer alternatives (some run) rest := by
  rw [readOperator]
  · rw [if_pos rfl]
  · exact fun _ _ _ _ h => absurd h (by decide)

/-- OR ends the run under way. -/
theorem readOperator_or (outer : List Level) (alternatives : Option RowPredicate)
    (run : RowPredicate) (rest : List Token) :
    readOperator outer alternatives run (keyword "OR" :: rest) =
      readOperand outer (some (joined .either run alternatives)) none rest := by
  rw [readOperator]
  · rw [if_neg (by decide), if_pos rfl]
  · exact fun _ _ _ _ h => absurd h (by decide)

/-- A predicate that is no alternative reads the same with nothing before it. -/
theorem ReadsBehindOr.readsAlone {p : RowPredicate} (h : p.ReadsBehindOr)
    (hp : p.isEither = false) : p.ReadsAlone := by
  intro outer rest
  rw [h outer none rest hp]
  cases p <;> first | rfl | cases hp

/-- Both ways of reading a predicate, by induction on the tree: an operand of AND is a test, a
conjunction on the left, or stands in parentheses; an operand of OR needs these on the right
only. -/
theorem reads {p : RowPredicate} (hp : p.Readable) : p.ReadsAlone ∧ p.ReadsBehindOr := by
  induction p with
  | isNull column | notNull column | compare column operator q =>
    have hbehind : ReadsBehindOr _ := fun outer alternatives rest _ =>
      readOperand_test rfl hp outer alternatives none rest
    exact ⟨hbehind.readsAlone rfl, hbehind⟩
  | both left right ihl ihr =>
    obtain ⟨hleft, hright⟩ := List.forall_mem_append.1 hp
    obtain ⟨hlalone, hlbehind⟩ := ihl hleft
    obtain ⟨hralone, -⟩ := ihr hright
    have hbehind : (both left right).ReadsBehindOr := by
      intro outer alternatives rest _
      have hl : ∀ more, readOperand outer alternatives none
          ((if left.isEither then Sql.parenthesized left.tokens else left.tokens) ++ more) =
          readOperator outer alternatives left more := by
        intro more
        split
        · exact hlalone.parenthesized outer alternatives none more
        · next h => exact hlbehind outer alternatives more (by simpa using h)
      have hr : readOperand outer alternatives (some left)
          ((if right.isTest then right.tokens else Sql.parenthesized right.tokens) ++ rest) =
          readOperator outer alternatives (both left right) rest := by
        split
        · next h => exact readOperand_test h hright outer alternatives (some left) rest
        · exact hralone.parenthesized outer alternatives (some left) rest
      rw [tokens, List.append_assoc, List.cons_append, hl, readOperator_and, hr]
    exact ⟨hbehind.readsAlone rfl, hbehind⟩
  | either left right ihl ihr =>
    obtain ⟨hleft, hright⟩ := List.forall_mem_append.1 hp
    obtain ⟨hlalone, -⟩ := ihl hleft
    obtain ⟨hralone, hrbehind⟩ := ihr hright
    refine ⟨fun outer rest => ?_, fun outer alternatives rest h => by cases h⟩
    have hr : readOperand outer (some left) none
        ((if right.isEither then Sql.parenthesized right.tokens else right.tokens) ++ rest) =
        readOperator outer (some left) right rest := by
      split
      · exact hralone.parenthesized outer (some left) none rest
      · next h => exact hrbehind outer (some left) rest (by simpa using h)
    rw [tokens, List.append_assoc, List.cons_append, hlalone, readOperator_or, joined_lastRun, hr]
    rfl

/-- Reading a predicate from its tokens gives it back, and the tokens behind it, unless these go
on with a connective. -/
theorem readPredicate_tokens {p : RowPredicate} (hp : p.Readable) {rest : List Token}
    (hand : rest.head? ≠ some (keyword "AND")) (hor : rest.head? ≠ some (keyword "OR")) :
    readPredicate (p.tokens ++ rest) = some (p, rest) := by
  rw [readPredicate, (reads hp).1]
  cases rest with
  | nil => rw [readOperator, joined_lastRun]; rfl
  | cons t rest =>
    rw [readOperator]
    · rw [if_neg (by simpa using hand), if_neg (by simpa using hor), joined_lastRun]
      rfl
    · exact fun _ _ _ h => by cases h

end RowPredicate

/-- What a row of a table says about its columns. Comparisons may be unknown. -/
structure StoredRow where
  /-- The column is null. -/
  isNull : String → Bool
  /-- The outcome of comparing the column by an operator with a bound value. -/
  compares : String → String → Placeholder → Option Bool

/-- The outcome of AND: false where one side is false, true where both are, else unknown. -/
def bothOf : Option Bool → Option Bool → Option Bool
  | some true, right => right
  | some false, _ => some false
  | none, some false => some false
  | none, _ => none

/-- The outcome of OR: true where one side is true, false where both are false, else unknown. -/
def eitherOf : Option Bool → Option Bool → Option Bool
  | some false, right => right
  | some true, _ => some true
  | none, some true => some true
  | none, _ => none

namespace RowPredicate

/-- The outcome of a predicate on a row. -/
def outcome (row : StoredRow) : RowPredicate → Option Bool
  | .isNull column => some (row.isNull column)
  | .notNull column => some (!row.isNull column)
  | .compare column operator p => row.compares column operator p
  | .both left right => bothOf (left.outcome row) (right.outcome row)
  | .either left right => eitherOf (left.outcome row) (right.outcome row)

/-- The row satisfies the predicate: the outcome is true, and not merely unknown. -/
def Holds (p : RowPredicate) (row : StoredRow) : Prop :=
  p.outcome row = some true

/-- A row satisfies two predicates under AND exactly if it satisfies both. -/
theorem holds_both {left right : RowPredicate} {row : StoredRow} :
    (both left right).Holds row ↔ left.Holds row ∧ right.Holds row := by
  simp only [Holds, outcome]
  rcases left.outcome row with _ | _ | _ <;> rcases right.outcome row with _ | _ | _ <;> decide

end RowPredicate

end TableQuery.Sql
