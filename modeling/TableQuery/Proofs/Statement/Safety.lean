import TableQuery.Proofs.Sql.Numbering
import TableQuery.Proofs.Sql.Query
import TableQuery.Proofs.Sql.Quoting
import TableQuery.Proofs.Statement.Request

/-!
# Texts that inject nothing

Whatever texts are given as tables, columns, operators and types, the text of a statement that is
built holds nothing but the characters of statements outside of the quoted names of types.
-/

/-!
## Balanced parentheses

The parentheses of every query are balanced, however deep its predicate is nested.
-/

namespace TableQuery.Sql

/-- The parentheses of a text are balanced, `depth` of them being open before it. -/
def balanced : Nat → List Char → Bool
  | depth, [] => depth = 0
  | depth, c :: cs =>
    if c = '(' then balanced (depth + 1) cs
    else if c = ')' then 0 < depth && balanced (depth - 1) cs
    else balanced depth cs

/-- Only the parentheses of a text decide whether they are balanced. -/
theorem balanced_filter (depth : Nat) (cs : List Char) :
    balanced depth (cs.filter isParen) = balanced depth cs := by
  induction cs generalizing depth with
  | nil => rfl
  | cons c cs ih =>
    by_cases hopen : c = '('
    · rw [hopen, List.filter_cons_of_pos (by decide), balanced, if_pos rfl, balanced, if_pos rfl,
        ih]
    · by_cases hclose : c = ')'
      · rw [hclose, List.filter_cons_of_pos (by decide), balanced, if_neg (by decide), if_pos rfl,
          balanced, if_neg (by decide), if_pos rfl, ih]
      · have hno : isParen c = false := by simp [isParen, hopen, hclose]
        rw [List.filter_cons_of_neg (by simp [hno]), balanced, if_neg hopen, if_neg hclose, ih]

/-- Tokens open as many parentheses as they close, and close none that was open before. -/
def Closed (tokens : List Token) : Prop :=
  ∀ depth rest, balanced depth (tokens.flatMap Token.parens ++ rest) = balanced depth rest

namespace Closed

variable {tokens second : List Token}

/-- Tokens that are no parentheses open nothing. -/
theorem of_parens (h : tokens.flatMap Token.parens = []) : Closed tokens := by
  intro depth rest
  rw [h, List.nil_append]

/-- Tokens behind others. -/
theorem append (h : Closed tokens) (h' : Closed second) : Closed (tokens ++ second) := by
  intro depth rest
  rw [List.flatMap_append, List.append_assoc, h, h']

/-- A token that is no parenthesis in front. -/
theorem cons {t : Token} (ht : t.parens = []) (h : Closed tokens) : Closed (t :: tokens) := by
  have hone : Closed [t] := of_parens (by rw [List.flatMap_singleton, ht])
  exact hone.append h

/-- Parentheses around tokens. -/
theorem parenthesized (h : Closed tokens) : Closed (parenthesized tokens) := by
  intro depth rest
  have hparens : (Sql.parenthesized tokens).flatMap Token.parens ++ rest =
      '(' :: (tokens.flatMap Token.parens ++ ')' :: rest) := by
    simp [Sql.parenthesized, Token.parens]
  rw [hparens, balanced, if_pos rfl, h, balanced, if_neg (by decide), if_pos rfl]
  simp

/-- Parentheses around tokens, and others behind them. -/
theorem parenthesized_append (h : Closed tokens) (h' : Closed second) :
    Closed (.opening :: (tokens ++ .closing :: second)) := by
  have hboth := h.parenthesized.append h'
  simp only [Sql.parenthesized, List.cons_append, List.append_assoc, List.nil_append] at hboth
  exact hboth

/-- Entries with commas between them. -/
theorem listTokens {entries : List (List Token)} (h : ∀ entry ∈ entries, Closed entry) :
    Closed (listTokens entries) := by
  induction entries with
  | nil => exact of_parens rfl
  | cons entry entries ih =>
    obtain ⟨hentry, hrest⟩ := List.forall_mem_cons.1 h
    cases entries with
    | nil =>
      rw [Sql.listTokens, List.intercalate_singleton]
      exact hentry
    | cons next entries =>
      rw [Sql.listTokens, List.intercalate_cons_cons]
      exact (hentry.append (of_parens rfl)).append (ih hrest)

/-- Names with commas between them. -/
theorem names (names : List String) :
    Closed (Sql.listTokens (names.map fun c => [nameToken c])) := by
  refine listTokens fun entry hmem => ?_
  obtain ⟨name, -, rfl⟩ := List.mem_map.1 hmem
  exact of_parens rfl

/-- A predicate puts parentheses around whole predicates only. -/
theorem predicate (p : RowPredicate) : Closed p.tokens := by
  induction p with
  | isNull column => exact of_parens rfl
  | notNull column => exact of_parens rfl
  | compare column operator q =>
    have hoperator : (operatorTokens operator).flatMap Token.parens = [] := by
      refine List.flatMap_eq_nil_iff.2 fun t ht => ?_
      obtain ⟨part, -, rfl⟩ := List.mem_map.1 ht
      rw [operatorToken]
      split <;> rfl
    exact cons rfl ((of_parens hoperator).append (of_parens rfl))
  | both left right ihl ihr =>
    rw [RowPredicate.tokens]
    refine append ?_ (cons rfl ?_)
    · split
      · exact ihl.parenthesized
      · exact ihl
    · split
      · exact ihr
      · exact ihr.parenthesized
  | either left right ihl ihr =>
    rw [RowPredicate.tokens]
    refine append ihl (cons rfl ?_)
    split
    · exact ihr.parenthesized
    · exact ihr

/-- A clause on rows. -/
theorem rows (rows : Option RowPredicate) : Closed (rowTokens rows) := by
  cases rows with
  | none => exact of_parens rfl
  | some p => exact cons rfl (predicate p)

/-- Joined tables. -/
theorem joins (joins : List JoinedTable) : Closed (joins.flatMap JoinedTable.tokens) := by
  induction joins with
  | nil => exact of_parens rfl
  | cons j joins ih =>
    rw [List.flatMap_cons]
    exact append (of_parens rfl) ih

/-- An assignment. -/
theorem assignment (a : Assignment) : Closed a.tokens := by
  cases a with
  | bound column p otherwise =>
    have hvalue : Closed [p.token, .comma, nameToken otherwise] := of_parens rfl
    exact cons rfl (cons rfl (cons rfl hvalue.parenthesized))
  | now column =>
    have hnothing : Closed [] := of_parens rfl
    exact cons rfl (cons rfl (cons rfl hnothing.parenthesized))

/-- Every query opens as many parentheses as it closes. -/
theorem query (q : Query) : Closed q.tokens := by
  cases q with
  | select output table joined rows order offset limit =>
    have houtput : Closed (Sql.listTokens (output.map OutputColumn.tokens)) := by
      refine listTokens fun entry hmem => ?_
      obtain ⟨⟨column, _ | newName⟩, -, rfl⟩ := List.mem_map.1 hmem <;> exact of_parens rfl
    have htail : Closed (orderTokens order ++ (pagingTokens "OFFSET" offset ++
        pagingTokens "LIMIT" limit)) := by
      rcases order with _ | ⟨column, _ | direction⟩ <;> cases offset <;> cases limit <;>
        exact of_parens rfl
    exact cons rfl (houtput.append (cons rfl (cons rfl ((joins joined).append
      ((Closed.rows rows).append htail)))))
  | count columns table rows =>
    have htail : Closed (keyword "FROM" :: nameToken table :: rowTokens rows) :=
      cons rfl (cons rfl (Closed.rows rows))
    exact cons rfl (cons rfl ((names columns).parenthesized_append htail))
  | insert table columns values returning =>
    have hvalues : Closed (Sql.listTokens (values.map fun p => [p.token])) := by
      refine listTokens fun entry hmem => ?_
      obtain ⟨p, -, rfl⟩ := List.mem_map.1 hmem
      exact of_parens rfl
    have htail := hvalues.parenthesized_append
      (cons (t := keyword "RETURNING") rfl (names returning))
    exact cons rfl (cons rfl (cons rfl
      ((names columns).parenthesized_append (cons rfl htail))))
  | update table assignments rows returning =>
    have hassignments : Closed (Sql.listTokens (assignments.map Assignment.tokens)) := by
      refine listTokens fun entry hmem => ?_
      obtain ⟨a, -, rfl⟩ := List.mem_map.1 hmem
      exact assignment a
    exact cons rfl (cons rfl (cons rfl (hassignments.append
      ((Closed.rows rows).append (cons rfl (names returning))))))
  | delete table rows => exact cons rfl (cons rfl (cons rfl (Closed.rows rows)))

end Closed

/-- A text with the parentheses of a query is balanced. -/
theorem balanced_of_query {out : List Char} {q : Query}
    (hout : out.filter isParen = q.tokens.flatMap Token.parens) : balanced 0 out = true := by
  have hclosed := Closed.query q 0 []
  rw [List.append_nil] at hclosed
  rw [← balanced_filter, hout, hclosed]
  rfl

end TableQuery.Sql

/-! ## Statements that are built -/

namespace TableQuery

open TableQuery.Sql

/-- A text is harmless: names in double quotes are closed, and outside of them the text is `outside`
and holds the tokens of a query. -/
structure Sql.Harmless (sql : String) (outside : List Char) (q : Query) : Prop where
  /-- The double quotes of the text pair up. -/
  quotes : outsideQuotes false sql.toList = some outside
  /-- Outside of them there are letters, digits, blanks and a few signs, and the quotes. -/
  characters : ∀ c ∈ outside, isPlainChar c = true ∨ c = '"'
  /-- No single quote, no semicolon, nothing that begins a comment and no control character. -/
  harmless : ∀ c ∈ outside, c ≠ '\'' ∧ c ≠ ';' ∧ c ≠ '-' ∧ c ≠ '/' ∧ 32 ≤ c.toNat ∧ c.toNat < 127
  /-- The parentheses outside of the quotes are balanced. -/
  parentheses : balanced 0 outside = true
  /-- The tokens of the text are those of the query. -/
  tokens : lex sql.toList = some q.tokens
  /-- The text is read as the query. -/
  read : Query.ofText sql = some q
  /-- What is quoted belongs to the type that a placeholder is cast to. -/
  quoted : ∀ t ∈ q.tokens, '"' ∈ t.chars → ∃ p ∈ q.placeholders, t = p.token
  /-- Every comparison uses a known operator. -/
  operators : ∀ operator ∈ q.operators, operator ∈ TableQuery.operators

/-- A query that can be read back uses known operators only. -/
theorem Sql.Query.operators_of_readable {q : Query} (h : q.Readable) :
    ∀ operator ∈ q.operators, operator ∈ TableQuery.operators := by
  have hrows : ∀ p ∈ q.rows, p.Readable := by
    cases q with
    | select output table joins rows order offset limit => exact h.2.1
    | count columns table rows => exact h.2
    | insert table columns values returning => exact fun p hp => by cases hp
    | update table assignments rows returning => exact h.2.1
    | delete table rows => exact h
  rw [Query.operators]
  cases hr : q.rows with
  | none => exact List.forall_mem_nil _
  | some p => exact hrows p hr

/-- The text of every statement that is built is harmless, whatever texts were given as tables, as
specs that could be read, as columns, operators, orders and returned columns, and as types. -/
theorem Request.harmless_sql {r : Request} {s : Statement} (h : r.statement = .ok s)
    (hextra : r.AddsNothing) : ∃ outside q, Harmless s.sql outside q := by
  have hmeans := Request.means h hextra
  obtain ⟨outside, hquotes, hcharacters, hparens⟩ := outsideQuotes_of_lex hmeans.lexed
  refine ⟨outside, r.query, hquotes, hcharacters,
    fun c hc => harmless_of_isPlainChar (hcharacters c hc), balanced_of_query hparens,
    hmeans.lexed, hmeans.ofText, fun t ht hquote => ?_,
    Query.operators_of_readable hmeans.readable⟩
  obtain ⟨cs, rfl⟩ := bound_of_mem_chars (inOrder_of_lex hmeans.lexed t ht) hquote
  have hbound : cs ∈ r.query.tokens.filterMap Token.bound? :=
    List.mem_filterMap.2 ⟨_, ht, rfl⟩
  rw [Query.filterMap_tokens, List.mem_map] at hbound
  obtain ⟨p, hp, rfl⟩ := hbound
  exact ⟨p, hp, rfl⟩

/-- A type whose name holds a quote, a semicolon and a comment harms nothing. -/
theorem Request.harmless_sql_type :
    ∃ s outside q,
      (Request.delete "users" ⟨[.equal "age" (.int 3)]⟩
        (ColumnTypes.ofList [("age", "\"t'; --\"")])).statement = .ok s ∧
      s.sql = "DELETE FROM users WHERE age = $1::\"t'; --\"" ∧ Harmless s.sql outside q := by
  obtain ⟨outside, q, hharmless⟩ := Request.harmless_sql
    (r := .delete "users" ⟨[.equal "age" (.int 3)]⟩
      (ColumnTypes.ofList [("age", "\"t'; --\"")])) rfl trivial
  exact ⟨_, outside, q, rfl, by decide +kernel, hharmless⟩

end TableQuery
