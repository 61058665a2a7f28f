import TableQuery.Proofs.Sql.Query
import TableQuery.Proofs.Sql.Quoting

/-!
# Numbers of placeholders

The numbers of a text are the runs of digits directly behind its dollar signs. A reader that skips
the names in double quotes finds there the numbers of the placeholders of a statement, in the order
of its tokens.
-/

namespace TableQuery

namespace Statement

/-- The runs of digits that directly follow a dollar sign, empty ones included. `run` holds the
digits read since the last dollar sign, latest first. -/
def dollarRuns : Option (List Char) → List Char → List (List Char)
  | none, [] => []
  | some run, [] => [run.reverse]
  | none, c :: cs => if c = '$' then dollarRuns (some []) cs else dollarRuns none cs
  | some run, c :: cs =>
    if c.isDigit then dollarRuns (some (c :: run)) cs
    else run.reverse :: (if c = '$' then dollarRuns (some []) cs else dollarRuns none cs)

/-- A character that is no dollar sign is passed over where no digits are read. -/
theorem dollarRuns_cons {c : Char} (h : c ≠ '$') (cs : List Char) :
    dollarRuns none (c :: cs) = dollarRuns none cs := by
  rw [dollarRuns, if_neg h]

/-- A run goes on with the digits at the beginning of the text and is over behind them. -/
theorem dollarRuns_some (run cs : List Char) :
    dollarRuns (some run) cs =
      (run.reverse ++ cs.takeWhile Char.isDigit) :: dollarRuns none cs := by
  induction cs generalizing run with
  | nil => simp [dollarRuns]
  | cons c cs ih =>
    cases hc : c.isDigit with
    | true =>
      have hdollar : c ≠ '$' := by
        rintro rfl
        cases hc
      rw [dollarRuns_cons hdollar, dollarRuns, if_pos hc, ih, List.takeWhile_cons_of_pos hc,
        List.reverse_cons, List.append_assoc, List.singleton_append]
    | false =>
      have hnot : ¬c.isDigit = true := by simp [hc]
      rw [dollarRuns, dollarRuns, if_neg hnot, List.takeWhile_cons_of_neg hnot, List.append_nil]

/-- The run of a dollar sign are the digits directly behind it. -/
theorem dollarRuns_dollar (cs : List Char) :
    dollarRuns none ('$' :: cs) = cs.takeWhile Char.isDigit :: dollarRuns none cs := by
  rw [dollarRuns, if_pos rfl, dollarRuns_some, List.reverse_nil, List.nil_append]

/-- Text without a dollar sign is passed over. -/
theorem dollarRuns_of_notMem {front : List Char} (h : '$' ∉ front) (cs : List Char) :
    dollarRuns none (front ++ cs) = dollarRuns none cs := by
  induction front with
  | nil => rfl
  | cons c front ih =>
    rw [List.mem_cons, not_or] at h
    rw [List.cons_append, dollarRuns_cons (Ne.symm h.1), ih h.2]

/-- The runs are what stands directly behind the dollar signs. -/
theorem mem_dollarRuns_iff {cs run : List Char} :
    run ∈ dollarRuns none cs ↔
      ∃ front behind, cs = front ++ '$' :: behind ∧ behind.takeWhile Char.isDigit = run := by
  constructor
  · intro h
    induction cs with
    | nil => cases h
    | cons c cs ih =>
      have hlater : run ∈ dollarRuns none cs → ∃ front behind, c :: cs = front ++ '$' :: behind ∧
          behind.takeWhile Char.isDigit = run := by
        intro hmem
        obtain ⟨front, behind, rfl, hrun⟩ := ih hmem
        exact ⟨c :: front, behind, rfl, hrun⟩
      by_cases hc : c = '$'
      · subst hc
        rw [dollarRuns_dollar, List.mem_cons] at h
        exact h.elim (fun hrun => ⟨[], cs, rfl, hrun.symm⟩) hlater
      · rw [dollarRuns_cons hc] at h
        exact hlater h
  · rintro ⟨front, behind, rfl, rfl⟩
    induction front with
    | nil => exact dollarRuns_dollar behind ▸ List.mem_cons_self
    | cons c front ih =>
      by_cases hc : c = '$'
      · subst hc
        rw [List.cons_append, dollarRuns_dollar]
        exact List.mem_cons_of_mem _ ih
      · rw [List.cons_append, dollarRuns_cons hc]
        exact ih

end Statement

namespace Sql

open TableQuery.Text

/-- What follows the dollar sign of a placeholder. -/
def Token.bound? : Token → Option (List Char)
  | .bound cs => some cs
  | _ => none

/-- The digits that directly follow the dollar sign of a placeholder. -/
def Token.digits? (t : Token) : Option (List Char) :=
  t.bound?.map fun cs => cs.takeWhile Char.isDigit

/-- The digits at the beginning of a text end in front of a character that is none. -/
theorem takeWhile_isDigit_append_cons {c : Char} (hc : c.isDigit = false) (cs out : List Char) :
    (cs ++ c :: out).takeWhile Char.isDigit = cs.takeWhile Char.isDigit := by
  rw [List.takeWhile_append, List.takeWhile_cons_of_neg (by simp [hc]), List.append_nil]
  split
  · next hall => rw [(List.takeWhile_prefix Char.isDigit).eq_of_length hall]
  · rfl

/-- The digits at the beginning of a text that is not all digits end where they do, whatever
follows. -/
theorem takeWhile_isDigit_append {cs : List Char} (h : cs.all Char.isDigit = false)
    (out : List Char) : (cs ++ out).takeWhile Char.isDigit = cs.takeWhile Char.isDigit := by
  rw [List.takeWhile_append]
  split
  · next hall =>
    rw [← (List.takeWhile_prefix Char.isDigit).eq_of_length hall, List.all_takeWhile] at h
    cases h
  · rfl

namespace Lexing

/-- The run of digits of a placeholder that has begun, with the text behind it. -/
def runBefore : Lexing → List Char → List (List Char)
  | .bound read, out => [(read.reverse ++ out).takeWhile Char.isDigit]
  | .quoted read, out => [(read.reverse ++ out).takeWhile Char.isDigit]
  | _, _ => []

/-- What goes on with a token, outside of quotes, goes on with its run and begins none. -/
theorem runBefore_of_extend {s next : Lexing} {c : Char} (hs : s.isQuoted = false ∨ c = '"')
    (h : s.extend c = some next) (out : List Char) :
    s.runBefore (c :: out) = next.runBefore out ∧ c ≠ '$' := by
  rcases extend_cases h with ⟨read, rfl, hc, rfl⟩ | ⟨read, rfl, hc, rfl⟩ | ⟨read, rfl, hc, rfl⟩ |
    ⟨read, rfl, hc, rfl⟩ | ⟨read, rfl, hc, rfl⟩ | ⟨read, rfl, hc, rfl⟩
  · exact ⟨rfl, by rintro rfl; cases hc⟩
  · exact ⟨rfl, by rintro rfl; cases hc⟩
  · exact ⟨by simp [runBefore], by rintro rfl; cases hc⟩
  · exact ⟨by simp [runBefore], by rintro rfl; cases hc⟩
  · exact ⟨by simp [runBefore], by rintro rfl; cases hc⟩
  · rcases hs with hs | hs
    · cases hs
    · exact absurd hs hc

/-- What ends a placeholder is no digit. -/
theorem isDigit_of_extend {read : List Char} {c : Char} (h : (bound read).extend c = none) :
    c.isDigit = false := by
  by_contra hd
  have hword : isWordChar c = true := by
    simp [isWordChar, isIdentifierPart, Char.isAlphanum, Bool.of_not_eq_false hd]
  rw [extend, if_pos hword] at h
  cases h

/-- At the end of a token its run is complete. -/
theorem runBefore_of_end {s : Lexing} {c : Char} (h : s.extend c = none) (out : List Char) :
    s.runBefore (c :: out) = s.pending.filterMap Token.digits? := by
  cases s with
  | bound read =>
    rw [runBefore, takeWhile_isDigit_append_cons (isDigit_of_extend h)]
    rfl
  | quoted read =>
    rw [extend] at h
    split at h <;> cases h
  | _ => rfl

/-- Only a dollar sign begins a run. -/
theorem dollarRuns_of_start {c : Char} {next : Lexing} {found : List Token}
    (h : start c = some (next, found)) (out : List Char) :
    Statement.dollarRuns none (c :: out) =
      found.filterMap Token.digits? ++ (next.runBefore out ++ Statement.dollarRuns none out) := by
  rcases start_cases h with ⟨rfl, rfl, rfl⟩ | ⟨rfl, rfl, rfl⟩ | ⟨rfl, rfl, rfl⟩ |
    ⟨rfl, rfl, rfl⟩ | ⟨rfl, rfl, rfl⟩ | ⟨hc, rfl, rfl⟩ | ⟨hc, rfl, rfl⟩
  · rfl
  · rfl
  · rfl
  · rfl
  · exact Statement.dollarRuns_dollar out
  · exact Statement.dollarRuns_cons (by rintro rfl; cases hc) out
  · exact Statement.dollarRuns_cons (by rintro rfl; cases hc) out

/-- Every character outside of quotes takes the runs of digits along that were found so far. -/
theorem dollarRuns_step {s next : Lexing} {c : Char} {emitted : List Token}
    (hs : s.isQuoted = false ∨ c = '"') (h : s.step c = some (next, emitted)) (out : List Char) :
    s.runBefore (c :: out) ++ Statement.dollarRuns none (c :: out) =
      emitted.filterMap Token.digits? ++
        (next.runBefore out ++ Statement.dollarRuns none out) := by
  rcases step_cases h with ⟨hextend, rfl⟩ | ⟨hextend, found, hstart, rfl⟩
  · obtain ⟨hrun, hc⟩ := runBefore_of_extend hs hextend out
    rw [hrun, Statement.dollarRuns_cons hc]
    rfl
  · rw [runBefore_of_end hextend, dollarRuns_of_start hstart, List.filterMap_append,
      List.append_assoc]

/-- At the end of a text the runs of digits are those of the last token. -/
theorem runBefore_nil {s : Lexing} (hs : s.isQuoted = false) :
    s.runBefore [] = s.pending.filterMap Token.digits? := by
  cases s with
  | bound read =>
    rw [runBefore, List.append_nil]
    rfl
  | quoted read => cases hs
  | _ => rfl

/-- An open quote stands behind something that is no digit: the quote itself. -/
def QuotesBehind : Lexing → Prop
  | .quoted read => read.all Char.isDigit = false
  | _ => True

/-- Every character keeps open quotes behind something that is no digit. -/
theorem quotesBehind_step {s next : Lexing} {c : Char} {emitted : List Token}
    (hb : s.QuotesBehind) (h : s.step c = some (next, emitted)) : next.QuotesBehind := by
  rcases step_cases h with ⟨hextend, -⟩ | ⟨-, out, hstart, -⟩
  · rcases extend_cases hextend with ⟨read, rfl, -, rfl⟩ | ⟨read, rfl, -, rfl⟩ |
      ⟨read, rfl, -, rfl⟩ | ⟨read, rfl, rfl, rfl⟩ | ⟨read, rfl, -, rfl⟩ | ⟨read, rfl, -, rfl⟩
    · trivial
    · trivial
    · trivial
    · rfl
    · trivial
    · rw [QuotesBehind, List.all_cons, Bool.and_eq_false_iff]
      exact Or.inr hb
  · rcases start_cases hstart with ⟨-, rfl, -⟩ | ⟨-, rfl, -⟩ | ⟨-, rfl, -⟩ | ⟨-, rfl, -⟩ |
      ⟨-, rfl, -⟩ | ⟨-, rfl, -⟩ | ⟨-, rfl, -⟩ <;> trivial

end Lexing

/-- The runs of digits behind the dollar signs of a text, outside of its quotes, are the numbers of
its placeholders. -/
theorem dollarRuns_of_lex {cs : List Char} {tokens : List Token} (h : lex cs = some tokens) :
    ∃ out, outsideQuotes false cs = some out ∧
      Statement.dollarRuns none out = tokens.filterMap Token.digits? := by
  obtain ⟨last, emitted, hscan, hlast, rfl⟩ := scan_of_lex h
  have hrun := Lexing.outside_induction
    (P := fun s out tokens => s.QuotesBehind →
      s.runBefore out ++ Statement.dollarRuns none out = tokens.filterMap Token.digits?)
    (fun s hs _ => (List.append_nil _).trans (Lexing.runBefore_nil hs))
    (fun {read c out tokens} _ hp hb => ?_)
    (fun {s next c emitted tokens out} hs hstep hp hb => ?_) hscan hlast
  · obtain ⟨out, hout, hp⟩ := hrun
    exact ⟨out, hout, hp trivial⟩
  · -- what stands in quotes is left out: the digits had ended before
    have hreverse : read.reverse.all Char.isDigit = false := by rwa [List.all_reverse]
    have hbehind : (Lexing.quoted (c :: read)).QuotesBehind := by
      rw [Lexing.QuotesBehind, List.all_cons, Bool.and_eq_false_iff]
      exact Or.inr hb
    rw [← hp hbehind, Lexing.runBefore, Lexing.runBefore, List.reverse_cons, List.append_assoc,
      takeWhile_isDigit_append hreverse, takeWhile_isDigit_append hreverse]
  · rw [Lexing.dollarRuns_step hs hstep, hp (Lexing.quotesBehind_step hb hstep),
      List.filterMap_append]

/-- Commas between entries bind nothing. -/
theorem filterMap_listTokens (entries : List (List Token)) :
    (listTokens entries).filterMap Token.bound? =
      entries.flatMap fun tokens => tokens.filterMap Token.bound? := by
  induction entries with
  | nil => rfl
  | cons tokens entries ih =>
    cases entries with
    | nil => simp [listTokens]
    | cons next entries =>
      rw [listTokens] at ih ⊢
      rw [List.intercalate_cons_cons, List.filterMap_append, List.filterMap_append, ih,
        List.filterMap_cons_none rfl, List.filterMap_nil, List.append_nil]
      exact List.flatMap_cons.symm

/-- Names bind nothing. -/
theorem filterMap_names (names : List String) :
    (listTokens (names.map fun c => [nameToken c])).filterMap Token.bound? = [] := by
  rw [filterMap_listTokens, List.flatMap_map]
  exact List.flatMap_eq_nil_iff.2 fun _ _ => rfl

/-- Parentheses bind nothing. -/
theorem filterMap_parenthesized (tokens : List Token) :
    (parenthesized tokens).filterMap Token.bound? = tokens.filterMap Token.bound? := by
  rw [parenthesized, List.cons_append, List.filterMap_cons_none rfl, List.filterMap_append,
    List.filterMap_cons_none rfl, List.filterMap_nil, List.append_nil]

/-- An operator binds nothing. -/
theorem filterMap_operatorTokens (operator : String) :
    (operatorTokens operator).filterMap Token.bound? = [] := by
  refine List.filterMap_eq_nil_iff.2 fun t ht => ?_
  obtain ⟨part, -, rfl⟩ := List.mem_map.1 ht
  rw [operatorToken]
  split <;> rfl

/-- The bound tokens of a predicate are those of its placeholders, in their order. -/
theorem RowPredicate.filterMap_tokens (p : RowPredicate) :
    p.tokens.filterMap Token.bound? = p.bindings.map fun b => b.2.chars := by
  induction p with
  | isNull column => rfl
  | notNull column => rfl
  | compare column operator q =>
    rw [tokens, List.cons_append, List.filterMap_cons_none rfl, List.filterMap_append,
      filterMap_operatorTokens]
    rfl
  | both left right ihl ihr =>
    have hl : (if left.isEither then parenthesized left.tokens else left.tokens).filterMap
        Token.bound? = left.bindings.map fun b => b.2.chars := by
      split
      · rw [filterMap_parenthesized, ihl]
      · exact ihl
    have hr : (if right.isTest then right.tokens else parenthesized right.tokens).filterMap
        Token.bound? = right.bindings.map fun b => b.2.chars := by
      split
      · exact ihr
      · rw [filterMap_parenthesized, ihr]
    rw [tokens, List.filterMap_append, List.filterMap_cons_none rfl, hl, hr, bindings,
      List.map_append]
  | either left right ihl ihr =>
    have hr : (if right.isEither then parenthesized right.tokens else right.tokens).filterMap
        Token.bound? = right.bindings.map fun b => b.2.chars := by
      split
      · rw [filterMap_parenthesized, ihr]
      · exact ihr
    rw [tokens, List.filterMap_append, List.filterMap_cons_none rfl, ihl, hr, bindings,
      List.map_append]

/-- The bound tokens of a clause on rows are those of its placeholders. -/
theorem filterMap_rowTokens (rows : Option RowPredicate) :
    (rowTokens rows).filterMap Token.bound? =
      (rows.elim [] RowPredicate.bindings).map fun b => b.2.chars := by
  cases rows with
  | none => rfl
  | some p => exact p.filterMap_tokens

/-- Joined tables bind nothing. -/
theorem filterMap_joins (joins : List JoinedTable) :
    (joins.flatMap JoinedTable.tokens).filterMap Token.bound? = [] := by
  induction joins with
  | nil => rfl
  | cons j joins ih =>
    rw [List.flatMap_cons, List.filterMap_append, ih]
    rfl

/-- Placeholders with commas between them are bound tokens. -/
theorem filterMap_placeholders (values : List Placeholder) :
    (listTokens (values.map fun p => [p.token])).filterMap Token.bound? =
      values.map Placeholder.chars := by
  rw [filterMap_listTokens, List.flatMap_map]
  induction values with
  | nil => rfl
  | cons p values ih =>
    rw [List.flatMap_cons, ih]
    rfl

/-- The bound tokens of assignments are those of their placeholders. -/
theorem filterMap_assignments (assignments : List Assignment) :
    (listTokens (assignments.map Assignment.tokens)).filterMap Token.bound? =
      (assignments.flatMap Assignment.binding).map fun b => b.2.chars := by
  rw [filterMap_listTokens, List.flatMap_map]
  induction assignments with
  | nil => rfl
  | cons a assignments ih =>
    rw [List.flatMap_cons, List.flatMap_cons, List.map_append, ih]
    refine congrArg (fun front => front ++ _) ?_
    cases a with
    | bound column p otherwise => rfl
    | now column => rfl

/-- Bindings are written as their placeholders. -/
theorem map_chars (bindings : List (String × Placeholder)) :
    (bindings.map Prod.snd).map Placeholder.chars = bindings.map fun b => b.2.chars :=
  List.map_map

namespace Query

/-- The placeholders of a query, from left to right. -/
def placeholders : Query → List Placeholder
  | .insert _ _ values _ => values
  | q => q.bindings.map Prod.snd

/-- The bound tokens of a query are those of its placeholders, in their order. -/
theorem filterMap_tokens (q : Query) :
    q.tokens.filterMap Token.bound? = q.placeholders.map Placeholder.chars := by
  cases q with
  | select output table joins rows order offset limit =>
    have houtput : (listTokens (output.map OutputColumn.tokens)).filterMap Token.bound? = [] := by
      rw [filterMap_listTokens, List.flatMap_map]
      refine List.flatMap_eq_nil_iff.2 fun c _ => ?_
      obtain ⟨column, _ | newName⟩ := c <;> rfl
    have htail : (orderTokens order ++ (pagingTokens "OFFSET" offset ++
        pagingTokens "LIMIT" limit)).filterMap Token.bound? = [] := by
      rcases order with _ | ⟨column, _ | direction⟩ <;> cases offset <;> cases limit <;> rfl
    rw [tokens, List.filterMap_cons_none rfl, List.filterMap_append, houtput,
      List.filterMap_cons_none rfl, List.filterMap_cons_none rfl, List.filterMap_append,
      filterMap_joins, List.filterMap_append, filterMap_rowTokens, htail, List.append_nil]
    exact (map_chars _).symm
  | count columns table rows =>
    rw [tokens, List.filterMap_cons_none rfl, List.filterMap_cons_none rfl,
      List.filterMap_cons_none rfl, List.filterMap_append, filterMap_names,
      List.filterMap_cons_none rfl, List.filterMap_cons_none rfl, List.filterMap_cons_none rfl,
      filterMap_rowTokens]
    exact (map_chars _).symm
  | insert table columns values returning =>
    rw [tokens, List.filterMap_cons_none rfl, List.filterMap_cons_none rfl,
      List.filterMap_cons_none rfl, List.filterMap_cons_none rfl, List.filterMap_append,
      filterMap_names, List.filterMap_cons_none rfl, List.filterMap_cons_none rfl,
      List.filterMap_cons_none rfl, List.filterMap_append, filterMap_placeholders,
      List.filterMap_cons_none rfl, List.filterMap_cons_none rfl, filterMap_names, List.append_nil]
    rfl
  | update table assignments rows returning =>
    rw [tokens, List.filterMap_cons_none rfl, List.filterMap_cons_none rfl,
      List.filterMap_cons_none rfl, List.filterMap_append, filterMap_assignments,
      List.filterMap_append, filterMap_rowTokens, List.filterMap_cons_none rfl, filterMap_names,
      List.append_nil, ← List.map_append]
    exact (map_chars _).symm
  | delete table rows =>
    rw [tokens, List.filterMap_cons_none rfl, List.filterMap_cons_none rfl,
      List.filterMap_cons_none rfl, filterMap_rowTokens]
    exact (map_chars _).symm

/-- The numbers in the tokens of a query are those of its placeholders, in their order. -/
theorem filterMap_digits (q : Query) :
    q.tokens.filterMap Token.digits? = q.placeholders.map fun p => Decimal.digits p.number := by
  have hmap : q.tokens.filterMap Token.digits? =
      (q.tokens.filterMap Token.bound?).map fun cs => cs.takeWhile Char.isDigit :=
    (List.map_filterMap ..).symm
  rw [hmap, filterMap_tokens, List.map_map]
  exact List.map_congr_left fun p _ => p.takeWhile_chars

end Query

end Sql

end TableQuery
