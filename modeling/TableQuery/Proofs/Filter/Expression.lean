import TableQuery.Filter.Expression
import TableQuery.Proofs.Decimal.Digits
import TableQuery.Proofs.Names
import TableQuery.Proofs.Text.Blank

/-!
# Expressions as they are written

An expression is read at the first operator in it. Neither a name nor a blank begins an operator, so
behind a column the operator is found at once, and where no sign follows it, it is the one that was
written and not the beginning of a longer one. What stands behind it is never searched: operators,
quotes and blanks in a quoted text are read as they are. Main statement: of a column, an operator
and a literal, with blanks at will, the expression is read back to exactly these.
-/

namespace TableQuery

open TableQuery.Text

/-- The signs with which the operators of the compact form begin. -/
def operatorStarts : List Char := ['!', '~', '>', '<', '=']

/-- No operator begins with another sign. -/
theorem operatorAt?_eq_none {c : Char} (h : c ∉ operatorStarts) (cs : List Char) :
    operatorAt? (c :: cs) = none := by
  have hstarts : ∀ entry ∈ compactOperators, ∃ start ∈ operatorStarts, ∃ rest : List Char,
      entry.1.toList = start :: rest := by
    have hheads : ∀ entry ∈ compactOperators, entry.1.toList.head?.any operatorStarts.contains := by
      decide
    intro entry hentry
    have hhead := hheads entry hentry
    cases hchars : entry.1.toList with
    | nil =>
      rw [hchars] at hhead
      cases hhead
    | cons start rest =>
      rw [hchars] at hhead
      exact ⟨start, List.contains_iff_mem.1 hhead, rest, rfl⟩
  rw [operatorAt?, List.find?_eq_none]
  intro entry hentry hbegins
  obtain ⟨start, hstart, rest, hchars⟩ := hstarts entry hentry
  rw [hchars, List.isPrefixOf_iff_prefix, List.cons_prefix_cons] at hbegins
  exact h (hbegins.1 ▸ hstart)

/-- An expression is cut at an operator if none begins before it. -/
theorem cutOperator_append {before text : List Char} {entry : String × String}
    (hbefore : ∀ c ∈ before, c ∉ operatorStarts) (hentry : operatorAt? text = some entry) :
    cutOperator (before ++ text) = some (before, entry, text.drop entry.1.length) := by
  induction before with
  | nil =>
    cases text with
    | nil => cases hentry
    | cons c cs => rw [List.nil_append, cutOperator, hentry]
  | cons c before ih =>
    obtain ⟨hc, hrest⟩ := List.forall_mem_cons.1 hbefore
    rw [List.cons_append, cutOperator, operatorAt?_eq_none hc, ih hrest]
    rfl

/-- An operator is found where it stands, unless another sign follows it. -/
theorem operatorAt?_append {entry : String × String} (hentry : entry ∈ compactOperators)
    {rest : List Char} (hrest : ∀ c ∈ rest.head?, c ∉ operatorStarts) :
    operatorAt? (entry.1.toList ++ rest) = some entry := by
  cases rest with
  | nil =>
    have hall : ∀ entry ∈ compactOperators, operatorAt? (entry.1.toList ++ []) = some entry := by
      decide
    exact hall entry hentry
  | cons c rest =>
    have hc : c ∉ operatorStarts := hrest c rfl
    have hequal : '=' ≠ c := by
      rintro rfl
      exact hc (by decide)
    have hgreater : '>' ≠ c := by
      rintro rfl
      exact hc (by decide)
    simp only [compactOperators, List.mem_cons, List.not_mem_nil, or_false] at hentry
    rcases hentry with rfl | rfl | rfl | rfl | rfl | rfl | rfl | rfl | rfl <;>
      simp [operatorAt?, compactOperators, List.isPrefixOf, hequal, hgreater]

/-- Blanks behind an operator and a literal are dropped behind the literal. -/
theorem trimEnd_operator {entry : String × String} (hentry : entry ∈ compactOperators)
    (before literal : List Char) :
    trimEnd (before ++ (entry.1.toList ++ literal)) =
      before ++ (entry.1.toList ++ trimEnd literal) := by
  have hsome : ∀ entry ∈ compactOperators, entry.1.toList ≠ [] := by decide
  have hsigns : ∀ entry ∈ compactOperators, entry.1.toList.all (fun c => !isBlank c) = true := by
    decide
  obtain ⟨front, last, hop⟩ : ∃ front last, entry.1.toList = front ++ [last] :=
    ⟨_, _, (List.dropLast_append_getLast (hsome entry hentry)).symm⟩
  have hblank : isBlank last = false := by
    have hall := hsigns entry hentry
    rw [hop] at hall
    simpa using List.all_eq_true.1 hall last (List.mem_append_right _ List.mem_cons_self)
  rw [hop]
  simpa using trimEnd_append_cons hblank (before ++ front) literal

/-- What may stand in an identifier is neither blank nor the beginning of an operator. -/
theorem free_of_isIdentifierPart {c : Char} (h : isIdentifierPart c = true) :
    isBlank c = false ∧ c ∉ operatorStarts := by
  have hsigns : operatorStarts.all (fun sign => !isIdentifierPart sign) = true := by decide
  constructor
  · rw [Bool.eq_false_iff]
    intro hblank
    rw [isIdentifierPart_of_isBlank hblank] at h
    cases h
  · intro hstart
    have hsign := List.all_eq_true.1 hsigns c hstart
    rw [h] at hsign
    cases hsign

/-- What a name with at most one qualifier holds is neither blank nor the beginning of an
operator. -/
theorem notBlank_of_mem_column {column : String} (h : isQualifiedIdentifier column = true) :
    ∀ c ∈ column.toList, isBlank c = false ∧ c ∉ operatorStarts := by
  intro c hmem
  by_cases hpart : isIdentifierPart c = true
  · exact free_of_isIdentifierPart hpart
  · have hpoint : c = '.' := by
      by_contra hother
      exact notMem_of_nameText (isQualifiedChars_iff.1 h) (Bool.eq_false_iff.2 hpart) hother hmem
    rw [hpoint]
    decide

/-- A name with at most one qualifier has a first character. -/
theorem exists_cons_of_isQualifiedIdentifier {column : String}
    (h : isQualifiedIdentifier column = true) : ∃ c cs, column.toList = c :: cs := by
  cases hchars : column.toList with
  | nil =>
    rw [isQualifiedIdentifier, hchars] at h
    cases h
  | cons c cs => exact ⟨c, cs, rfl⟩

/-- No operator begins with a blank. -/
theorem notMem_operatorStarts_of_isBlank {c : Char} (h : isBlank c = true) :
    c ∉ operatorStarts := by
  have hsigns : operatorStarts.all (fun sign => !isBlank sign) = true := by decide
  intro hstart
  have hsign := List.all_eq_true.1 hsigns c hstart
  rw [h] at hsign
  cases hsign

/-- A blank text holds blanks only. -/
theorem isBlank_of_mem {blanks : String} (h : isBlankText blanks = true) :
    ∀ c ∈ blanks.toList, isBlank c = true :=
  List.all_eq_true.1 h

/-- An expression is read at the operator behind its column, if one is found there. -/
theorem Condition.parse_of_operatorAt? {column : String}
    (hcolumn : isQualifiedIdentifier column = true) {entry : String × String}
    (hentry : entry ∈ compactOperators) {start gap : String} (hstart : isBlankText start = true)
    (hgap : isBlankText gap = true) {rest : String}
    (hfound : operatorAt? (entry.1.toList ++ trimEnd rest.toList) = some entry) :
    Condition.parse (start ++ column ++ gap ++ entry.1 ++ rest) =
      .ok (.withValue column entry.2 (literalSide (trimChars rest.toList))) := by
  have hfree := notBlank_of_mem_column hcolumn
  obtain ⟨c, cs, hchars⟩ := exists_cons_of_isQualifiedIdentifier hcolumn
  have hfirst : isBlank c = false := (hfree c (by rw [hchars]; exact List.mem_cons_self)).1
  have htrimmed : trimChars (start ++ column ++ gap ++ entry.1 ++ rest).toList =
      (column.toList ++ gap.toList) ++ (entry.1.toList ++ trimEnd rest.toList) := by
    simp only [String.toList_append, List.append_assoc]
    rw [trimChars_blanks_append _ (isBlank_of_mem hstart), hchars, List.cons_append,
      trimChars_cons hfirst, ← List.append_assoc, trimEnd_operator hentry]
    simp
  have hbefore : ∀ c ∈ column.toList ++ gap.toList, c ∉ operatorStarts := by
    intro c hmem
    rw [List.mem_append] at hmem
    rcases hmem with hname | hblank
    · exact (hfree c hname).2
    · exact notMem_operatorStarts_of_isBlank (isBlank_of_mem hgap c hblank)
  have hcut : cutOperator ((column.toList ++ gap.toList) ++
      (entry.1.toList ++ trimEnd rest.toList)) =
        some (column.toList ++ gap.toList, entry, trimEnd rest.toList) := by
    rw [cutOperator_append hbefore hfound, ← String.length_toList, List.drop_left]
  have hkept : trimChars (column.toList ++ gap.toList) = column.toList :=
    trimChars_between (List.forall_mem_nil _) (trimmed_of_notBlank fun c hmem => (hfree c hmem).1)
      (isBlank_of_mem hgap)
  have hsome : column.toList.isEmpty = false := by
    rw [hchars]
    rfl
  simp only [Condition.parse, htrimmed, hcut, hkept, hsome, trimChars_trimEnd,
    String.ofList_toList]
  rfl

/-- The literals that stand for null and not null. -/
def markerWords : List String := ["null", "notnull", "not_null"]

/-- An ordinary literal is compared with. -/
theorem literalSide_of_notMem {raw : List Char} (h : String.ofList raw ∉ markerWords) :
    literalSide raw = .value (literalValue raw) := by
  rw [literalSide]
  split
  · next hword => exact absurd (hword ▸ List.mem_cons_self) h
  · next hword => exact absurd (by rw [hword]; decide) h
  · next hword => exact absurd (by rw [hword]; decide) h
  · rfl

/-- The literals of the compact form, with the right-hand sides that they stand for. -/
inductive LiteralText : String → FilterValue → Prop where
  /-- A text between single quotes, whatever it holds. -/
  | text (s : String) : LiteralText ("'" ++ s ++ "'") (.value (.text s))
  /-- An integer in decimal. -/
  | int (n : Int64) : LiteralText (Decimal.intText n.toInt) (.value (.int n))
  /-- A truth value. -/
  | bool (b : Bool) : LiteralText (if b then "true" else "false") (.value (.bool b))
  /-- The word for null. -/
  | null : LiteralText "null" .isNull
  /-- The words for not null. -/
  | notNull {word : String} (hword : word = "notnull" ∨ word = "not_null") :
      LiteralText word .notNull

namespace LiteralText

variable {literal : String} {side : FilterValue}

/-- A literal is a quoted text, or nothing in it is blank or begins an operator. -/
theorem quoted_or_plain (h : LiteralText literal side) :
    (∃ s, literal = "'" ++ s ++ "'") ∨
      ∀ c ∈ literal.toList, isBlank c = false ∧ c ∉ operatorStarts := by
  cases h with
  | text s => exact .inl ⟨s, rfl⟩
  | int n =>
    refine .inr fun c hc => ?_
    rw [Decimal.intText, String.toList_ofList] at hc
    rcases Decimal.of_mem_intChars hc with rfl | hdigit
    · decide
    · have halphanum : c.isAlphanum = true := (Bool.or_eq_true _ _).mpr (.inr hdigit)
      exact free_of_isIdentifierPart ((Bool.or_eq_true _ _).mpr (.inl halphanum))
  | bool b => cases b <;> exact .inr (notBlank_of_mem_column (by decide))
  | null => exact .inr (notBlank_of_mem_column (by decide))
  | notNull hword =>
    rcases hword with rfl | rfl <;> exact .inr (notBlank_of_mem_column (by decide))

/-- A literal neither begins nor ends with a blank. -/
theorem trimmed (h : LiteralText literal side) : Trimmed literal.toList := by
  rcases h.quoted_or_plain with ⟨s, rfl⟩ | hplain
  · have hquote : isBlank '\'' = false := by decide
    have hchars : ("'" ++ s ++ "'").toList = ('\'' :: s.toList) ++ ['\''] := by simp
    rw [hchars]
    constructor
    · rintro c ⟨⟩
      exact hquote
    · rw [List.getLast?_concat]
      rintro c ⟨⟩
      exact hquote
  · exact trimmed_of_notBlank fun c hc => (hplain c hc).1

/-- No operator begins where a literal does. -/
theorem notMem_operatorStarts (h : LiteralText literal side) :
    ∀ c ∈ literal.toList.head?, c ∉ operatorStarts := by
  rcases h.quoted_or_plain with ⟨s, rfl⟩ | hplain
  · have hhead : ("'" ++ s ++ "'").toList.head? = some '\'' := by simp
    rw [hhead]
    rintro c ⟨⟩
    decide
  · exact fun c hc => (hplain c (List.mem_of_head? hc)).2

/-- A quoted text is the text, even if it looks like another literal. -/
theorem literalSide_quoted (s : String) :
    literalSide ("'" ++ s ++ "'").toList = .value (.text s) := by
  have hchars : ("'" ++ s ++ "'").toList = '\'' :: (s.toList ++ ['\'']) := by simp
  have hfree : ∀ word ∈ markerWords, '\'' ∉ word.toList := by decide
  have hordinary : String.ofList ("'" ++ s ++ "'").toList ∉ markerWords := by
    intro hmarker
    refine hfree _ hmarker ?_
    rw [String.toList_ofList, hchars]
    exact List.mem_cons_self
  rw [literalSide_of_notMem hordinary, literalValue, hchars, between?_append]
  simp only [String.ofList_toList]

/-- An integer in decimal is that integer. -/
theorem literalSide_int (n : Int64) :
    literalSide (Decimal.intText n.toInt).toList = .value (.int n) := by
  have hletter : ∀ word ∈ markerWords, 'n' ∈ word.toList := by decide
  have hn : 'n' ∉ Decimal.intChars n.toInt := Decimal.notMem_intChars (by decide) (by decide)
  have hquote : '\'' ∉ Decimal.intChars n.toInt := Decimal.notMem_intChars (by decide) (by decide)
  have hordinary : String.ofList (Decimal.intChars n.toInt) ∉ markerWords := by
    intro hmarker
    have hmem := hletter _ hmarker
    rw [String.toList_ofList] at hmem
    exact hn hmem
  have hunquoted : between? '\'' '\'' (Decimal.intChars n.toInt) = none := by
    rw [Option.eq_none_iff_forall_ne_some]
    intro inner hquoted
    refine hquote ?_
    rw [eq_of_between? hquoted]
    exact List.mem_cons_self
  rw [Decimal.intText, String.toList_ofList, literalSide_of_notMem hordinary, literalValue,
    hunquoted, Decimal.readSigned?_intChars]
  simp

/-- A literal is read as the right-hand side that it stands for. -/
theorem literalSide_eq (h : LiteralText literal side) : literalSide literal.toList = side := by
  cases h with
  | text s => exact literalSide_quoted s
  | int n => exact literalSide_int n
  | bool b => cases b <;> rfl
  | null => rfl
  | notNull hword => rcases hword with rfl | rfl <;> rfl

end LiteralText

/-- Of a column, an operator and a literal, with blanks at will, an expression is read back. -/
theorem Condition.parse_written {column : String} (hcolumn : isQualifiedIdentifier column = true)
    {entry : String × String} (hentry : entry ∈ compactOperators) {literal : String}
    {side : FilterValue} (hliteral : LiteralText literal side) {start left right finish : String}
    (hstart : isBlankText start = true) (hleft : isBlankText left = true)
    (hright : isBlankText right = true) (hfinish : isBlankText finish = true) :
    Condition.parse (start ++ column ++ left ++ entry.1 ++ right ++ literal ++ finish) =
      .ok ⟨.and, column, entry.2, side⟩ := by
  have hbehind : ∀ c ∈ (trimEnd (right ++ literal ++ finish).toList).head?,
      c ∉ operatorStarts := by
    intro c hc
    have hhead : (right ++ literal ++ finish).toList.head? = some c := by
      obtain ⟨blanks, hblanks⟩ := List.rdropWhile_prefix isBlank (right ++ literal ++ finish).toList
      rw [← hblanks, List.head?_append]
      exact Option.or_eq_some_iff.2 (.inl hc)
    simp only [String.toList_append, List.head?_append, Option.or_eq_some_iff] at hhead
    rcases hhead with (hblank | ⟨-, hfirst⟩) | ⟨-, hblank⟩
    · exact notMem_operatorStarts_of_isBlank (isBlank_of_mem hright c (List.mem_of_head? hblank))
    · exact hliteral.notMem_operatorStarts c hfirst
    · exact notMem_operatorStarts_of_isBlank (isBlank_of_mem hfinish c (List.mem_of_head? hblank))
  have hliteralRead : trimChars (right ++ literal ++ finish).toList = literal.toList := by
    rw [String.toList_append, String.toList_append, List.append_assoc]
    exact trimChars_between (isBlank_of_mem hright) hliteral.trimmed (isBlank_of_mem hfinish)
  have hparse := parse_of_operatorAt? hcolumn hentry hstart hleft
    (operatorAt?_append hentry hbehind)
  rw [hliteralRead, hliteral.literalSide_eq] at hparse
  simpa only [String.append_assoc, Condition.withValue] using hparse

/-- A text that holds an operator, a quote and blanks at its ends, behind the longest operator. -/
theorem Condition.parse_written_quoted :
    (isQualifiedIdentifier "org.name" = true ∧ ("!~~", "NOT LIKE") ∈ compactOperators ∧
      LiteralText "' a<=b's '" (.value (.text " a<=b's ")) ∧ isBlankText "\t " = true ∧
      isBlankText "" = true ∧ isBlankText "\u3000" = true ∧ isBlankText "  " = true) ∧
      Condition.parse "\t org.name!~~\u3000' a<=b's '  " =
        .ok ⟨.and, "org.name", "NOT LIKE", .value (.text " a<=b's ")⟩ := by
  have hcolumn : isQualifiedIdentifier "org.name" = true := by decide
  have hentry : ("!~~", "NOT LIKE") ∈ compactOperators := by decide
  have hliteral : LiteralText "' a<=b's '" (.value (.text " a<=b's ")) := .text " a<=b's "
  have hstart : isBlankText "\t " = true := by decide
  have hleft : isBlankText "" = true := by decide
  have hright : isBlankText "\u3000" = true := by decide
  have hfinish : isBlankText "  " = true := by decide
  have hexpression : "\t org.name!~~\u3000' a<=b's '  " =
      "\t " ++ "org.name" ++ "" ++ "!~~" ++ "\u3000" ++ "' a<=b's '" ++ "  " := rfl
  refine ⟨⟨hcolumn, hentry, hliteral, hstart, hleft, hright, hfinish⟩, ?_⟩
  rw [hexpression]
  exact Condition.parse_written hcolumn hentry hliteral hstart hleft hright hfinish

end TableQuery
