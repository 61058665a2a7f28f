import TableQuery.Proofs.Statement.Casts
import TableQuery.Proofs.Statement.PlaceholderScan

/-!
# Counted placeholders

Placeholders are counted by a look at the finished text: every different number behind a dollar sign
counts. Quotes are not looked at, so a number behind a dollar sign in the name of a quoted type
counts as well. The count is the number of parameters exactly if each such number in the type of a
value that is cast is the number of some placeholder anyway.
-/

namespace TableQuery

open TableQuery.Sql TableQuery.Text

namespace Statement

/-- In front of a character that is no digit all runs are over: those on both sides of it are found
apart. -/
theorem dollarRuns_append {c : Char} (hc : c.isDigit = false) (cs out : List Char) :
    dollarRuns none (cs ++ c :: out) = dollarRuns none cs ++ dollarRuns none (c :: out) := by
  induction cs with
  | nil => rfl
  | cons d cs ih =>
    rw [List.cons_append]
    by_cases hd : d = '$'
    · subst hd
      rw [dollarRuns_dollar, dollarRuns_dollar, ih, takeWhile_isDigit_append_cons hc,
        List.cons_append]
    · rw [dollarRuns_cons hd, dollarRuns_cons hd, ih]

end Statement

namespace Sql

/-- The runs of a placeholder: the digits of its number, and those behind the dollar signs in the
name of its type. -/
def Token.runs (t : Token) : List (List Char) :=
  t.bound?.elim [] fun cs => Statement.dollarRuns none ('$' :: cs)

/-- The runs that are still to be found: a placeholder that has begun goes on. -/
def Lexing.runsBehind : Lexing → List Char → List (List Char)
  | .bound read, out => Statement.dollarRuns none ('$' :: (read.reverse ++ out))
  | .quoted read, out => Statement.dollarRuns none ('$' :: (read.reverse ++ out))
  | _, out => Statement.dollarRuns none out

/-- At the end of a token its runs are complete. -/
theorem Lexing.runsBehind_of_extend {s : Lexing} {c : Char} (h : s.extend c = none)
    (out : List Char) :
    s.runsBehind (c :: out) =
      s.pending.flatMap Token.runs ++ Statement.dollarRuns none (c :: out) := by
  cases s with
  | bound read =>
    rw [runsBehind, ← List.cons_append, Statement.dollarRuns_append (isDigit_of_extend h), pending,
      List.flatMap_singleton]
    rfl
  | quoted read =>
    rw [extend] at h
    split at h <;> cases h
  | _ => rfl

/-- Every character takes the runs along that were found so far. -/
theorem Lexing.runsBehind_step {s next : Lexing} {c : Char} {emitted : List Token}
    (h : s.step c = some (next, emitted)) (out : List Char) :
    s.runsBehind (c :: out) = emitted.flatMap Token.runs ++ next.runsBehind out := by
  rcases step_cases h with ⟨hextend, rfl⟩ | ⟨hextend, found, hstart, rfl⟩
  · rcases extend_cases hextend with ⟨read, rfl, hc, rfl⟩ | ⟨read, rfl, hc, rfl⟩ |
      ⟨read, rfl, -, rfl⟩ | ⟨read, rfl, -, rfl⟩ | ⟨read, rfl, -, rfl⟩ | ⟨read, rfl, -, rfl⟩
    · exact Statement.dollarRuns_cons (by rintro rfl; cases hc) out
    · exact Statement.dollarRuns_cons (by rintro rfl; cases hc) out
    all_goals simp [runsBehind]
  · rw [runsBehind_of_extend hextend, List.flatMap_append, List.append_assoc]
    refine congrArg _ ?_
    rcases start_cases hstart with ⟨rfl, rfl, rfl⟩ | ⟨rfl, rfl, rfl⟩ | ⟨rfl, rfl, rfl⟩ |
      ⟨rfl, rfl, rfl⟩ | ⟨rfl, rfl, rfl⟩ | ⟨hc, rfl, rfl⟩ | ⟨hc, rfl, rfl⟩
    · rfl
    · rfl
    · rfl
    · rfl
    · rfl
    · exact Statement.dollarRuns_cons (by rintro rfl; cases hc) out
    · exact Statement.dollarRuns_cons (by rintro rfl; cases hc) out

/-- The runs of digits behind all dollar signs of a text are those of its placeholders, the quoted
names of their types included. -/
theorem dollarRuns_eq_flatMap_runs {cs : List Char} {tokens : List Token}
    (h : lex cs = some tokens) : Statement.dollarRuns none cs = tokens.flatMap Token.runs := by
  obtain ⟨last, emitted, hscan, hlast, rfl⟩ := scan_of_lex h
  have hrun := scan_induction
    (P := fun s read emitted => ∀ out, Statement.dollarRuns none (read ++ out) =
      emitted.flatMap Token.runs ++ s.runsBehind out)
    (fun out => rfl) (fun {s read emitted c next found} hread hstep out => by
      rw [List.append_assoc, List.singleton_append, hread, Lexing.runsBehind_step hstep,
        List.flatMap_append, List.append_assoc]) hscan
  have hend := hrun []
  rw [List.append_nil] at hend
  rw [hend, List.flatMap_append]
  refine congrArg _ ?_
  cases last with
  | bound read => simp [Lexing.runsBehind, Lexing.pending, Token.runs, Token.bound?]
  | quoted read => cases hlast
  | _ => rfl

/-- Only placeholders have runs. -/
theorem flatMap_runs (tokens : List Token) :
    tokens.flatMap Token.runs = (tokens.filterMap Token.bound?).flatMap fun cs =>
      Statement.dollarRuns none ('$' :: cs) := by
  induction tokens with
  | nil => rfl
  | cons t tokens ih =>
    rw [List.flatMap_cons, ih, Token.runs]
    cases ht : t.bound? with
    | none => rw [List.filterMap_cons_none ht, Option.elim, List.nil_append]
    | some cs => rw [List.filterMap_cons_some ht, List.flatMap_cons, Option.elim]

/-- The runs of digits behind the dollar signs in the name of a type that is cast to. -/
def castRuns (cast : Option TypeName) : List (List Char) :=
  cast.elim [] fun type => Statement.dollarRuns none type.text.toList

/-- The runs of a placeholder are its number and those in the name of its type. -/
theorem Placeholder.dollarRuns_chars (p : Placeholder) :
    Statement.dollarRuns none ('$' :: p.chars) = Decimal.digits p.number :: castRuns p.cast := by
  have hdigits : '$' ∉ Decimal.digits p.number := fun hmem =>
    absurd (Decimal.isDigit_of_mem_digits hmem) (by decide)
  rw [Statement.dollarRuns_dollar, takeWhile_chars, chars, Statement.dollarRuns_of_notMem hdigits]
  cases p.cast with
  | none => rfl
  | some type =>
    have hcolons : '$' ∉ [':', ':'] := by decide
    exact congrArg _ (Statement.dollarRuns_of_notMem hcolons type.text.toList)

end Sql

/-- The numbers of placeholders go on from the first one. -/
theorem map_number_placed (types : ColumnTypes) (number : ℕ) (bound : List BoundValue) :
    (placed types number bound).map Placeholder.number = List.range' number bound.length := by
  induction bound generalizing number with
  | nil => rfl
  | cons b rest ih => rw [placed, List.map_cons, ih, List.length_cons, List.range'_succ]

/-- The casts of placeholders are those of the bound values. -/
theorem map_cast_placed (types : ColumnTypes) (number : ℕ) (bound : List BoundValue) :
    (placed types number bound).map Placeholder.cast = bound.map fun b => b.cast types := by
  induction bound generalizing number with
  | nil => rfl
  | cons b rest ih => rw [placed, List.map_cons, ih, List.map_cons]

/-- The numbers of the first placeholders, as they are written. -/
def placeholderNumbers (count : ℕ) : List (List Char) :=
  (List.range' 1 count).map Decimal.digits

/-- Different placeholders are written differently. -/
theorem nodup_placeholderNumbers (count : ℕ) : (placeholderNumbers count).Nodup := by
  refine List.Nodup.map (fun m n h => ?_) List.nodup_range'
  rw [← Decimal.value_digits m, h, Decimal.value_digits]

namespace Request

/-- The numbers behind dollar signs in the names of the types that bound values are cast to. -/
def typeNumbers (r : Request) : List (List Char) :=
  (r.bound.flatMap fun b => castRuns (b.cast r.types)).filter fun run => !run.isEmpty

variable {r : Request} {s : Statement}

/-- The runs of digits behind the dollar signs of a statement: for every placeholder its number and
the runs in the name of its type. -/
theorem dollarRuns_sql (h : r.statement = .ok s) (hextra : r.AddsNothing) :
    Statement.dollarRuns none s.sql.toList = (placed r.types 1 r.bound).flatMap fun p =>
      Decimal.digits p.number :: castRuns p.cast := by
  rw [dollarRuns_eq_flatMap_runs (means h hextra).lexed, flatMap_runs, Query.filterMap_tokens,
    r.placeholders_query, List.flatMap_map]
  exact congrArg (fun runs => (placed r.types 1 r.bound).flatMap runs)
    (funext Placeholder.dollarRuns_chars)

/-- There is one parameter for each bound value. -/
theorem length_parameters (h : r.statement = .ok s) (hextra : r.AddsNothing) :
    s.parameters.length = r.bound.length := by
  rw [(means h hextra).parameters, ← r.map_value_bound, List.length_map]

/-- The numbers behind dollar signs are those of the placeholders and those in names of types. -/
theorem mem_numbers_iff (h : r.statement = .ok s) (hextra : r.AddsNothing) {run : List Char} :
    run ∈ (Statement.dollarRuns none s.sql.toList).filter (fun run => !run.isEmpty) ↔
      run ∈ placeholderNumbers s.parameters.length ∨ run ∈ r.typeNumbers := by
  have hnumbers : (∃ p ∈ placed r.types 1 r.bound, run = Decimal.digits p.number) ↔
      run ∈ placeholderNumbers r.bound.length := by
    rw [placeholderNumbers, ← map_number_placed r.types 1 r.bound, List.map_map, List.mem_map]
    simp only [Function.comp_apply, eq_comm]
  have hcasts : (∃ p ∈ placed r.types 1 r.bound, run ∈ castRuns p.cast) ↔
      ∃ b ∈ r.bound, run ∈ castRuns (b.cast r.types) := by
    have hmem := congrArg (fun casts => ∃ cast ∈ casts, run ∈ castRuns cast)
      (map_cast_placed r.types 1 r.bound)
    simpa using hmem
  have hnonempty : run ∈ placeholderNumbers r.bound.length → run.isEmpty = false := by
    intro hmem
    obtain ⟨n, -, rfl⟩ := List.mem_map.1 hmem
    have hne : Decimal.digits n ≠ [] := Nat.toDigits_ne_nil
    simpa using hne
  rw [dollarRuns_sql h hextra, List.mem_filter, List.mem_flatMap, length_parameters h hextra,
    typeNumbers, List.mem_filter, List.mem_flatMap, ← hcasts]
  simp only [List.mem_cons, and_or_left, exists_or, hnumbers, or_and_right]
  refine or_congr ⟨And.left, fun hmem => ⟨hmem, ?_⟩⟩ Iff.rfl
  rw [hnonempty hmem]
  rfl

/-- The count of placeholders is the number of parameters and, beside them, that of the different
numbers in names of types that are numbers of no placeholder. -/
theorem placeholderCount_eq (h : r.statement = .ok s) (hextra : r.AddsNothing) :
    s.placeholderCount = s.parameters.length +
      (r.typeNumbers.filter fun run =>
        run ∉ placeholderNumbers s.parameters.length).eraseDups.length := by
  have hnodup : (placeholderNumbers s.parameters.length ++
      (r.typeNumbers.filter fun run =>
        run ∉ placeholderNumbers s.parameters.length).eraseDups).Nodup := by
    refine (nodup_placeholderNumbers _).append (nodup_eraseDups _) fun run hnumber hstray => ?_
    rw [List.mem_eraseDups, List.mem_filter, decide_eq_true_eq] at hstray
    exact hstray.2 hnumber
  have hperm := (List.perm_ext_iff_of_nodup (nodup_eraseDups _) hnodup).2 fun run => by
    rw [List.mem_eraseDups, mem_numbers_iff h hextra, List.mem_append, List.mem_eraseDups,
      List.mem_filter, decide_eq_true_eq]
    tauto
  rw [Statement.placeholderCount_eq_runs, hperm.length_eq, List.length_append, placeholderNumbers,
    List.length_map, List.length_range']

/-- What stands behind a dollar sign in the name of a type that some value is cast to. -/
theorem mem_typeNumbers_iff {run : List Char} :
    run ∈ r.typeNumbers ↔ run ≠ [] ∧ ∃ b ∈ r.bound, ∃ t, b.cast r.types = some t ∧
      ∃ front behind, t.text.toList = front ++ '$' :: behind ∧
        behind.takeWhile Char.isDigit = run := by
  have hcast (b : BoundValue) : run ∈ castRuns (b.cast r.types) ↔ ∃ t, b.cast r.types = some t ∧
      run ∈ Statement.dollarRuns none t.text.toList := by
    rw [castRuns]
    cases b.cast r.types <;> simp
  simp only [typeNumbers, List.mem_filter, List.mem_flatMap, hcast, Statement.mem_dollarRuns_iff,
    Bool.not_eq_true', List.isEmpty_eq_false_iff]
  exact and_comm

/-- Placeholders are counted with the numbers that stand behind dollar signs in the names of quoted
types. The count is the number of parameters and, beside them, of the different such numbers that
are numbers of no placeholder. So it is the number of parameters exactly if every number behind a
dollar sign in the name of a type that some value is cast to is between 1 and that number, written
without zeros in front; this is so for types whose names hold no dollar sign. -/
theorem placeholders_counted (h : r.statement = .ok s) (hextra : r.AddsNothing) :
    s.placeholderCount = s.parameters.length +
      (r.typeNumbers.filter fun run =>
        run ∉ placeholderNumbers s.parameters.length).eraseDups.length ∧
    (s.placeholderCount = s.parameters.length ↔
      ∀ b ∈ r.bound, ∀ t, b.cast r.types = some t → ∀ front behind,
        t.text.toList = front ++ '$' :: behind → behind.takeWhile Char.isDigit ≠ [] →
          ∃ n, 1 ≤ n ∧ n ≤ s.parameters.length ∧
            behind.takeWhile Char.isDigit = Decimal.digits n) ∧
    ((∀ entry ∈ r.types.entries, '$' ∉ entry.2.text.toList) →
      s.placeholderCount = s.parameters.length) := by
  have hcount := placeholderCount_eq h hextra
  have hiff : s.placeholderCount = s.parameters.length ↔
      ∀ run ∈ r.typeNumbers, run ∈ placeholderNumbers s.parameters.length := by
    rw [hcount, Nat.add_eq_left, List.length_eq_zero_iff, List.eq_nil_iff_forall_not_mem]
    simp only [List.mem_eraseDups, List.mem_filter, decide_eq_true_eq, not_and, not_not]
  have hnumber (run : List Char) : run ∈ placeholderNumbers s.parameters.length ↔
      ∃ n, 1 ≤ n ∧ n ≤ s.parameters.length ∧ run = Decimal.digits n := by
    rw [placeholderNumbers, List.mem_map]
    constructor
    · rintro ⟨n, hn, rfl⟩
      rw [List.mem_range'_1] at hn
      exact ⟨n, hn.1, by omega, rfl⟩
    · rintro ⟨n, hlow, hhigh, rfl⟩
      exact ⟨n, List.mem_range'_1.2 (by omega), rfl⟩
  refine ⟨hcount, ?_, fun hplain => hiff.2 fun run hrun => ?_⟩
  · rw [hiff]
    constructor
    · intro hall b hb t ht front behind htext hne
      exact (hnumber _).1 (hall _ (mem_typeNumbers_iff.2 ⟨hne, b, hb, t, ht, front, behind, htext,
        rfl⟩))
    · intro hall run hrun
      obtain ⟨hne, b, hb, t, ht, front, behind, htext, rfl⟩ := mem_typeNumbers_iff.1 hrun
      exact (hnumber _).2 (hall b hb t ht front behind htext hne)
  · obtain ⟨-, b, -, t, ht, front, behind, htext, -⟩ := mem_typeNumbers_iff.1 hrun
    have hentry : (b.column, t) ∈ r.types.entries :=
      mem_of_getField? ((b.cast_eq_some_iff r.types t).1 ht).1
    refine absurd ?_ (hplain _ hentry)
    rw [htext]
    exact List.mem_append_right _ List.mem_cons_self

/-- A type whose name holds the number of a placeholder in use changes nothing in the count. -/
theorem placeholders_counted_update :
    ∃ s, statement (.update "users" ⟨[("name", .text "Ann")]⟩
        { filter := ⟨[.equal "age" (.int 3)]⟩ }
        { columnTypes := ColumnTypes.ofList [("name", "\"t$2\""), ("age", "int4")] }) = .ok s ∧
      s.sql = "UPDATE users SET name=COALESCE($1::\"t$2\", name) " ++
        "WHERE age = $2::int4 RETURNING id" ∧
      s.placeholderCount = 2 := by
  obtain ⟨hcount, -⟩ := placeholders_counted (r := .update "users" ⟨[("name", .text "Ann")]⟩
    { filter := ⟨[.equal "age" (.int 3)]⟩ }
    { columnTypes := ColumnTypes.ofList [("name", "\"t$2\""), ("age", "int4")] }) rfl trivial
  refine ⟨_, rfl, by decide +kernel, hcount.trans ?_⟩
  decide +kernel

/-- One parameter is bound, and two placeholders are counted: the second one is a part of the name
of the type. -/
theorem placeholder_in_type_name :
    ∃ s, statement (.insert "t" ⟨[("id", .text "x")]⟩ none
        (ColumnTypes.ofList [("id", "\"$9\"")])) = .ok s ∧
      s.sql = "INSERT INTO t(id) VALUES($1::\"$9\") RETURNING id" ∧
      s.parameters = [.text "x"] ∧ s.placeholderCount = 2 :=
  ⟨_, rfl, by decide +kernel, rfl, by decide +kernel⟩

end Request

end TableQuery
