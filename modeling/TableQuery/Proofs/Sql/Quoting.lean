import TableQuery.Proofs.Names
import TableQuery.Proofs.Sql.Token

/-!
# Statements outside of their quotes

What is left of a text when the names in double quotes are taken out of it. A text that is read as
tokens leaves no quote open, and outside of its quotes it holds the characters of tokens only, with
the parentheses of its tokens.
-/

namespace TableQuery.Sql

open TableQuery.Text

/-- The text without what stands between double quotes; the quotes themselves stay. `inside` tells
whether a quote is open. A quote that is never closed leaves nothing. -/
def outsideQuotes (inside : Bool) : List Char → Option (List Char)
  | [] => if inside then none else some []
  | c :: cs =>
    if c = '"' then (outsideQuotes (!inside) cs).map fun out => c :: out
    else if inside then outsideQuotes inside cs
    else (outsideQuotes inside cs).map fun out => c :: out

/-- A parenthesis. -/
def isParen (c : Char) : Bool :=
  c = '(' || c = ')'

/-- A character that may stand in a statement outside of quotes: an ASCII letter or digit, a
blank, or one of a few signs. -/
def isPlainChar (c : Char) : Bool :=
  c.isAlphanum ||
    ['_', '.', ',', ' ', '*', '=', '<', '>', '!', '(', ')', '$', ':'].contains c

/-- A character of words may stand in a statement. -/
theorem isPlainChar_of_isWordChar {c : Char} (h : isWordChar c = true) : isPlainChar c = true := by
  simp only [isWordChar, isIdentifierPart, Bool.or_eq_true, decide_eq_true_eq] at h
  rcases h with (((h | rfl) | rfl) | rfl) | rfl
  · rw [isPlainChar, h, Bool.true_or]
  all_goals decide

/-- A comparison sign may stand in a statement. -/
theorem isPlainChar_of_isComparisonChar {c : Char} (h : isComparisonChar c = true) :
    isPlainChar c = true := by
  simp only [isComparisonChar, Bool.or_eq_true, decide_eq_true_eq] at h
  rcases h with ((rfl | rfl) | rfl) | rfl <;> decide

/-- The parentheses that a token is. -/
def Token.parens : Token → List Char
  | .opening => ['(']
  | .closing => [')']
  | _ => []

namespace Lexing

/-- A quote opens or closes a name, and every other character leaves that as it is. -/
theorem isQuoted_step {s next : Lexing} {c : Char} {emitted : List Token}
    (h : s.step c = some (next, emitted)) :
    next.isQuoted = if c = '"' then !s.isQuoted else s.isQuoted := by
  rcases step_cases h with ⟨hextend, -⟩ | ⟨hextend, out, hstart, -⟩
  · rcases extend_cases hextend with ⟨read, rfl, hc, rfl⟩ | ⟨read, rfl, hc, rfl⟩ |
      ⟨read, rfl, hc, rfl⟩ | ⟨read, rfl, rfl, rfl⟩ | ⟨read, rfl, rfl, rfl⟩ | ⟨read, rfl, hc, rfl⟩
    · rw [if_neg (by rintro rfl; cases hc)]; rfl
    · rw [if_neg (by rintro rfl; cases hc)]; rfl
    · rw [if_neg (by rintro rfl; cases hc)]; rfl
    · rfl
    · rfl
    · rw [if_neg hc]; rfl
  · have hc : c ≠ '"' := by rintro rfl; cases hstart
    have hs : s.isQuoted = false := by
      cases s with
      | quoted read => rw [extend, if_neg hc] at hextend; cases hextend
      | _ => rfl
    rw [if_neg hc, hs]
    rcases start_cases hstart with ⟨-, rfl, -⟩ | ⟨-, rfl, -⟩ | ⟨-, rfl, -⟩ | ⟨-, rfl, -⟩ |
      ⟨-, rfl, -⟩ | ⟨-, rfl, -⟩ | ⟨-, rfl, -⟩ <;> rfl

/-- What holds at the end of a run, and is kept by every character in front of it that is outside
of quotes and by every character inside, holds of the whole run outside of its quotes. -/
theorem outside_induction {P : Lexing → List Char → List Token → Prop}
    (stop : ∀ s, s.isQuoted = false → P s [] s.pending)
    (inside : ∀ {read c out tokens}, c ≠ '"' → P (.quoted (c :: read)) out tokens →
      P (.quoted read) out tokens)
    (outside : ∀ {s next : Lexing} {c : Char} {emitted tokens : List Token} {out : List Char},
      s.isQuoted = false ∨ c = '"' → s.step c = some (next, emitted) → P next out tokens →
      P s (c :: out) (emitted ++ tokens))
    {cs : List Char} {s last : Lexing} {emitted : List Token}
    (h : scan step s cs = some (last, emitted)) (hlast : last.isQuoted = false) :
    ∃ out, outsideQuotes s.isQuoted cs = some out ∧ P s out (emitted ++ last.pending) := by
  induction cs generalizing s emitted with
  | nil =>
    cases h
    exact ⟨[], by rw [outsideQuotes, hlast, if_neg (by decide)], stop _ hlast⟩
  | cons c cs ih =>
    cases hs : s.step c with
    | none => simp [scan, hs] at h
    | some r =>
      obtain ⟨next, first⟩ := r
      rw [scan_cons cs hs] at h
      obtain ⟨⟨t, rest⟩, hrest, he⟩ := Option.map_eq_some_iff.1 h
      cases he
      obtain ⟨out, hout, hp⟩ := ih hrest
      rw [isQuoted_step hs] at hout
      rw [List.append_assoc]
      by_cases hc : c = '"'
      · rw [if_pos hc] at hout
        exact ⟨c :: out, by rw [outsideQuotes, if_pos hc, hout]; rfl,
          outside (Or.inr hc) hs hp⟩
      · rw [if_neg hc] at hout
        cases hq : s.isQuoted with
        | false =>
          rw [hq] at hout
          exact ⟨c :: out, by rw [outsideQuotes, if_neg hc, if_neg (by decide), hout]; rfl,
            outside (Or.inl hq) hs hp⟩
        | true =>
          rw [hq] at hout
          refine ⟨out, by rw [outsideQuotes, if_neg hc, if_pos rfl, hout], ?_⟩
          cases s with
          | quoted read =>
            have hstep : step (.quoted read) c = some (.quoted (c :: read), []) := by
              simp only [step, extend, if_neg hc]
            rw [hs] at hstep
            cases hstep
            exact inside hc hp
          | _ => cases hq

/-- Every character that is read outside of quotes may stand in a statement, or is a quote. -/
theorem isPlainChar_of_step {s next : Lexing} {c : Char} {emitted : List Token}
    (hs : s.isQuoted = false ∨ c = '"') (h : s.step c = some (next, emitted)) :
    isPlainChar c = true ∨ c = '"' := by
  rcases step_cases h with ⟨hextend, -⟩ | ⟨-, out, hstart, -⟩
  · rcases extend_cases hextend with ⟨read, rfl, hc, -⟩ | ⟨read, rfl, hc, -⟩ |
      ⟨read, rfl, hc, -⟩ | ⟨read, rfl, hc, -⟩ | ⟨read, rfl, hc, -⟩ | ⟨read, rfl, hc, -⟩
    · exact Or.inl (isPlainChar_of_isWordChar hc)
    · exact Or.inl (isPlainChar_of_isComparisonChar hc)
    · exact Or.inl (isPlainChar_of_isWordChar hc)
    · exact Or.inr hc
    · exact Or.inr hc
    · rcases hs with hs | hs
      · cases hs
      · exact Or.inr hs
  · left
    rcases start_cases hstart with ⟨rfl, -⟩ | ⟨rfl, -⟩ | ⟨rfl, -⟩ | ⟨rfl, -⟩ | ⟨rfl, -⟩ |
      ⟨hc, -⟩ | ⟨hc, -⟩
    · decide
    · decide
    · decide
    · decide
    · decide
    · exact isPlainChar_of_isWordChar hc
    · exact isPlainChar_of_isComparisonChar hc

/-- A token that has begun is no parenthesis. -/
theorem parens_pending (s : Lexing) : s.pending.flatMap Token.parens = [] := by
  cases s <;> rfl

/-- A character that goes on with a token is no parenthesis. -/
theorem isParen_of_extend {s next : Lexing} {c : Char} (hs : s.isQuoted = false ∨ c = '"')
    (h : s.extend c = some next) : isParen c = false := by
  by_contra hparen
  simp only [isParen, Bool.not_eq_false, Bool.or_eq_true, decide_eq_true_eq] at hparen
  have hq : s.isQuoted = false := by
    rcases hs with hs | rfl
    · exact hs
    · rcases hparen with hc | hc <;> cases hc
  have hdelimiter : isDelimiter c = true := by
    rcases hparen with rfl | rfl <;> rfl
  rw [extend_delimiter hdelimiter hq] at h
  cases h

/-- A character outside of quotes is a parenthesis exactly if it is read as one. -/
theorem parens_step {s next : Lexing} {c : Char} {emitted : List Token}
    (hs : s.isQuoted = false ∨ c = '"') (h : s.step c = some (next, emitted)) :
    [c].filter isParen = emitted.flatMap Token.parens := by
  rcases step_cases h with ⟨hextend, rfl⟩ | ⟨-, out, hstart, rfl⟩
  · exact List.filter_eq_nil_iff.2 (by simp [isParen_of_extend hs hextend])
  · rw [List.flatMap_append, parens_pending, List.nil_append]
    have hword : ∀ {d}, isWordChar d = true ∨ isComparisonChar d = true → isParen d = false := by
      intro d hd
      by_contra hparen
      simp only [isParen, Bool.not_eq_false, Bool.or_eq_true, decide_eq_true_eq] at hparen
      rcases hparen with rfl | rfl <;> revert hd <;> decide
    rcases start_cases hstart with ⟨rfl, -, rfl⟩ | ⟨rfl, -, rfl⟩ | ⟨rfl, -, rfl⟩ | ⟨rfl, -, rfl⟩ |
      ⟨rfl, -, rfl⟩ | ⟨hc, -, rfl⟩ | ⟨hc, -, rfl⟩
    · rfl
    · rfl
    · rfl
    · rfl
    · rfl
    · exact List.filter_eq_nil_iff.2 (by simp [hword (Or.inl hc)])
    · exact List.filter_eq_nil_iff.2 (by simp [hword (Or.inr hc)])

end Lexing

/-- A text that is read as tokens leaves no quote open. Outside of its quotes it holds characters
of statements only, and the parentheses of its tokens. -/
theorem outsideQuotes_of_lex {cs : List Char} {tokens : List Token} (h : lex cs = some tokens) :
    ∃ out, outsideQuotes false cs = some out ∧ (∀ c ∈ out, isPlainChar c = true ∨ c = '"') ∧
      out.filter isParen = tokens.flatMap Token.parens := by
  obtain ⟨last, emitted, hscan, hlast, rfl⟩ := scan_of_lex h
  refine Lexing.outside_induction
    (P := fun _ out tokens => (∀ c ∈ out, isPlainChar c = true ∨ c = '"') ∧
      out.filter isParen = tokens.flatMap Token.parens)
    (fun s _ => ⟨List.forall_mem_nil _, (Lexing.parens_pending s).symm⟩) (fun _ hp => hp)
    (fun {s next c emitted tokens out} hs hstep hp => ?_) hscan hlast
  refine ⟨List.forall_mem_cons.2 ⟨Lexing.isPlainChar_of_step hs hstep, hp.1⟩, ?_⟩
  rw [← List.singleton_append, List.filter_append, Lexing.parens_step hs hstep, hp.2,
    List.flatMap_append]

/-- What may stand in a statement outside of quotes is neither a single quote nor a semicolon, it
begins no comment, and it can be printed. -/
theorem harmless_of_isPlainChar {c : Char} (h : isPlainChar c = true ∨ c = '"') :
    c ≠ '\'' ∧ c ≠ ';' ∧ c ≠ '-' ∧ c ≠ '/' ∧ 32 ≤ c.toNat ∧ c.toNat < 127 := by
  have hsigns : ['_', '.', ',', ' ', '*', '=', '<', '>', '!', '(', ')', '$', ':'].all
      (fun d => 32 ≤ d.toNat && d.toNat < 127) = true := by decide
  have hprinted : 32 ≤ c.toNat ∧ c.toNat < 127 := by
    rcases h with h | rfl
    · rw [isPlainChar, Bool.or_eq_true] at h
      rcases h with h | h
      · have hnat := toNat_of_isAlphanum h
        exact ⟨by omega, hnat.2⟩
      · have hsign := List.all_eq_true.1 hsigns c (List.contains_iff_mem.1 h)
        simpa using hsign
    · decide
  refine ⟨?_, ?_, ?_, ?_, hprinted⟩ <;> rintro rfl <;> revert h <;> decide

/-- The characters of a token. -/
def Token.chars : Token → List Char
  | .word cs => cs
  | .comparison cs => cs
  | .bound cs => '$' :: cs
  | .opening => ['(']
  | .closing => [')']
  | .comma => [',']

/-- A token is made of characters of its kind. -/
def Token.InOrder : Token → Prop
  | .word cs => cs.all isWordChar = true
  | .comparison cs => cs.all isComparisonChar = true
  | _ => True

namespace Lexing

/-- One more character of a kind. -/
theorem all_reverse_cons {p : Char → Bool} {read : List Char} {c : Char}
    (h : read.reverse.all p = true) (hc : p c = true) : (c :: read).reverse.all p = true := by
  rw [List.all_reverse] at h ⊢
  rw [List.all_cons, hc, h, Bool.true_and]

/-- Every character keeps the tokens in order: those that are over and the one that has begun. -/
theorem inOrder_step {s next : Lexing} {c : Char} {emitted : List Token}
    (hs : ∀ t ∈ s.pending, t.InOrder) (h : s.step c = some (next, emitted)) :
    (∀ t ∈ emitted, t.InOrder) ∧ ∀ t ∈ next.pending, t.InOrder := by
  rcases step_cases h with ⟨hextend, rfl⟩ | ⟨-, out, hstart, rfl⟩
  · refine ⟨List.forall_mem_nil _, ?_⟩
    rcases extend_cases hextend with ⟨read, rfl, hc, rfl⟩ | ⟨read, rfl, hc, rfl⟩ |
      ⟨read, rfl, -, rfl⟩ | ⟨read, rfl, -, rfl⟩ | ⟨read, rfl, -, rfl⟩ | ⟨read, rfl, -, rfl⟩
    · have hread : read.reverse.all isWordChar = true := hs _ (List.mem_singleton_self _)
      rintro t ht
      rw [List.mem_singleton.1 ht]
      exact all_reverse_cons hread hc
    · have hread : read.reverse.all isComparisonChar = true := hs _ (List.mem_singleton_self _)
      rintro t ht
      rw [List.mem_singleton.1 ht]
      exact all_reverse_cons hread hc
    · simp [pending, Token.InOrder]
    · simp [pending]
    · simp [pending, Token.InOrder]
    · simp [pending]
  · rcases start_cases hstart with ⟨-, rfl, rfl⟩ | ⟨-, rfl, rfl⟩ | ⟨-, rfl, rfl⟩ | ⟨-, rfl, rfl⟩ |
      ⟨-, rfl, rfl⟩ | ⟨hc, rfl, rfl⟩ | ⟨hc, rfl, rfl⟩
    · exact ⟨by simpa using hs, List.forall_mem_nil _⟩
    · exact ⟨List.forall_mem_append.2 ⟨hs, by simp [Token.InOrder]⟩, List.forall_mem_nil _⟩
    · exact ⟨List.forall_mem_append.2 ⟨hs, by simp [Token.InOrder]⟩, List.forall_mem_nil _⟩
    · exact ⟨List.forall_mem_append.2 ⟨hs, by simp [Token.InOrder]⟩, List.forall_mem_nil _⟩
    · exact ⟨by simpa using hs, by simp [pending, Token.InOrder]⟩
    · exact ⟨by simpa using hs, by simp [pending, Token.InOrder, hc]⟩
    · exact ⟨by simpa using hs, by simp [pending, Token.InOrder, hc]⟩

end Lexing

/-- The tokens of a text are made of characters of their kinds. -/
theorem inOrder_of_lex {cs : List Char} {tokens : List Token} (h : lex cs = some tokens) :
    ∀ t ∈ tokens, t.InOrder := by
  obtain ⟨last, emitted, hscan, -, rfl⟩ := scan_of_lex h
  have hnone : ∀ t ∈ ([] : List Token), t.InOrder := List.forall_mem_nil _
  have hrun := scan_induction
    (P := fun s _ emitted => (∀ t ∈ emitted, t.InOrder) ∧ ∀ t ∈ s.pending, t.InOrder)
    ⟨hnone, hnone⟩ (fun hp hstep => ?_) hscan
  · exact List.forall_mem_append.2 hrun
  · obtain ⟨hfound, hpending⟩ := Lexing.inOrder_step hp.2 hstep
    exact ⟨List.forall_mem_append.2 ⟨hp.1, hfound⟩, hpending⟩

/-- Only a placeholder holds a name in double quotes. -/
theorem bound_of_mem_chars {t : Token} (ht : t.InOrder) (h : '"' ∈ t.chars) :
    ∃ cs, t = .bound cs := by
  cases t with
  | bound cs => exact ⟨cs, rfl⟩
  | word cs => exact absurd (List.all_eq_true.1 ht _ h) (by decide)
  | comparison cs => exact absurd (List.all_eq_true.1 ht _ h) (by decide)
  | opening => exact absurd h (by decide)
  | closing => exact absurd h (by decide)
  | comma => exact absurd h (by decide)

end TableQuery.Sql
