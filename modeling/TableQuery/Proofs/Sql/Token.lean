import Mathlib.Data.List.Induction
import TableQuery.Sql

/-!
# Tokens of a statement

The text of a statement is read from left to right as words, comparison signs, placeholders, commas
and parentheses. A name in double quotes may stand only in the cast of a placeholder and is part of
that token, whatever characters it holds. Tokens of two texts that meet at a seam are the tokens of
both.
-/

/-!
## Machines that read a text

A machine reads a text one character after the other. Each character takes it to a next state and
makes it emit something, or the machine refuses it. Reading two texts in a row is reading their
concatenation, and what every step preserves holds at the end of every run.
-/

namespace TableQuery.Text

variable {σ α ε : Type}

/-- Run a machine from a state: the state it ends in and all that it emits, or nothing if it
refuses a character. -/
def scan (step : σ → α → Option (σ × List ε)) : σ → List α → Option (σ × List ε)
  | s, [] => some (s, [])
  | s, c :: cs =>
    match step s c with
    | none => none
    | some (next, emitted) => (scan step next cs).map fun r => (r.1, emitted ++ r.2)

variable {step : σ → α → Option (σ × List ε)}

/-- Reading a first character. -/
theorem scan_cons {s next : σ} {c : α} {emitted : List ε} (cs : List α)
    (h : step s c = some (next, emitted)) :
    scan step s (c :: cs) = (scan step next cs).map fun r => (r.1, emitted ++ r.2) := by
  rw [scan, h]

/-- Two texts are read one after the other, the second from the state in which the first ends. -/
theorem scan_append {s middle last : σ} {xs ys : List α} {first second : List ε}
    (hx : scan step s xs = some (middle, first)) (hy : scan step middle ys = some (last, second)) :
    scan step s (xs ++ ys) = some (last, first ++ second) := by
  induction xs generalizing s first with
  | nil =>
    cases hx
    simpa using hy
  | cons c xs ih =>
    cases hs : step s c with
    | none => simp [scan, hs] at hx
    | some r =>
      obtain ⟨next, emitted⟩ := r
      rw [scan_cons xs hs] at hx
      obtain ⟨⟨t, rest⟩, hrest, he⟩ := Option.map_eq_some_iff.1 hx
      cases he
      rw [List.cons_append, scan_cons _ hs, ih hrest]
      simp

/-- A text that is read in one run is read up to every place in it. -/
theorem scan_of_append {s last : σ} {xs ys : List α} {emitted : List ε}
    (h : scan step s (xs ++ ys) = some (last, emitted)) :
    ∃ middle first second, scan step s xs = some (middle, first) ∧
      scan step middle ys = some (last, second) ∧ emitted = first ++ second := by
  induction xs generalizing s emitted with
  | nil => exact ⟨s, [], emitted, rfl, h, rfl⟩
  | cons c xs ih =>
    cases hs : step s c with
    | none => simp [scan, hs] at h
    | some r =>
      obtain ⟨next, out⟩ := r
      rw [List.cons_append, scan_cons _ hs] at h
      obtain ⟨⟨t, rest⟩, hrest, he⟩ := Option.map_eq_some_iff.1 h
      cases he
      obtain ⟨middle, first, second, hx, hy, hsplit⟩ := ih hrest
      refine ⟨middle, out ++ first, second, ?_, hy, ?_⟩
      · rw [scan_cons _ hs, hx]
        rfl
      · rw [hsplit, List.append_assoc]

/-- Characters that a machine collects, latest first, are all collected and make it emit nothing. -/
theorem scan_collect {collected : List α → σ} {p : α → Prop}
    (hstep : ∀ read c, p c → step (collected read) c = some (collected (c :: read), []))
    (read : List α) {cs : List α} (h : ∀ c ∈ cs, p c) :
    scan step (collected read) cs = some (collected (cs.reverse ++ read), []) := by
  induction cs generalizing read with
  | nil => rfl
  | cons c cs ih =>
    obtain ⟨hc, hrest⟩ := List.forall_mem_cons.1 h
    rw [scan_cons cs (hstep read c hc), ih (c :: read) hrest]
    simp

/-- What holds before a run and is kept by every step holds after the run, about the state, the
text read so far and all that was emitted. -/
theorem scan_induction {P : σ → List α → List ε → Prop} {s : σ} (start : P s [] [])
    (keep : ∀ {t read emitted c next out}, P t read emitted → step t c = some (next, out) →
      P next (read ++ [c]) (emitted ++ out))
    {cs : List α} {last : σ} {emitted : List ε} (h : scan step s cs = some (last, emitted)) :
    P last cs emitted := by
  induction cs using List.reverseRecOn generalizing last emitted with
  | nil =>
    cases h
    exact start
  | append_singleton cs c ih =>
    obtain ⟨middle, first, second, hx, hc, he⟩ := scan_of_append h
    cases hs : step middle c with
    | none => simp [scan, hs] at hc
    | some r =>
      obtain ⟨next, out⟩ := r
      rw [scan_cons _ hs] at hc
      cases hc
      rw [he]
      simpa using keep (ih hx) hs

end TableQuery.Text

/-! ## Tokens -/

namespace TableQuery.Sql

open TableQuery.Text

/-- A token of a statement. -/
inductive Token where
  /-- A keyword, a name with its qualifier, a star or a number. -/
  | word (cs : List Char)
  /-- A run of comparison signs. -/
  | comparison (cs : List Char)
  /-- A placeholder: what follows the dollar sign, with its cast. -/
  | bound (cs : List Char)
  /-- An opening parenthesis. -/
  | opening
  /-- A closing parenthesis. -/
  | closing
  /-- A comma. -/
  | comma
  deriving DecidableEq, Repr

/-- The word that a keyword is. -/
def keyword (s : String) : Token :=
  .word s.toList

/-- A character of words. -/
def isWordChar (c : Char) : Bool :=
  isIdentifierPart c || c = '.' || c = '*' || c = ':'

/-- A comparison sign. -/
def isComparisonChar (c : Char) : Bool :=
  c = '=' || c = '<' || c = '>' || c = '!'

/-- A character that ends every token in front of it and belongs to none that is longer. -/
def isDelimiter (c : Char) : Bool :=
  c = ' ' || c = ',' || c = '(' || c = ')'

/-- A nonempty run of word characters. -/
def isWord (cs : List Char) : Bool :=
  !cs.isEmpty && cs.all isWordChar

/-- Where a reader of tokens stands. A token that has begun is held latest character first. -/
inductive Lexing where
  /-- No token has begun. -/
  | between
  /-- A word has begun. -/
  | word (read : List Char)
  /-- A run of comparison signs has begun. -/
  | comparison (read : List Char)
  /-- A placeholder has begun. -/
  | bound (read : List Char)
  /-- A name in double quotes has begun inside a placeholder. -/
  | quoted (read : List Char)
  deriving DecidableEq, Repr

namespace Lexing

/-- The token that has begun, once it is over. -/
def pending : Lexing → List Token
  | .word read => [.word read.reverse]
  | .comparison read => [.comparison read.reverse]
  | .bound read => [.bound read.reverse]
  | _ => []

/-- A name in double quotes is open. -/
def isQuoted : Lexing → Bool
  | .quoted _ => true
  | _ => false

/-- The token that has begun, with one more character, if that belongs to it. -/
def extend : Lexing → Char → Option Lexing
  | .between, _ => none
  | .word read, c => if isWordChar c then some (.word (c :: read)) else none
  | .comparison read, c => if isComparisonChar c then some (.comparison (c :: read)) else none
  | .bound read, c =>
    if isWordChar c then some (.bound (c :: read))
    else if c = '"' then some (.quoted (c :: read))
    else none
  | .quoted read, c => if c = '"' then some (.bound (c :: read)) else some (.quoted (c :: read))

/-- Begin a token. Characters that no token begins with are refused. -/
def start (c : Char) : Option (Lexing × List Token) :=
  if c = ' ' then some (.between, [])
  else if c = ',' then some (.between, [.comma])
  else if c = '(' then some (.between, [.opening])
  else if c = ')' then some (.between, [.closing])
  else if c = '$' then some (.bound [], [])
  else if isWordChar c then some (.word [c], [])
  else if isComparisonChar c then some (.comparison [c], [])
  else none

/-- Read one character: it extends the token that has begun, or ends it and begins another. -/
def step (s : Lexing) (c : Char) : Option (Lexing × List Token) :=
  match s.extend c with
  | some next => some (next, [])
  | none => (start c).map fun r => (r.1, s.pending ++ r.2)

end Lexing

/-- The tokens of a text. A text with other characters, or with an open quote, has none. -/
def lex (cs : List Char) : Option (List Token) :=
  match scan Lexing.step .between cs with
  | some (s, emitted) => if s.isQuoted then none else some (emitted ++ s.pending)
  | none => none

/-- A text has given tokens. -/
def Lexed (s : String) (tokens : List Token) : Prop :=
  lex s.toList = some tokens

instance (s : String) (tokens : List Token) : Decidable (Lexed s tokens) :=
  inferInstanceAs (Decidable (lex s.toList = some tokens))

namespace Lexing

/-- A delimiter extends no token but an open quote. -/
theorem extend_delimiter {s : Lexing} {c : Char} (hc : isDelimiter c = true)
    (hs : s.isQuoted = false) : s.extend c = none := by
  simp only [isDelimiter, Bool.or_eq_true, decide_eq_true_eq] at hc
  rcases hc with ((rfl | rfl) | rfl) | rfl <;> cases s <;> first | rfl | cases hs

/-- After a delimiter no token has begun. -/
theorem start_delimiter {c : Char} (hc : isDelimiter c = true) :
    ∃ emitted, start c = some (.between, emitted) := by
  simp only [isDelimiter, Bool.or_eq_true, decide_eq_true_eq] at hc
  rcases hc with ((rfl | rfl) | rfl) | rfl <;> exact ⟨_, rfl⟩

/-- A word character begins a word. -/
theorem start_word {c : Char} (hc : isWordChar c = true) : start c = some (.word [c], []) := by
  have hne : ∀ d, isWordChar d = false → c ≠ d := by
    rintro d hd rfl
    rw [hd] at hc
    cases hc
  simp only [start, if_neg (hne ' ' rfl), if_neg (hne ',' rfl), if_neg (hne '(' rfl),
    if_neg (hne ')' rfl), if_neg (hne '$' rfl), if_pos hc]

/-- A character that extends nothing is read as if no token had begun. -/
theorem step_of_extend {s : Lexing} {c : Char} (h : s.extend c = none) :
    s.step c = (start c).map fun r => (r.1, s.pending ++ r.2) := by
  rw [step, h]

/-- What begins a token, and where it leaves the reader. -/
theorem start_cases {c : Char} {next : Lexing} {out : List Token} (h : start c = some (next, out)) :
    (c = ' ' ∧ next = .between ∧ out = []) ∨ (c = ',' ∧ next = .between ∧ out = [.comma]) ∨
    (c = '(' ∧ next = .between ∧ out = [.opening]) ∨
    (c = ')' ∧ next = .between ∧ out = [.closing]) ∨ (c = '$' ∧ next = .bound [] ∧ out = []) ∨
    (isWordChar c = true ∧ next = .word [c] ∧ out = []) ∨
    (isComparisonChar c = true ∧ next = .comparison [c] ∧ out = []) := by
  simp only [start] at h
  repeat' split at h
  all_goals cases h
  all_goals simp_all

/-- What goes on with a token, and where it leaves the reader. -/
theorem extend_cases {s next : Lexing} {c : Char} (h : s.extend c = some next) :
    (∃ read, s = .word read ∧ isWordChar c = true ∧ next = .word (c :: read)) ∨
    (∃ read, s = .comparison read ∧ isComparisonChar c = true ∧ next = .comparison (c :: read)) ∨
    (∃ read, s = .bound read ∧ isWordChar c = true ∧ next = .bound (c :: read)) ∨
    (∃ read, s = .bound read ∧ c = '"' ∧ next = .quoted (c :: read)) ∨
    (∃ read, s = .quoted read ∧ c = '"' ∧ next = .bound (c :: read)) ∨
    ∃ read, s = .quoted read ∧ c ≠ '"' ∧ next = .quoted (c :: read) := by
  cases s <;> simp only [extend] at h <;> repeat' split at h
  all_goals cases h
  all_goals simp_all

/-- A step goes on with the token that has begun, or ends it and begins another. -/
theorem step_cases {s next : Lexing} {c : Char} {emitted : List Token}
    (h : s.step c = some (next, emitted)) :
    (s.extend c = some next ∧ emitted = []) ∨
    (s.extend c = none ∧ ∃ out, start c = some (next, out) ∧ emitted = s.pending ++ out) := by
  rw [step] at h
  split at h
  · next found hextend =>
    cases h
    exact Or.inl ⟨hextend, rfl⟩
  · next hextend =>
    obtain ⟨⟨state, out⟩, hstart, he⟩ := Option.map_eq_some_iff.1 h
    cases he
    exact Or.inr ⟨hextend, out, hstart, rfl⟩

/-- After a delimiter no token has begun, unless a quote is open. -/
theorem between_of_step {s next : Lexing} {c : Char} {emitted : List Token}
    (h : s.step c = some (next, emitted)) (hc : isDelimiter c = true)
    (hnext : next.isQuoted = false) : next = .between := by
  rcases step_cases h with ⟨hextend, -⟩ | ⟨-, out, hstart, -⟩
  · have hquoted : s.isQuoted = true := by
      by_contra hs
      rw [extend_delimiter hc (by simpa using hs)] at hextend
      cases hextend
    cases s with
    | quoted read =>
      have hquote : c ≠ '"' := by rintro rfl; cases hc
      rw [extend, if_neg hquote] at hextend
      cases hextend
      cases hnext
    | _ => cases hquoted
  · obtain ⟨found, hfound⟩ := start_delimiter hc
    rw [hfound] at hstart
    cases hstart
    rfl

/-- Word characters go on with a word. -/
theorem scan_word (read : List Char) {cs : List Char} (h : cs.all isWordChar = true) :
    scan step (.word read) cs = some (.word (cs.reverse ++ read), []) :=
  scan_collect (fun read c hc => by simp only [step, extend, if_pos hc]) read (List.all_eq_true.1 h)

/-- Word characters go on with a placeholder. -/
theorem scan_bound (read : List Char) {cs : List Char} (h : cs.all isWordChar = true) :
    scan step (.bound read) cs = some (.bound (cs.reverse ++ read), []) :=
  scan_collect (fun read c hc => by simp only [step, extend, if_pos hc]) read (List.all_eq_true.1 h)

/-- Everything but a quote goes on with an open quote. -/
theorem scan_quoted (read : List Char) {cs : List Char} (h : ∀ c ∈ cs, c ≠ '"') :
    scan step (.quoted read) cs = some (.quoted (cs.reverse ++ read), []) :=
  scan_collect (fun read c hc => by simp only [step, extend, if_neg hc]) read h

/-- A word is read as the beginning of one token. -/
theorem scan_isWord {cs : List Char} (h : isWord cs = true) :
    scan step .between cs = some (.word cs.reverse, []) := by
  cases cs with
  | nil => cases h
  | cons c cs =>
    simp only [isWord, List.all_cons, Bool.and_eq_true] at h
    have hstep : step .between c = some (.word [c], []) := by
      rw [step_of_extend rfl, start_word h.2.1]
      rfl
    rw [scan_cons cs hstep, scan_word _ h.2.2]
    simp

end Lexing

/-- Two texts meet at a seam if the first character of the second does not go on with the token
that the first one ends with. Then their tokens stay apart. -/
theorem lex_append_of_extend {xs ys : List Char} {s : Lexing} {emitted tokens : List Token}
    (hx : scan Lexing.step .between xs = some (s, emitted)) (hs : s.isQuoted = false)
    (hseam : ∀ c, ys.head? = some c → s.extend c = none) (hy : lex ys = some tokens) :
    lex (xs ++ ys) = some (emitted ++ s.pending ++ tokens) := by
  cases ys with
  | nil =>
    cases hy
    simp [lex, hx, hs, Lexing.pending]
  | cons c cs =>
    have hc : s.extend c = none := hseam c rfl
    cases hstart : Lexing.start c with
    | none => simp [lex, scan, Lexing.step_of_extend (s := .between) rfl, hstart] at hy
    | some r =>
      obtain ⟨next, out⟩ := r
      have hfresh : Lexing.step .between c = some (next, out) := by
        rw [Lexing.step_of_extend rfl, hstart]
        rfl
      have hstep : s.step c = some (next, s.pending ++ out) := by
        rw [Lexing.step_of_extend hc, hstart]
        rfl
      simp only [lex, scan_cons cs hfresh] at hy
      cases hrest : scan Lexing.step next cs with
      | none => simp [hrest] at hy
      | some r =>
        obtain ⟨last, rest⟩ := r
        simp only [hrest, Option.map_some, Option.ite_none_left_eq_some,
          Option.some.injEq] at hy
        have hscan : scan Lexing.step s (c :: cs) = some (last, s.pending ++ out ++ rest) := by
          rw [scan_cons cs hstep, hrest]
          rfl
        simp only [lex, scan_append hx hscan, if_neg hy.1, ← hy.2, List.append_assoc]

/-- The run behind the tokens of a text. -/
theorem scan_of_lex {cs : List Char} {tokens : List Token} (h : lex cs = some tokens) :
    ∃ s emitted, scan Lexing.step .between cs = some (s, emitted) ∧ s.isQuoted = false ∧
      emitted ++ s.pending = tokens := by
  simp only [lex] at h
  split at h
  · next s emitted hscan =>
    split at h
    · cases h
    · next hs =>
      cases h
      exact ⟨s, emitted, hscan, by simpa using hs, rfl⟩
  · cases h

/-- The text is empty or begins with a delimiter. -/
def startsFree (s : String) : Bool :=
  s.toList.head?.all isDelimiter

/-- The text ends with a delimiter. -/
def endsFree (s : String) : Bool :=
  s.toList.getLast?.any isDelimiter

/-- Two texts that may both stand behind every other may do so together. -/
theorem startsFree_append {s t : String} (hs : startsFree s = true) (ht : startsFree t = true) :
    startsFree (s ++ t) = true := by
  simp only [startsFree, String.toList_append] at hs ht ⊢
  cases hcs : s.toList with
  | nil => rwa [List.nil_append]
  | cons c cs => rwa [hcs] at hs

/-- A text behind that ends with a delimiter decides how both end. -/
theorem endsFree_append (s : String) {t : String} (ht : endsFree t = true) :
    endsFree (s ++ t) = true := by
  simp only [endsFree, Option.any_eq_true] at ht ⊢
  obtain ⟨c, hc, hdelimiter⟩ := ht
  exact ⟨c, by simp [List.getLast?_append, hc], hdelimiter⟩

namespace Lexed

variable {s t : String} {first second : List Token}

/-- A text that begins with a delimiter may follow every text. -/
theorem append_of_head (hs : Lexed s first) (ht : Lexed t second) (h : startsFree t = true) :
    Lexed (s ++ t) (first ++ second) := by
  obtain ⟨last, emitted, hscan, hlast, he⟩ := scan_of_lex hs
  rw [Lexed, String.toList_append, ← he]
  refine lex_append_of_extend hscan hlast (fun c hc => ?_) ht
  rw [startsFree, hc] at h
  exact Lexing.extend_delimiter h hlast

/-- Every text may follow one that ends with a delimiter. -/
theorem append_of_getLast (hs : Lexed s first) (ht : Lexed t second) (h : endsFree s = true) :
    Lexed (s ++ t) (first ++ second) := by
  obtain ⟨last, emitted, hscan, hlast, he⟩ := scan_of_lex hs
  rw [endsFree, Option.any_eq_true] at h
  obtain ⟨d, hd, hdelimiter⟩ := h
  obtain ⟨cs, hcs⟩ := List.getLast?_eq_some_iff.1 hd
  rw [hcs] at hscan
  obtain ⟨middle, out, final, -, hstep, -⟩ := scan_of_append hscan
  -- the run ends in the state behind its last character, the delimiter
  have hbetween : last = .between := by
    cases hm : middle.step d with
    | none => simp [scan, hm] at hstep
    | some r =>
      obtain ⟨next, emitted⟩ := r
      rw [scan_cons [] hm] at hstep
      cases hstep
      exact Lexing.between_of_step hm hdelimiter hlast
  rw [← hcs] at hscan
  rw [Lexed, String.toList_append, ← he]
  exact lex_append_of_extend hscan hlast (fun c _ => by rw [hbetween]; rfl) ht

/-- A word by itself. -/
theorem word (h : isWord s.toList = true) : Lexed s [.word s.toList] := by
  simp [Lexed, lex, Lexing.scan_isWord h, Lexing.isQuoted, Lexing.pending]

/-- A word in front of a sign of equality, and a word character behind it. -/
theorem equals (hs : isWord s.toList = true) (ht : Lexed t second)
    (hhead : t.toList.head?.any isWordChar = true) :
    Lexed (s ++ "=" ++ t) (.word s.toList :: .comparison ['='] :: second) := by
  have hsign : scan Lexing.step .between ['='] = some (.comparison ['='], []) := rfl
  have hword : ∀ c, t.toList.head? = some c → (Lexing.comparison ['=']).extend c = none := by
    intro c hc
    rw [hc, Option.any_some] at hhead
    have hno : isComparisonChar c = false := by
      by_contra hyes
      simp only [Bool.not_eq_false, isComparisonChar, Bool.or_eq_true, decide_eq_true_eq] at hyes
      rcases hyes with ((rfl | rfl) | rfl) | rfl <;> exact absurd hhead (by decide)
    rw [Lexing.extend, hno, if_neg (by decide)]
  have hbehind := lex_append_of_extend hsign rfl hword ht
  rw [Lexed, String.toList_append, String.toList_append, List.append_assoc]
  refine lex_append_of_extend (Lexing.scan_isWord hs) rfl (fun c hc => ?_) hbehind |>.trans ?_
  · have he : c = '=' := by simpa using hc.symm
    rw [he]
    rfl
  · simp [Lexing.pending]

end Lexed

/-- A text with given tokens that may stand behind every other text. -/
structure Follows (s : String) (tokens : List Token) : Prop where
  /-- The text has these tokens. -/
  lexed : Lexed s tokens
  /-- It begins with a delimiter, if it is not empty. -/
  free : startsFree s = true

instance (s : String) (tokens : List Token) : Decidable (Follows s tokens) :=
  decidable_of_iff (Lexed s tokens ∧ startsFree s = true)
    ⟨fun h => ⟨h.1, h.2⟩, fun h => ⟨h.lexed, h.free⟩⟩

variable {s t : String} {first second : List Token}

/-- Behind every text. -/
theorem Lexed.append (hs : Lexed s first) (ht : Follows t second) :
    Lexed (s ++ t) (first ++ second) :=
  hs.append_of_head ht.lexed ht.free

namespace Follows

/-- Nothing may stand behind every text. -/
theorem empty : Follows "" [] :=
  ⟨rfl, rfl⟩

/-- One text behind the other. -/
theorem append (hs : Follows s first) (ht : Follows t second) :
    Follows (s ++ t) (first ++ second) :=
  ⟨hs.lexed.append ht, startsFree_append hs.free ht.free⟩

/-- A text that begins and ends with a delimiter makes every text one that may follow. -/
theorem append_of_getLast (hs : Follows s first) (ht : Lexed t second) (h : endsFree s = true) :
    Follows (s ++ t) (first ++ second) := by
  refine ⟨hs.lexed.append_of_getLast ht h, ?_⟩
  have hfree := hs.free
  simp only [startsFree, String.toList_append] at hfree ⊢
  cases hcs : s.toList with
  | nil =>
    rw [endsFree, hcs] at h
    cases h
  | cons c cs => rwa [hcs] at hfree

end Follows

end TableQuery.Sql
