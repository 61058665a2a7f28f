import Mathlib.Data.List.TakeWhile
import TableQuery.Proofs.Decimal.Digits
import TableQuery.Proofs.Names
import TableQuery.Proofs.Sql.Token

/-!
# Placeholders in the text of a statement

A placeholder is written as a dollar sign, its number and, behind two colons, the type it is cast
to. Its text is one token, even where the name of the type is quoted and holds blanks, signs or
dollar signs, and the token is read back to the same number and type.
-/

namespace TableQuery.Sql

open TableQuery.Text

/-- A placeholder: the number of the parameter and the type that it is cast to. -/
structure Placeholder where
  /-- The number, counted from 1. -/
  number : Nat
  /-- The type of the cast, if there is one. -/
  cast : Option TypeName
  deriving DecidableEq, Repr

namespace Placeholder

/-- The characters of a cast. -/
def castChars : Option TypeName → List Char
  | none => []
  | some type => ':' :: ':' :: type.text.toList

/-- What follows the dollar sign of a placeholder. -/
def chars (p : Placeholder) : List Char :=
  Decimal.digits p.number ++ castChars p.cast

/-- The token of a placeholder. -/
def token (p : Placeholder) : Token :=
  .bound p.chars

/-- The piece of a statement that a placeholder is. -/
def piece (p : Placeholder) : Piece :=
  .placeholder p.number p.cast

/-- The placeholder that a token is: a number, and nothing or a type name behind two colons. -/
def read? (cs : List Char) : Option Placeholder :=
  if (cs.takeWhile Char.isDigit).isEmpty then none
  else
    let number := Decimal.value (cs.takeWhile Char.isDigit)
    match cs.dropWhile Char.isDigit with
    | [] => some ⟨number, none⟩
    | ':' :: ':' :: type => (TypeName.ofString? (String.ofList type)).map fun t => ⟨number, some t⟩
    | _ => none

/-- The value that is bound to a placeholder. Numbers begin with one. -/
def value? (parameters : List Value) (p : Placeholder) : Option Value :=
  match p.number with
  | 0 => none
  | number + 1 => parameters[number]?

/-- The placeholder with a number has the value at its place. -/
theorem value?_succ (parameters : List Value) (number : Nat) (cast : Option TypeName) :
    (⟨number + 1, cast⟩ : Placeholder).value? parameters = parameters[number]? := rfl

/-- No digit stands at the beginning of a cast. -/
theorem takeWhile_castChars (cast : Option TypeName) :
    (castChars cast).takeWhile Char.isDigit = [] := by
  cases cast <;> rfl

/-- The number of a placeholder is what its digits are. -/
theorem takeWhile_chars (p : Placeholder) :
    p.chars.takeWhile Char.isDigit = Decimal.digits p.number := by
  rw [chars, List.takeWhile_append_of_pos fun c hc => Decimal.isDigit_of_mem_digits hc,
    takeWhile_castChars, List.append_nil]

/-- The cast of a placeholder is what follows its digits. -/
theorem dropWhile_chars (p : Placeholder) :
    p.chars.dropWhile Char.isDigit = castChars p.cast := by
  rw [chars, List.dropWhile_append_of_pos fun c hc => Decimal.isDigit_of_mem_digits hc]
  cases p.cast <;> rfl

/-- A placeholder is read back from its token. -/
theorem read?_chars (p : Placeholder) : read? p.chars = some p := by
  have hne : Decimal.digits p.number ≠ [] := Nat.toDigits_ne_nil
  have hempty : (Decimal.digits p.number).isEmpty = false := by simpa using hne
  obtain ⟨number, cast⟩ := p
  simp only [read?, takeWhile_chars, dropWhile_chars, hempty, Bool.false_eq_true, if_false,
    Decimal.value_digits]
  cases cast with
  | none => rfl
  | some type => simp [castChars, TypeName.ofString?, type.wellFormed]

/-- A character of plain type names is a word character. -/
theorem isWordChar_of_isTypePart {c : Char} (h : isTypePart c = true) : isWordChar c = true := by
  simp [isWordChar, isIdentifierPart_of_isTypePart h]

/-- The text goes on with a placeholder that has begun and leaves no quote open. -/
def Continues (cs : List Char) : Prop :=
  ∀ read, scan Lexing.step (.bound read) cs = some (.bound (cs.reverse ++ read), [])

/-- Word characters go on with a placeholder. -/
theorem continues_of_all {cs : List Char} (h : cs.all isWordChar = true) : Continues cs :=
  fun read => Lexing.scan_bound read h

/-- Two texts that go on with a placeholder do so one after the other. -/
theorem Continues.append {xs ys : List Char} (hx : Continues xs) (hy : Continues ys) :
    Continues (xs ++ ys) := by
  intro read
  rw [scan_append (hx read) (hy _)]
  simp

/-- A name in double quotes goes on with a placeholder. -/
theorem continues_quoted {cs : List Char} (h : ∀ c ∈ cs, c ≠ '"') :
    Continues ('"' :: (cs ++ ['"'])) := by
  intro read
  have hopen : Lexing.step (.bound read) '"' = some (.quoted ('"' :: read), []) := rfl
  have hclose : scan Lexing.step (.quoted (cs.reverse ++ '"' :: read)) ['"'] =
      some (.bound ('"' :: (cs.reverse ++ '"' :: read)), []) := rfl
  rw [scan_cons _ hopen, scan_append (Lexing.scan_quoted _ h) hclose]
  simp

/-- One part of a type name, plain or quoted, goes on with a placeholder. -/
theorem continues_of_afterTypePart? {cs rest : List Char} (h : afterTypePart? cs = some rest) :
    ∃ part, cs = part ++ rest ∧ Continues part := by
  cases cs with
  | nil => cases h
  | cons c cs =>
    by_cases hquote : c = '"'
    · subst hquote
      obtain ⟨name, -, hname, rfl⟩ := afterTypePart?_quote_iff.1 h
      refine ⟨'"' :: (name ++ ['"']), by simp, continues_quoted fun d hd => ?_⟩
      rintro rfl
      exact hname hd
    · rw [afterTypePart?, if_neg hquote] at h
      split at h
      · next hstart =>
        cases h
        refine ⟨c :: cs.takeWhile isTypePart, by simp, continues_of_all ?_⟩
        simp only [List.all_cons, Bool.and_eq_true, List.all_eq_true]
        exact ⟨isWordChar_of_isTypePart (isTypePart_of_isTypeStart hstart), fun d hd =>
          isWordChar_of_isTypePart (List.mem_takeWhile_imp hd)⟩
      · cases h

/-- A type name goes on with a placeholder. -/
theorem continues_typeName (type : TypeName) : Continues type.text.toList := by
  obtain ⟨rest, hpart, hrest⟩ := isTypeNameChars_iff.1 type.wellFormed
  obtain ⟨first, htext, hfirst⟩ := continues_of_afterTypePart? hpart
  rw [htext]
  rcases hrest with rfl | ⟨behind, rfl, hbehind⟩
  · rwa [List.append_nil]
  · obtain ⟨name, rfl, hname⟩ := continues_of_afterTypePart? hbehind
    have hpoint : Continues ['.'] := continues_of_all (by decide)
    rw [List.append_nil]
    exact hfirst.append (hpoint.append hname)

/-- What follows the dollar sign goes on with the placeholder. -/
theorem continues_chars (p : Placeholder) : Continues p.chars := by
  have hdigits : Continues (Decimal.digits p.number) := by
    refine continues_of_all (List.all_eq_true.2 fun c hc => ?_)
    simp [isWordChar, isIdentifierPart, Char.isAlphanum, Decimal.isDigit_of_mem_digits hc]
  refine hdigits.append ?_
  cases p.cast with
  | none => exact continues_of_all rfl
  | some type =>
    have hcolons : Continues [':', ':'] := continues_of_all (by decide)
    exact hcolons.append (continues_typeName type)

/-- The text of a placeholder is one token. -/
theorem lexed (p : Placeholder) : Lexed p.piece.render [p.token] := by
  have htext : p.piece.render.toList = '$' :: p.chars := by
    obtain ⟨number, cast⟩ := p
    cases cast <;> simp [piece, Piece.render, chars, castChars, Decimal.natText]
  have hstart : Lexing.step .between '$' = some (.bound [], []) := rfl
  rw [Lexed, htext, lex, scan_cons _ hstart, continues_chars p]
  simp [Lexing.isQuoted, Lexing.pending, token]

end Placeholder

end TableQuery.Sql
