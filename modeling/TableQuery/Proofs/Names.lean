import Mathlib.Data.List.TakeWhile
import TableQuery.Proofs.Text.Cut
import TableQuery.TableInfo
import TableQuery.Text.Basic

/-!
# Names

What names are as texts, and which characters they cannot hold: they are made of ASCII letters,
digits, underscores and at most one point, so no blank and no sign of a grammar stands in them.
-/

namespace TableQuery

open TableQuery.Text

/-- The small letters are those from `a` to `z`. -/
theorem isLower_iff {c : Char} : c.isLower = true ↔ 'a' ≤ c ∧ c ≤ 'z' :=
  (Bool.and_eq_true _ _).to_iff.trans (and_congr decide_eq_true_iff decide_eq_true_iff)

/-- A small letter is a letter. -/
theorem isAlphanum_of_isLower {c : Char} (h : c.isLower = true) : c.isAlphanum = true := by
  have halpha : c.isAlpha = true := (Bool.or_eq_true _ _).mpr (Or.inr h)
  exact (Bool.or_eq_true _ _).mpr (Or.inl halpha)

/-- An ASCII letter or digit can be printed and is not blank. -/
theorem toNat_of_isAlphanum {c : Char} (h : c.isAlphanum = true) :
    33 ≤ c.toNat ∧ c.toNat < 127 := by
  have hcases : (c.isUpper = true ∨ c.isLower = true) ∨ c.isDigit = true :=
    ((Bool.or_eq_true _ _).mp h).imp_left (Bool.or_eq_true _ _).mp
  rcases hcases with (hupper | hlower) | hdigit
  · have hrange : 65 ≤ c.toNat ∧ c.toNat ≤ 90 := of_decide_eq_true hupper
    omega
  · have hrange : 97 ≤ c.toNat ∧ c.toNat ≤ 122 := isLower_iff.1 hlower
    omega
  · have hrange : 48 ≤ c.toNat ∧ c.toNat ≤ 57 := Char.isDigit_iff_toNat.1 hdigit
    omega

/-- A blank does not stand in an identifier. -/
theorem isIdentifierPart_of_isBlank {c : Char} (h : isBlank c = true) :
    isIdentifierPart c = false := by
  rw [Bool.eq_false_iff]
  intro hpart
  rw [isIdentifierPart, Bool.or_eq_true, decide_eq_true_eq] at hpart
  rcases hpart with hpart | rfl
  · have hnat := toNat_of_isAlphanum hpart
    simp only [isBlank, Bool.or_eq_true, Bool.and_eq_true, decide_eq_true_eq, beq_iff_eq] at h
    omega
  · revert h
    decide

/-- A name with at most one qualifier. -/
inductive NameText : List Char → Prop where
  /-- A name. -/
  | plain {name : List Char} (hname : isIdentifierChars name = true) : NameText name
  /-- A name behind its qualifier. -/
  | qualified {qualifier name : List Char} (hqualifier : isIdentifierChars qualifier = true)
      (hname : isIdentifierChars name = true) : NameText (qualifier ++ '.' :: name)

/-- An identifier holds no other characters than those of identifiers. -/
theorem notMem_of_isIdentifierChars {cs : List Char} (h : isIdentifierChars cs = true) {c : Char}
    (hc : isIdentifierPart c = false) : c ∉ cs := by
  intro hmem
  have hpart := List.all_eq_true.1 (all_isIdentifierPart h) c hmem
  rw [hc] at hpart
  cases hpart

/-- The check for names with at most one qualifier accepts exactly these. -/
theorem isQualifiedChars_iff {cs : List Char} : isQualifiedChars cs = true ↔ NameText cs := by
  constructor
  · intro h
    rw [isQualifiedChars] at h
    split at h
    · exact NameText.plain h
    · next qualifier name hcut =>
      rw [Bool.and_eq_true] at h
      rw [append_of_cutAt hcut, List.append_assoc, List.singleton_append]
      exact NameText.qualified h.1 h.2
  · intro h
    rw [isQualifiedChars]
    cases h with
    | plain hname => rw [cutAt_eq_none (notMem_of_isIdentifierChars hname (by decide)), hname]
    | @qualified qualifier name hqualifier hname =>
      have hcut : cutAt ['.'] (qualifier ++ '.' :: name) = some (qualifier, name) :=
        cutAt_append [] (notMem_of_isIdentifierChars hqualifier (by decide)) name
      rw [hcut]
      exact Bool.and_eq_true_iff.2 ⟨hqualifier, hname⟩

/-- A name with at most one qualifier holds characters of identifiers and points only. -/
theorem notMem_of_nameText {cs : List Char} (h : NameText cs) {c : Char}
    (hc : isIdentifierPart c = false) (hpoint : c ≠ '.') : c ∉ cs := by
  cases h with
  | plain hname => exact notMem_of_isIdentifierChars hname hc
  | qualified hqualifier hname =>
    rw [List.mem_append, List.mem_cons]
    rintro (hmem | rfl | hmem)
    · exact notMem_of_isIdentifierChars hqualifier hc hmem
    · exact hpoint rfl
    · exact notMem_of_isIdentifierChars hname hc hmem

/-!
## Type names

What a type name is as a text, and which type it stands for. A part without quotes is read in small
letters, and a part in quotes as it is, with two quotes for one. A part in front, with a point
behind it, is the schema of the type.
-/

/-- The type that a type name stands for. -/
structure NamedType where
  /-- Its schema, if one is named. -/
  schema : Option String
  /-- Its name. -/
  name : String
  deriving DecidableEq, Repr

namespace NamedType

/-- The rest of a name in quotes, and what follows its closing quote. -/
def quoted? : List Char → Option (List Char × List Char)
  | [] => none
  | '"' :: '"' :: cs => (quoted? cs).map fun (name, rest) => ('"' :: name, rest)
  | '"' :: cs => some ([], cs)
  | c :: cs => (quoted? cs).map fun (name, rest) => (c :: name, rest)

/-- The name at the beginning of a text, and what follows it. It has at least one character. -/
def name? : List Char → Option (List Char × List Char)
  | [] => none
  | c :: cs =>
    if c = '"' then
      match quoted? cs with
      | some ([], _) => none
      | found => found
    else if isIdentifierStart c then
      some (((c :: cs).takeWhile isIdentifierPart).map Char.toLower,
        (c :: cs).dropWhile isIdentifierPart)
    else none

/-- The type that a text stands for, with at most one schema in front. -/
def ofText? (text : String) : Option NamedType :=
  match name? text.toList with
  | some (name, []) => some ⟨none, String.ofList name⟩
  | some (schema, '.' :: behind) =>
    match name? behind with
    | some (name, []) => some ⟨some (String.ofList schema), String.ofList name⟩
    | _ => none
  | _ => none

/-- A name without quotes in it ends at its closing quote. -/
theorem quoted?_append {name rest : List Char} (h : '"' ∉ name) (hrest : rest.head? ≠ some '"') :
    quoted? (name ++ '"' :: rest) = some (name, rest) := by
  induction name with
  | nil =>
    cases rest with
    | nil => rfl
    | cons c rest =>
      have hc : c ≠ '"' := fun he => hrest (congrArg some he)
      rw [List.nil_append, quoted?]
      rintro cs ⟨⟩
      exact hc rfl
  | cons c name ih =>
    rw [List.mem_cons, not_or] at h
    rw [List.cons_append, quoted?, ih h.2]
    · rfl
    · exact fun cs hc _ => h.1 hc.symm
    · exact fun hc => h.1 hc.symm

/-- A name in quotes is read as it is. -/
theorem name?_quoted {name rest : List Char} (hne : name ≠ []) (h : '"' ∉ name)
    (hrest : rest.head? ≠ some '"') :
    name? ('"' :: (name ++ '"' :: rest)) = some (name, rest) := by
  rw [name?, if_pos rfl, quoted?_append h hrest]
  cases name with
  | nil => exact absurd rfl hne
  | cons c name => rfl

end NamedType

/-- A character of plain type names is one of identifiers. -/
theorem isIdentifierPart_of_isTypePart {c : Char} (h : isTypePart c = true) :
    isIdentifierPart c = true := by
  simp only [isTypePart, Bool.or_eq_true, decide_eq_true_eq] at h
  rw [isIdentifierPart, Bool.or_eq_true, decide_eq_true_eq]
  rcases h with (hlower | hdigit) | hunderscore
  · exact Or.inl (isAlphanum_of_isLower hlower)
  · exact Or.inl ((Bool.or_eq_true _ _).mpr (Or.inr hdigit))
  · exact Or.inr hunderscore

/-- A character of plain type names is its own small form. -/
theorem toLower_of_isTypePart {c : Char} (h : isTypePart c = true) : c.toLower = c := by
  refine dif_neg fun hupper => ?_
  have hrange : 65 ≤ c.toNat ∧ c.toNat ≤ 90 := hupper
  simp only [isTypePart, Bool.or_eq_true, decide_eq_true_eq] at h
  rcases h with (hlower | hdigit) | rfl
  · have hsmall : 97 ≤ c.toNat := of_decide_eq_true ((Bool.and_eq_true _ _).mp hlower).1
    omega
  · have hdigits : c.toNat ≤ 57 := (Char.isDigit_iff_toNat.1 hdigit).2
    omega
  · revert hrange
    decide

/-- What may begin a plain type name may stand in it. -/
theorem isTypePart_of_isTypeStart {c : Char} (h : isTypeStart c = true) : isTypePart c = true := by
  simp only [isTypeStart, isTypePart, Bool.or_eq_true] at h ⊢
  exact h.imp Or.inl id

/-- What may begin a plain type name may begin an identifier. -/
theorem isIdentifierStart_of_isTypeStart {c : Char} (h : isTypeStart c = true) :
    isIdentifierStart c = true := by
  rw [isTypeStart, Bool.or_eq_true] at h
  rw [isIdentifierStart, Bool.or_eq_true]
  exact h.imp_left fun hlower => (Bool.or_eq_true _ _).mpr (Or.inr hlower)

/-- A part in quotes has characters in it, and ends at the first quote. -/
theorem afterTypePart?_quote_iff {cs rest : List Char} :
    afterTypePart? ('"' :: cs) = some rest ↔
      ∃ name, name ≠ [] ∧ '"' ∉ name ∧ cs = name ++ '"' :: rest := by
  constructor
  · intro h
    rw [afterTypePart?, if_pos rfl] at h
    split at h
    · next c name d _ htake hdrop =>
      cases h
      have hd : d = '"' := by
        have hstop := List.head?_dropWhile_not (fun c => decide (c ≠ '"')) cs
        rw [hdrop] at hstop
        simpa using hstop
      have hsplit := (List.takeWhile_append_dropWhile (p := fun c => decide (c ≠ '"'))
        (l := cs)).symm
      rw [hdrop, hd] at hsplit
      refine ⟨cs.takeWhile fun c => decide (c ≠ '"'), ?_, fun hmem => ?_, hsplit⟩
      · rw [htake]
        exact List.cons_ne_nil _ _
      · simpa using List.mem_takeWhile_imp hmem
    · cases h
  · rintro ⟨name, hne, hname, rfl⟩
    have hinside : ∀ c ∈ name, decide (c ≠ '"') = true :=
      fun c hc => decide_eq_true fun he => hname (he ▸ hc)
    have hend : ∀ c ∈ ('"' :: rest).head?, decide (c ≠ '"') = false := by simp
    obtain ⟨htake, hdrop⟩ := run_append hinside hend
    rw [afterTypePart?, if_pos rfl, htake, hdrop]
    cases name with
    | nil => exact absurd rfl hne
    | cons c name => rfl

/-- A text that is one part has no quotes, or is in quotes without any other. -/
theorem quotes_of_afterTypePart? {cs : List Char} (h : afterTypePart? cs = some []) :
    '"' ∉ cs ∨ ∃ name, name ≠ [] ∧ '"' ∉ name ∧ cs = '"' :: (name ++ ['"']) := by
  cases cs with
  | nil => cases h
  | cons c cs =>
    by_cases hquote : c = '"'
    · subst hquote
      obtain ⟨name, hne, hname, rfl⟩ := afterTypePart?_quote_iff.1 h
      exact .inr ⟨name, hne, hname, rfl⟩
    · rw [afterTypePart?, if_neg hquote] at h
      split at h
      · have hall : ∀ d ∈ cs, isTypePart d = true :=
          List.dropWhile_eq_nil_iff.1 (Option.some.inj h)
        refine .inl fun hmem => ?_
        rcases List.mem_cons.1 hmem with he | hmem
        · exact hquote he.symm
        · exact absurd (hall '"' hmem) (by decide)
      · cases h

/-- A type name is one part, or two with a point between them. -/
theorem isTypeNameChars_iff {cs : List Char} :
    isTypeNameChars cs = true ↔ ∃ rest, afterTypePart? cs = some rest ∧
      (rest = [] ∨ ∃ behind, rest = '.' :: behind ∧ afterTypePart? behind = some []) := by
  rw [isTypeNameChars]
  constructor
  · intro h
    split at h
    · next hpart => exact ⟨[], hpart, .inl rfl⟩
    · next c behind hpart =>
      rw [Bool.and_eq_true, decide_eq_true_eq, decide_eq_true_eq] at h
      exact ⟨c :: behind, hpart, .inr ⟨behind, by rw [h.1], h.2⟩⟩
    · cases h
  · rintro ⟨rest, hpart, rfl | ⟨behind, rfl, hbehind⟩⟩
    · rw [hpart]
    · simp [hpart, hbehind]

/-- A type name that begins with a text in quotes. The text is its first part, or it holds quotes
itself, and the first of them ends the first part. -/
theorem of_isTypeNameChars_quoted {text behind : List Char}
    (h : isTypeNameChars ('"' :: (text ++ '"' :: behind)) = true) :
    (text ≠ [] ∧ '"' ∉ text) ∨ ∃ first second, first ≠ [] ∧ '"' ∉ first ∧
      text = first ++ '"' :: '.' :: second ∧
        afterTypePart? (second ++ '"' :: behind) = some [] := by
  obtain ⟨rest, hpart, hrest⟩ := isTypeNameChars_iff.1 h
  obtain ⟨first, hne, hfirst, htext⟩ := afterTypePart?_quote_iff.1 hpart
  rcases append_cons_eq_append_cons_iff.1 htext with
    ⟨rfl, -⟩ | ⟨middle, rfl, -⟩ | ⟨middle, rfl, rfl⟩
  · exact .inl ⟨hne, hfirst⟩
  · exact absurd hfirst (by simp)
  · rcases hrest with hnil | ⟨more, hpoint, hmore⟩
    · simp at hnil
    · cases middle with
      | nil => cases hpoint
      | cons c second =>
        obtain ⟨rfl, rfl⟩ := List.cons.inj hpoint
        exact .inr ⟨first, second, hne, hfirst, rfl, hmore⟩

end TableQuery
