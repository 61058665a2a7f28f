import TableQuery.Proofs.Names
import TableQuery.Proofs.Text.Cut
import TableQuery.ResultSet

/-!
# Types of the catalog as they are written

The names of the catalog are written without quotes where they are plain and in quotes otherwise,
and quotes in them are not doubled. With its schema in front a type is a type name exactly if both
names can be written so, and then it stands for that type of that schema. A name alone is a type
name in one more case: it looks like the inside of two names in quotes, and is taken for them.
-/

namespace TableQuery

open TableQuery.Text

/-- A name that can be written as it is: it has characters, and none of them is a quote. -/
def CanBeWritten (name : String) : Prop :=
  name ≠ "" ∧ '"' ∉ name.toList

instance (name : String) : Decidable (CanBeWritten name) :=
  inferInstanceAs (Decidable (_ ∧ _))

/-- A name that needs no quotes: it begins with a small letter or an underscore, and has only these
and digits in it. -/
def NeedsNoQuotes (name : String) : Prop :=
  (∃ c ∈ name.toList.head?, ('a' ≤ c ∧ c ≤ 'z') ∨ c = '_') ∧
    ∀ c ∈ name.toList, ('a' ≤ c ∧ c ≤ 'z') ∨ ('0' ≤ c ∧ c ≤ '9') ∨ c = '_'

/-- The text is a name as casts have it: as it is if it needs no quotes, and otherwise in quotes. -/
def SpellsName (name text : String) : Prop :=
  (NeedsNoQuotes name ∧ text = name) ∨ (¬NeedsNoQuotes name ∧ text = "\"" ++ name ++ "\"")

variable {schema name : String}

/-- Plain names are those that need no quotes. -/
theorem isPlainTypeName_iff : isPlainTypeName name = true ↔ NeedsNoQuotes name := by
  have hstart : ∀ c, isTypeStart c = true ↔ ('a' ≤ c ∧ c ≤ 'z') ∨ c = '_' := by
    intro c
    rw [isTypeStart, Bool.or_eq_true, isLower_iff, decide_eq_true_eq]
  have hpart : ∀ c, isTypePart c = true ↔
      ('a' ≤ c ∧ c ≤ 'z') ∨ ('0' ≤ c ∧ c ≤ '9') ∨ c = '_' := by
    intro c
    rw [isTypePart, Bool.or_eq_true, Bool.or_eq_true, isLower_iff, Char.isDigit_iff_toNat,
      decide_eq_true_eq, or_assoc]
    rfl
  simp only [NeedsNoQuotes, ← hstart, ← hpart]
  rw [isPlainTypeName]
  cases name.toList with
  | nil => simp
  | cons c cs =>
    rw [Bool.and_eq_true, List.all_eq_true, List.forall_mem_cons]
    simp only [List.head?_cons, Option.mem_some_iff, exists_eq_left']
    exact ⟨fun h => ⟨h.1, isTypePart_of_isTypeStart h.1, h.2⟩, fun h => ⟨h.1, h.2.2⟩⟩

/-- What is written for a name spells it. -/
theorem eq_writtenTypeName_iff {text : String} :
    text = writtenTypeName name ↔ SpellsName name text := by
  rw [writtenTypeName, SpellsName, ← isPlainTypeName_iff]
  split
  · next h => simp [h]
  · next h => simp [h]

/-- A plain name begins as one and goes on as one. -/
theorem exists_of_isPlainTypeName (h : isPlainTypeName name = true) :
    ∃ c cs, name.toList = c :: cs ∧ c ≠ '"' ∧ isTypeStart c = true ∧
      ∀ d ∈ c :: cs, isTypePart d = true := by
  rw [isPlainTypeName] at h
  split at h
  · cases h
  · next c cs hname =>
    rw [Bool.and_eq_true, List.all_eq_true] at h
    refine ⟨c, cs, hname, ?_, h.1, List.forall_mem_cons.2 ⟨isTypePart_of_isTypeStart h.1, h.2⟩⟩
    rintro rfl
    exact absurd h.1 (by decide)

/-- A plain name has characters, and no quotes. -/
theorem canBeWritten_of_isPlainTypeName (h : isPlainTypeName name = true) :
    CanBeWritten name := by
  obtain ⟨c, cs, hname, -, -, hall⟩ := exists_of_isPlainTypeName h
  refine ⟨?_, fun hquote => ?_⟩
  · rintro rfl
    cases hname
  · rw [hname] at hquote
    exact absurd (hall _ hquote) (by decide)

/-- A name that is not plain is written in quotes. -/
theorem toList_writtenTypeName (h : isPlainTypeName name = false) :
    (writtenTypeName name).toList = '"' :: (name.toList ++ ['"']) := by
  have hquote : "\"".toList = ['"'] := rfl
  rw [writtenTypeName, h, if_neg (by decide), String.toList_append, String.toList_append, hquote,
    List.singleton_append, List.cons_append]

/-- The characters of a type with its schema. -/
theorem toList_qualifiedName (schema name : String) :
    (writtenTypeName schema ++ "." ++ writtenTypeName name).toList =
      (writtenTypeName schema).toList ++ '.' :: (writtenTypeName name).toList := by
  simp

/-- A name that can be written is a part of a type name. It ends where the text goes on with
something else. -/
theorem afterTypePart?_writtenTypeName (h : CanBeWritten name) {rest : List Char}
    (hrest : ∀ c ∈ rest.head?, isTypePart c = false) :
    afterTypePart? ((writtenTypeName name).toList ++ rest) = some rest := by
  cases hplain : isPlainTypeName name with
  | true =>
    obtain ⟨c, cs, hname, hquote, hstart, hall⟩ := exists_of_isPlainTypeName hplain
    obtain ⟨-, hdrop⟩ := run_append (List.forall_mem_cons.1 hall).2 hrest
    rw [writtenTypeName, if_pos hplain, hname, List.cons_append, afterTypePart?, if_neg hquote,
      if_pos hstart, hdrop]
  | false =>
    rw [toList_writtenTypeName hplain, List.cons_append, List.append_assoc,
      List.singleton_append]
    exact afterTypePart?_quote_iff.2 ⟨name.toList, by simpa using h.1, h.2, rfl⟩

/-- A name is one part of a type name exactly if it can be written. -/
theorem afterTypePart?_writtenTypeName_iff :
    afterTypePart? (writtenTypeName name).toList = some [] ↔ CanBeWritten name := by
  constructor
  · intro h
    cases hplain : isPlainTypeName name with
    | true => exact canBeWritten_of_isPlainTypeName hplain
    | false =>
      rw [toList_writtenTypeName hplain] at h
      obtain ⟨inner, hne, hinner, htext⟩ := afterTypePart?_quote_iff.1 h
      have hname : name.toList = inner := List.append_cancel_right htext
      exact ⟨by simpa [← hname] using hne, hname ▸ hinner⟩
  · intro h
    have hpart := @afterTypePart?_writtenTypeName name h [] nofun
    rwa [List.append_nil] at hpart

/-- A quote in front of a point does not stand inside of one part of a type name. -/
theorem afterTypePart?_quote_point (front : List Char) :
    afterTypePart? (front ++ '"' :: '.' :: (writtenTypeName name).toList) ≠ some [] := by
  intro h
  rcases quotes_of_afterTypePart? h with hnone | ⟨inner, -, hinner, htext⟩
  · exact hnone (by simp)
  cases front with
  | nil =>
    -- the quote opens the part, so the name ends with the quote that closes it
    have hbehind : '.' :: (writtenTypeName name).toList = inner ++ ['"'] :=
      (List.cons.inj htext).2
    cases hplain : isPlainTypeName name with
    | true =>
      have hquote := (canBeWritten_of_isPlainTypeName hplain).2
      rw [writtenTypeName, if_pos hplain] at hbehind
      have hmem : '"' ∈ '.' :: name.toList := by simp [hbehind]
      simp [hquote] at hmem
    | false =>
      rw [toList_writtenTypeName hplain, ← List.cons_append, ← List.cons_append] at hbehind
      refine hinner ?_
      rw [← List.append_cancel_right hbehind]
      simp
  | cons c front =>
    -- the quote would close the part, and the point stands behind it
    have hbehind : front ++ '"' :: '.' :: (writtenTypeName name).toList = inner ++ ['"'] :=
      (List.cons.inj htext).2
    rcases append_cons_eq_append_cons_iff.1 hbehind with
      ⟨-, hnil⟩ | ⟨middle, rfl, -⟩ | ⟨middle, -, hnil⟩
    · cases hnil
    · exact hinner (by simp)
    · simp at hnil

/-- A type with its schema is a type name exactly if both names can be written. -/
theorem isTypeNameChars_qualifiedName_iff :
    isTypeNameChars (writtenTypeName schema ++ "." ++ writtenTypeName name).toList = true ↔
      CanBeWritten schema ∧ CanBeWritten name := by
  have hpoint : ∀ c ∈ ('.' :: (writtenTypeName name).toList).head?, isTypePart c = false := by
    rintro c ⟨⟩
    decide
  rw [toList_qualifiedName]
  constructor
  · intro h
    have hschema : CanBeWritten schema := by
      cases hplain : isPlainTypeName schema with
      | true => exact canBeWritten_of_isPlainTypeName hplain
      | false =>
        rw [toList_writtenTypeName hplain, List.cons_append, List.append_assoc,
          List.singleton_append] at h
        rcases of_isTypeNameChars_quoted h with ⟨hne, hquote⟩ | ⟨-, second, -, -, -, hsecond⟩
        · exact ⟨by simpa using hne, hquote⟩
        · exact absurd hsecond (afterTypePart?_quote_point second)
    refine ⟨hschema, afterTypePart?_writtenTypeName_iff.1 ?_⟩
    rw [isTypeNameChars, afterTypePart?_writtenTypeName hschema hpoint] at h
    simpa using h
  · rintro ⟨hschema, hname⟩
    rw [isTypeNameChars, afterTypePart?_writtenTypeName hschema hpoint]
    simpa using afterTypePart?_writtenTypeName_iff.2 hname

/-- The name of a type looks like the inside of two names in quotes with a point between them. -/
def LooksQualified (name : String) : Prop :=
  ∃ first second, CanBeWritten first ∧ CanBeWritten second ∧ name = first ++ "\".\"" ++ second

/-- The characters of a name that looks like two. -/
theorem toList_writtenTypeName_pair (first second : String) :
    (writtenTypeName (first ++ "\".\"" ++ second)).toList =
      '"' :: (first.toList ++ '"' :: '.' :: '"' :: (second.toList ++ ['"'])) := by
  have hquote : '"' ∈ (first ++ "\".\"" ++ second).toList := by simp
  have hplain : isPlainTypeName (first ++ "\".\"" ++ second) = false := by
    rw [Bool.eq_false_iff]
    exact fun h => (canBeWritten_of_isPlainTypeName h).2 hquote
  rw [toList_writtenTypeName hplain]
  simp

/-- A type without its schema is a type name exactly if its name can be written, or looks like the
names of a schema and a type. -/
theorem isTypeNameChars_writtenTypeName_iff :
    isTypeNameChars (writtenTypeName name).toList = true ↔
      CanBeWritten name ∨ LooksQualified name := by
  constructor
  · intro h
    cases hplain : isPlainTypeName name with
    | true => exact .inl (canBeWritten_of_isPlainTypeName hplain)
    | false =>
      rw [toList_writtenTypeName hplain] at h
      rcases of_isTypeNameChars_quoted h with
        ⟨hne, hquote⟩ | ⟨first, second, hne, hfirst, hname, hsecond⟩
      · exact .inl ⟨by simpa using hne, hquote⟩
      · rcases quotes_of_afterTypePart? hsecond with hnone | ⟨inner, hinner, hquote, htext⟩
        · exact absurd hnone (by simp)
        · rw [← List.cons_append] at htext
          rw [List.append_cancel_right htext] at hname
          exact .inr ⟨String.ofList first, String.ofList inner,
            ⟨by simpa using hne, by simpa using hfirst⟩,
            ⟨by simpa using hinner, by simpa using hquote⟩,
            String.toList_inj.1 (by simp [hname])⟩
  · rintro (h | ⟨first, second, hfirst, hsecond, rfl⟩)
    · exact isTypeNameChars_iff.2 ⟨[], afterTypePart?_writtenTypeName_iff.2 h, .inl rfl⟩
    · rw [toList_writtenTypeName_pair]
      refine isTypeNameChars_iff.2 ⟨_, afterTypePart?_quote_iff.2
        ⟨first.toList, by simpa using hfirst.1, hfirst.2, rfl⟩, .inr ⟨_, rfl, ?_⟩⟩
      exact afterTypePart?_quote_iff.2 ⟨second.toList, by simpa using hsecond.1, hsecond.2, rfl⟩

namespace NamedType

/-- A written name is read back from the beginning of a text. -/
theorem name?_writtenTypeName (h : CanBeWritten name) {rest : List Char}
    (hpart : ∀ c ∈ rest.head?, isIdentifierPart c = false) (hopen : rest.head? ≠ some '"') :
    name? ((writtenTypeName name).toList ++ rest) = some (name.toList, rest) := by
  cases hplain : isPlainTypeName name with
  | true =>
    obtain ⟨c, cs, hname, hquote, hstart, hall⟩ := exists_of_isPlainTypeName hplain
    have hsmall : (c :: cs).map Char.toLower = c :: cs :=
      (List.map_congr_left fun d hd => toLower_of_isTypePart (hall d hd)).trans (List.map_id _)
    obtain ⟨htake, hdrop⟩ := run_append
      (fun d hd => isIdentifierPart_of_isTypePart (hall d hd)) hpart
    rw [List.cons_append] at htake hdrop
    rw [writtenTypeName, if_pos hplain, hname, List.cons_append, name?, if_neg hquote,
      if_pos (isIdentifierStart_of_isTypeStart hstart), htake, hdrop, hsmall]
  | false =>
    rw [toList_writtenTypeName hplain, List.cons_append, List.append_assoc,
      List.singleton_append]
    exact name?_quoted (by simpa using h.1) h.2 hopen

/-- A type without its schema stands for its name. -/
theorem ofText?_writtenTypeName (h : CanBeWritten name) :
    ofText? (writtenTypeName name) = some ⟨none, name⟩ := by
  have hname := @name?_writtenTypeName name h [] nofun nofun
  rw [List.append_nil] at hname
  simp only [ofText?, hname, String.ofList_toList]

/-- A type with its schema stands for the type of this schema. -/
theorem ofText?_qualifiedName (hschema : CanBeWritten schema) (hname : CanBeWritten name) :
    ofText? (writtenTypeName schema ++ "." ++ writtenTypeName name) =
      some ⟨some schema, name⟩ := by
  have hfirst := @name?_writtenTypeName schema hschema ('.' :: (writtenTypeName name).toList)
    (by rintro c ⟨⟩; decide) (by simp)
  have hsecond := @name?_writtenTypeName name hname [] nofun nofun
  rw [List.append_nil] at hsecond
  simp only [ofText?, toList_qualifiedName, hfirst, hsecond, String.ofList_toList]

/-- A name that looks like two is read as a schema and a type. -/
theorem ofText?_pair {first second : String} (hfirst : CanBeWritten first)
    (hsecond : CanBeWritten second) :
    ofText? (writtenTypeName (first ++ "\".\"" ++ second)) = some ⟨some first, second⟩ := by
  have hfront : name? ('"' :: (first.toList ++ '"' :: '.' :: '"' :: (second.toList ++ ['"']))) =
      some (first.toList, '.' :: '"' :: (second.toList ++ ['"'])) :=
    name?_quoted (by simpa using hfirst.1) hfirst.2 (by simp)
  have hbehind : name? ('"' :: (second.toList ++ ['"'])) = some (second.toList, []) :=
    name?_quoted (by simpa using hsecond.1) hsecond.2 (by simp)
  simp only [ofText?, toList_writtenTypeName_pair, hfront, hbehind, String.ofList_toList]

end NamedType

end TableQuery
