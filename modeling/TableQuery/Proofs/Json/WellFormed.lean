import TableQuery.Json.Document
import TableQuery.Proofs.Binary64.Finite
import TableQuery.Proofs.Fields

/-!
# What documents hold

The value of a document is well formed all the way down: an integer fits 64 bits, signed or
unsigned, a double is finite, and an object has every name once.
-/

namespace TableQuery.Json

/-- Integers fit 64 bits, doubles are finite, and objects have every name once. -/
inductive WellFormed : Json → Prop where
  /-- The null value. -/
  | null : WellFormed .null
  /-- A truth value. -/
  | bool (b : Bool) : WellFormed (.bool b)
  /-- An integer of at most 64 bits, signed or unsigned. -/
  | integer {n : ℤ} (hlow : -2 ^ 63 ≤ n) (hhigh : n < 2 ^ 64) : WellFormed (.integer n)
  /-- A finite double. -/
  | float {x : Binary64} (h : x.isFinite = true) : WellFormed (.float x)
  /-- A text. -/
  | string (s : String) : WellFormed (.string s)
  /-- Well-formed values in a row. -/
  | array {items : List Json} (h : ∀ item ∈ items, WellFormed item) : WellFormed (.array items)
  /-- Well-formed values under different names. -/
  | object {fields : List (String × Json)} (hnames : (fields.map Prod.fst).Nodup)
      (h : ∀ field ∈ fields, WellFormed field.2) : WellFormed (.object fields)

/-- Digits are taken only as long as the number fits 64 bits. -/
theorem takeDigits_le {significand : ℕ} (h : significand ≤ maxSignificand) (ds : List Char) :
    (takeDigits significand ds).1 ≤ maxSignificand := by
  induction ds generalizing significand with
  | nil => exact h
  | cons c cs ih =>
    rw [takeDigits]
    split
    · next hnext => exact ih hnext
    · exact h

/-- The value of scaled digits is a finite double. -/
theorem wellFormed_ofParts {negative : Bool} {significand : ℕ} {exponent : ℤ} {j : Json}
    (h : (Binary64.ofParts negative significand exponent).map Json.float = some j) :
    j.gathered.WellFormed := by
  obtain ⟨x, hx, rfl⟩ := Option.map_eq_some_iff.1 h
  exact .float (Binary64.isFinite_ofParts hx)

/-- The value of a number is well formed. -/
theorem NumberLiteral.wellFormed_of_value? {n : NumberLiteral} {j : Json}
    (h : n.value? = some j) : j.gathered.WellFormed := by
  have hwhole : (takeDigits 0 n.whole).1 ≤ maxSignificand := takeDigits_le (Nat.zero_le _) n.whole
  have hmax : maxSignificand < 2 ^ 64 := by decide
  rw [NumberLiteral.value?] at h
  generalize takeDigits 0 n.whole = taken at h hwhole
  obtain ⟨whole, skipped⟩ := taken
  dsimp only at h hwhole
  split at h
  · split at h
    · split at h
      · cases h
        exact .integer (by omega) (by omega)
      · split at h
        · next hword =>
          cases h
          simp only [Bool.and_eq_true, decide_eq_true_eq] at hword
          exact .integer (by omega) (by omega)
        · cases h
          refine .float (Binary64.isFinite_withSign true (Binary64.isFinite_ofInt ?_))
          omega
    · exact wellFormed_ofParts h
  · split at h
    · exact wellFormed_ofParts h
    · split at h
      · split at h
        · cases h
        · cases h
          exact .float (Binary64.isFinite_ofMagnitude _ (by decide))
      · exact wellFormed_ofParts h

mutual

/-- The value of a document is well formed, at any depth. -/
theorem wellFormed_of_contentWithin? {depth : ℕ} : ∀ {d : Document} {j : Json},
    d.contentWithin? depth = some j → j.gathered.WellFormed
  | .null, j, h => by
    cases h
    exact .null
  | .bool b, j, h => by
    cases h
    exact .bool b
  | .number literal, j, h => NumberLiteral.wellFormed_of_value? h
  | .string text, j, h => by
    obtain ⟨s, -, rfl⟩ := Option.map_eq_some_iff.1 h
    exact .string s
  | .array items, j, h => by
    rw [Document.contentWithin?] at h
    split at h
    · cases h
    · obtain ⟨values, hvalues, rfl⟩ := Option.map_eq_some_iff.1 h
      exact .array (wellFormed_of_itemContents? hvalues)
  | .object fields, j, h => by
    rw [Document.contentWithin?] at h
    split at h
    · cases h
    · obtain ⟨values, hvalues, rfl⟩ := Option.map_eq_some_iff.1 h
      refine .object (nodup_gatherFields _) fun field hmem => ?_
      exact wellFormed_of_fieldContents? hvalues field (mem_of_mem_gatherFields field hmem)

/-- The values of documents are well formed. -/
theorem wellFormed_of_itemContents? {depth : ℕ} : ∀ {items : List Document} {values : List Json},
    itemContents? depth items = some values → ∀ item ∈ gatheredItems values, item.WellFormed
  | [], values, h => by
    cases h
    exact List.forall_mem_nil _
  | item :: rest, values, h => by
    rw [itemContents?] at h
    obtain ⟨value, hvalue, h⟩ := Option.bind_eq_some_iff.1 h
    obtain ⟨others, hothers, h⟩ := Option.bind_eq_some_iff.1 h
    cases h
    exact List.forall_mem_cons.2
      ⟨wellFormed_of_contentWithin? hvalue, wellFormed_of_itemContents? hothers⟩

/-- The values of fields are well formed. -/
theorem wellFormed_of_fieldContents? {depth : ℕ} : ∀ {fields : List (Option String × Document)}
    {values : List (String × Json)}, fieldContents? depth fields = some values →
      ∀ field ∈ gatheredFields values, field.2.WellFormed
  | [], values, h => by
    cases h
    exact List.forall_mem_nil _
  | (name, field) :: rest, values, h => by
    rw [fieldContents?] at h
    obtain ⟨key, hkey, h⟩ := Option.bind_eq_some_iff.1 h
    obtain ⟨value, hvalue, h⟩ := Option.bind_eq_some_iff.1 h
    obtain ⟨others, hothers, h⟩ := Option.bind_eq_some_iff.1 h
    cases h
    exact List.forall_mem_cons.2
      ⟨wellFormed_of_contentWithin? hvalue, wellFormed_of_fieldContents? hothers⟩

end

/-- The value that is written in a text is well formed. -/
theorem wellFormed_of_parse? {text : String} {j : Json} (h : parse? text = some j) :
    j.WellFormed := by
  obtain ⟨d, -, hvalue⟩ := Option.bind_eq_some_iff.1 h
  obtain ⟨content, hcontent, rfl⟩ := Option.map_eq_some_iff.1 hvalue
  exact wellFormed_of_contentWithin? hcontent

mutual

/-- A well-formed value has every name once already: gathering its fields leaves it as it is. -/
theorem gathered_of_wellFormed : ∀ {j : Json}, j.WellFormed → j.gathered = j
  | .null, _ => rfl
  | .bool _, _ => rfl
  | .integer _, _ => rfl
  | .float _, _ => rfl
  | .string _, _ => rfl
  | .array _, .array h => congrArg Json.array (gatheredItems_of_wellFormed h)
  | .object fields, .object hnames h => by
    have hvalues : gatheredFields fields = fields := gatheredFields_of_wellFormed h
    rw [gathered, hvalues, gatherFields_of_nodup hnames]

/-- Gathering well-formed items leaves them as they are. -/
theorem gatheredItems_of_wellFormed : ∀ {items : List Json},
    (∀ item ∈ items, item.WellFormed) → gatheredItems items = items
  | [], _ => rfl
  | item :: rest, h => by
    obtain ⟨hitem, hrest⟩ := List.forall_mem_cons.1 h
    rw [gatheredItems, gathered_of_wellFormed hitem, gatheredItems_of_wellFormed hrest]

/-- Gathering well-formed fields leaves their values as they are. -/
theorem gatheredFields_of_wellFormed : ∀ {fields : List (String × Json)},
    (∀ field ∈ fields, field.2.WellFormed) → gatheredFields fields = fields
  | [], _ => rfl
  | (name, value) :: rest, h => by
    obtain ⟨hvalue, hrest⟩ := List.forall_mem_cons.1 h
    rw [gatheredFields, gathered_of_wellFormed hvalue, gatheredFields_of_wellFormed hrest]

end

end TableQuery.Json
