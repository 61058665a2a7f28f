import TableQuery.ColumnSpec.Basic
import TableQuery.InputError
import TableQuery.TableInfo
import TableQuery.Text.Basic

/-!
# Reading column specs

A spec is cut at the commas outside its groups, and every token is read by itself: `*`, a column
with at most one qualifier, or a join `key->table(key){column,…}`. Blanks anywhere are dropped
before. Positions in errors are counted in UTF-8 bytes.
-/

namespace TableQuery.ColumnSpec

open TableQuery.Text

/-- The bracket that opens the group which a bracket closes. -/
def openingOf (c : Char) : Char :=
  if c = ')' then '(' else '\x7b'

/-- Cut the rest of a spec into tokens. `position` counts the bytes before it, `group` is the
bracket of the open group, and `token` holds the token that has begun, latest character first. -/
def tokensFrom (position : Nat) (group : Option Char) (token : List Char) :
    List Char → Except SpecFault (List (List Char))
  | [] =>
    match group with
    | some bracket => .error (.unclosed bracket)
    | none => .ok [token.reverse]
  | c :: cs =>
    if c = '(' || c = '\x7b' then
      match group with
      | some _ => .error (.nested c position)
      | none => tokensFrom (position + c.utf8Size) (some c) (c :: token) cs
    else if c = ')' || c = '\x7d' then
      if group = some (openingOf c) then tokensFrom (position + c.utf8Size) none (c :: token) cs
      else .error (.unbalanced c position)
    else if c = ',' && group.isNone then do
      let rest ← tokensFrom (position + c.utf8Size) none [] cs
      .ok (token.reverse :: rest)
    else tokensFrom (position + c.utf8Size) group (c :: token) cs

/-- The tokens of a spec. None of them is empty. -/
def tokens (spec : List Char) : Except SpecFault (List (List Char)) := do
  let found ← tokensFrom 0 none [] spec
  if found.any List.isEmpty then .error .emptyColumn else .ok found

/-- Read a token without an arrow. -/
def plainItem (token : List Char) : Except SpecFault SpecItem :=
  if token.contains '(' || token.contains '\x7b' then
    .error (.groupWithoutArrow (String.ofList token))
  else if token != ['*'] && !isQualifiedChars token then
    .error (.invalidColumn (String.ofList token))
  else .ok (.column (String.ofList token))

/-- Check the parts of a join. -/
def joinOf (token source table toColumn : List Char) (columns : List (List Char)) :
    Except SpecFault SpecItem :=
  if !isQualifiedChars table then .error (.invalidJoinTable (String.ofList table))
  else if !isIdentifierChars toColumn then .error (.invalidJoinColumn (String.ofList toColumn))
  else
    match columns.find? fun c => !isIdentifierChars c with
    | some [] => .error (.emptyJoinedColumn (String.ofList token))
    | some bad => .error (.invalidJoinedColumn (String.ofList bad))
    | none =>
      .ok (.join ⟨String.ofList table, String.ofList source, String.ofList toColumn,
        columns.map String.ofList⟩)

/-- Read a token with an arrow, from the key in front of the arrow and the text behind it. -/
def joinItem (token source target : List Char) : Except SpecFault SpecItem :=
  if contains ['-', '>'] target then .error (.secondArrow (String.ofList token))
  else if !isIdentifierChars source then .error (.invalidJoinKey (String.ofList source))
  else
    match cutAt ['('] target with
    | none => .error (.missingKeyGroup (String.ofList token))
    | some (table, behindTable) =>
      match cutAt [')'] behindTable with
      | none => .error (.unclosedKeyGroup (String.ofList token))
      | some (toColumn, behindKey) =>
        match between? '\x7b' '\x7d' behindKey with
        | none => .error (.missingColumnGroup (String.ofList token))
        | some inner => joinOf token source table toColumn (splitAt ',' inner)

/-- Read one token. -/
def item (token : List Char) : Except SpecFault SpecItem :=
  match cutAt ['-', '>'] token with
  | none => plainItem token
  | some (source, target) => joinItem token source target

/-- A token without an arrow is read as it is: it is `*` or a column. -/
theorem plainItem_ok {token : List Char} {i : SpecItem} (h : plainItem token = .ok i) :
    i = .column (String.ofList token) ∧ (token = ['*'] ∨ isQualifiedChars token = true) := by
  simp only [plainItem] at h
  split at h
  · cases h
  · split at h
    · cases h
    · next hcolumn =>
      cases h
      simp only [Bool.and_eq_true, bne_iff_ne, ne_eq, Bool.not_eq_true', not_and,
        Bool.not_eq_false] at hcolumn
      by_cases hstar : token = ['*']
      · exact ⟨rfl, Or.inl hstar⟩
      · exact ⟨rfl, Or.inr (hcolumn hstar)⟩

/-- The parts of a join are read as they are, and all of them but its key are checked. -/
theorem joinOf_ok {token source table toColumn : List Char} {columns : List (List Char)}
    {i : SpecItem} (h : joinOf token source table toColumn columns = .ok i) :
    i = .join ⟨String.ofList table, String.ofList source, String.ofList toColumn,
        columns.map String.ofList⟩ ∧
      isQualifiedChars table = true ∧ isIdentifierChars toColumn = true ∧
      ∀ column ∈ columns, isIdentifierChars column = true := by
  simp only [joinOf] at h
  split at h
  · cases h
  · next htable =>
    split at h
    · cases h
    · next hto =>
      split at h
      · cases h
      · cases h
      · next hnone =>
        cases h
        rw [List.find?_eq_none] at hnone
        exact ⟨rfl, by simpa using htable, by simpa using hto, by simpa using hnone⟩

/-- A token with an arrow is cut at its brackets, and its key is checked. -/
theorem joinItem_ok {token source target : List Char} {i : SpecItem}
    (h : joinItem token source target = .ok i) :
    ∃ table behindTable toColumn behindKey inner,
      cutAt ['('] target = some (table, behindTable) ∧
      cutAt [')'] behindTable = some (toColumn, behindKey) ∧
      between? '\x7b' '\x7d' behindKey = some inner ∧ isIdentifierChars source = true ∧
      joinOf token source table toColumn (splitAt ',' inner) = .ok i := by
  simp only [joinItem] at h
  split at h
  · cases h
  · split at h
    · cases h
    · next hsource =>
      split at h
      · cases h
      · next table behindTable htable =>
        split at h
        · cases h
        · next toColumn behindKey hto =>
          split at h
          · cases h
          · next inner hinner =>
            exact ⟨table, behindTable, toColumn, behindKey, inner, htable, hto, hinner,
              by simpa using hsource, h⟩

/-- What is read from a token is well formed. -/
theorem wellFormed_of_item {token : List Char} {i : SpecItem} (h : item token = .ok i) :
    i.WellFormed := by
  simp only [item] at h
  split at h
  · obtain ⟨rfl, hcolumn⟩ := plainItem_ok h
    rcases hcolumn with rfl | hname
    · exact Or.inl rfl
    · exact Or.inr (by simpa [isQualifiedIdentifier] using hname)
  · obtain ⟨table, -, toColumn, -, inner, -, -, -, hsource, hjoin⟩ := joinItem_ok h
    obtain ⟨rfl, htable, hto, hcolumns⟩ := joinOf_ok hjoin
    refine ⟨by simpa [isQualifiedIdentifier] using htable, by simpa [isIdentifier] using hsource,
      by simpa [isIdentifier] using hto, fun column hmem => ?_,
      by simpa using splitAt_ne_nil ',' inner⟩
    obtain ⟨chars, hchars, rfl⟩ := List.mem_map.1 hmem
    simpa [isIdentifier] using hcolumns chars hchars

/-- What is read from several tokens is well formed. -/
theorem wellFormed_of_mapM_item {found : List (List Char)} {items : List SpecItem}
    (h : found.mapM item = .ok items) : ∀ i ∈ items, i.WellFormed := by
  induction found generalizing items with
  | nil =>
    cases h
    simp
  | cons token found ih =>
    rw [List.mapM_cons] at h
    cases hi : item token with
    | error fault => rw [hi] at h; cases h
    | ok i =>
      cases hrest : found.mapM item with
      | error fault => rw [hi, hrest] at h; cases h
      | ok rest =>
        rw [hi, hrest] at h
        cases h
        exact List.forall_mem_cons.2 ⟨wellFormed_of_item hi, ih hrest⟩

/-- Read a spec without blanks. -/
def ofStripped (spec : List Char) : Except SpecFault ColumnSpec :=
  if spec.isEmpty then .ok empty
  else do
    let found ← tokens spec
    match h : found.mapM item with
    | .ok items => .ok ⟨items, wellFormed_of_mapM_item h⟩
    | .error fault => .error fault

/-- Read a column spec. A spec without anything but blanks is empty. -/
def parse (text : String) : Except InputError ColumnSpec :=
  let spec := strip text
  match ofStripped spec.toList with
  | .ok s => .ok s
  | .error fault => .error (.malformedSpec spec fault)

end TableQuery.ColumnSpec
