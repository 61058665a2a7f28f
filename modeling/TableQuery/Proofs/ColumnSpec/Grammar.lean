import TableQuery.ColumnSpec.Reader
import TableQuery.Proofs.Names

/-!
# The grammar of column specs

What a column spec is as a text, independently of how it is read: entries with commas between them,
each of them `*`, a name, or a key with an arrow, a table, its key in parentheses and columns in
braces. An entry is printed as the token that it was read from, and read back from its printed form.
-/

namespace TableQuery

open TableQuery.Text

/-- One entry of a column spec. -/
inductive ItemText : List Char → Prop where
  /-- All columns. -/
  | star : ItemText ['*']
  /-- A column. -/
  | column {name : List Char} (hname : NameText name) : ItemText name
  /-- A join: a key, an arrow, a table, its key, and at least one column. -/
  | join {key table toColumn : List Char} {columns : List (List Char)}
      (hkey : isIdentifierChars key = true) (htable : NameText table)
      (hto : isIdentifierChars toColumn = true)
      (hcolumns : ∀ column ∈ columns, isIdentifierChars column = true) (hne : columns ≠ []) :
      ItemText (key ++ '-' :: '>' :: (table ++ '(' :: (toColumn ++ ')' :: '\x7b' ::
        ([','].intercalate columns ++ ['\x7d']))))

/-- A column spec without blanks: at least one entry, commas between neighbours. -/
def SpecText (cs : List Char) : Prop :=
  ∃ entries : List (List Char), entries ≠ [] ∧ (∀ entry ∈ entries, ItemText entry) ∧
    cs = [','].intercalate entries

/-- A join in the notation of column specs. -/
def Join.printed (j : Join) : String :=
  j.fromColumn ++ "->" ++ j.table ++ "(" ++ j.toColumn ++ ")\x7b" ++ Text.join "," j.columns ++
    "\x7d"

/-- An entry in the notation of column specs. -/
def SpecItem.printed : SpecItem → String
  | .column name => name
  | .join j => j.printed

/-- Entries in the notation of column specs. -/
def printedItems (items : List SpecItem) : String :=
  Text.join "," (items.map SpecItem.printed)

/-- The characters of a printed join. -/
theorem Join.toList_printed (j : Join) :
    j.printed.toList = j.fromColumn.toList ++ '-' :: '>' :: (j.table.toList ++ '(' ::
      (j.toColumn.toList ++ ')' :: '\x7b' ::
        ([','].intercalate (j.columns.map String.toList) ++ ['\x7d']))) := by
  simp [printed, Text.join]

/-- The characters of printed entries. -/
theorem toList_printedItems (items : List SpecItem) :
    (printedItems items).toList = [','].intercalate (items.map fun i => i.printed.toList) := by
  simp [printedItems, Text.join, Function.comp_def]

/-- Well-formed entries are printed as the entries of the grammar. -/
theorem itemText_iff {cs : List Char} :
    ItemText cs ↔ ∃ i : SpecItem, i.WellFormed ∧ i.printed.toList = cs := by
  constructor
  · intro h
    cases h with
    | star => exact ⟨.column "*", Or.inl rfl, by decide⟩
    | column hname =>
      refine ⟨.column (String.ofList cs), Or.inr ?_, String.toList_ofList⟩
      rw [isQualifiedIdentifier, String.toList_ofList]
      exact isQualifiedChars_iff.2 hname
    | @join key table toColumn columns hkey htable hto hcolumns hne =>
      refine ⟨.join ⟨String.ofList table, String.ofList key, String.ofList toColumn,
        columns.map String.ofList⟩, ⟨?_, ?_, ?_, ?_, ?_⟩, ?_⟩
      · rw [isQualifiedIdentifier, String.toList_ofList]
        exact isQualifiedChars_iff.2 htable
      · rwa [isIdentifier, String.toList_ofList]
      · rwa [isIdentifier, String.toList_ofList]
      · intro column hmem
        obtain ⟨chars, hchars, rfl⟩ := List.mem_map.1 hmem
        rw [isIdentifier, String.toList_ofList]
        exact hcolumns chars hchars
      · simpa using hne
      · simp [SpecItem.printed, Join.toList_printed, Function.comp_def]
  · rintro ⟨i, hwell, rfl⟩
    cases i with
    | column name =>
      rcases hwell with rfl | hname
      · exact ItemText.star
      · exact ItemText.column (isQualifiedChars_iff.1 hname)
    | join j =>
      rw [SpecItem.printed, Join.toList_printed]
      refine ItemText.join hwell.fromColumn (isQualifiedChars_iff.1 hwell.table) hwell.toColumn
        (fun column hmem => ?_) (by simpa using hwell.columns_ne_nil)
      obtain ⟨name, hname, rfl⟩ := List.mem_map.1 hmem
      exact hwell.columns name hname

/-- Texts of the grammar are printed well-formed entries. -/
theorem specText_iff {cs : List Char} :
    SpecText cs ↔ ∃ items : List SpecItem, items ≠ [] ∧ (∀ i ∈ items, i.WellFormed) ∧
      (printedItems items).toList = cs := by
  constructor
  · rintro ⟨entries, hne, hentries, rfl⟩
    have hitems : ∃ items : List SpecItem, (∀ i ∈ items, i.WellFormed) ∧
        items.map (fun i => i.printed.toList) = entries := by
      clear hne
      induction entries with
      | nil => exact ⟨[], List.forall_mem_nil _, rfl⟩
      | cons entry entries ih =>
        obtain ⟨hentry, hrest⟩ := List.forall_mem_cons.1 hentries
        obtain ⟨i, hi, rfl⟩ := itemText_iff.1 hentry
        obtain ⟨items, hitems, rfl⟩ := ih hrest
        exact ⟨i :: items, List.forall_mem_cons.2 ⟨hi, hitems⟩, rfl⟩
    obtain ⟨items, hwell, rfl⟩ := hitems
    exact ⟨items, by simpa using hne, hwell, toList_printedItems items⟩
  · rintro ⟨items, hne, hwell, rfl⟩
    refine ⟨items.map fun i => i.printed.toList, by simpa using hne, fun entry hmem => ?_,
      toList_printedItems items⟩
    obtain ⟨i, hi, rfl⟩ := List.mem_map.1 hmem
    exact itemText_iff.2 ⟨i, hwell i hi, rfl⟩

namespace ColumnSpec

/-- Every entry is printed as the token that it was read from. -/
theorem printed_of_item {token : List Char} {i : SpecItem} (h : item token = .ok i) :
    i.printed.toList = token := by
  simp only [item] at h
  split at h
  · obtain ⟨rfl, -⟩ := plainItem_ok h
    exact String.toList_ofList
  · next source target hcut =>
    obtain ⟨table, behindTable, toColumn, behindKey, inner, htable, hto, hinner, -, hjoin⟩ :=
      joinItem_ok h
    obtain ⟨rfl, -⟩ := joinOf_ok hjoin
    rw [SpecItem.printed, Join.toList_printed, append_of_cutAt hcut, append_of_cutAt htable,
      append_of_cutAt hto, eq_of_between? hinner]
    simp [Function.comp_def, intercalate_splitAt]

/-- A column is read back. -/
theorem item_column {name : String} (h : (SpecItem.column name).WellFormed) :
    item name.toList = .ok (.column name) := by
  rcases h with rfl | h
  · rfl
  · have hname := isQualifiedChars_iff.1 h
    have hchars : isQualifiedChars name.toList = true := h
    have hopen : name.toList.contains '(' = false := by
      simpa using notMem_of_nameText hname (by decide) (by decide)
    have hbrace : name.toList.contains '\x7b' = false := by
      simpa using notMem_of_nameText hname (by decide) (by decide)
    rw [item, cutAt_eq_none (notMem_of_nameText hname (by decide) (by decide))]
    simp only [plainItem, hopen, hbrace, hchars, Bool.or_self, Bool.false_eq_true, if_false,
      Bool.not_true, Bool.and_false, String.ofList_toList]

/-- The parts of a join are accepted if they are well formed. -/
theorem joinOf_of_wellFormed {j : Join} (h : j.WellFormed) (token : List Char) :
    joinOf token j.fromColumn.toList j.table.toList j.toColumn.toList
      (j.columns.map String.toList) = .ok (.join j) := by
  have htable : isQualifiedChars j.table.toList = true := h.table
  have hto : isIdentifierChars j.toColumn.toList = true := h.toColumn
  have hcolumns : (j.columns.map String.toList).find? (fun c => !isIdentifierChars c) = none := by
    rw [List.find?_eq_none]
    intro column hmem
    obtain ⟨name, hname, rfl⟩ := List.mem_map.1 hmem
    have hident : isIdentifierChars name.toList = true := h.columns name hname
    simp [hident]
  simp [joinOf, htable, hto, hcolumns, Function.comp_def]

/-- A join is read back. -/
theorem item_join {j : Join} (h : j.WellFormed) : item j.printed.toList = .ok (.join j) := by
  have hkey : isIdentifierChars j.fromColumn.toList = true := h.fromColumn
  have hto : isIdentifierChars j.toColumn.toList = true := h.toColumn
  have htable := isQualifiedChars_iff.1 h.table
  have hcolumns : ∀ column ∈ j.columns.map String.toList, isIdentifierChars column = true := by
    intro column hmem
    obtain ⟨name, hname, rfl⟩ := List.mem_map.1 hmem
    exact h.columns name hname
  -- every sign of the notation stands only where the reader looks for it
  have hinner : ∀ c, isIdentifierPart c = false → c ≠ ',' →
      c ∉ [','].intercalate (j.columns.map String.toList) := fun c hc hcomma =>
    notMem_intercalate (by simpa using hcomma) fun column hmem =>
      notMem_of_isIdentifierChars (hcolumns column hmem) hc
  have harrow : contains ['-', '>'] (j.table.toList ++ '(' :: (j.toColumn.toList ++ ')' :: '\x7b' ::
      ([','].intercalate (j.columns.map String.toList) ++ ['\x7d']))) = false := by
    rw [contains, cutAt_eq_none]
    · rfl
    · simp only [List.mem_append, List.mem_cons, List.not_mem_nil, not_or, or_false]
      exact ⟨notMem_of_nameText htable (by decide) (by decide), by decide,
        notMem_of_isIdentifierChars hto (by decide), by decide, by decide,
        hinner '-' (by decide) (by decide), by decide⟩
  have hsplit : splitAt ',' ([','].intercalate (j.columns.map String.toList)) =
      j.columns.map String.toList :=
    splitAt_intercalate (by simpa using h.columns_ne_nil) fun column hmem =>
      notMem_of_isIdentifierChars (hcolumns column hmem) (by decide)
  have hcut : ∀ target, cutAt ['-', '>'] (j.fromColumn.toList ++ '-' :: '>' :: target) =
      some (j.fromColumn.toList, target) := fun target =>
    cutAt_append ['>'] (notMem_of_isIdentifierChars hkey (by decide)) target
  have htableCut : ∀ behind, cutAt ['('] (j.table.toList ++ '(' :: behind) =
      some (j.table.toList, behind) := fun behind =>
    cutAt_append [] (notMem_of_nameText htable (by decide) (by decide)) behind
  have hkeyCut : ∀ behind, cutAt [')'] (j.toColumn.toList ++ ')' :: behind) =
      some (j.toColumn.toList, behind) := fun behind =>
    cutAt_append [] (notMem_of_isIdentifierChars hto (by decide)) behind
  rw [item, Join.toList_printed, hcut]
  simp only [joinItem, harrow, hkey, htableCut, hkeyCut, between?_append, hsplit,
    Bool.false_eq_true, if_false, Bool.not_true]
  exact joinOf_of_wellFormed h _

/-- Every well-formed entry is read back from its printed form. -/
theorem item_printed {i : SpecItem} (h : i.WellFormed) : item i.printed.toList = .ok i := by
  cases i with
  | column name => exact item_column h
  | join j => exact item_join h

end ColumnSpec

end TableQuery
