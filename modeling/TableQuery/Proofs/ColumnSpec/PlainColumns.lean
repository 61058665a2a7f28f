import Mathlib.Logic.Relation
import TableQuery.Proofs.ColumnSpec.Entries

/-!
# Column specs without some of their columns

A column is deleted from the text of a spec together with a comma beside it. The text that is left
is read as the other entries, so joins do not notice which columns stand beside them: they stay the
same, in the same order, and select the same.
-/

namespace TableQuery

open TableQuery.Text

/-- The second text is the first one without a column and without one of the commas beside it. The
blanks around the name may be deleted too. -/
inductive DeletesColumn (name : String) : String → String → Prop where
  /-- The comma behind the column is deleted. -/
  | withNext {front column : String} (back : String) (hname : (SpecItem.column name).WellFormed)
      (hcolumn : strip column = name)
      (hfront : strip front = "" ∨
        GroupsClosed front.toList ∧ ∃ entries, strip front = entries ++ ",") :
      DeletesColumn name (front ++ column ++ "," ++ back) (front ++ back)
  /-- The comma in front of the column is deleted. -/
  | withPrevious {front column back : String} (hname : (SpecItem.column name).WellFormed)
      (hcolumn : strip column = name) (hfront : GroupsClosed front.toList)
      (hback : strip back = "" ∨ ∃ entries, strip back = "," ++ entries) :
      DeletesColumn name (front ++ "," ++ column ++ back) (front ++ back)

/-- Some column is deleted. -/
def Deletes (s t : String) : Prop :=
  ∃ name, DeletesColumn name s t

/-- `rest` is the spec without one column between its other entries, and nothing else is lost: it
has the same joins and join clauses, and its select list lacks only the text of the column, which is
none if the column is the key of a join. -/
structure ColumnSpec.Loses (spec : ColumnSpec) (before : List SpecItem) (name : String)
    (after : List SpecItem) (rest : ColumnSpec) : Prop where
  /-- The spec has the column. -/
  items : spec.items = before ++ .column name :: after
  /-- The other entries are left. -/
  items_rest : rest.items = before ++ after
  /-- The joins are the same. -/
  joins : rest.joins = spec.joins
  /-- The join clauses are the same. -/
  joinClauses (table : String) : rest.joinClauses table = spec.joinClauses table
  /-- The key of a join selects nothing itself. -/
  selectList_key (hkey : ∃ j ∈ spec.joins, j.fromColumn = name) (table : String) :
    rest.selectList table = spec.selectList table
  /-- Any other column selects one text. -/
  selectList_plain (hplain : ∀ j ∈ spec.joins, j.fromColumn ≠ name) (table : String) :
    spec.selectList table = Text.join ", "
        (before.flatMap (ColumnSpec.itemSelection spec.joins table) ++
          (if '.' ∈ name.toList then name else table ++ "." ++ name) ::
            after.flatMap (ColumnSpec.itemSelection spec.joins table)) ∧
      rest.selectList table = Text.join ", "
        (before.flatMap (ColumnSpec.itemSelection spec.joins table) ++
          after.flatMap (ColumnSpec.itemSelection spec.joins table))

section Strip

/-- Blanks are dropped from the parts of a text. -/
theorem toList_strip_append (s t : String) :
    (strip (s ++ t)).toList = (strip s).toList ++ (strip t).toList := by
  simp [strip]

/-- A text without blanks is in two parts as the text with its blanks is. -/
theorem exists_of_toList_strip_append {s : String} {cs ds : List Char}
    (h : (strip s).toList = cs ++ ds) :
    ∃ a b, s = a ++ b ∧ (strip a).toList = cs ∧ (strip b).toList = ds := by
  rw [strip, String.toList_ofList] at h
  obtain ⟨as, bs, hs, rfl, rfl⟩ := List.filter_eq_append_iff.1 h
  refine ⟨String.ofList as, String.ofList bs, String.toList_inj.1 ?_, ?_, ?_⟩
  · rw [String.toList_append, String.toList_ofList, String.toList_ofList, hs]
  · rw [strip, String.toList_ofList, String.toList_ofList]
  · rw [strip, String.toList_ofList, String.toList_ofList]

/-- A comma of a text without blanks is one of the text with its blanks. -/
theorem exists_of_toList_strip_comma {s : String} {cs ds : List Char}
    (h : (strip s).toList = cs ++ ',' :: ds) :
    ∃ a b, s = a ++ "," ++ b ∧ (strip a).toList = cs ∧ (strip b).toList = ds := by
  rw [strip, String.toList_ofList] at h
  obtain ⟨as, more, hs, rfl, hmore⟩ := List.filter_eq_append_iff.1 h
  obtain ⟨blanks, bs, rfl, hblanks, -, rfl⟩ := List.filter_eq_cons_iff.1 hmore
  refine ⟨String.ofList (as ++ blanks), String.ofList bs, String.toList_inj.1 ?_, ?_, ?_⟩
  · simp [hs]
  · rw [strip, String.toList_ofList, String.toList_ofList, List.filter_append,
      List.filter_eq_nil_iff.2 hblanks, List.append_nil]
  · rw [strip, String.toList_ofList, String.toList_ofList]

end Strip

section Printed

variable {items : List SpecItem}

/-- Behind the first entry, every entry is printed with a comma in front of it. -/
theorem toList_printedItems_cons (i : SpecItem) (items : List SpecItem) :
    (printedItems (i :: items)).toList =
      i.printed.toList ++ items.flatMap fun i => ',' :: i.printed.toList := by
  rw [toList_printedItems, List.map_cons, intercalate_cons, List.flatMap_map]
  rfl

/-- In front of other entries, every entry is printed with a comma behind it. -/
theorem toList_printedItems_append_cons (before : List SpecItem) (i : SpecItem)
    (after : List SpecItem) :
    (printedItems (before ++ i :: after)).toList =
      before.flatMap (fun i => i.printed.toList ++ [',']) ++
        (i.printed.toList ++ after.flatMap fun i => ',' :: i.printed.toList) := by
  rw [← toList_printedItems_cons, toList_printedItems, toList_printedItems, List.map_append,
    intercalate_append_of_ne_nil _ _ (by simp), List.flatMap_map]

/-- Behind other entries, every entry is printed with a comma in front of it. -/
theorem toList_printedItems_append {before : List SpecItem} (hne : before ≠ [])
    (after : List SpecItem) :
    (printedItems (before ++ after)).toList =
      (printedItems before).toList ++ after.flatMap fun i => ',' :: i.printed.toList := by
  cases before with
  | nil => exact absurd rfl hne
  | cons i before =>
    rw [List.cons_append, toList_printedItems_cons, toList_printedItems_cons, List.flatMap_append,
      List.append_assoc]

/-- Entries with a comma behind each of them are the entries with a comma behind them all. -/
theorem flatMap_printed (hne : items ≠ []) :
    items.flatMap (fun i => i.printed.toList ++ [',']) = (printedItems items).toList ++ [','] := by
  obtain ⟨before, last, rfl⟩ := (List.eq_nil_or_concat' items).resolve_left hne
  rw [toList_printedItems_append_cons]
  simp

/-- Well-formed entries have closed groups. -/
theorem groupsClosed_flatMap_printed (hwell : ∀ i ∈ items, i.WellFormed) :
    GroupsClosed (items.flatMap fun i => i.printed.toList ++ [',']) := by
  induction items with
  | nil => decide
  | cons i items ih =>
    obtain ⟨hi, hrest⟩ := List.forall_mem_cons.1 hwell
    have hclosed := ColumnSpec.groupsClosed_of_itemText (itemText_iff.2 ⟨i, hi, rfl⟩)
    rw [List.flatMap_cons, List.append_assoc, hclosed.append_iff]
    have hcomma : GroupsClosed [','] := by decide
    rw [hcomma.append_iff]
    exact ih hrest

/-- A column is neither empty nor has it brackets or commas. -/
theorem plain_of_column {name : String} (h : (SpecItem.column name).WellFormed) :
    name.toList ≠ [] ∧ ∀ c ∈ name.toList, ColumnSpec.isBracket c = false ∧ c ≠ ',' := by
  refine ⟨ColumnSpec.ne_nil_of_itemText (itemText_iff.2 ⟨_, h, rfl⟩), ?_⟩
  rcases h with rfl | hname
  · have hstar : "*".toList = ['*'] := rfl
    simp [hstar, ColumnSpec.isBracket]
  · exact ColumnSpec.plain_of_nameText (isQualifiedChars_iff.1 hname)

/-- A column in the text of entries is one of them, where it stands between commas behind closed
groups or at an end. -/
theorem exists_of_printedItems_eq (hwell : ∀ i ∈ items, i.WellFormed) {name : String}
    (hname : (SpecItem.column name).WellFormed) {front back : List Char}
    (h : (printedItems items).toList = front ++ (name.toList ++ back))
    (hfront : front = [] ∨ ∃ cs, GroupsClosed cs ∧ front = cs ++ [','])
    (hback : back = [] ∨ ∃ cs, back = ',' :: cs) :
    ∃ before after, items = before ++ .column name :: after ∧
      front = before.flatMap (fun i => i.printed.toList ++ [',']) ∧
      back = after.flatMap fun i => ',' :: i.printed.toList := by
  obtain ⟨hne, hplain⟩ := plain_of_column hname
  rw [toList_printedItems] at h
  have hentries : items.map (fun i => i.printed.toList) ≠ [] := by
    intro hnil
    rw [hnil] at h
    simp [hne] at h
  have hitems : ∀ entry ∈ items.map (fun i => i.printed.toList), ItemText entry := by
    intro entry hmem
    obtain ⟨i, hi, rfl⟩ := List.mem_map.1 hmem
    exact itemText_iff.2 ⟨i, hwell i hi, rfl⟩
  obtain ⟨first, last, hsplit, rfl, rfl⟩ :=
    ColumnSpec.exists_of_name hentries hitems h hfront hplain hback
  obtain ⟨before, others, rfl, rfl, hothers⟩ := List.map_eq_append_iff.1 hsplit
  obtain ⟨i, after, rfl, hi, rfl⟩ := List.map_eq_cons_iff.1 hothers
  -- the entry is what is read from its text
  have hread := ColumnSpec.item_printed (hwell i (by simp))
  rw [hi, ColumnSpec.item_column hname] at hread
  cases hread
  exact ⟨before, after, rfl, by rw [List.flatMap_map], by rw [List.flatMap_map]; rfl⟩

end Printed

/-- The column that is deleted is an entry, and the other entries are left. -/
theorem DeletesColumn.exists_items {name s t : String} (h : DeletesColumn name s t)
    {items : List SpecItem} (hwell : ∀ i ∈ items, i.WellFormed)
    (hs : (strip s).toList = (printedItems items).toList) :
    ∃ before after, items = before ++ .column name :: after ∧ before ++ after ≠ [] ∧
      (strip t).toList = (printedItems (before ++ after)).toList := by
  cases h with
  | @withNext front column back hname hcolumn hfront =>
    have htext : (printedItems items).toList =
        (strip front).toList ++ (name.toList ++ ',' :: (strip back).toList) := by
      rw [← hs, ← hcolumn, toList_strip_append, toList_strip_append, toList_strip_append]
      simp [show (strip ",").toList = [','] from rfl]
    have hbegins : (strip front).toList = [] ∨
        ∃ cs, GroupsClosed cs ∧ (strip front).toList = cs ++ [','] := by
      rcases hfront with hempty | ⟨hclosed, entries, hentries⟩
      · exact Or.inl (by rw [hempty]; rfl)
      · refine Or.inr ⟨entries.toList, ?_, by rw [hentries, String.toList_append]; rfl⟩
        rw [← groupsClosed_strip_iff, hentries, String.toList_append] at hclosed
        simpa [GroupsClosed] using hclosed
    obtain ⟨before, after, rfl, hbefore, hafter⟩ :=
      exists_of_printedItems_eq hwell hname htext hbegins (Or.inr ⟨_, rfl⟩)
    -- the comma that is deleted stands in front of the next entry
    cases after with
    | nil => cases hafter
    | cons next after =>
      obtain ⟨-, hback⟩ := List.cons.inj hafter
      refine ⟨before, next :: after, rfl, by simp, ?_⟩
      rw [toList_strip_append, hbefore, hback, toList_printedItems_append_cons]
      rfl
  | @withPrevious front column back hname hcolumn hfront hback =>
    have htext : (printedItems items).toList =
        ((strip front).toList ++ [',']) ++ (name.toList ++ (strip back).toList) := by
      rw [← hs, ← hcolumn, toList_strip_append, toList_strip_append, toList_strip_append]
      simp [show (strip ",").toList = [','] from rfl]
    have hends : (strip back).toList = [] ∨ ∃ cs, (strip back).toList = ',' :: cs := by
      rcases hback with hempty | ⟨entries, hentries⟩
      · exact Or.inl (by rw [hempty]; rfl)
      · exact Or.inr ⟨entries.toList, by rw [hentries, String.toList_append]; rfl⟩
    obtain ⟨before, after, rfl, hbefore, hafter⟩ := exists_of_printedItems_eq hwell hname htext
      (Or.inr ⟨_, groupsClosed_strip_iff.2 hfront, rfl⟩) hends
    -- the comma that is deleted stands behind the previous entry
    have hbeforeNe : before ≠ [] := by
      rintro rfl
      simp at hbefore
    rw [flatMap_printed hbeforeNe] at hbefore
    refine ⟨before, after, rfl, List.append_ne_nil_of_left_ne_nil hbeforeNe _, ?_⟩
    rw [toList_strip_append, List.append_cancel_right hbefore, hafter,
      toList_printedItems_append hbeforeNe]

namespace ColumnSpec

variable {s t : String} {spec : ColumnSpec}

/-- The text of a spec without blanks is that of its entries. -/
theorem toList_strip_of_parse (h : parse s = .ok spec) :
    (strip s).toList = (printedItems spec.items).toList :=
  (printedItems_of_ofStripped (parse_ok_iff.1 h)).symm

/-- The text of well-formed entries, blanks apart, is read as these entries. -/
theorem exists_parse_of_strip {items : List SpecItem} (hne : items ≠ [])
    (hwell : ∀ i ∈ items, i.WellFormed) (h : (strip s).toList = (printedItems items).toList) :
    ∃ rest : ColumnSpec, parse s = .ok rest ∧ rest.items = items := by
  refine ⟨⟨items, hwell⟩, ?_, rfl⟩
  rw [parse_ok_iff, h]
  exact ofStripped_printedItems hne hwell

/-- The entries beside a column of a spec are well formed. -/
theorem wellFormed_of_items_eq {before after : List SpecItem} {i : SpecItem}
    (hitems : spec.items = before ++ i :: after) : ∀ i ∈ before ++ after, i.WellFormed := by
  have hsub : (before ++ after).Sublist spec.items := by
    rw [hitems]
    exact (List.sublist_cons_self i after).append_left before
  exact fun i hi => spec.wellFormed i (hsub.subset hi)

/-- Without one of its columns a spec is read as its other entries. -/
theorem parse_of_deletesColumn {name : String} (h : DeletesColumn name s t)
    (hs : parse s = .ok spec) :
    ∃ before after rest, spec.items = before ++ .column name :: after ∧ parse t = .ok rest ∧
      rest.items = before ++ after := by
  obtain ⟨before, after, hitems, hne, ht⟩ :=
    h.exists_items spec.wellFormed (toList_strip_of_parse hs)
  obtain ⟨rest, hrest, hleft⟩ := exists_parse_of_strip hne (wellFormed_of_items_eq hitems) ht
  exact ⟨before, after, rest, hitems, hrest, hleft⟩

/-- Every column beside another entry can be deleted. -/
theorem exists_deletesColumn (hs : parse s = .ok spec) {before after : List SpecItem}
    {name : String} (hitems : spec.items = before ++ .column name :: after)
    (hne : before ++ after ≠ []) :
    ∃ t rest, DeletesColumn name s t ∧ parse t = .ok rest ∧ rest.items = before ++ after := by
  have hwell := wellFormed_of_items_eq hitems
  have hname : (SpecItem.column name).WellFormed := spec.wellFormed _ (by rw [hitems]; simp)
  have htext := toList_strip_of_parse hs
  rw [hitems, toList_printedItems_append_cons] at htext
  suffices hdelete : ∃ t, DeletesColumn name s t ∧
      (strip t).toList = (printedItems (before ++ after)).toList by
    obtain ⟨t, ht, hleft⟩ := hdelete
    obtain ⟨rest, hrest, hrestItems⟩ := exists_parse_of_strip hne hwell hleft
    exact ⟨t, rest, ht, hrest, hrestItems⟩
  have hclosed := groupsClosed_flatMap_printed fun i hi => hwell i (List.mem_append_left after hi)
  cases after with
  | cons next after =>
    rw [List.flatMap_cons, List.cons_append, ← List.append_assoc] at htext
    obtain ⟨start, back, rfl, hstart, hback⟩ := exists_of_toList_strip_comma htext
    obtain ⟨front, column, rfl, hfront, hcolumn⟩ := exists_of_toList_strip_append hstart
    refine ⟨front ++ back, .withNext back hname (String.toList_inj.1 hcolumn) ?_, ?_⟩
    · by_cases hbefore : before = []
      · subst hbefore
        exact Or.inl (String.toList_eq_nil_iff.1 hfront)
      · rw [← hfront, groupsClosed_strip_iff] at hclosed
        refine Or.inr ⟨hclosed, printedItems before, String.toList_inj.1 ?_⟩
        rw [hfront, flatMap_printed hbefore, String.toList_append]
        rfl
    · rw [toList_strip_append, hfront, hback, toList_printedItems_append_cons]
  | nil =>
    -- the column is the last entry, so there is a comma in front of it
    rw [List.append_nil] at hne
    rw [flatMap_printed hne, List.append_assoc, List.flatMap_nil, List.append_nil] at htext
    obtain ⟨front, column, rfl, hfront, hcolumn⟩ := exists_of_toList_strip_comma htext
    rw [flatMap_printed hne, ← hfront] at hclosed
    refine ⟨front ++ "", ?_, ?_⟩
    · have hdelete := @DeletesColumn.withPrevious name front column "" hname
        (String.toList_inj.1 hcolumn)
        (groupsClosed_strip_iff.1 (by simpa [GroupsClosed] using hclosed)) (Or.inl rfl)
      rwa [String.append_empty] at hdelete
    · rw [String.append_empty, hfront, List.append_nil]

/-- A column that is left out does not change the joins. -/
theorem joins_of_items_eq {before after : List SpecItem} {name : String} {rest : ColumnSpec}
    (hitems : spec.items = before ++ .column name :: after)
    (hrest : rest.items = before ++ after) : rest.joins = spec.joins := by
  rw [joins, joins, hitems, hrest, List.filterMap_append, List.filterMap_append,
    List.filterMap_cons_none rfl]

/-- A spec with joins that lacks a column loses nothing else. -/
theorem loses_of_items_eq (hjoins : spec.hasJoins = true) {before after : List SpecItem}
    {name : String} {rest : ColumnSpec} (hitems : spec.items = before ++ .column name :: after)
    (hrest : rest.items = before ++ after) : spec.Loses before name after rest := by
  have hsame := joins_of_items_eq hitems hrest
  have hrestJoins : rest.hasJoins = true := by rwa [hasJoins, hsame]
  have hold : ∀ table, spec.selection table =
      before.flatMap (itemSelection spec.joins table) ++
        (itemSelection spec.joins table (.column name) ++
          after.flatMap (itemSelection spec.joins table)) := by
    intro table
    rw [selection, if_pos hjoins, hitems, List.flatMap_append, List.flatMap_cons]
  have hnew : ∀ table, rest.selection table =
      before.flatMap (itemSelection spec.joins table) ++
        after.flatMap (itemSelection spec.joins table) := by
    intro table
    rw [selection, if_pos hrestJoins, hrest, hsame, List.flatMap_append]
  refine ⟨hitems, hrest, hsame, fun table => ?_, fun hkey table => ?_, fun hplain table => ?_⟩
  · rw [joinClauses, joinClauses, hsame]
  · have hnone : itemSelection spec.joins table (.column name) = [] :=
      if_pos (by simpa using hkey)
    rw [selectList, selectList, hold, hnew, hnone, List.nil_append]
  · have hone : itemSelection spec.joins table (.column name) =
        [if '.' ∈ name.toList then name else table ++ "." ++ name] := by
      rw [itemSelection, if_neg (by simpa using hplain)]
      by_cases hpoint : '.' ∈ name.toList <;> simp [hpoint]
    rw [selectList, selectList, hold, hnew, hone]
    exact ⟨rfl, rfl⟩

/-- However many columns are deleted, the joins stay the same. -/
theorem parse_of_deletions (h : Relation.ReflTransGen Deletes s t) (hs : parse s = .ok spec) :
    ∃ rest, parse t = .ok rest ∧ rest.joins = spec.joins := by
  induction h with
  | refl => exact ⟨spec, hs, rfl⟩
  | tail _ hstep ih =>
    obtain ⟨middle, hmiddle, hsame⟩ := ih
    obtain ⟨name, hdelete⟩ := hstep
    obtain ⟨before, after, rest, hitems, hrest, hleft⟩ := parse_of_deletesColumn hdelete hmiddle
    exact ⟨rest, hrest, (joins_of_items_eq hitems hleft).trans hsame⟩

/-- Entries without columns are their joins. -/
theorem eq_map_join {items : List SpecItem} (h : ∀ name, SpecItem.column name ∉ items) :
    items = (items.filterMap SpecItem.join?).map .join := by
  induction items with
  | nil => rfl
  | cons i items ih =>
    have hrest := ih fun name hmem => h name (List.mem_cons_of_mem i hmem)
    cases i with
    | column name => exact absurd List.mem_cons_self (h name)
    | join j =>
      have hjoin : (SpecItem.join j :: items).filterMap SpecItem.join? =
          j :: items.filterMap SpecItem.join? := List.filterMap_cons_some rfl
      rw [hjoin, List.map_cons, ← hrest]

/-- In a spec with joins, no column is the only entry. -/
theorem append_ne_nil_of_hasJoins (hjoins : spec.hasJoins = true) {before after : List SpecItem}
    {name : String} (hitems : spec.items = before ++ .column name :: after) :
    before ++ after ≠ [] := by
  intro hempty
  obtain ⟨rfl, rfl⟩ := List.append_eq_nil_iff.1 hempty
  rw [hasJoins, joins, hitems] at hjoins
  cases hjoins

/-- No column can be deleted from a spec with joins where it has no other entries. -/
theorem not_deletes_iff (hs : parse s = .ok spec) (hjoins : spec.hasJoins = true) :
    (∀ t, ¬ Deletes s t) ↔ spec.items = spec.joins.map .join := by
  constructor
  · refine fun hnone => eq_map_join fun name hmem => ?_
    obtain ⟨before, after, hitems⟩ := List.append_of_mem hmem
    obtain ⟨t, -, hdelete, -, -⟩ :=
      exists_deletesColumn hs hitems (append_ne_nil_of_hasJoins hjoins hitems)
    exact hnone t ⟨name, hdelete⟩
  · rintro honly t ⟨name, hdelete⟩
    obtain ⟨before, after, -, hitems, -, -⟩ := parse_of_deletesColumn hdelete hs
    have hmem : SpecItem.column name ∈ spec.joins.map .join := by
      rw [← honly, hitems]
      exact List.mem_append_right _ List.mem_cons_self
    simp at hmem

/-- Columns can be deleted until there is none left that can be. -/
theorem exists_deletions (hs : parse s = .ok spec) :
    ∃ t, Relation.ReflTransGen Deletes s t ∧ ∀ u, ¬ Deletes t u := by
  -- every deletion leaves fewer entries
  induction hlength : spec.items.length using Nat.strongRecOn generalizing s spec with
  | _ n ih =>
    by_cases hnone : ∀ u, ¬ Deletes s u
    · exact ⟨s, .refl, hnone⟩
    · obtain ⟨u, hu⟩ := not_forall_not.1 hnone
      obtain ⟨name, hdelete⟩ := hu
      obtain ⟨before, after, rest, hitems, hrest, hleft⟩ := parse_of_deletesColumn hdelete hs
      have hless : rest.items.length < n := by
        rw [← hlength, hitems, hleft]
        simp
      obtain ⟨t, ht, hend⟩ := ih _ hless hrest rfl
      exact ⟨t, .head ⟨name, hdelete⟩ ht, hend⟩

/-- A spec of joins only selects their columns. -/
theorem selectList_of_joins (hjoins : spec.hasJoins = true)
    (honly : spec.items = spec.joins.map .join) (table : String) :
    spec.selectList table = Text.join ", " (spec.joins.flatMap Join.selectItems) := by
  rw [selectList, selection, if_pos hjoins]
  conv_lhs => rw [honly]
  rw [List.flatMap_map]
  rfl

/-- Columns beside joins can be deleted from the text of a spec, with a comma each, in any order and
as many as there are. Every deletion is read as the spec without this entry, with the same joins,
the same join clauses, and the select list without the text of the column. At the end the aliased
columns of the joins are left, in their order. -/
theorem columns_deleted (hs : parse s = .ok spec) (hjoins : spec.hasJoins = true) :
    (∀ name t, DeletesColumn name s t →
      ∃ before after rest, parse t = .ok rest ∧ spec.Loses before name after rest) ∧
    (∀ before name after, spec.items = before ++ .column name :: after →
      ∃ t rest, DeletesColumn name s t ∧ parse t = .ok rest ∧
        spec.Loses before name after rest) ∧
    (∀ t, Relation.ReflTransGen Deletes s t →
      ∃ rest, parse t = .ok rest ∧ rest.joins = spec.joins ∧
        (∀ table, rest.joinClauses table = spec.joinClauses table) ∧
        ((∀ u, ¬ Deletes t u) ↔ rest.items = spec.joins.map .join) ∧
        (rest.items = spec.joins.map .join → ∀ table, rest.selectList table =
          Text.join ", " (spec.joins.flatMap fun j => j.columns.map fun column =>
            j.table ++ "." ++ column ++ " AS " ++ j.columnStem ++ "_" ++ column))) ∧
    ∃ t, Relation.ReflTransGen Deletes s t ∧ ∀ u, ¬ Deletes t u := by
  refine ⟨fun name t hdelete => ?_, fun before name after hitems => ?_, fun t ht => ?_,
    exists_deletions hs⟩
  · obtain ⟨before, after, rest, hitems, hrest, hleft⟩ := parse_of_deletesColumn hdelete hs
    exact ⟨before, after, rest, hrest, loses_of_items_eq hjoins hitems hleft⟩
  · obtain ⟨t, rest, hdelete, hrest, hleft⟩ :=
      exists_deletesColumn hs hitems (append_ne_nil_of_hasJoins hjoins hitems)
    exact ⟨t, rest, hdelete, hrest, loses_of_items_eq hjoins hitems hleft⟩
  · obtain ⟨rest, hrest, hsame⟩ := parse_of_deletions ht hs
    have hrestJoins : rest.hasJoins = true := by rwa [hasJoins, hsame]
    refine ⟨rest, hrest, hsame, fun table => by rw [joinClauses, joinClauses, hsame], ?_,
      fun honly table => ?_⟩
    · rw [not_deletes_iff hrest hrestJoins, hsame]
    · rw [← hsame] at honly ⊢
      exact selectList_of_joins hrestJoins honly table

/-- A column in front of a join is deleted. The key behind the join stays and selects nothing. -/
theorem columns_deleted_before_join :
    ∃ spec rest, parse "id, owner -> core.person (key) \x7bname\x7d, owner" = .ok spec ∧
      spec.hasJoins = true ∧
      spec.selectList "docs" = "docs.id, core.person.name AS core_person_name" ∧
      DeletesColumn "id" "id, owner -> core.person (key) \x7bname\x7d, owner"
        " owner -> core.person (key) \x7bname\x7d, owner" ∧
      parse " owner -> core.person (key) \x7bname\x7d, owner" = .ok rest ∧
      rest.joins = spec.joins ∧
      rest.selectList "docs" = "core.person.name AS core_person_name" := by
  obtain ⟨spec, hs⟩ :
      ∃ spec, parse "id, owner -> core.person (key) \x7bname\x7d, owner" = .ok spec := ⟨_, rfl⟩
  have hjoins : spec.hasJoins = true := by
    cases hs
    rfl
  have hdelete : DeletesColumn "id" "id, owner -> core.person (key) \x7bname\x7d, owner"
      " owner -> core.person (key) \x7bname\x7d, owner" :=
    @DeletesColumn.withNext "id" "" "id" " owner -> core.person (key) \x7bname\x7d, owner"
      (Or.inr (by decide)) rfl (Or.inl rfl)
  obtain ⟨before, after, rest, hrest, hlost⟩ := (columns_deleted hs hjoins).1 _ _ hdelete
  refine ⟨spec, rest, hs, hjoins, ?_, hdelete, hrest, hlost.joins, ?_⟩
  · cases hs
    decide +kernel
  · cases hrest
    decide +kernel

end ColumnSpec

end TableQuery
