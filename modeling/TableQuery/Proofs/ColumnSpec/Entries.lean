import TableQuery.Proofs.ColumnSpec.Reader

/-!
# Where the entries of a column spec are

A comma of a spec stands between entries if every group in front of it is closed, and inside of an
entry otherwise. So what stands between two commas of the first kind is an entry.
-/

namespace TableQuery

open TableQuery.Text

/-- Every group of the text is closed: it has as many closing as opening brackets of either kind. -/
def GroupsClosed (cs : List Char) : Prop :=
  cs.count '(' = cs.count ')' ∧ cs.count '\x7b' = cs.count '\x7d'

instance (cs : List Char) : Decidable (GroupsClosed cs) :=
  inferInstanceAs (Decidable (_ ∧ _))

/-- Behind closed groups, all groups are closed if those of the rest are. -/
theorem GroupsClosed.append_iff {cs ds : List Char} (h : GroupsClosed cs) :
    GroupsClosed (cs ++ ds) ↔ GroupsClosed ds := by
  obtain ⟨hround, hcurly⟩ := h
  simp only [GroupsClosed, List.count_append]
  omega

/-- Blanks are no brackets. -/
theorem groupsClosed_strip_iff {s : String} :
    GroupsClosed (strip s).toList ↔ GroupsClosed s.toList := by
  have hcount : ∀ c, isBlank c = false → (strip s).toList.count c = s.toList.count c := by
    intro c hc
    rw [strip, String.toList_ofList, List.count_filter (by simpa using hc)]
  rw [GroupsClosed, GroupsClosed, hcount '(' (by decide), hcount ')' (by decide),
    hcount '\x7b' (by decide), hcount '\x7d' (by decide)]

namespace ColumnSpec

/-- A text without brackets has no open group. -/
theorem groupsClosed_of_plain {cs : List Char} (h : ∀ c ∈ cs, isBracket c = false) :
    GroupsClosed cs := by
  have hcount : ∀ c, isBracket c = true → cs.count c = 0 := fun c hc =>
    List.count_eq_zero_of_not_mem fun hmem => by
      rw [h c hmem] at hc
      cases hc
  rw [GroupsClosed, hcount '(' (by decide), hcount ')' (by decide), hcount '\x7b' (by decide),
    hcount '\x7d' (by decide)]
  exact ⟨rfl, rfl⟩

/-- The names of a join have no open group. -/
theorem groupsClosed_of_nameText {name : List Char} (h : NameText name) : GroupsClosed name :=
  groupsClosed_of_plain fun c hc => (plain_of_nameText h c hc).1

/-- An entry holds neither brackets nor commas, or its columns are in a group at its end and all
other groups are closed in front of it, without a comma there. -/
theorem plain_or_group_of_itemText {cs : List Char} (h : ItemText cs) :
    (∀ c ∈ cs, isBracket c = false ∧ c ≠ ',') ∨
      ∃ head inner, cs = head ++ '\x7b' :: (inner ++ ['\x7d']) ∧ GroupsClosed head ∧ ',' ∉ head ∧
        ∀ c ∈ inner, isBracket c = false := by
  cases h with
  | star => exact Or.inl (by simp [isBracket])
  | column hname => exact Or.inl (plain_of_nameText hname)
  | @join key table toColumn columns hkey htable hto hcolumns hne =>
    refine Or.inr ⟨key ++ '-' :: '>' :: (table ++ '(' :: (toColumn ++ [')'])),
      [','].intercalate columns, by simp, ?_, ?_, isBracket_of_mem_intercalate hcolumns⟩
    · obtain ⟨hkey₁, hkey₂⟩ := groupsClosed_of_nameText (.plain hkey)
      obtain ⟨htable₁, htable₂⟩ := groupsClosed_of_nameText htable
      obtain ⟨hto₁, hto₂⟩ := groupsClosed_of_nameText (.plain hto)
      simp [GroupsClosed, hkey₁, hkey₂, htable₁, htable₂, hto₁, hto₂]
    · have hcomma : ∀ {name : List Char}, NameText name → ',' ∉ name := fun hname hmem =>
        (plain_of_nameText hname ',' hmem).2 rfl
      simp [hcomma (.plain hkey), hcomma htable, hcomma (.plain hto)]

/-- The groups of an entry are closed. -/
theorem groupsClosed_of_itemText {cs : List Char} (h : ItemText cs) : GroupsClosed cs := by
  rcases plain_or_group_of_itemText h with hplain | ⟨head, inner, rfl, hhead, -, hinner⟩
  · exact groupsClosed_of_plain fun c hc => (hplain c hc).1
  · obtain ⟨hround, hcurly⟩ := groupsClosed_of_plain hinner
    rw [hhead.append_iff]
    simp [GroupsClosed, hround, hcurly]

/-- In front of a comma of an entry there is an open group. -/
theorem not_groupsClosed_of_itemText {front rest : List Char}
    (h : ItemText (front ++ ',' :: rest)) : ¬ GroupsClosed front := by
  rcases plain_or_group_of_itemText h with hplain | ⟨head, inner, htext, hhead, hcomma, hinner⟩
  · exact absurd rfl (hplain ',' (by simp)).2
  · -- the comma stands behind the curly bracket
    obtain ⟨middle, rfl, hrest⟩ : ∃ middle, front = head ++ '\x7b' :: middle ∧
        inner ++ ['\x7d'] = middle ++ ',' :: rest := by
      rcases List.append_eq_append_iff.1 htext with ⟨more, rfl, hgroup⟩ | ⟨more, rfl, hgroup⟩
      · cases more with
        | nil => cases hgroup
        | cons c more =>
          cases hgroup
          exact absurd (by simp) hcomma
      · cases more with
        | nil => cases hgroup
        | cons c middle =>
          obtain ⟨rfl, hrest⟩ := List.cons.inj hgroup
          exact ⟨middle, rfl, hrest⟩
    have hmiddle : inner = middle ++ (',' :: rest).dropLast := by
      rw [← List.dropLast_append_of_ne_nil (List.cons_ne_nil ',' rest), ← hrest,
        List.dropLast_concat]
    have hplain : ∀ c ∈ middle, isBracket c = false := fun c hc =>
      hinner c (by rw [hmiddle]; exact List.mem_append_left _ hc)
    obtain ⟨-, hcurly⟩ := groupsClosed_of_plain hplain
    rw [hhead.append_iff]
    rintro ⟨-, hclosed⟩
    simp [hcurly] at hclosed

/-- A comma behind closed groups stands between entries. -/
theorem exists_of_intercalate_eq {entries : List (List Char)}
    (hentries : ∀ entry ∈ entries, ItemText entry) {front rest : List Char}
    (h : [','].intercalate entries = front ++ ',' :: rest) (hfront : GroupsClosed front) :
    ∃ before after, entries = before ++ after ∧ before ≠ [] ∧ after ≠ [] ∧
      [','].intercalate before = front ∧ [','].intercalate after = rest := by
  induction entries generalizing front with
  | nil => simp at h
  | cons entry entries ih =>
    obtain ⟨hentry, hmore⟩ := List.forall_mem_cons.1 hentries
    by_cases hne : entries = []
    · subst hne
      rw [List.intercalate_singleton] at h
      exact absurd hfront (not_groupsClosed_of_itemText (h ▸ hentry))
    · rw [List.intercalate_cons_of_ne_nil hne, List.append_assoc, List.singleton_append,
        append_cons_eq_append_cons_iff] at h
      rcases h with ⟨rfl, rfl⟩ | ⟨middle, rfl, hrest⟩ | ⟨middle, rfl, -⟩
      · exact ⟨[entry], entries, rfl, by simp, hne, List.intercalate_singleton, rfl⟩
      · -- the comma stands behind the first entry
        have hclosed : GroupsClosed middle := by
          rw [(groupsClosed_of_itemText hentry).append_iff] at hfront
          simpa [GroupsClosed] using hfront
        obtain ⟨before, after, rfl, hbefore, hafter, hfirst, hlast⟩ := ih hmore hrest hclosed
        refine ⟨entry :: before, after, rfl, by simp, hafter, ?_, hlast⟩
        rw [List.intercalate_cons_of_ne_nil hbefore, hfirst]
        simp
      · exact absurd hfront (not_groupsClosed_of_itemText hentry)

/-- A name is an entry where it stands between commas behind closed groups, or at an end of the
text. -/
theorem exists_of_name {entries : List (List Char)} (hne : entries ≠ [])
    (hentries : ∀ entry ∈ entries, ItemText entry) {front name back : List Char}
    (h : [','].intercalate entries = front ++ (name ++ back))
    (hfront : front = [] ∨ ∃ cs, GroupsClosed cs ∧ front = cs ++ [','])
    (hname : ∀ c ∈ name, isBracket c = false ∧ c ≠ ',')
    (hback : back = [] ∨ ∃ cs, back = ',' :: cs) :
    ∃ before after, entries = before ++ name :: after ∧ front = before.flatMap (· ++ [',']) ∧
      back = after.flatMap ([','] ++ ·) := by
  obtain ⟨before, others, rfl, hothers, rfl, hrest⟩ : ∃ before others,
      entries = before ++ others ∧ others ≠ [] ∧ front = before.flatMap (· ++ [',']) ∧
        [','].intercalate others = name ++ back := by
    rcases hfront with rfl | ⟨cs, hclosed, rfl⟩
    · exact ⟨[], entries, rfl, hne, rfl, h⟩
    · rw [List.append_assoc, List.singleton_append] at h
      obtain ⟨before, others, rfl, -, hothers, -, hrest⟩ :=
        exists_of_intercalate_eq hentries h hclosed
      refine ⟨before, others, rfl, hothers, ?_, hrest⟩
      rw [intercalate_append_of_ne_nil _ _ hothers, hrest, List.append_cons] at h
      exact (List.append_cancel_right h).symm
  have hcomma : ',' ∉ name := fun hmem => (hname ',' hmem).2 rfl
  obtain ⟨after, rfl⟩ : ∃ after, others = name :: after := by
    rcases hback with rfl | ⟨cs, rfl⟩
    · rw [List.append_nil] at hrest
      exact ⟨[], eq_singleton_of_intercalate_eq hothers hrest hcomma⟩
    · obtain ⟨first, after, rfl, hfirst, -, hone, -⟩ := exists_of_intercalate_eq
        (fun entry hmem => hentries entry (List.mem_append_right _ hmem)) hrest
        (groupsClosed_of_plain fun c hc => (hname c hc).1)
      rw [eq_singleton_of_intercalate_eq hfirst hone hcomma]
      exact ⟨after, rfl⟩
  rw [intercalate_cons] at hrest
  exact ⟨before, after, rfl, rfl, (List.append_cancel_left hrest).symm⟩

end ColumnSpec

end TableQuery
