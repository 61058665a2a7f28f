import TableQuery.Proofs.Checks
import TableQuery.Proofs.ColumnSpec.Grammar

/-!
# Reading column specs by their grammar

The tokens of a spec are its entries: commas in groups belong to tokens, all others stand between
them. So exactly the texts of the grammar are read, and nothing of them is lost but blanks.
-/

namespace TableQuery

open TableQuery.Text

namespace ColumnSpec

/-- The tokens of a text, joined again, are the text behind the token that has begun. -/
theorem intercalate_tokensFrom {position : Nat} {group : Option Char} {token cs : List Char}
    {found : List (List Char)} (h : tokensFrom position group token cs = .ok found) :
    found ≠ [] ∧ [','].intercalate found = token.reverse ++ cs := by
  induction cs generalizing position group token found with
  | nil =>
    cases group with
    | some bracket => cases h
    | none =>
      cases h
      exact ⟨by simp, by simp⟩
  | cons c cs ih =>
    -- whichever branch goes on with the token, the character has moved from the text to it
    have hplain : ∀ {position group}, tokensFrom position group (c :: token) cs = .ok found →
        found ≠ [] ∧ [','].intercalate found = token.reverse ++ c :: cs := by
      intro position group h
      have hi := ih h
      rw [List.reverse_cons, List.append_assoc, List.singleton_append] at hi
      exact hi
    unfold tokensFrom at h
    split at h
    · split at h
      · cases h
      · exact hplain h
    · split at h
      · split at h
        · exact hplain h
        · cases h
      · split at h
        · next hcomma =>
          obtain ⟨rest, hrest, h⟩ := ok_of_bind h
          cases h
          obtain ⟨hne, htext⟩ := ih hrest
          have hc : c = ',' := by
            rw [Bool.and_eq_true, decide_eq_true_eq] at hcomma
            exact hcomma.1
          cases rest with
          | nil => exact absurd rfl hne
          | cons next rest =>
            rw [List.intercalate_cons_cons, htext, hc]
            simp
        · exact hplain h

/-- A character that opens or closes a group. -/
def isBracket (c : Char) : Bool :=
  c = '(' || c = '\x7b' || c = ')' || c = '\x7d'

/-- What is no bracket, and outside of groups no comma, goes on with a token. -/
theorem tokensFrom_of_plain (group : Option Char) {cs : List Char}
    (h : ∀ c ∈ cs, isBracket c = false ∧ (group = none → c ≠ ',')) (position : Nat)
    (token rest : List Char) :
    ∃ next, tokensFrom position group token (cs ++ rest) =
      tokensFrom next group (cs.reverse ++ token) rest := by
  induction cs generalizing position token with
  | nil => exact ⟨position, rfl⟩
  | cons c cs ih =>
    obtain ⟨⟨hbracket, hcomma⟩, hrest⟩ := List.forall_mem_cons.1 h
    simp only [isBracket, Bool.or_eq_false_iff, decide_eq_false_iff_not] at hbracket
    obtain ⟨⟨⟨h1, h2⟩, h3⟩, h4⟩ := hbracket
    obtain ⟨next, hnext⟩ := ih hrest (position + c.utf8Size) (c :: token)
    refine ⟨next, ?_⟩
    have hno : (decide (c = ',') && group.isNone) = false := by
      cases group with
      | none => simpa using hcomma rfl
      | some bracket => simp
    rw [List.cons_append, List.reverse_cons, List.append_assoc, List.singleton_append, ← hnext]
    rw [tokensFrom.eq_def]
    simp [h1, h2, h3, h4, hno]

/-- The text is a part of one token, wherever it stands outside of groups. -/
def Passes (cs : List Char) : Prop :=
  ∀ position token rest, ∃ next, tokensFrom position none token (cs ++ rest) =
    tokensFrom next none (cs.reverse ++ token) rest

/-- Two parts of a token are a part of it together. -/
theorem Passes.append {cs ds : List Char} (hcs : Passes cs) (hds : Passes ds) :
    Passes (cs ++ ds) := by
  intro position token rest
  obtain ⟨middle, hmiddle⟩ := hcs position token (ds ++ rest)
  obtain ⟨next, hnext⟩ := hds middle (cs.reverse ++ token) rest
  refine ⟨next, ?_⟩
  rw [List.append_assoc, hmiddle, hnext, List.reverse_append, List.append_assoc]

/-- Names and arrows are parts of tokens. -/
theorem passes_of_plain {cs : List Char} (h : ∀ c ∈ cs, isBracket c = false ∧ c ≠ ',') :
    Passes cs :=
  fun position token rest =>
    tokensFrom_of_plain none (fun c hc => ⟨(h c hc).1, fun _ => (h c hc).2⟩) position token rest

/-- A group without brackets inside is a part of a token, commas in it included. -/
theorem passes_group {opening closing : Char} {inner : List Char}
    (hopening : (opening = '(' ∧ closing = ')') ∨ (opening = '\x7b' ∧ closing = '\x7d'))
    (h : ∀ c ∈ inner, isBracket c = false) : Passes (opening :: (inner ++ [closing])) := by
  intro position token rest
  obtain ⟨next, hnext⟩ := tokensFrom_of_plain (some opening) (fun c hc => ⟨h c hc, nofun⟩)
    (position + opening.utf8Size) (opening :: token) (closing :: rest)
  refine ⟨next + closing.utf8Size, ?_⟩
  have hopen : tokensFrom position none token (opening :: (inner ++ closing :: rest)) =
      tokensFrom (position + opening.utf8Size) (some opening) (opening :: token)
        (inner ++ closing :: rest) := by
    rcases hopening with ⟨rfl, rfl⟩ | ⟨rfl, rfl⟩ <;> rw [tokensFrom.eq_def] <;> simp
  have hclose : ∀ token, tokensFrom next (some opening) token (closing :: rest) =
      tokensFrom (next + closing.utf8Size) none (closing :: token) rest := by
    intro token
    rcases hopening with ⟨rfl, rfl⟩ | ⟨rfl, rfl⟩ <;> rw [tokensFrom.eq_def] <;> simp [openingOf]
  rw [List.cons_append, List.append_assoc, List.singleton_append, hopen, hnext, hclose]
  simp

/-- Texts without the characters that are foreign to names hold no bracket and no comma. -/
theorem plain_of_notMem {cs : List Char}
    (h : ∀ c, isIdentifierPart c = false → c ≠ '.' → c ∉ cs) :
    ∀ c ∈ cs, isBracket c = false ∧ c ≠ ',' := by
  intro c hc
  refine ⟨?_, fun he => h ',' (by decide) (by decide) (he ▸ hc)⟩
  by_contra hbracket
  simp only [isBracket, Bool.not_eq_false, Bool.or_eq_true, decide_eq_true_eq] at hbracket
  rcases hbracket with ((rfl | rfl) | rfl) | rfl <;> exact h _ (by decide) (by decide) hc

/-- A name holds no bracket and no comma. -/
theorem plain_of_nameText {name : List Char} (h : NameText name) :
    ∀ c ∈ name, isBracket c = false ∧ c ≠ ',' :=
  plain_of_notMem fun _ hc hpoint => notMem_of_nameText h hc hpoint

/-- Names with commas between them hold no bracket. -/
theorem isBracket_of_mem_intercalate {columns : List (List Char)}
    (h : ∀ column ∈ columns, isIdentifierChars column = true) :
    ∀ c ∈ [','].intercalate columns, isBracket c = false := by
  intro c hc
  by_contra hbracket
  refine notMem_intercalate (c := c) ?_ (fun column hmem hcolumn => ?_) hc
  · rintro hcomma
    rw [List.mem_singleton.1 hcomma] at hbracket
    exact hbracket (by decide)
  · exact hbracket (plain_of_nameText (.plain (h column hmem)) c hcolumn).1

/-- A well-formed entry is a part of one token. -/
theorem passes_of_itemText {cs : List Char} (h : ItemText cs) : Passes cs := by
  cases h with
  | star => exact passes_of_plain (by simp [isBracket])
  | column hcolumn => exact passes_of_plain (plain_of_nameText hcolumn)
  | @join key table toColumn columns hkey htable hto hcolumns hne =>
    have harrow : Passes ['-', '>'] := passes_of_plain (by simp [isBracket])
    have hgroup : Passes ('(' :: (toColumn ++ [')'])) :=
      passes_group (Or.inl ⟨rfl, rfl⟩) fun c hc => (plain_of_nameText (.plain hto) c hc).1
    have hcolumnGroup := passes_group (Or.inr ⟨rfl, rfl⟩) (isBracket_of_mem_intercalate hcolumns)
    have hall := (((passes_of_plain (plain_of_nameText (.plain hkey))).append harrow).append
      (passes_of_plain (plain_of_nameText htable))).append (hgroup.append hcolumnGroup)
    simpa using hall

/-- A comma outside of groups ends a token. -/
theorem tokensFrom_comma (position : Nat) (token cs : List Char) :
    tokensFrom position none token (',' :: cs) =
      tokensFrom (position + 1) none [] cs >>= fun rest => .ok (token.reverse :: rest) := by
  rw [tokensFrom.eq_def]
  rfl

/-- Entries with commas between them are the tokens. -/
theorem tokensFrom_intercalate {entries : List (List Char)} (hne : entries ≠ [])
    (h : ∀ entry ∈ entries, Passes entry) (position : Nat) :
    tokensFrom position none [] ([','].intercalate entries) = .ok entries := by
  induction entries generalizing position with
  | nil => exact absurd rfl hne
  | cons entry entries ih =>
    obtain ⟨hentry, hrest⟩ := List.forall_mem_cons.1 h
    cases entries with
    | nil =>
      obtain ⟨next, hnext⟩ := hentry position [] []
      rw [List.append_nil, List.append_nil] at hnext
      rw [List.intercalate_singleton, hnext, tokensFrom, List.reverse_reverse]
    | cons other entries =>
      obtain ⟨next, hnext⟩ := hentry position []
        (',' :: [','].intercalate (other :: entries))
      rw [List.append_nil] at hnext
      rw [List.intercalate_cons_cons, List.append_assoc, List.singleton_append, hnext,
        tokensFrom_comma, ih (by simp) hrest, List.reverse_reverse]
      rfl

/-- An entry is not empty. -/
theorem ne_nil_of_itemText {cs : List Char} (h : ItemText cs) : cs ≠ [] := by
  have hident : ∀ {name : List Char}, isIdentifierChars name = true → name ≠ [] := by
    rintro name hname rfl
    cases hname
  cases h with
  | star => simp
  | column hname =>
    cases hname with
    | plain hname => exact hident hname
    | qualified => simp
  | join => simp

/-- The tokens of a text, joined again, are the text. -/
theorem intercalate_tokens {cs : List Char} {found : List (List Char)}
    (h : tokens cs = .ok found) : found ≠ [] ∧ [','].intercalate found = cs := by
  obtain ⟨all, hall, h⟩ := ok_of_bind h
  split at h
  · cases h
  · cases h
    exact intercalate_tokensFrom hall

/-- The tokens of a text of the grammar are its entries. -/
theorem tokens_intercalate {entries : List (List Char)} (hne : entries ≠ [])
    (h : ∀ entry ∈ entries, ItemText entry) : tokens ([','].intercalate entries) = .ok entries := by
  have hfound := tokensFrom_intercalate hne (fun entry hmem => passes_of_itemText (h entry hmem)) 0
  have hempty : entries.any List.isEmpty = false := by
    rw [List.any_eq_false]
    intro entry hmem
    simpa using ne_nil_of_itemText (h entry hmem)
  rw [tokens, hfound]
  change (if entries.any List.isEmpty = true then _ else _) = _
  rw [hempty, if_neg (by decide)]

/-- Reading succeeds with entries exactly where their tokens are found and read. -/
theorem ofStripped_iff {cs : List Char} (hne : cs ≠ []) {spec : ColumnSpec} :
    ofStripped cs = .ok spec ↔ ∃ found, tokens cs = .ok found ∧
      List.Forall₂ (fun token i => item token = .ok i) found spec.items := by
  have hempty : cs.isEmpty = false := by simpa using hne
  rw [ofStripped, hempty, if_neg (by decide)]
  constructor
  · intro h
    obtain ⟨found, hfound, h⟩ := ok_of_bind h
    refine ⟨found, hfound, mapM_ok_iff.1 ?_⟩
    split at h
    · next items hitems =>
      cases h
      exact hitems
    · cases h
  · rintro ⟨found, hfound, hitems⟩
    have hread := mapM_ok_iff.2 hitems
    simp only [hfound, bind, Except.bind]
    split
    · next items h =>
      rw [hread] at h
      cases h
      rfl
    · next fault h =>
      rw [hread] at h
      cases h

/-- The entries that are read are printed as the text they were read from. -/
theorem printedItems_of_ofStripped {cs : List Char} {spec : ColumnSpec}
    (h : ofStripped cs = .ok spec) : (printedItems spec.items).toList = cs := by
  by_cases hne : cs = []
  · subst hne
    cases h
    rfl
  · obtain ⟨found, hfound, hitems⟩ := (ofStripped_iff hne).1 h
    have htokens : spec.items.map (fun i => i.printed.toList) = found := by
      generalize spec.items = items at hitems
      clear hfound
      induction hitems with
      | nil => rfl
      | cons hi _ ih => rw [List.map_cons, ih, printed_of_item hi]
    rw [toList_printedItems, htokens]
    exact (intercalate_tokens hfound).2

/-- A text of the grammar is not empty: the empty text has an empty token. -/
theorem ne_nil_of_specText {cs : List Char} (h : SpecText cs) : cs ≠ [] := by
  obtain ⟨entries, hne, hentries, rfl⟩ := h
  intro hnil
  have htokens := tokens_intercalate hne hentries
  rw [hnil] at htokens
  cases htokens

/-- Well-formed entries are read back from their printed form. -/
theorem ofStripped_printedItems {items : List SpecItem} (hne : items ≠ [])
    (hwell : ∀ i ∈ items, i.WellFormed) :
    ofStripped (printedItems items).toList = .ok ⟨items, hwell⟩ := by
  refine (ofStripped_iff (ne_nil_of_specText (specText_iff.2 ⟨items, hne, hwell, rfl⟩))).2
    ⟨items.map fun i => i.printed.toList, ?_, ?_⟩
  · rw [toList_printedItems]
    refine tokens_intercalate (by simpa using hne) fun entry hmem => ?_
    obtain ⟨i, hi, rfl⟩ := List.mem_map.1 hmem
    exact itemText_iff.2 ⟨i, hwell i hi, rfl⟩
  · rw [List.forall₂_map_left_iff, List.forall₂_same]
    exact fun i hi => item_printed (hwell i hi)

/-- Reading succeeds on the empty text and on the texts of the grammar, and on no others. -/
theorem ofStripped_ok_iff {cs : List Char} :
    (∃ spec, ofStripped cs = .ok spec) ↔ cs = [] ∨ SpecText cs := by
  constructor
  · rintro ⟨spec, h⟩
    by_cases hne : cs = []
    · exact Or.inl hne
    · have hprinted := printedItems_of_ofStripped h
      refine Or.inr (specText_iff.2 ⟨spec.items, ?_, spec.wellFormed, hprinted⟩)
      rintro hnil
      rw [hnil] at hprinted
      exact hne hprinted.symm
  · rintro (rfl | h)
    · exact ⟨empty, rfl⟩
    · obtain ⟨items, hne, hwell, rfl⟩ := specText_iff.1 h
      exact ⟨⟨items, hwell⟩, ofStripped_printedItems hne hwell⟩

end ColumnSpec

/-- The second text is the first one with blanks put in anywhere. -/
inductive Spaced : List Char → List Char → Prop where
  /-- Nothing is put in. -/
  | nil : Spaced [] []
  /-- A character of the text. -/
  | keep (c : Char) {cs ds : List Char} (h : Spaced cs ds) : Spaced (c :: cs) (c :: ds)
  /-- A blank that is put in. -/
  | blank {c : Char} {cs ds : List Char} (hc : isBlank c = true) (h : Spaced cs ds) :
      Spaced cs (c :: ds)

/-- A text without blanks is what is left when blanks that were put in are dropped. -/
theorem Spaced.filter_eq {cs ds : List Char} (h : Spaced cs ds)
    (hcs : ∀ c ∈ cs, isBlank c = false) : ds.filter (fun c => !isBlank c) = cs := by
  induction h with
  | nil => rfl
  | keep c _ ih =>
    obtain ⟨hc, hrest⟩ := List.forall_mem_cons.1 hcs
    rw [List.filter_cons, hc, ih hrest]
    rfl
  | blank hc _ ih =>
    rw [List.filter_cons, hc, ih hcs]
    rfl

/-- A blank does not stand in an entry. -/
theorem ItemText.notMem_of_isBlank {cs : List Char} (h : ItemText cs) {c : Char}
    (hc : isBlank c = true) : c ∉ cs := by
  have hpart := isIdentifierPart_of_isBlank hc
  have hother : ∀ d, isBlank d = false → c ≠ d := by
    rintro d hd rfl
    rw [hc] at hd
    cases hd
  cases h with
  | star => simpa using hother '*' (by decide)
  | column hname => exact notMem_of_nameText hname hpart (hother '.' (by decide))
  | join hkey htable hto hcolumns =>
    have hcomma : c ∉ [','] := by simpa using hother ',' (by decide)
    have hinner := notMem_intercalate hcomma fun column hmem =>
      notMem_of_isIdentifierChars (hcolumns column hmem) hpart
    simp only [List.mem_append, List.mem_cons, List.not_mem_nil, not_or, or_false]
    exact ⟨notMem_of_isIdentifierChars hkey hpart, hother '-' (by decide), hother '>' (by decide),
      notMem_of_nameText htable hpart (hother '.' (by decide)), hother '(' (by decide),
      notMem_of_isIdentifierChars hto hpart, hother ')' (by decide), hother '\x7b' (by decide),
      hinner, hother '\x7d' (by decide)⟩

/-- Blanks that were put into a text of the grammar are dropped again. -/
theorem strip_of_spaced {cs : List Char} {s : String} (h : SpecText cs)
    (hs : Spaced cs s.toList) : (strip s).toList = cs := by
  rw [strip, String.toList_ofList]
  refine hs.filter_eq fun c hmem => ?_
  by_contra hc
  rw [Bool.not_eq_false] at hc
  obtain ⟨entries, -, hentries, rfl⟩ := h
  have hcomma : c ∉ [','] := by
    rw [List.mem_singleton]
    rintro rfl
    revert hc
    decide
  exact notMem_intercalate hcomma (fun entry he => (hentries entry he).notMem_of_isBlank hc) hmem

namespace ColumnSpec

/-- A spec is read exactly where its text without blanks is. -/
theorem parse_ok_iff {s : String} {spec : ColumnSpec} :
    parse s = .ok spec ↔ ofStripped (strip s).toList = .ok spec := by
  rw [parse]
  cases ofStripped (strip s).toList with
  | ok found => simp
  | error fault => simp

/-- A spec that cannot be read is malformed, and the error holds its text without blanks. -/
theorem parse_error {s : String} (h : ¬ ∃ spec, parse s = .ok spec) :
    ∃ fault, parse s = .error (.malformedSpec (strip s) fault) := by
  rw [parse] at h ⊢
  cases hread : ofStripped (strip s).toList with
  | ok found =>
    rw [hread] at h
    exact absurd ⟨found, rfl⟩ h
  | error fault => exact ⟨fault, rfl⟩

/-- The reader of column specs accepts exactly their grammar and loses nothing but blanks: what it
reads is printed as the text without blanks, well-formed entries are read back from their printed
form with blanks anywhere in it, and every other text is malformed. -/
theorem parse_grammar (s : String) :
    ((∃ spec, parse s = .ok spec) ↔ strip s = "" ∨ SpecText (strip s).toList) ∧
      (strip s = "" → parse s = .ok empty) ∧
      (∀ spec, parse s = .ok spec → printedItems spec.items = strip s) ∧
      (∀ (items : List SpecItem) (hwell : ∀ i ∈ items, i.WellFormed), items ≠ [] →
        Spaced (printedItems items).toList s.toList → parse s = .ok ⟨items, hwell⟩) ∧
      (¬ (strip s = "" ∨ SpecText (strip s).toList) →
        ∃ fault, parse s = .error (.malformedSpec (strip s) fault)) := by
  have haccepts : (∃ spec, parse s = .ok spec) ↔ strip s = "" ∨ SpecText (strip s).toList := by
    rw [exists_congr fun spec => parse_ok_iff, ofStripped_ok_iff, String.toList_eq_nil_iff]
  refine ⟨haccepts, fun hempty => ?_, fun spec h => ?_, fun items hwell hne hspaced => ?_,
    fun h => parse_error (mt haccepts.1 h)⟩
  · rw [parse_ok_iff, hempty]
    rfl
  · exact String.toList_inj.1 (printedItems_of_ofStripped (parse_ok_iff.1 h))
  · have htext := specText_iff.2 ⟨items, hne, hwell, rfl⟩
    rw [parse_ok_iff, strip_of_spaced htext hspaced]
    exact ofStripped_printedItems hne hwell

/-- Blanks may stand inside of names and arrows too. -/
example : (parse "id, owner - > core.person (key) \x7bna me,age\x7d").toOption.map items =
    some [.column "id", .join ⟨"core.person", "owner", "key", ["name", "age"]⟩] := by
  decide +kernel

end ColumnSpec

end TableQuery
