import Mathlib.Data.List.DropRight
import TableQuery.Text.Basic

/-!
# Blanks in texts

What trimming drops, and where the words of a text end.
-/

/-!
## Trimmed texts

Trimming drops the blanks at the two ends of a text and nothing else, so that a text that was
trimmed at its end already is trimmed to the same text.
-/

namespace TableQuery.Text

/-- Only the blanks behind the last character that is not blank are dropped at the end. -/
theorem trimEnd_append_cons {c : Char} (h : isBlank c = false) (before after : List Char) :
    trimEnd (before ++ c :: after) = before ++ c :: trimEnd after := by
  have hreverse : (before ++ c :: after).reverse = after.reverse ++ c :: before.reverse := by simp
  have hstop : (c :: before.reverse).dropWhile isBlank = c :: before.reverse :=
    List.dropWhile_cons_of_neg (by rw [h]; decide)
  rw [trimEnd, trimEnd, hreverse, List.dropWhile_append, hstop]
  split
  · next hblank =>
    rw [List.isEmpty_iff.1 hblank]
    simp
  · simp

/-- A text that begins with a character that is not blank is trimmed at its end only. -/
theorem trimChars_cons {c : Char} (h : isBlank c = false) (cs : List Char) :
    trimChars (c :: cs) = c :: trimEnd cs := by
  have hstart : trimStart (c :: cs) = c :: cs :=
    List.dropWhile_cons_of_neg (by rw [h]; decide)
  rw [trimChars, hstart]
  exact trimEnd_append_cons h [] cs

/-- The text neither begins nor ends with a blank. -/
def Trimmed (cs : List Char) : Prop :=
  (∀ c ∈ cs.head?, isBlank c = false) ∧ ∀ c ∈ cs.getLast?, isBlank c = false

/-- A trimmed text has no blanks to lose. -/
theorem Trimmed.trimChars_eq {cs : List Char} (h : Trimmed cs) : trimChars cs = cs := by
  have hstart : trimStart cs = cs := by
    rw [trimStart, List.dropWhile_eq_self_iff]
    intro hne
    rw [h.1 cs[0] (by rw [List.head?_eq_getElem?, List.getElem?_eq_getElem hne]; rfl)]
    decide
  have hend : trimEnd cs = cs := by
    refine List.rdropWhile_eq_self_iff.2 fun hne => ?_
    rw [h.2 _ (List.getLast_mem_getLast? hne)]
    decide
  rw [trimChars, hstart, hend]

/-- A text without blanks is trimmed. -/
theorem trimmed_of_notBlank {cs : List Char} (h : ∀ c ∈ cs, isBlank c = false) : Trimmed cs :=
  ⟨fun c hc => h c (List.mem_of_head? hc), fun c hc => h c (List.mem_of_getLast? hc)⟩

/-- Blanks at the end of a text are dropped. -/
theorem trimEnd_append_blanks (cs : List Char) {blanks : List Char}
    (h : ∀ c ∈ blanks, isBlank c = true) : trimEnd (cs ++ blanks) = trimEnd cs := by
  have hreverse : ∀ c ∈ blanks.reverse, isBlank c = true := fun c hc =>
    h c (List.mem_reverse.1 hc)
  rw [trimEnd, trimEnd, List.reverse_append, List.dropWhile_append_of_pos hreverse]

/-- Blanks in front of a text are dropped. -/
theorem trimChars_blanks_append (cs : List Char) {blanks : List Char}
    (h : ∀ c ∈ blanks, isBlank c = true) : trimChars (blanks ++ cs) = trimChars cs := by
  rw [trimChars, trimChars, trimStart, trimStart, List.dropWhile_append_of_pos h]

/-- A character stays at the end of a text unless only blanks stand behind it. -/
theorem trimEnd_cons (c : Char) (cs : List Char) :
    trimEnd (c :: cs) = if trimEnd cs = [] then trimEnd [c] else c :: trimEnd cs := by
  have hnil : trimEnd cs = [] ↔ (cs.reverse.dropWhile isBlank).isEmpty = true := by
    rw [trimEnd, List.reverse_eq_nil_iff, List.isEmpty_iff]
  rw [trimEnd, List.reverse_cons, List.dropWhile_append]
  split
  · next hblank => rw [if_pos (hnil.2 hblank), trimEnd, List.reverse_singleton]
  · next hblank =>
    rw [if_neg (mt hnil.1 hblank), List.reverse_append, List.reverse_singleton, trimEnd,
      List.singleton_append]

/-- A text that was trimmed at its end is trimmed to the same text. -/
theorem trimChars_trimEnd (cs : List Char) : trimChars (trimEnd cs) = trimChars cs := by
  induction cs with
  | nil => rfl
  | cons c cs ih =>
    by_cases hc : isBlank c = true
    · have hstart : ∀ rest, trimChars (c :: rest) = trimChars rest := fun rest =>
        congrArg trimEnd (List.dropWhile_cons_of_pos hc)
      have hblank : trimEnd [c] = [] := congrArg List.reverse (List.dropWhile_cons_of_pos hc)
      rw [hstart, ← ih, trimEnd_cons, hblank]
      split
      · next hrest => rw [hrest]
      · rw [hstart]
    · have hc : isBlank c = false := Bool.eq_false_iff.2 hc
      have hend : trimEnd (c :: cs) = c :: trimEnd cs := trimEnd_append_cons hc [] cs
      have htwice : trimEnd (trimEnd cs) = trimEnd cs := List.rdropWhile_idempotent isBlank cs
      rw [hend, trimChars_cons hc, trimChars_cons hc, htwice]

/-- Of a trimmed text between blanks the text is left. -/
theorem trimChars_between {before cs after : List Char} (hbefore : ∀ c ∈ before, isBlank c = true)
    (h : Trimmed cs) (hafter : ∀ c ∈ after, isBlank c = true) :
    trimChars (before ++ (cs ++ after)) = cs :=
  calc trimChars (before ++ (cs ++ after))
    _ = trimChars (cs ++ after) := trimChars_blanks_append _ hbefore
    _ = trimChars (trimEnd (cs ++ after)) := (trimChars_trimEnd _).symm
    _ = trimChars (trimEnd cs) := by rw [trimEnd_append_blanks cs hafter]
    _ = trimChars cs := trimChars_trimEnd cs
    _ = cs := h.trimChars_eq

/-- A text is what trimming leaves of it, with blanks around that. -/
theorem exists_blanks (cs : List Char) : ∃ before after, cs = before ++ (trimChars cs ++ after) ∧
    (∀ c ∈ before, isBlank c = true) ∧ ∀ c ∈ after, isBlank c = true := by
  have hend : trimChars cs ++ (trimStart cs).rtakeWhile isBlank = trimStart cs :=
    List.rdropWhile_append_rtakeWhile
  refine ⟨cs.takeWhile isBlank, (trimStart cs).rtakeWhile isBlank, ?_, fun c hc =>
    List.mem_takeWhile_imp hc, fun c hc => List.mem_rtakeWhile_imp hc⟩
  rw [hend]
  exact List.takeWhile_append_dropWhile.symm

/-- A digit is not blank. -/
theorem isBlank_of_isDigit {c : Char} (h : c.isDigit = true) : isBlank c = false := by
  have hrange : 48 ≤ c.toNat ∧ c.toNat ≤ 57 := Char.isDigit_iff_toNat.1 h
  refine Bool.eq_false_iff.2 fun hblank => ?_
  simp only [isBlank, Bool.or_eq_true, Bool.and_eq_true, decide_eq_true_eq, beq_iff_eq] at hblank
  omega

/-!
## The words of a text

What it means for a text to consist of given words, said without the reader that finds them: words
hold no blank and are not empty, blanks stand around them, and between two of them at least one.
-/

/-- A text consists of words with blanks around them. -/
inductive Words : List Char → List (List Char) → Prop where
  /-- Blanks alone hold no word. -/
  | blank {cs : List Char} (hblank : ∀ c ∈ cs, isBlank c = true) : Words cs []
  /-- A word behind blanks. A blank or the end of the text stands behind it. -/
  | word {before word after : List Char} {rest : List (List Char)}
      (hbefore : ∀ c ∈ before, isBlank c = true) (hne : word ≠ [])
      (hword : ∀ c ∈ word, isBlank c = false) (hend : after.head?.all isBlank = true)
      (hrest : Words after rest) : Words (before ++ (word ++ after)) (word :: rest)

/-- A blank in front of a text is no part of its words. -/
theorem Words.cons_blank {cs : List Char} {ws : List (List Char)} (h : Words cs ws) {c : Char}
    (hc : isBlank c = true) : Words (c :: cs) ws := by
  cases h with
  | blank hblank => exact .blank (List.forall_mem_cons.2 ⟨hc, hblank⟩)
  | word hbefore hne hword hend hrest =>
    rw [← List.cons_append]
    exact .word (List.forall_mem_cons.2 ⟨hc, hbefore⟩) hne hword hend hrest

/-- Blanks in front of a text are skipped. -/
theorem words_append_of_blank {before : List Char} (h : ∀ c ∈ before, isBlank c = true)
    (cs : List Char) : words (before ++ cs) = words cs := by
  induction before with
  | nil => rfl
  | cons c before ih =>
    obtain ⟨hc, hbefore⟩ := List.forall_mem_cons.1 h
    rw [List.cons_append, words, wordsFrom, if_pos hc]
    exact ih hbefore

/-- A word that was begun grows by characters that are not blank. -/
theorem wordsFrom_append {word : List Char} (h : ∀ c ∈ word, isBlank c = false)
    (begun cs : List Char) :
    wordsFrom begun (word ++ cs) = wordsFrom (word.reverse ++ begun) cs := by
  induction word generalizing begun with
  | nil => rfl
  | cons c word ih =>
    obtain ⟨hc, hword⟩ := List.forall_mem_cons.1 h
    rw [List.cons_append, wordsFrom, if_neg (by rw [hc]; decide), ih hword]
    simp

/-- A word that was begun ends at a blank and at the end of the text. -/
theorem wordsFrom_of_end {begun cs : List Char} (hne : begun ≠ [])
    (h : cs.head?.all isBlank = true) : wordsFrom begun cs = begun.reverse :: words cs := by
  have hbegun : begun.isEmpty = false := List.isEmpty_eq_false_iff.2 hne
  cases cs with
  | nil => rw [wordsFrom, hbegun, if_neg (by decide)]; rfl
  | cons c cs =>
    have hc : isBlank c = true := h
    rw [wordsFrom, if_pos hc, hbegun, if_neg (by decide), words, wordsFrom, if_pos hc]
    rfl

/-- The reader finds the words that a text consists of. -/
theorem Words.words_eq {cs : List Char} {ws : List (List Char)} (h : Words cs ws) :
    words cs = ws := by
  induction h with
  | blank hblank =>
    have hskip := words_append_of_blank hblank []
    rwa [List.append_nil] at hskip
  | @word before word after rest hbefore hne hword hend hrest ih =>
    have hreverse : word.reverse ++ [] ≠ [] := by simpa using hne
    rw [words_append_of_blank hbefore, words, wordsFrom_append hword,
      wordsFrom_of_end hreverse hend, ih]
    simp

/-- A word that was begun is a word of the text if it ends there. -/
theorem Words.begun {begun cs : List Char} (h : ∀ c ∈ begun, isBlank c = false) (hne : begun ≠ [])
    (hend : cs.head?.all isBlank = true) (hrest : Words cs (words cs)) :
    Words (begun.reverse ++ cs) (wordsFrom begun cs) := by
  rw [wordsFrom_of_end hne hend]
  refine @Words.word [] begun.reverse cs _ (List.forall_mem_nil _) (by simpa using hne) ?_ hend
    hrest
  intro c hc
  exact h c (List.mem_reverse.1 hc)

/-- A text consists of the words that are found after some characters of a word were read. -/
theorem words_wordsFrom {begun : List Char} (h : ∀ c ∈ begun, isBlank c = false)
    (cs : List Char) : Words (begun.reverse ++ cs) (wordsFrom begun cs) := by
  induction cs generalizing begun with
  | nil =>
    have hnone : Words [] [] := .blank (List.forall_mem_nil _)
    by_cases hne : begun = []
    · rw [hne]
      exact hnone
    · exact Words.begun h hne rfl hnone
  | cons c cs ih =>
    by_cases hc : isBlank c = true
    · have hskip : Words (c :: cs) (words (c :: cs)) := by
        rw [words, wordsFrom, if_pos hc]
        exact (ih (List.forall_mem_nil _)).cons_blank hc
      by_cases hne : begun = []
      · rw [hne]
        exact hskip
      · exact Words.begun h hne hc hskip
    · have hgrown := ih (List.forall_mem_cons.2 ⟨Bool.eq_false_iff.2 hc, h⟩)
      rw [wordsFrom, if_neg hc]
      simpa using hgrown

/-- A text consists of words exactly if the reader finds them. -/
theorem words_iff {cs : List Char} {ws : List (List Char)} : Words cs ws ↔ words cs = ws := by
  constructor
  · exact Words.words_eq
  · rintro rfl
    exact words_wordsFrom (List.forall_mem_nil _) cs

end TableQuery.Text
