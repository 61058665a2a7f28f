import Mathlib.Data.List.TakeWhile
import TableQuery.Text.Basic

/-!
# Cuts that find what was joined

A text is cut where the first character of the pattern stands for the first time, and splitting at a
character undoes joining with it. Two texts that are joined around a character agree if their parts
do, or if one part goes on behind the character.
-/

namespace TableQuery.Text

/-- A text without the first character of a pattern is not cut. -/
theorem cutAt_eq_none {p : Char} {ps cs : List Char} (h : p ∉ cs) : cutAt (p :: ps) cs = none := by
  induction cs with
  | nil => rfl
  | cons c cs ih =>
    rw [List.mem_cons, not_or] at h
    have hprefix : (p :: ps).isPrefixOf (c :: cs) = false := by simp [List.isPrefixOf, h.1]
    rw [cutAt, hprefix, if_neg (by decide), ih h.2]
    rfl

/-- A text is cut at a pattern whose first character does not stand before it. -/
theorem cutAt_append {p : Char} (ps : List Char) {before : List Char} (h : p ∉ before)
    (after : List Char) :
    cutAt (p :: ps) (before ++ p :: (ps ++ after)) = some (before, after) := by
  induction before with
  | nil =>
    have hprefix : (p :: ps).isPrefixOf (p :: (ps ++ after)) = true :=
      List.isPrefixOf_iff_prefix.2 (List.prefix_append (p :: ps) after)
    rw [List.nil_append, cutAt, if_pos hprefix]
    simp
  | cons c before ih =>
    rw [List.mem_cons, not_or] at h
    have hprefix : (p :: ps).isPrefixOf (c :: (before ++ p :: (ps ++ after))) = false := by
      simp [List.isPrefixOf, h.1]
    rw [List.cons_append, cutAt, hprefix, if_neg (by decide), ih h.2]
    rfl

/-- A text is cut at a character exactly where this stands for the first time. -/
theorem cutAt_singleton_iff {p : Char} {cs before after : List Char} :
    cutAt [p] cs = some (before, after) ↔ cs = before ++ p :: after ∧ p ∉ before := by
  constructor
  · intro h
    by_cases hmem : p ∈ cs
    · obtain ⟨front, behind, rfl, hfront⟩ := List.eq_append_cons_of_mem hmem
      have hcut : cutAt [p] (front ++ p :: behind) = some (front, behind) :=
        cutAt_append [] hfront behind
      cases hcut.symm.trans h
      exact ⟨rfl, hfront⟩
    · rw [cutAt_eq_none hmem] at h
      cases h
  · rintro ⟨rfl, hbefore⟩
    exact cutAt_append [] hbefore after

/-- A text between two delimiters is found. -/
theorem between?_append (first last : Char) (inner : List Char) :
    between? first last (first :: (inner ++ [last])) = some inner := by
  simp [between?]

/-- What is found between two delimiters stands between them. -/
theorem eq_of_between? {first last : Char} {cs inner : List Char}
    (h : between? first last cs = some inner) : cs = first :: (inner ++ [last]) := by
  cases cs with
  | nil => cases h
  | cons c cs =>
    simp only [between?] at h
    split at h
    · next hfirst =>
      split at h
      · cases h
      · next d found hreverse =>
        split at h
        · next hlast =>
          cases h
          have hcs := congrArg List.reverse hreverse
          rw [List.reverse_reverse, List.reverse_cons] at hcs
          rw [hcs, hfirst, hlast]
        · cases h
    · cases h

/-- A run of some kind of characters ends where another one stands. -/
theorem run_append {p : Char → Bool} {run rest : List Char} (h : ∀ c ∈ run, p c = true)
    (hrest : ∀ c ∈ rest.head?, p c = false) :
    (run ++ rest).takeWhile p = run ∧ (run ++ rest).dropWhile p = rest := by
  have hstop : rest.takeWhile p = [] ∧ rest.dropWhile p = rest := by
    cases rest with
    | nil => exact ⟨rfl, rfl⟩
    | cons c rest =>
      have hc : p c = false := hrest c rfl
      simp [hc]
  rw [List.takeWhile_append_of_pos h, List.dropWhile_append_of_pos h, hstop.1, hstop.2,
    List.append_nil]
  exact ⟨rfl, rfl⟩

/-- The run at the beginning of a text goes on until another kind of character or the end. -/
theorem takeWhile_eq_iff {p : Char → Bool} {cs run : List Char} :
    cs.takeWhile p = run ↔
      ∃ rest, cs = run ++ rest ∧ (∀ c ∈ run, p c = true) ∧ ∀ c ∈ rest.head?, p c = false := by
  constructor
  · rintro rfl
    refine ⟨cs.dropWhile p, List.takeWhile_append_dropWhile.symm, fun c hc =>
      List.mem_takeWhile_imp hc, fun c hc => ?_⟩
    have hstop := List.head?_dropWhile_not p cs
    rw [Option.mem_def.1 hc] at hstop
    simpa using hstop
  · rintro ⟨rest, rfl, hrun, hrest⟩
    exact (run_append hrun hrest).1

/-- A character in front of the first piece stands in front of all of them. -/
theorem intercalate_cons_head (separator : List Char) (c : Char) (piece : List Char)
    (pieces : List (List Char)) :
    separator.intercalate ((c :: piece) :: pieces) =
      c :: separator.intercalate (piece :: pieces) := by
  cases pieces with
  | nil => rw [List.intercalate_singleton, List.intercalate_singleton]
  | cons next pieces =>
    rw [List.intercalate_cons_cons, List.intercalate_cons_cons]
    rfl

/-- The pieces of a text, joined again, are the text. -/
theorem intercalate_splitAt (separator : Char) (cs : List Char) :
    [separator].intercalate (splitAt separator cs) = cs := by
  induction cs with
  | nil => rfl
  | cons c cs ih =>
    rw [splitAt]
    split
    · next hc =>
      cases hs : splitAt separator cs with
      | nil => exact absurd hs (splitAt_ne_nil separator cs)
      | cons piece pieces =>
        rw [hs] at ih
        rw [List.intercalate_cons_cons, ih, hc]
        rfl
    · cases hs : splitAt separator cs with
      | nil => exact absurd hs (splitAt_ne_nil separator cs)
      | cons piece pieces =>
        rw [hs] at ih
        exact (intercalate_cons_head _ c piece pieces).trans (congrArg (c :: ·) ih)

/-- Apart from what the separator holds, the joined text holds what the pieces hold. -/
theorem mem_intercalate_iff {separator : List Char} {pieces : List (List Char)} {c : Char}
    (hseparator : c ∉ separator) :
    c ∈ separator.intercalate pieces ↔ ∃ piece ∈ pieces, c ∈ piece := by
  induction pieces with
  | nil => simp
  | cons piece pieces ih =>
    cases pieces with
    | nil => simp
    | cons next pieces =>
      rw [List.intercalate_cons_cons, List.mem_append, List.mem_append, ih,
        or_iff_left hseparator]
      simp

/-- What neither the pieces nor the separator hold is not in the joined text. -/
theorem notMem_intercalate {separator : List Char} {pieces : List (List Char)} {c : Char}
    (hseparator : c ∉ separator) (h : ∀ piece ∈ pieces, c ∉ piece) :
    c ∉ separator.intercalate pieces := by
  rw [mem_intercalate_iff hseparator]
  rintro ⟨piece, hpiece, hc⟩
  exact h piece hpiece hc

/-- In front of other pieces, every piece has a separator behind it. -/
theorem intercalate_append_of_ne_nil (separator : List Char) (before : List (List Char))
    {after : List (List Char)} (hne : after ≠ []) :
    separator.intercalate (before ++ after) =
      before.flatMap (· ++ separator) ++ separator.intercalate after := by
  induction before with
  | nil => rfl
  | cons piece before ih =>
    have hmore : before ++ after ≠ [] := List.append_ne_nil_of_right_ne_nil before hne
    rw [List.cons_append, List.intercalate_cons_of_ne_nil hmore, ih, List.flatMap_cons,
      List.append_assoc (piece ++ separator)]

/-- Behind the first piece, every piece has a separator in front of it. -/
theorem intercalate_cons (separator piece : List Char) (pieces : List (List Char)) :
    separator.intercalate (piece :: pieces) = piece ++ pieces.flatMap (separator ++ ·) := by
  induction pieces generalizing piece with
  | nil => simp
  | cons next pieces ih =>
    rw [List.intercalate_cons_cons, ih, List.flatMap_cons]
    simp only [List.append_assoc]

/-- Characters are dropped from a joined text as from the pieces and the separator. -/
theorem filter_intercalate (p : Char → Bool) (separator : List Char)
    (pieces : List (List Char)) :
    (separator.intercalate pieces).filter p =
      (separator.filter p).intercalate (pieces.map (List.filter p)) := by
  induction pieces with
  | nil => rfl
  | cons piece pieces ih =>
    cases pieces with
    | nil => simp
    | cons next pieces =>
      rw [List.intercalate_cons_cons, List.filter_append, List.filter_append, ih, List.map_cons,
        List.map_cons, List.map_cons, List.intercalate_cons_cons]

/-- A text without the separator is one piece. -/
theorem splitAt_of_notMem {separator : Char} {cs : List Char} (h : separator ∉ cs) :
    splitAt separator cs = [cs] := by
  induction cs with
  | nil => rfl
  | cons c cs ih =>
    rw [List.mem_cons, not_or] at h
    rw [splitAt, if_neg (Ne.symm h.1), ih h.2]

/-- Two texts around the separator have the pieces of both. -/
theorem splitAt_append_cons (separator : Char) (before after : List Char) :
    splitAt separator (before ++ separator :: after) =
      splitAt separator before ++ splitAt separator after := by
  induction before with
  | nil => simp [splitAt]
  | cons c before ih =>
    rw [List.cons_append, splitAt, splitAt, ih]
    split
    · rfl
    · cases hpieces : splitAt separator before with
      | nil => exact absurd hpieces (splitAt_ne_nil separator before)
      | cons piece pieces => rfl

/-- The first piece ends where the separator stands for the first time. -/
theorem splitAt_append {separator : Char} {piece : List Char} (h : separator ∉ piece)
    (rest : List Char) :
    splitAt separator (piece ++ separator :: rest) = piece :: splitAt separator rest := by
  rw [splitAt_append_cons, splitAt_of_notMem h, List.singleton_append]

/-- A text and its first piece begin with the same run of characters other than the separator. -/
theorem takeWhile_of_splitAt {p : Char → Bool} {separator : Char} (hp : p separator = false)
    {cs piece : List Char} {pieces : List (List Char)}
    (h : splitAt separator cs = piece :: pieces) : piece.takeWhile p = cs.takeWhile p := by
  induction cs generalizing piece pieces with
  | nil =>
    cases h
    rfl
  | cons c cs ih =>
    rw [splitAt] at h
    split at h
    · next hc =>
      cases h
      rw [hc, List.takeWhile_cons_of_neg (by simp [hp])]
      rfl
    · cases hs : splitAt separator cs with
      | nil => exact absurd hs (splitAt_ne_nil separator cs)
      | cons first rest =>
        rw [hs] at h
        cases h
        rw [List.takeWhile_cons, List.takeWhile_cons, ih hs]

/-- Splitting a joined text splits what was joined. -/
theorem splitAt_intercalate_eq_flatMap (separator : Char) {pieces : List (List Char)}
    (hne : pieces ≠ []) :
    splitAt separator ([separator].intercalate pieces) =
      pieces.flatMap (splitAt separator) := by
  induction pieces with
  | nil => exact absurd rfl hne
  | cons piece pieces ih =>
    cases pieces with
    | nil => simp
    | cons next pieces =>
      rw [List.intercalate_cons_cons, List.append_assoc, List.singleton_append,
        splitAt_append_cons, ih (List.cons_ne_nil _ _), ← List.flatMap_cons]

/-- Splitting undoes joining pieces that do not hold the separator. -/
theorem splitAt_intercalate {separator : Char} {pieces : List (List Char)} (hne : pieces ≠ [])
    (h : ∀ piece ∈ pieces, separator ∉ piece) :
    splitAt separator ([separator].intercalate pieces) = pieces := by
  have hpieces : pieces.map (splitAt separator) = pieces.map fun piece => [piece] :=
    List.map_congr_left fun piece hpiece => splitAt_of_notMem (h piece hpiece)
  rw [splitAt_intercalate_eq_flatMap separator hne, List.flatMap_def, hpieces, ← List.flatMap_def,
    List.flatMap_singleton']

/-- A text without the separator is joined from itself only. -/
theorem eq_singleton_of_intercalate_eq {separator : Char} {pieces : List (List Char)}
    {cs : List Char} (hne : pieces ≠ []) (h : [separator].intercalate pieces = cs)
    (hcs : separator ∉ cs) : pieces = [cs] := by
  cases pieces with
  | nil => exact absurd rfl hne
  | cons piece pieces =>
    cases pieces with
    | nil => rw [← h, List.intercalate_singleton]
    | cons next pieces =>
      rw [← h, List.intercalate_cons_cons] at hcs
      exact absurd (by simp) hcs

/-- Two texts that are joined around a sign are equal if their parts are, or if one goes on into the
part behind the sign of the other. -/
theorem append_cons_eq_append_cons_iff {α : Type} {x : α} {s t c d : List α} :
    s ++ x :: c = t ++ x :: d ↔
      (s = t ∧ c = d) ∨ (∃ middle, t = s ++ x :: middle ∧ c = middle ++ x :: d) ∨
        ∃ middle, s = t ++ x :: middle ∧ d = middle ++ x :: c := by
  constructor
  · intro h
    rcases List.append_eq_append_iff.1 h with ⟨more, ht, hc⟩ | ⟨more, hs, hd⟩
    · cases more with
      | nil =>
        rw [List.append_nil] at ht
        exact .inl ⟨ht.symm, (List.cons.inj hc).2⟩
      | cons y middle =>
        obtain ⟨rfl, hbehind⟩ := List.cons.inj hc
        exact .inr (.inl ⟨middle, ht, hbehind⟩)
    · cases more with
      | nil =>
        rw [List.append_nil] at hs
        exact .inl ⟨hs, (List.cons.inj hd).2.symm⟩
      | cons y middle =>
        obtain ⟨rfl, hbehind⟩ := List.cons.inj hd
        exact .inr (.inr ⟨middle, hs, hbehind⟩)
  · rintro (⟨rfl, rfl⟩ | ⟨middle, rfl, rfl⟩ | ⟨middle, rfl, rfl⟩) <;> simp

end TableQuery.Text
