import Mathlib.Data.Finset.Card
import Mathlib.Data.Set.Card
import TableQuery.Proofs.Sql.Numbering
import TableQuery.Proofs.Text.Bytes
import TableQuery.Proofs.Text.Cut

/-!
# Placeholders found byte by byte

The numbers of placeholders are looked for along the bytes of a statement. Whatever the text is,
every position that a number is cut out between lies between two characters, and what is found are
the runs of digits directly behind the dollar signs. The same numbers are found in the pieces of the
text between its dollar signs.
-/

namespace TableQuery

open TableQuery.Text

/-- Without duplicates nothing stands twice. -/
theorem nodup_eraseDups {α : Type} [BEq α] [LawfulBEq α] (entries : List α) :
    entries.eraseDups.Nodup := by
  match entries with
  | [] => exact List.nodup_nil
  | a :: rest =>
    have hfirst : a ∉ (rest.filter fun b => !b == a).eraseDups := by
      simp [List.mem_eraseDups, List.mem_filter]
    rw [List.eraseDups_cons]
    exact List.nodup_cons.2 ⟨hfirst, nodup_eraseDups (rest.filter fun b => !b == a)⟩
termination_by entries.length
decreasing_by exact Nat.lt_succ_of_le (List.length_filter_le _ _)

/-- The entries that are left without duplicates are as many as there are different ones. -/
theorem length_eraseDups {α : Type} [BEq α] [LawfulBEq α] [DecidableEq α] (entries : List α) :
    entries.eraseDups.length = entries.toFinset.card := by
  rw [← List.toFinset_card_of_nodup (nodup_eraseDups entries)]
  congr 1
  ext a
  rw [List.mem_toFinset, List.mem_toFinset, List.mem_eraseDups]

/-- Entries that are renamed one to one have as many different ones as before. -/
theorem length_eraseDups_map {α β : Type} [BEq α] [LawfulBEq α] [DecidableEq α] [BEq β]
    [LawfulBEq β] [DecidableEq β] {f : α → β} (hf : f.Injective) (entries : List α) :
    (entries.map f).eraseDups.length = entries.eraseDups.length := by
  have himage : (entries.map f).toFinset = entries.toFinset.image f := by
    ext b
    simp
  rw [length_eraseDups, length_eraseDups, himage, Finset.card_image_of_injective _ hf]

namespace Statement

/-- The text writes a number directly behind a dollar sign: a run of digits, at least one, that goes
on until a character that is no digit or the end of the text. -/
def HoldsNumber (text number : String) : Prop :=
  number ≠ "" ∧ (∀ c ∈ number.toList, c.isDigit = true) ∧
    ∃ before after : String, text = before ++ "$" ++ number ++ after ∧
      ∀ c ∈ after.toList.head?, c.isDigit = false

/-- The digits at the beginning of each piece behind a dollar sign, where there are some. -/
def splitNumbers (text : String) : List String :=
  (((splitAt '$' text.toList).tail.map fun piece => piece.takeWhile Char.isDigit).filter
    fun digits => !digits.isEmpty).map String.ofList

/-- The runs stand at the beginning of the pieces between the dollar signs, the first piece left
out. -/
theorem dollarRuns_eq_splitAt (cs : List Char) : dollarRuns none cs =
    (splitAt '$' cs).tail.map fun piece => piece.takeWhile Char.isDigit := by
  induction cs with
  | nil => rfl
  | cons c cs ih =>
    cases hs : splitAt '$' cs with
    | nil => exact absurd hs (splitAt_ne_nil '$' cs)
    | cons piece pieces =>
      rw [hs] at ih
      by_cases hc : c = '$'
      · subst hc
        rw [dollarRuns_dollar, splitAt, if_pos rfl, hs, ih, ← takeWhile_of_splitAt (by decide) hs]
        rfl
      · rw [dollarRuns_cons hc, splitAt, if_neg hc, hs, ih]
        rfl

/-- Bytes without a dollar sign are passed over one after the other. -/
theorem numbersFrom?_skip {text : String} {i : ℕ} {skipped rest : List UInt8}
    (h : bytesFrom text i = skipped ++ rest) (hdollar : '$'.toUInt8 ∉ skipped) :
    numbersFrom? text i = numbersFrom? text (i + skipped.length) := by
  induction skipped generalizing i with
  | nil => rfl
  | cons b skipped ih =>
    rw [List.mem_cons, not_or] at hdollar
    by_cases hi : i < text.utf8ByteSize
    · rw [bytesFrom_of_lt hi, List.cons_append, List.cons.injEq] at h
      have hb : ¬text.getUTF8Byte ⟨i⟩ hi = '$'.toUInt8 := by
        rw [h.1]
        exact Ne.symm hdollar.1
      rw [numbersFrom?, dif_pos hi, if_neg hb, ih h.2 hdollar.2, List.length_cons, Nat.add_assoc,
        Nat.add_comm 1]
    · rw [bytesFrom_of_le (Nat.le_of_not_lt hi)] at h
      cases h

/-- Characters other than the dollar sign are passed over, those of several bytes as well. -/
theorem numbersFrom?_append {text : String} {front skipped rest : List Char}
    (h : text.toList = front ++ skipped ++ rest) (hdollar : '$' ∉ skipped) :
    numbersFrom? text (encoded front).length =
      numbersFrom? text (encoded (front ++ skipped)).length := by
  have hbytes : '$'.toUInt8 ∉ encoded skipped := by
    intro hmem
    obtain ⟨c, hc, hb⟩ := List.mem_flatMap.1 hmem
    exact notMem_utf8EncodeChar (by decide) (ne_of_mem_of_not_mem hc hdollar) hb
  rw [List.append_assoc] at h
  have hskipped : bytesFrom text (encoded front).length = encoded skipped ++ encoded rest := by
    rw [bytesFrom_append h, encoded_append]
  rw [encoded_append, List.length_append]
  exact numbersFrom?_skip hskipped hbytes

/-- Behind a dollar sign the digits are taken out of the text, and the search goes on behind them as
it would behind the dollar sign. -/
theorem numbersFrom?_dollar {text : String} {front rest : List Char}
    (h : text.toList = front ++ '$' :: rest) :
    numbersFrom? text (encoded front).length =
      if rest.takeWhile Char.isDigit = [] then
        numbersFrom? text (encoded (front ++ ['$'])).length
      else (numbersFrom? text (encoded (front ++ ['$'])).length).map
        (String.ofList (rest.takeWhile Char.isDigit) :: ·) := by
  have hnext : text.toList = front ++ ['$'] ++ rest := by simpa using h
  obtain ⟨behind, hrest, hdigits, -⟩ := takeWhile_eq_iff.1 (Eq.refl (rest.takeWhile Char.isDigit))
  generalize hrun : rest.takeWhile Char.isDigit = digits at hrest hdigits ⊢
  have htext : text.toList = front ++ ['$'] ++ digits ++ behind := by
    rw [hnext, hrest, List.append_assoc (front ++ ['$'])]
  have hfirst : (encoded (front ++ ['$'])).length = (encoded front).length + 1 :=
    length_encoded_ascii (by decide) front
  have hlength : (encoded (front ++ ['$'] ++ digits)).length =
      (encoded (front ++ ['$'])).length + (encoded digits).length := by
    rw [encoded_append, List.length_append]
  obtain ⟨hi, hbyte⟩ := getUTF8Byte_ascii (by decide) h
  have hlast : digitsEnd text (encoded (front ++ ['$'])).length =
      (encoded (front ++ ['$'] ++ digits)).length := by
    rw [digitsEnd_append hnext, hrun]
  have hskip : numbersFrom? text (encoded (front ++ ['$'] ++ digits)).length =
      numbersFrom? text (encoded (front ++ ['$'])).length :=
    (numbersFrom?_append htext (Decimal.notMem_of_isDigit hdigits (by decide))).symm
  rw [numbersFrom?, dif_pos hi, if_pos hbyte, ← hfirst]
  dsimp only
  rw [hlast, Nat.max_eq_left (by omega), hskip, slice?_of_toList htext]
  by_cases hnone : digits = []
  · rw [if_pos hnone, if_neg]
    rw [hnone, List.append_nil]
    exact lt_irrefl _
  · have hpos := length_encoded_pos hnone
    rw [if_neg hnone, if_pos (by omega)]
    cases numbersFrom? text (encoded (front ++ ['$'])).length <;> rfl

/-- From a position between two characters on, all numbers are found that stand behind the dollar
signs there. -/
theorem numbersFrom?_eq {text : String} {front rest : List Char}
    (h : text.toList = front ++ rest) :
    numbersFrom? text (encoded front).length =
      some (((dollarRuns none rest).filter fun run => !run.isEmpty).map String.ofList) := by
  -- the positions that are visited lie between characters, so the induction is on those ahead
  induction rest generalizing front with
  | nil =>
    have hend : ¬(encoded front).length < text.utf8ByteSize := by
      rw [← length_encoded, h, List.append_nil]
      exact lt_irrefl _
    rw [numbersFrom?, dif_neg hend]
    rfl
  | cons c rest ih =>
    have hnext : text.toList = front ++ [c] ++ rest := by simpa using h
    by_cases hc : c = '$'
    · subst hc
      rw [numbersFrom?_dollar h, ih hnext, dollarRuns_dollar]
      split
      · next hrun => simp [hrun]
      · next hrun => simp [hrun]
    · rw [numbersFrom?_append hnext (by simpa using Ne.symm hc), ih hnext, dollarRuns_cons hc]

/-- The numbers of a text are those at the beginning of its pieces. -/
theorem numbersFrom?_zero (text : String) : numbersFrom? text 0 = some (splitNumbers text) := by
  have hwhole : text.toList = [] ++ text.toList := rfl
  rw [splitNumbers, ← dollarRuns_eq_splitAt]
  exact numbersFrom?_eq hwhole

/-- The numbers in the pieces of a text are the runs of digits directly behind its dollar signs. -/
theorem mem_splitNumbers_iff {text number : String} :
    number ∈ splitNumbers text ↔ HoldsNumber text number := by
  rw [splitNumbers, ← dollarRuns_eq_splitAt, List.mem_map]
  simp only [List.mem_filter, mem_dollarRuns_iff, takeWhile_eq_iff]
  constructor
  · rintro ⟨run, ⟨⟨front, behind, htext, rest, rfl, hdigits, hend⟩, hne⟩, rfl⟩
    refine ⟨by simpa using hne, by simpa using hdigits, String.ofList front, String.ofList rest, ?_,
      by simpa using hend⟩
    rw [← String.toList_inj, htext]
    simp
  · rintro ⟨hne, hdigits, before, after, htext, hend⟩
    refine ⟨number.toList, ⟨⟨before.toList, number.toList ++ after.toList, ?_, after.toList, rfl,
      hdigits, hend⟩, by simpa using hne⟩, String.ofList_toList⟩
    rw [htext]
    simp

/-- The count is that of the different runs. -/
theorem placeholderCount_eq_runs (s : Statement) : s.placeholderCount =
    ((dollarRuns none s.sql.toList).filter fun run => !run.isEmpty).eraseDups.length := by
  rw [placeholderCount, numbersFrom?_zero, splitNumbers, ← dollarRuns_eq_splitAt, Option.getD_some,
    length_eraseDups_map fun _ _ h => String.ofList_injective h]

/-- Placeholders are counted in every text, and exactly. The search for them never leaves the text
and never cuts a character. It finds the digits at the beginning of each piece behind a dollar sign,
and these are the runs of digits that directly follow a dollar sign; the count is that of the
different ones. -/
theorem placeholderCount_eq_ncard (s : Statement) :
    numbersFrom? s.sql 0 = some (splitNumbers s.sql) ∧
    (∀ number, number ∈ splitNumbers s.sql ↔ HoldsNumber s.sql number) ∧
    s.placeholderCount = (splitNumbers s.sql).toFinset.card ∧
    s.placeholderCount = {number | HoldsNumber s.sql number}.ncard := by
  have hcount : s.placeholderCount = (splitNumbers s.sql).toFinset.card := by
    rw [placeholderCount, numbersFrom?_zero, Option.getD_some, length_eraseDups]
  have hheld : {number | HoldsNumber s.sql number} = (splitNumbers s.sql).toFinset := by
    ext number
    rw [Finset.mem_coe, List.mem_toFinset, mem_splitNumbers_iff]
    rfl
  refine ⟨numbersFrom?_zero s.sql, fun _ => mem_splitNumbers_iff, hcount, ?_⟩
  rw [hheld, Set.ncard_coe_finset, hcount]

/-- Zeros in front make another number, and neither a dollar sign nor a character of several bytes
begins one. -/
example : (handwritten "$1, $01, $, $$1é, $é2, $" []).placeholderCount = 2 := by
  decide +kernel

end Statement

end TableQuery
