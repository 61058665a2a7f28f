import Mathlib.Data.List.Forall2

/-!
# Checks in a row

A computation that may fail succeeds exactly where each of its steps does, and a list that is gone
through succeeds exactly where every entry does. What a computation says of its input is its
verdict: that the input passes, or the error. Two computations end alike if they end with one error
or with results that are related.
-/

namespace TableQuery

variable {ε α β : Type}

/-- Two steps that succeed together succeed one after the other. -/
theorem ok_of_bind {x : Except ε α} {f : α → Except ε β} {b : β} (h : x >>= f = .ok b) :
    ∃ a, x = .ok a ∧ f a = .ok b := by
  cases x with
  | error e => cases h
  | ok a => exact ⟨a, rfl, h⟩

/-- A result that was worked on was there before. -/
theorem map_ok_iff {x : Except ε α} {f : α → β} {b : β} :
    x.map f = .ok b ↔ ∃ a, x = .ok a ∧ f a = b := by
  cases x with
  | error e => exact ⟨fun h => (by cases h), fun ⟨_, h, _⟩ => (by cases h)⟩
  | ok a => exact ⟨fun h => ⟨a, rfl, by cases h; rfl⟩, by rintro ⟨_, ⟨⟩, rfl⟩; rfl⟩

/-- A result that passes a test is there. -/
theorem exists_ok_of_any {x : Except ε α} {test : α → Bool} (h : x.toOption.any test = true) :
    ∃ a, x = .ok a ∧ test a = true := by
  cases x with
  | error e => cases h
  | ok a => exact ⟨a, rfl, h⟩

/-- A list is checked from its first entry on. -/
theorem forM_cons (check : α → Except ε Unit) (a : α) (entries : List α) :
    (a :: entries).forM check = (check a >>= fun _ => entries.forM check) := rfl

/-- A list that is checked entry by entry passes exactly if every entry does. -/
theorem forM_ok_iff {check : α → Except ε Unit} {entries : List α} :
    entries.forM check = .ok () ↔ ∀ a ∈ entries, check a = .ok () := by
  induction entries with
  | nil => exact ⟨fun _ => List.forall_mem_nil _, fun _ => rfl⟩
  | cons a entries ih =>
    rw [forM_cons, List.forall_mem_cons, ← ih]
    constructor
    · intro h
      obtain ⟨u, hu, hrest⟩ := ok_of_bind h
      exact ⟨hu, hrest⟩
    · rintro ⟨ha, hrest⟩
      rw [ha]
      exact hrest

/-- The error of a list that is checked entry by entry is that of the first entry that fails. -/
theorem forM_error_iff {check : α → Except ε Unit} {entries : List α} {e : ε} :
    entries.forM check = .error e ↔
      ∃ before a rest, entries = before ++ a :: rest ∧ (∀ b ∈ before, check b = .ok ()) ∧
        check a = .error e := by
  induction entries with
  | nil =>
    constructor
    · intro h
      cases h
    · rintro ⟨before, a, rest, hsplit, -⟩
      exact absurd hsplit.symm (by simp)
  | cons a entries ih =>
    rw [forM_cons]
    cases ha : check a with
    | error e' =>
      constructor
      · intro h
        cases h
        exact ⟨[], a, entries, rfl, List.forall_mem_nil _, ha⟩
      · rintro ⟨before, b, rest, hsplit, hbefore, hb⟩
        cases before with
        | nil =>
          obtain ⟨rfl, rfl⟩ := List.cons.inj hsplit
          rw [← hb, ha]
          rfl
        | cons first before =>
          obtain ⟨rfl, -⟩ := List.cons.inj hsplit
          rw [hbefore a List.mem_cons_self] at ha
          cases ha
    | ok u =>
      refine Iff.trans ih ?_
      constructor
      · rintro ⟨before, b, rest, hsplit, hbefore, hb⟩
        exact ⟨a :: before, b, rest, by rw [hsplit]; rfl,
          List.forall_mem_cons.2 ⟨ha, hbefore⟩, hb⟩
      · rintro ⟨before, b, rest, hsplit, hbefore, hb⟩
        cases before with
        | nil =>
          obtain ⟨rfl, -⟩ := List.cons.inj hsplit
          rw [ha] at hb
          cases hb
        | cons first before =>
          obtain ⟨rfl, hrest⟩ := List.cons.inj hsplit
          exact ⟨before, b, rest, hrest, (List.forall_mem_cons.1 hbefore).2, hb⟩

/-- A list that is read entry by entry succeeds exactly with what is read from each entry. -/
theorem mapM_ok_iff {read : α → Except ε β} {entries : List α} {results : List β} :
    entries.mapM read = .ok results ↔ List.Forall₂ (fun a b => read a = .ok b) entries results := by
  induction entries generalizing results with
  | nil =>
    rw [List.forall₂_nil_left_iff]
    exact ⟨fun h => by cases h; rfl, fun h => by rw [h]; rfl⟩
  | cons a entries ih =>
    rw [List.mapM_cons, List.forall₂_cons_left_iff]
    constructor
    · intro h
      obtain ⟨b, hb, hrest⟩ := ok_of_bind h
      obtain ⟨rest, hr, he⟩ := ok_of_bind hrest
      cases he
      exact ⟨b, rest, hb, ih.1 hr, rfl⟩
    · rintro ⟨b, rest, hb, hr, rfl⟩
      rw [hb, ih.2 hr]
      rfl

/-- Lists that are related entry by entry to one in the middle are related to each other. -/
theorem forall₂_of_middle {γ : Type} {first : α → β → Prop} {second : β → γ → Prop}
    {related : α → γ → Prop} (h : ∀ a b c, first a b → second b c → related a c)
    {as : List α} {bs : List β} {cs : List γ} (hfirst : List.Forall₂ first as bs)
    (hsecond : List.Forall₂ second bs cs) : List.Forall₂ related as cs := by
  induction hfirst generalizing cs with
  | nil =>
    cases hsecond
    exact .nil
  | cons hab _ ih =>
    cases hsecond with
    | cons hbc hrest => exact .cons (h _ _ _ hab hbc) (ih hrest)

/-- A list has related entries exactly if each of its own has one. -/
theorem exists_forall₂_iff {related : α → β → Prop} {as : List α} :
    (∃ bs, List.Forall₂ related as bs) ↔ ∀ a ∈ as, ∃ b, related a b := by
  induction as with
  | nil => exact ⟨fun _ => List.forall_mem_nil _, fun _ => ⟨[], .nil⟩⟩
  | cons a as ih =>
    rw [List.forall_mem_cons, ← ih]
    constructor
    · rintro ⟨_, hfirst | ⟨hfirst, hrest⟩⟩
      exact ⟨⟨_, hfirst⟩, _, hrest⟩
    · rintro ⟨⟨b, hb⟩, bs, hrest⟩
      exact ⟨b :: bs, .cons hb hrest⟩

/-- A relation that says something of the second entry alone says it of the second list. -/
theorem forall₂_and_right_iff {related : α → β → Prop} {p : β → Prop} {as : List α}
    {bs : List β} : List.Forall₂ (fun a b => related a b ∧ p b) as bs ↔
      List.Forall₂ related as bs ∧ ∀ b ∈ bs, p b := by
  induction as generalizing bs with
  | nil => cases bs <;> simp
  | cons a as ih =>
    cases bs with
    | nil => simp
    | cons b bs =>
      rw [List.forall₂_cons, List.forall₂_cons, List.forall_mem_cons, ih]
      exact and_and_and_comm

/-- A list of whose entries each has a result at most succeeds exactly with the results of all. -/
theorem mapM_some_iff {read : α → Option β} {entries : List α} {results : List β} :
    entries.mapM read = some results ↔
      List.Forall₂ (fun a b => read a = some b) entries results := by
  induction entries generalizing results with
  | nil =>
    rw [List.forall₂_nil_left_iff]
    exact ⟨fun h => by cases h; rfl, fun h => by rw [h]; rfl⟩
  | cons a entries ih =>
    rw [List.mapM_cons, List.forall₂_cons_left_iff]
    constructor
    · intro h
      obtain ⟨b, hb, hrest⟩ := Option.bind_eq_some_iff.1 h
      obtain ⟨rest, hr, he⟩ := Option.bind_eq_some_iff.1 hrest
      cases he
      exact ⟨b, rest, hb, ih.1 hr, rfl⟩
    · rintro ⟨b, rest, hb, hr, rfl⟩
      rw [hb, ih.2 hr]
      rfl

/-- A list whose entries all have a result has these results. -/
theorem mapM_of_map_eq {read : α → Option β} {entries : List α} {results : List β}
    (h : entries.map read = results.map some) : entries.mapM read = some results := by
  have hequal : List.Forall₂ (· = ·) (entries.map read) (results.map some) := by
    rw [h, List.forall₂_eq_eq_eq]
  rw [List.forall₂_map_left_iff, List.forall₂_map_right_iff] at hequal
  exact mapM_some_iff.2 hequal

/-- A list that is worked off entry by entry, with a state, gets to its end exactly if every entry
is accepted, where the state has no part in that. -/
theorem foldlM_ok_iff {σ : Type} {step : σ → α → Except ε σ} {accepted : α → Prop}
    (hstep : ∀ s a, (∃ next, step s a = .ok next) ↔ accepted a) {entries : List α} {s : σ} :
    (∃ last, entries.foldlM step s = .ok last) ↔ ∀ a ∈ entries, accepted a := by
  induction entries generalizing s with
  | nil => exact ⟨fun _ => List.forall_mem_nil _, fun _ => ⟨s, rfl⟩⟩
  | cons a entries ih =>
    rw [List.foldlM_cons, List.forall_mem_cons, ← hstep s a]
    constructor
    · rintro ⟨last, h⟩
      obtain ⟨next, hnext, hrest⟩ := ok_of_bind h
      exact ⟨⟨next, hnext⟩, ih.1 ⟨last, hrest⟩⟩
    · rintro ⟨⟨next, hnext⟩, hrest⟩
      rw [hnext]
      exact ih.2 hrest

/-- A check of one condition fails exactly if the condition holds, with its own error. -/
theorem if_error_iff {p : Prop} [Decidable p] {e e' : ε} :
    (if p then Except.error e' else .ok ()) = .error e ↔ p ∧ e = e' := by
  split
  · next h => simp [h, eq_comm]
  · next h => simp [h]

/-- What a computation that may fail says of its input. -/
def verdict (x : Except ε α) : Except ε Unit :=
  x.map fun _ => ()

/-- A verdict that an input passes comes from a result. -/
theorem verdict_ok_iff {x : Except ε α} : verdict x = .ok () ↔ ∃ a, x = .ok a := by
  constructor
  · intro h
    cases x with
    | error e => cases h
    | ok a => exact ⟨a, rfl⟩
  · rintro ⟨a, rfl⟩
    rfl

/-- A verdict that is an error is the error of the computation. -/
theorem verdict_error_iff {x : Except ε α} {e : ε} : verdict x = .error e ↔ x = .error e := by
  constructor
  · intro h
    cases x with
    | error e' =>
      cases h
      rfl
    | ok a => cases h
  · rintro rfl
    rfl

/-- The verdict on two steps, where that on the second does not depend on the first one's result. -/
theorem verdict_bind {x : Except ε α} {f : α → Except ε β} {rest : Except ε Unit}
    (h : ∀ a, x = .ok a → verdict (f a) = rest) :
    verdict (x >>= f) = verdict x >>= fun _ => rest := by
  cases x with
  | error e => rfl
  | ok a => exact h a rfl

/-- The verdict on two steps of which the second never fails. -/
theorem verdict_bind_of_ok {x : Except ε α} {f : α → Except ε β}
    (h : ∀ a, x = .ok a → verdict (f a) = .ok ()) : verdict (x >>= f) = verdict x := by
  rw [verdict_bind h]
  cases x <;> rfl

/-- The verdict on a list that is read entry by entry is that on its entries, in order. -/
theorem verdict_mapM {read : α → Except ε β} {check : α → Except ε Unit}
    (h : ∀ a, verdict (read a) = check a) (entries : List α) :
    verdict (entries.mapM read) = entries.forM check := by
  induction entries with
  | nil => rfl
  | cons a entries ih =>
    rw [List.mapM_cons, verdict_bind, h]
    · rfl
    · intro b _
      rw [verdict_bind_of_ok fun _ _ => rfl]
      exact ih

/-- Two computations that may fail end alike: with one error, or with results that are related. -/
inductive EndAlike {ε α β : Type} (related : α → β → Prop) : Except ε α → Except ε β → Prop where
  /-- Both fail with one error. -/
  | error (e : ε) : EndAlike related (.error e) (.error e)
  /-- Both succeed, and their results are related. -/
  | ok {a : α} {b : β} (h : related a b) : EndAlike related (.ok a) (.ok b)

namespace EndAlike

variable {γ δ : Type} {related : α → β → Prop} {next : γ → δ → Prop}

/-- Two steps end alike if the first ones do and the second ones do for related results. -/
theorem bind {x : Except ε α} {y : Except ε β} {f : α → Except ε γ} {g : β → Except ε δ}
    (h : EndAlike related x y) (hnext : ∀ a b, related a b → EndAlike next (f a) (g b)) :
    EndAlike next (x >>= f) (y >>= g) := by
  cases h with
  | error e => exact .error e
  | ok h => exact hnext _ _ h

/-- A first step in common leaves the second ones to end alike. -/
theorem bind_same {x : Except ε α} {f : α → Except ε γ} {g : α → Except ε δ}
    (h : ∀ a, EndAlike next (f a) (g a)) : EndAlike next (x >>= f) (x >>= g) := by
  cases x with
  | error e => exact .error e
  | ok a => exact h a

end EndAlike

end TableQuery
