import Mathlib.Algebra.BigOperators.Group.Finset.Piecewise
import Mathlib.Algebra.Order.BigOperators.Group.Finset

/-!
# Runs

A system takes steps, each with an event. A run is what it can have done so far, with the events in
their order. Systems that stand side by side take turns in any order; what each of them has done is
a run of its own. They may also work on something that they share.
-/

namespace TableQuery

variable {S E : Type}

/-- The runs of a system from a state: the events so far, oldest first, and the state they lead
to. -/
inductive Run (step : S → E → S → Prop) (initial : S) : List E → S → Prop
  /-- Nothing has happened. -/
  | start : Run step initial [] initial
  /-- A further step is taken. -/
  | step {events : List E} {event : E} {s t : S} :
    Run step initial events s → step s event t → Run step initial (events ++ [event]) t

/-- A run goes on with a run from the state that it leads to. -/
theorem Run.append {step : S → E → S → Prop} {initial s t : S} {events later : List E}
    (h : Run step initial events s) (hlater : Run step s later t) :
    Run step initial (events ++ later) t := by
  induction hlater with
  | start =>
    rw [List.append_nil]
    exact h
  | step _ hstep ih =>
    rw [← List.append_assoc]
    exact ih.step hstep

/-- What each step of a system can do, each of its runs can do. -/
theorem Run.mono {step step' : S → E → S → Prop}
    (hstep : ∀ s event t, step s event t → step' s event t)
    {initial s : S} {events : List E} (h : Run step initial events s) :
    Run step' initial events s := by
  induction h with
  | start => exact .start
  | step _ hturn ih => exact ih.step (hstep _ _ _ hturn)

/-- A run whose length is bounded can be brought to an end if every other state has a step. -/
theorem Run.exists_final {step : S → E → S → Prop} {initial s : S} {events : List E}
    {final : S → Prop} {bound : ℕ}
    (hbound : ∀ events t, Run step initial events t → events.length ≤ bound)
    (hprogress : ∀ events t, Run step initial events t → ¬final t → ∃ event u, step t event u)
    (h : Run step initial events s) :
    ∃ more t, Run step initial (events ++ more) t ∧ final t := by
  -- induction on the number of steps that the bound leaves
  induction hrest : bound - events.length generalizing events s with
  | zero =>
    refine ⟨[], s, by rwa [List.append_nil], ?_⟩
    by_contra hopen
    obtain ⟨event, t, hstep⟩ := hprogress events s h hopen
    have hlonger := hbound _ t (h.step hstep)
    rw [List.length_append, List.length_singleton] at hlonger
    omega
  | succ rest ih =>
    by_cases hfinal : final s
    · exact ⟨[], s, by rwa [List.append_nil], hfinal⟩
    · obtain ⟨event, t, hstep⟩ := hprogress events s h hfinal
      have hshorter : bound - (events ++ [event]).length = rest := by
        rw [List.length_append, List.length_singleton]
        omega
      obtain ⟨more, u, hmore, hfinal⟩ := ih (h.step hstep) hshorter
      rw [List.append_assoc] at hmore
      exact ⟨[event] ++ more, u, hmore, hfinal⟩

/-- Systems side by side, each with steps of its own: one of them takes a step. -/
inductive Interleaved (step : ℕ → S → E → S → Prop) : List S → ℕ × E → List S → Prop
  /-- The system with a number takes a step. -/
  | turn {states : List S} {i : ℕ} {s t : S} {event : E} :
    states[i]? = some s → step i s event t → Interleaved step states (i, event) (states.set i t)

/-- The events of the system with a number. -/
def eventsOf (i : ℕ) (events : List (ℕ × E)) : List E :=
  (events.filter fun event => event.1 == i).map Prod.snd

/-- The events of a system are those that bear its number. -/
theorem mem_eventsOf {i : ℕ} {events : List (ℕ × E)} {event : E} :
    event ∈ eventsOf i events ↔ (i, event) ∈ events := by
  rw [eventsOf, List.mem_map]
  constructor
  · rintro ⟨⟨j, event⟩, hmem, rfl⟩
    rw [List.mem_filter, beq_iff_eq] at hmem
    obtain ⟨hmem, rfl⟩ := hmem
    exact hmem
  · intro hmem
    exact ⟨(i, event), List.mem_filter.2 ⟨hmem, beq_self_eq_true i⟩, rfl⟩

/-- A further event is one of the system that takes the step. -/
theorem eventsOf_append (i j : ℕ) (events : List (ℕ × E)) (event : E) :
    eventsOf i (events ++ [(j, event)]) =
      if j = i then eventsOf i events ++ [event] else eventsOf i events := by
  rw [eventsOf, List.filter_append, List.map_append]
  split
  · next h => rw [List.filter_cons_of_pos (by rw [h]; exact beq_self_eq_true i)]; rfl
  · next h =>
    rw [List.filter_cons_of_neg (by rwa [beq_iff_eq]), List.filter_nil, List.map_nil,
      List.append_nil]
    rfl

namespace Run

variable {step : ℕ → S → E → S → Prop} {initial states : List S} {events : List (ℕ × E)}

/-- Systems neither appear nor disappear. -/
theorem length_eq (h : Run (Interleaved step) initial events states) :
    states.length = initial.length := by
  induction h with
  | start => rfl
  | step _ hstep ih =>
    cases hstep
    rw [List.length_set, ih]

/-- Every event bears the number of a system. -/
theorem lt_length (h : Run (Interleaved step) initial events states) {i : ℕ} {event : E}
    (hevent : (i, event) ∈ events) : i < initial.length := by
  induction h with
  | start => cases hevent
  | @step events last before after hrun hstep ih =>
    rw [List.mem_append, List.mem_singleton] at hevent
    cases hevent with
    | inl hearlier => exact ih hearlier
    | inr hlast =>
      subst hlast
      cases hstep with
      | turn hi _ =>
        rw [← hrun.length_eq]
        exact (List.getElem?_eq_some_iff.1 hi).1

/-- What each system has done is a run of its own. -/
theorem own (h : Run (Interleaved step) initial events states) {i : ℕ} {s : S}
    (hs : states[i]? = some s) :
    ∃ s₀, initial[i]? = some s₀ ∧ Run (step i) s₀ (eventsOf i events) s := by
  induction h generalizing s with
  | start => exact ⟨s, hs, .start⟩
  | @step events event before after hrun hstep ih =>
    cases hstep with
    | @turn j t u event hj hturn =>
      rw [eventsOf_append]
      by_cases hij : j = i
      · subst hij
        obtain ⟨hlt, -⟩ := List.getElem?_eq_some_iff.1 hj
        rw [List.getElem?_set_self hlt] at hs
        cases hs
        obtain ⟨s₀, hs₀, hown⟩ := ih hj
        rw [if_pos rfl]
        exact ⟨s₀, hs₀, hown.step hturn⟩
      · rw [List.getElem?_set_ne hij] at hs
        rw [if_neg hij]
        exact ih hs

/-- Every event is one of some system. -/
theorem length_events (h : Run (Interleaved step) initial events states) :
    events.length = ∑ i ∈ Finset.range initial.length, (eventsOf i events).length := by
  induction h with
  | start => exact (Finset.sum_eq_zero fun i _ => rfl).symm
  | @step events event before after hrun hstep ih =>
    cases hstep with
    | @turn j t u event hj hturn =>
      obtain ⟨hlt, -⟩ := List.getElem?_eq_some_iff.1 hj
      rw [hrun.length_eq] at hlt
      have hown : ∀ i, (eventsOf i (events ++ [(j, event)])).length =
          (eventsOf i events).length + if j = i then 1 else 0 := by
        intro i
        rw [eventsOf_append]
        split
        · rw [List.length_append, List.length_singleton]
        · rfl
      rw [List.length_append, List.length_singleton, ih,
        Finset.sum_congr rfl fun i _ => hown i, Finset.sum_add_distrib, Finset.sum_ite_eq,
        if_pos (Finset.mem_range.2 hlt)]

/-- No more happens than all systems together can do. -/
theorem length_le (h : Run (Interleaved step) initial events states) {bound : ℕ}
    (hown : ∀ i < initial.length, (eventsOf i events).length ≤ bound) :
    events.length ≤ initial.length * bound :=
  calc
    events.length = ∑ i ∈ Finset.range initial.length, (eventsOf i events).length :=
      h.length_events
    _ ≤ (Finset.range initial.length).card • bound :=
      Finset.sum_le_card_nsmul _ _ _ fun i hi => hown i (Finset.mem_range.1 hi)
    _ = initial.length * bound := by rw [Finset.card_range, Nat.nsmul_eq_mul]

end Run

section Shared

variable {D : Type}

/-- Systems side by side that share something: one of them takes a step on it. -/
inductive InterleavedOn (step : ℕ → D × S → E → D × S → Prop) :
    D × List S → ℕ × E → D × List S → Prop
  /-- The system with a number takes a step. -/
  | turn {shared shared' : D} {states : List S} {i : ℕ} {s t : S} {event : E} :
    states[i]? = some s → step i (shared, s) event (shared', t) →
    InterleavedOn step (shared, states) (i, event) (shared', states.set i t)

variable {step : ℕ → D × S → E → D × S → Prop}

/-- A run of the first system is one of all of them. -/
theorem Run.of_first {before after : D × S} {events : List E}
    (h : Run (step 0) before events after) (others : List S) :
    Run (InterleavedOn step) (before.1, before.2 :: others) (events.map fun event => (0, event))
      (after.1, after.2 :: others) := by
  induction h with
  | start => exact .start
  | @step events event s t _ hstep ih =>
    rw [List.map_append]
    have hturn : InterleavedOn step (s.1, s.2 :: others) (0, event) (t.1, t.2 :: others) :=
      .turn rfl hstep
    exact ih.step hturn

/-- A run of systems is one of them behind another that takes no step. -/
theorem Run.of_later {before after : D × List S} {events : List (ℕ × E)}
    (h : Run (InterleavedOn fun i => step (i + 1)) before events after) (first : S) :
    Run (InterleavedOn step) (before.1, first :: before.2)
      (events.map fun event => (event.1 + 1, event.2)) (after.1, first :: after.2) := by
  induction h with
  | start => exact .start
  | step _ hstep ih =>
    rw [List.map_append]
    cases hstep with
    | @turn shared shared' states i s t event hi hturn =>
      have hlater : InterleavedOn step (shared, first :: states) (i + 1, event)
          (shared', first :: states.set i t) := .turn hi hturn
      exact ih.step hlater

/-- What a first system does, and then the others: the events of the first one in front. -/
def inFront (first : List E) (later : List (ℕ × E)) : List (ℕ × E) :=
  first.map (fun event => (0, event)) ++ later.map fun event => (event.1 + 1, event.2)

/-- A first system comes to an end, and then the others go on from what it leaves of what they
share. -/
theorem Run.inFront {shared shared₁ shared₂ : D} {p q : S} {before after : List S}
    {first : List E} {later : List (ℕ × E)}
    (hfirst : Run (step 0) (shared, p) first (shared₁, q))
    (hlater : Run (InterleavedOn fun i => step (i + 1)) (shared₁, before) later
      (shared₂, after)) :
    Run (InterleavedOn step) (shared, p :: before) (inFront first later) (shared₂, q :: after) :=
  (Run.of_first hfirst before).append (Run.of_later hlater q)

section Events

variable (first : List E) (later : List (ℕ × E))

/-- The first system has done what stands in front. -/
theorem eventsOf_zero_inFront : eventsOf 0 (inFront first later) = first := by
  have hfirst : (first.map fun event => ((0 : ℕ), event)).filter (fun event => event.1 == 0) =
      first.map fun event => (0, event) :=
    List.filter_eq_self.2 fun event hevent => by
      obtain ⟨own, -, rfl⟩ := List.mem_map.1 hevent
      rfl
  have hlater : (later.map fun event => (event.1 + 1, event.2)).filter
      (fun event => event.1 == 0) = [] :=
    List.filter_eq_nil_iff.2 fun event hevent => by
      obtain ⟨own, -, rfl⟩ := List.mem_map.1 hevent
      exact Bool.false_ne_true
  rw [eventsOf, inFront, List.filter_append, hfirst, hlater, List.append_nil, List.map_map]
  exact List.map_id first

/-- The others have done what comes then. -/
theorem eventsOf_succ_inFront (i : ℕ) :
    eventsOf (i + 1) (inFront first later) = eventsOf i later := by
  have hfirst : (first.map fun event => ((0 : ℕ), event)).filter
      (fun event => event.1 == i + 1) = [] :=
    List.filter_eq_nil_iff.2 fun event hevent => by
      obtain ⟨own, -, rfl⟩ := List.mem_map.1 hevent
      exact Bool.false_ne_true
  rw [eventsOf, inFront, List.filter_append, hfirst, List.nil_append, List.filter_map,
    List.map_map, eventsOf]
  refine congrArg (List.map Prod.snd) (List.filter_congr fun event _ => ?_)
  rw [Function.comp_apply, Bool.eq_iff_iff, beq_iff_eq, beq_iff_eq, Nat.add_right_cancel_iff]

/-- What has happened, whichever system has done it. -/
theorem map_snd_inFront : (inFront first later).map Prod.snd = first ++ later.map Prod.snd := by
  rw [inFront, List.map_append, List.map_map, List.map_map]
  exact congrArg (· ++ later.map Prod.snd) (List.map_id first)

end Events

end Shared

end TableQuery
