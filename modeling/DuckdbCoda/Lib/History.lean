import Mathlib.Tactic.Common

/-!
# Histories

A system that takes one step after the other, each with an observation, leaves
a history: the list of its observations, oldest first.

* `runSteps_invariant` is the invariant rule: what the empty history starts with
  and every step keeps holds of every run.
* `runSteps_map` is the simulation rule: a system that shows each step of another
  one shows its runs. `runSteps_observe` is for one system observed in two ways.
* `Ordered` says that every event of a history stands in a relation to the events
  before it.
* `Nth` is for names that are given out in order and never again: the name of a
  bearer tells which event of the history gave it.
* `Lifetimes` is for names that one bearer has after the other (addresses,
  handles): a bearer is told from the next one by the position of the event
  that gave it the name. `Lives` says that it still has the name, `Since` that
  something has happened since then; `lives_snoc_iff` and `since_snoc_iff` say
  what one more event makes of both.
-/

namespace DuckdbCoda.History

variable {σ α ε ν : Type}

/-! ## Runs -/

/-- Take the steps for a list of inputs, with the history of the run; none as
soon as an input has no step. -/
def runSteps (step : σ → α → Option (σ × ε)) : σ → List α → Option (σ × List ε)
  | state, [] => some (state, [])
  | state, input :: rest =>
      match step state input with
      | none => none
      | some (state, event) =>
          (runSteps step state rest).map fun result => (result.1, event :: result.2)

/-- **Invariant rule.** What relates a state to its history and is kept by every
step relates the end of a run to the longer history. -/
theorem runSteps_invariant {step : σ → α → Option (σ × ε)} {inv : σ → List ε → Prop}
    (steps : ∀ state history input next event, inv state history →
      step state input = some (next, event) → inv next (history ++ [event])) :
    ∀ (inputs : List α) (state last : σ) (before after : List ε), inv state before →
      runSteps step state inputs = some (last, after) → inv last (before ++ after) := by
  intro inputs
  induction inputs with
  | nil =>
      intro state last before after hinv h
      cases h
      rwa [List.append_nil]
  | cons input rest ih =>
      intro state last before after hinv h
      rw [runSteps] at h
      cases hstep : step state input with
      | none => simp [hstep] at h
      | some result =>
          obtain ⟨next, event⟩ := result
          simp only [hstep, Option.map_eq_some_iff] at h
          obtain ⟨⟨final, later⟩, hrest, heq⟩ := h
          cases heq
          have hkept := steps state before input next event hinv hstep
          simpa using ih next final _ later hkept hrest

/-- A run is one run after the other. -/
theorem runSteps_append (step : σ → α → Option (σ × ε)) (before after : List α) :
    ∀ state, runSteps step state (before ++ after) =
      (runSteps step state before).bind fun first =>
        (runSteps step first.1 after).map fun last => (last.1, first.2 ++ last.2) := by
  induction before with
  | nil => intro state; simp [runSteps]
  | cons input rest ih =>
      intro state
      rw [List.cons_append, runSteps, runSteps]
      cases step state input with
      | none => rfl
      | some result =>
          obtain ⟨next, event⟩ := result
          simp only [ih next]
          cases runSteps step next rest with
          | none => rfl
          | some first =>
              simp only [Option.bind_some, Option.map_some, Option.map_map]
              rfl

/-- **Simulation rule.** When every step shows as a step of another system with the
same observation, so does a run. -/
theorem runSteps_map {τ : Type} {step : σ → α → Option (σ × ε)} {step' : τ → α → Option (τ × ε)}
    (f : σ → τ)
    (steps : ∀ state input, (step state input).map (fun result => (f result.1, result.2)) =
      step' (f state) input) :
    ∀ (inputs : List α) (state : σ),
      (runSteps step state inputs).map (fun result => (f result.1, result.2)) =
        runSteps step' (f state) inputs := by
  intro inputs
  induction inputs with
  | nil => exact fun _ => rfl
  | cons input rest ih =>
      intro state
      rw [runSteps, runSteps, ← steps state input]
      cases step state input with
      | none => rfl
      | some result =>
          simp only [Option.map_some, ← ih result.1, Option.map_map]
          rfl

/-- A system that is observed more closely makes the same runs. -/
theorem runSteps_observe {δ : Type} (step : σ → α → Option (σ × ε)) (forget : ε → δ)
    (inputs : List α) : ∀ state,
    (runSteps step state inputs).map (fun result => (result.1, result.2.map forget)) =
      runSteps (fun state input => (step state input).map fun result => (result.1, forget result.2))
        state inputs := by
  induction inputs with
  | nil => exact fun _ => rfl
  | cons input rest ih =>
      intro state
      rw [runSteps, runSteps]
      cases step state input with
      | none => rfl
      | some result =>
          simp only [Option.map_some, ← ih result.1, Option.map_map]
          rfl

/-! ## Every event after the ones before it -/

/-- Every event of the history stands in `P` to the events before it. -/
def Ordered (P : List ε → ε → Prop) (history : List ε) : Prop :=
  ∀ before event after, history = before ++ event :: after → P before event

variable {P : List ε → ε → Prop}

theorem ordered_nil : Ordered P [] := by
  intro before event after h
  simp at h

theorem Ordered.snoc {history : List ε} {event : ε} (h : Ordered P history)
    (hevent : P history event) : Ordered P (history ++ [event]) := by
  intro before other after heq
  rcases List.eq_nil_or_concat after with rfl | ⟨rest, last, rfl⟩
  · obtain ⟨rfl, hlast⟩ := List.append_inj' heq rfl
    cases hlast
    exact hevent
  · rw [List.concat_eq_append, ← List.cons_append, ← List.append_assoc] at heq
    exact h before other rest (List.append_inj' heq rfl).1

/-- Events that stand in `P` to whatever comes before. -/
theorem Ordered.append {history sent : List ε} (h : Ordered P history)
    (hsent : ∀ event ∈ sent, ∀ before, P before event) : Ordered P (history ++ sent) := by
  induction sent generalizing history with
  | nil => rwa [List.append_nil]
  | cons event rest ih =>
      rw [← List.singleton_append, ← List.append_assoc]
      refine ih (h.snoc (hsent event List.mem_cons_self history)) ?_
      exact fun other hmem => hsent other (List.mem_cons_of_mem _ hmem)

/-! ## The events of a kind, in order -/

/-- The event is of the kind, and comes after `count` events of the kind. -/
def Nth (kind : ε → Bool) (history : List ε) (count : Nat) (event : ε) : Prop :=
  ∃ before after, history = before ++ event :: after ∧ kind event = true ∧
    before.countP kind = count

section

variable {kind : ε → Bool} {history : List ε} {count : Nat} {event : ε}

theorem Nth.mem (h : Nth kind history count event) : event ∈ history := by
  obtain ⟨before, after, rfl, _⟩ := h
  exact List.mem_append_right _ List.mem_cons_self

theorem Nth.snoc (h : Nth kind history count event) (other : ε) :
    Nth kind (history ++ [other]) count event := by
  obtain ⟨before, after, rfl, hkind, hcount⟩ := h
  exact ⟨before, after ++ [other], by rw [List.append_assoc, List.cons_append], hkind, hcount⟩

/-- **A name tells its event.** -/
theorem Nth.unique {other : ε} (h : Nth kind history count event)
    (h' : Nth kind history count other) : event = other := by
  obtain ⟨before, after, rfl, hkind, hcount⟩ := h
  obtain ⟨before', after', heq, hkind', hcount'⟩ := h'
  -- one of the two would be counted before the other
  rcases List.append_eq_append_iff.mp heq with ⟨between, hbefore, hafter⟩ |
    ⟨between, hbefore, hafter⟩
  · cases between with
    | nil =>
        cases hafter
        rfl
    | cons first rest =>
        cases hafter
        rw [hbefore, List.countP_append, List.countP_cons_of_pos hkind] at hcount'
        omega
  · cases between with
    | nil =>
        cases hafter
        rfl
    | cons first rest =>
        cases hafter
        rw [hbefore, List.countP_append, List.countP_cons_of_pos hkind'] at hcount
        omega

/-- The newest event of the kind. -/
theorem nth_last (hkind : kind event = true) :
    Nth kind (history ++ [event]) (history.countP kind) event :=
  ⟨history, [], rfl, hkind, rfl⟩

/-- The same events, seen in another way. -/
theorem Nth.map {δ : Type} (see : ε → δ) {kind : δ → Bool}
    (h : Nth (fun event => kind (see event)) history count event) :
    Nth kind (history.map see) count (see event) := by
  obtain ⟨before, after, rfl, hkind, rfl⟩ := h
  exact ⟨before.map see, after.map see, by rw [List.map_append, List.map_cons], hkind,
    List.countP_map⟩

end

/-! ## Lives under a name -/

/-- Which events begin and which end a life under a name. -/
structure Lifetimes (ε ν : Type) where
  begins : ε → Option ν
  ends : ε → Option ν

/-- The life that the event at `birth` began under `name` goes on at the end of
the history. -/
structure Lives (lifetimes : Lifetimes ε ν) (history : List ε) (birth : Nat) (name : ν) :
    Prop where
  began : ∃ event, history[birth]? = some event ∧ lifetimes.begins event = some name
  goesOn : ∀ position event, birth < position → history[position]? = some event →
    lifetimes.ends event ≠ some name

/-- Something of the kind has happened after the event at `birth`. -/
def Since (history : List ε) (birth : Nat) (kind : ε → Prop) : Prop :=
  ∃ position event, birth < position ∧ history[position]? = some event ∧ kind event

variable {lifetimes : Lifetimes ε ν} {history : List ε} {birth : Nat} {name : ν}

theorem Lives.lt_length (h : Lives lifetimes history birth name) : birth < history.length := by
  obtain ⟨event, hevent, _⟩ := h.began
  exact (List.getElem?_eq_some_iff.mp hevent).1

theorem not_lives_nil : ¬ Lives lifetimes [] birth name :=
  fun h => absurd h.lt_length (Nat.not_lt_zero _)

/-- The events of a history and one more. -/
theorem getElem?_snoc_iff (event other : ε) (position : Nat) :
    (history ++ [event])[position]? = some other ↔
      history[position]? = some other ∨ position = history.length ∧ event = other := by
  rcases Nat.lt_trichotomy position history.length with hlt | rfl | hgt
  · simp [List.getElem?_append_left hlt, Nat.ne_of_lt hlt]
  · simp
  · have hnone : history[position]? = none := List.getElem?_eq_none (Nat.le_of_lt hgt)
    have hbeyond : (history ++ [event])[position]? = none := by
      apply List.getElem?_eq_none
      rw [List.length_append, List.length_singleton]
      omega
    simp [hnone, hbeyond, Nat.ne_of_gt hgt]

/-- One more event begins a life, or leaves alone the one it does not end. -/
theorem lives_snoc_iff (event : ε) :
    Lives lifetimes (history ++ [event]) birth name ↔
      (birth = history.length ∧ lifetimes.begins event = some name) ∨
        (Lives lifetimes history birth name ∧ lifetimes.ends event ≠ some name) := by
  constructor
  · rintro ⟨⟨other, hother, hbegins⟩, hgoes⟩
    rcases (getElem?_snoc_iff event other birth).mp hother with hold | ⟨hbirth, rfl⟩
    · have hlt := (List.getElem?_eq_some_iff.mp hold).1
      refine .inr ⟨⟨⟨other, hold, hbegins⟩, ?_⟩, ?_⟩
      · intro position later hpos hlater
        exact hgoes position later hpos ((getElem?_snoc_iff event later position).mpr (.inl hlater))
      · exact hgoes history.length event hlt
          ((getElem?_snoc_iff event event history.length).mpr (.inr ⟨rfl, rfl⟩))
    · exact .inl ⟨hbirth, hbegins⟩
  · rintro (⟨rfl, hbegins⟩ | ⟨hlives, hends⟩)
    · refine ⟨⟨event, (getElem?_snoc_iff event event _).mpr (.inr ⟨rfl, rfl⟩), hbegins⟩, ?_⟩
      -- nothing comes after the last event
      intro position later hpos hlater
      have hlt := (List.getElem?_eq_some_iff.mp hlater).1
      rw [List.length_append, List.length_singleton] at hlt
      omega
    · obtain ⟨other, hother, hbegins⟩ := hlives.began
      refine ⟨⟨other, (getElem?_snoc_iff event other birth).mpr (.inl hother), hbegins⟩, ?_⟩
      intro position later hpos hlater
      rcases (getElem?_snoc_iff event later position).mp hlater with hold | ⟨_, rfl⟩
      · exact hlives.goesOn position later hpos hold
      · exact hends

theorem since_snoc_iff (event : ε) (kind : ε → Prop) :
    Since (history ++ [event]) birth kind ↔
      Since history birth kind ∨ (birth < history.length ∧ kind event) := by
  constructor
  · rintro ⟨position, other, hpos, hother, hkind⟩
    rcases (getElem?_snoc_iff event other position).mp hother with hold | ⟨rfl, rfl⟩
    · exact .inl ⟨position, other, hpos, hold, hkind⟩
    · exact .inr ⟨hpos, hkind⟩
  · rintro (⟨position, other, hpos, hold, hkind⟩ | ⟨hlt, hkind⟩)
    · exact ⟨position, other, hpos, (getElem?_snoc_iff event other position).mpr (.inl hold), hkind⟩
    · exact ⟨history.length, event, hlt,
        (getElem?_snoc_iff event event history.length).mpr (.inr ⟨rfl, rfl⟩), hkind⟩

/-- Nothing has happened since the last event. -/
theorem not_since_length (kind : ε → Prop) : ¬ Since history history.length kind := by
  rintro ⟨position, event, hpos, hevent, _⟩
  have hlt := (List.getElem?_eq_some_iff.mp hevent).1
  omega

end DuckdbCoda.History
