import Mathlib.Tactic.Common

/-!
# Loops with fuel

A `loop { .. }` of the source that may run for ever is embedded as `run body`:
one turn of the body either goes round again or leaves with a result, and a
fuel argument bounds the number of turns (`none` = the fuel ran out). The body
may itself contain such a loop, so it is an `Option` too.

* `Returns f b` says that every sufficiently large fuel makes `f` return `b`;
  it is the only form in which a result of a fuelled function is stated.
* `LoopReturns` is its form for a loop whose body is fuelled as well, with one
  rule for each kind of turn (`LoopReturns.done`, `LoopReturns.next`).
* `run_invariant` is the invariant rule: what the turns keep (`Turn.Keeps`) holds
  of the result, whatever the fuel.
* `LoopReturns.of_bound` is the rule for total correctness: an invariant with a
  bound that every turn which goes round again lowers (`Turn.Progresses`).
-/

namespace DuckdbCoda.Loop

variable {α β γ : Type}

/-- One turn of a loop: go round again, or leave with a result. -/
inductive Turn (α β : Type) where
  | next (state : α)
  | done (result : β)

/-- Run `body` from `state` for at most `fuel` turns. -/
def run (body : α → Option (Turn α β)) : Nat → α → Option β
  | 0, _ => none
  | fuel + 1, state =>
      match body state with
      | none => none
      | some (.next state') => run body fuel state'
      | some (.done result) => some result

theorem run_succ_next {body : α → Option (Turn α β)} {state state' : α}
    (turn : body state = some (.next state')) (fuel : Nat) :
    run body (fuel + 1) state = run body fuel state' := by
  simp [run, turn]

theorem run_succ_done {body : α → Option (Turn α β)} {state : α} {result : β}
    (turn : body state = some (.done result)) (fuel : Nat) :
    run body (fuel + 1) state = some result := by
  simp [run, turn]

/-- A turn keeps an invariant: it goes round to `inv`, or leaves with a result
that satisfies `post`. -/
def Turn.Keeps (inv : α → Prop) (post : β → Prop) : Turn α β → Prop
  | .next state => inv state
  | .done result => post result

theorem Turn.Keeps.mono {inv inv' : α → Prop} {post post' : β → Prop} {turn : Turn α β}
    (h : turn.Keeps inv post) (hnext : ∀ state, inv state → inv' state)
    (hdone : ∀ result, post result → post' result) : turn.Keeps inv' post' := by
  cases turn with
  | next state => exact hnext state h
  | done result => exact hdone result h

/-- A turn that decides at its end whether to go round again. -/
theorem Turn.keeps_ite {inv : α → Prop} {post : β → Prop} {leave : Prop} [Decidable leave]
    {state : α} {result : β} (hdone : post result) (hnext : inv state) :
    (if leave then Turn.done result else Turn.next state).Keeps inv post := by
  split
  · exact hdone
  · exact hnext

/-- **Invariant rule.** What holds initially and is kept by every turn gives
`post` of the result. -/
theorem run_invariant {body : α → Option (Turn α β)} (inv : α → Prop) (post : β → Prop)
    (turns : ∀ state turn, inv state → body state = some turn → turn.Keeps inv post) :
    ∀ (fuel : Nat) (state : α) (result : β), inv state →
      run body fuel state = some result → post result := by
  intro fuel
  induction fuel with
  | zero =>
      intro state result _ h
      simp [run] at h
  | succ fuel ih =>
      intro state result hinv h
      cases hturn : body state with
      | none => simp [run, hturn] at h
      | some turn =>
          have hkeeps := turns state turn hinv hturn
          cases turn with
          | next state' =>
              rw [run_succ_next hturn] at h
              exact ih state' result hkeeps h
          | done result' =>
              rw [run_succ_done hturn, Option.some.injEq] at h
              subst h
              exact hkeeps

/-- A turn with its state and its result replaced. -/
def Turn.map {α' β' : Type} (state : α → α') (result : β → β') : Turn α β → Turn α' β'
  | .next s => .next (state s)
  | .done r => .done (result r)

/-- **Simulation rule.** When every turn of one loop shows as the turn of another,
so does the loop. -/
theorem run_map {α' β' : Type} {body : α → Option (Turn α β)} {body' : α' → Option (Turn α' β')}
    (state : α → α') (result : β → β')
    (turns : ∀ s, (body s).map (Turn.map state result) = body' (state s)) :
    ∀ (fuel : Nat) (s : α), (run body fuel s).map result = run body' fuel (state s) := by
  intro fuel
  induction fuel with
  | zero => exact fun _ => rfl
  | succ fuel ih =>
      intro s
      have hturn := turns s
      cases hbody : body s with
      | none =>
          rw [hbody] at hturn
          simp [run, hbody, ← hturn]
      | some turn =>
          rw [hbody] at hturn
          cases turn with
          | next s' => simpa [run, hbody, ← hturn, Turn.map] using ih s'
          | done r => simp [run, hbody, ← hturn, Turn.map]

/-! ## Enough fuel -/

/-- Every sufficiently large fuel makes `f` return `result`. -/
def Returns (f : Nat → Option β) (result : β) : Prop :=
  ∃ enough, ∀ fuel, enough ≤ fuel → f fuel = some result

theorem Returns.pure (result : β) : Returns (fun _ => some result) result :=
  ⟨0, fun _ _ => rfl⟩

theorem Returns.of_eq {f : Nat → Option β} {result : β} (h : ∀ fuel, f fuel = some result) :
    Returns f result :=
  ⟨0, fun fuel _ => h fuel⟩

/-- Sequencing: a fuelled function whose result is passed to another one. -/
theorem Returns.bind {f : Nat → Option α} {g : α → Nat → Option β} {a : α} {b : β}
    (hf : Returns f a) (hg : Returns (g a) b) :
    Returns (fun fuel => (f fuel).bind fun x => g x fuel) b := by
  obtain ⟨n, hf⟩ := hf
  obtain ⟨m, hg⟩ := hg
  refine ⟨max n m, ?_⟩
  intro fuel h
  have e := hf fuel (Nat.le_trans (Nat.le_max_left _ _) h)
  simp only [e, Option.bind_some]
  exact hg fuel (Nat.le_trans (Nat.le_max_right _ _) h)

/-- A loop that leaves in its first turn. -/
theorem Returns.run_done {body : α → Option (Turn α β)} {state : α} {result : β}
    (turn : body state = some (.done result)) :
    Returns (fun fuel => run body fuel state) result := by
  refine ⟨1, ?_⟩
  intro fuel h
  obtain ⟨k, rfl⟩ : ∃ k, fuel = k + 1 := ⟨fuel - 1, by omega⟩
  exact run_succ_done turn k

/-- A loop that goes round again. -/
theorem Returns.run_next {body : α → Option (Turn α β)} {state state' : α} {result : β}
    (turn : body state = some (.next state'))
    (rest : Returns (fun fuel => run body fuel state') result) :
    Returns (fun fuel => run body fuel state) result := by
  obtain ⟨n, hn⟩ := rest
  refine ⟨n + 1, ?_⟩
  intro fuel h
  obtain ⟨k, rfl⟩ : ∃ k, fuel = k + 1 := ⟨fuel - 1, by omega⟩
  show run body (k + 1) state = some result
  rw [run_succ_next turn]
  exact hn k (by omega)

/-- `Returns` for a loop whose body is fuelled: the turns allowed and the fuel
of the body are bounded separately. -/
def LoopReturns (body : Nat → α → Option (Turn α β)) (state : α) (result : β) : Prop :=
  ∃ enough, ∀ inner outer, enough ≤ inner → enough ≤ outer →
    run (body inner) outer state = some result

/-- The turn that leaves. -/
theorem LoopReturns.done {body : Nat → α → Option (Turn α β)} {state : α} {result : β}
    (turn : Returns (fun fuel => body fuel state) (.done result)) :
    LoopReturns body state result := by
  obtain ⟨n, hn⟩ := turn
  refine ⟨n + 1, ?_⟩
  intro inner outer hi ho
  obtain ⟨k, rfl⟩ : ∃ k, outer = k + 1 := ⟨outer - 1, by omega⟩
  exact run_succ_done (hn inner (by omega)) k

/-- A turn that goes round again. -/
theorem LoopReturns.next {body : Nat → α → Option (Turn α β)} {state state' : α} {result : β}
    (turn : Returns (fun fuel => body fuel state) (.next state'))
    (rest : LoopReturns body state' result) :
    LoopReturns body state result := by
  obtain ⟨n, hn⟩ := turn
  obtain ⟨m, hm⟩ := rest
  refine ⟨max n m + 1, ?_⟩
  intro inner outer hi ho
  obtain ⟨k, rfl⟩ : ∃ k, outer = k + 1 := ⟨outer - 1, by omega⟩
  rw [run_succ_next (hn inner (by omega)) k]
  exact hm inner k (by omega) (by omega)

/-- A turn makes progress: it leaves with a result that satisfies `post`, or goes
round to `inv` under a smaller bound. -/
def Turn.Progresses (inv : Nat → α → Prop) (post : β → Prop) (bound : Nat) : Turn α β → Prop
  | .done result => post result
  | .next state => ∃ bound', bound' < bound ∧ inv bound' state

theorem Turn.Progresses.mono {inv : Nat → α → Prop} {post : β → Prop} {bound bound' : Nat}
    {turn : Turn α β} (h : turn.Progresses inv post bound) (hle : bound ≤ bound') :
    turn.Progresses inv post bound' := by
  cases turn with
  | done result => exact h
  | next state =>
      obtain ⟨smaller, hlt, hinv⟩ := h
      exact ⟨smaller, by omega, hinv⟩

/-- **Total correctness.** When every turn from an invariant makes progress, the
loop returns a result that satisfies `post`. -/
theorem LoopReturns.of_bound {body : Nat → α → Option (Turn α β)} (inv : Nat → α → Prop)
    (post : β → Prop)
    (turns : ∀ bound state, inv bound state →
      ∃ turn, Returns (fun fuel => body fuel state) turn ∧ turn.Progresses inv post bound) :
    ∀ bound state, inv bound state → ∃ result, LoopReturns body state result ∧ post result := by
  intro bound
  induction bound using Nat.strongRecOn with
  | ind bound ih =>
      intro state hinv
      obtain ⟨turn, hturn, hprogress⟩ := turns bound state hinv
      cases turn with
      | done result => exact ⟨result, .done hturn, hprogress⟩
      | next state' =>
          obtain ⟨bound', hlt, hinv'⟩ := hprogress
          obtain ⟨result, hrest, hpost⟩ := ih bound' hlt state' hinv'
          exact ⟨result, .next hturn hrest, hpost⟩

/-- The same fuel for the loop and for its body. -/
theorem LoopReturns.returns {body : Nat → α → Option (Turn α β)} {state : α} {result : β}
    (h : LoopReturns body state result) :
    Returns (fun fuel => run (body fuel) fuel state) result := by
  obtain ⟨n, hn⟩ := h
  exact ⟨n, fun fuel hf => hn fuel fuel hf hf⟩

end DuckdbCoda.Loop
