import DuckdbCoda.Lib.Loop

/-!
# Token chains

A paginated source is asked with a token and answers with a page, from which
the next token is read, until a page names none. `Linked` says this of a list
of asked tokens and received pages alone; `Chain` adds the states of the
source between the questions and an outcome, which is the first failure or
success of the whole chain.

`Chain.loop` is the rule for a loop that walks such a chain with an
accumulator: it returns what folding the pages gives, or the failure.
-/

namespace DuckdbCoda.Paging

open Loop

variable {S τ π ε A B : Type}

/-- Every token is the one read from the page before it, and the last page
names none. -/
inductive Linked (next : τ → π → Option τ) : τ → List (τ × π) → Prop where
  | last {token page} : next token page = none → Linked next token [(token, page)]
  | more {token page token' rest} : next token page = some token' →
      Linked next token' rest → Linked next token ((token, page) :: rest)

/-- The pages received from `token` on, with the outcome of the chain. -/
inductive Chain (ask : S → τ → Except ε π → S → Prop) (next : τ → π → Option τ) :
    S → τ → List (τ × π) → Except ε Unit → S → Prop where
  | failed {s token failure s'} : ask s token (.error failure) s' →
      Chain ask next s token [] (.error failure) s'
  | last {s token page s'} : ask s token (.ok page) s' → next token page = none →
      Chain ask next s token [(token, page)] (.ok ()) s'
  | more {s token page s' token' rest outcome s''} : ask s token (.ok page) s' →
      next token page = some token' → Chain ask next s' token' rest outcome s'' →
      Chain ask next s token ((token, page) :: rest) outcome s''

variable {ask : S → τ → Except ε π → S → Prop} {next : τ → π → Option τ}

/-- A chain that succeeds is linked. -/
theorem Chain.linked {s s' : S} {token : τ} {visited : List (τ × π)}
    (chain : Chain ask next s token visited (.ok ()) s') : Linked next token visited := by
  generalize hout : (Except.ok () : Except ε Unit) = outcome at chain
  induction chain with
  | failed => cases hout
  | last _ hnext => exact .last hnext
  | more _ hnext _ ih => exact .more hnext (ih hout)

theorem Linked.ne_nil {token : τ} {visited : List (τ × π)}
    (linked : Linked next token visited) : visited ≠ [] := by
  cases linked <;> simp

/-- The first question of a linked chain. -/
theorem Linked.head_eq {token : τ} {visited : List (τ × π)}
    (linked : Linked next token visited) : (visited.map Prod.fst).head? = some token := by
  cases linked <;> rfl

theorem Linked.exists_cons {token : τ} {visited : List (τ × π)}
    (linked : Linked next token visited) : ∃ page rest, visited = (token, page) :: rest := by
  cases linked <;> exact ⟨_, _, rfl⟩

/-- A source that gives the page of every link, in whatever state it is, runs
through the chain. -/
theorem Linked.chain {token : τ} {visited : List (τ × π)} (linked : Linked next token visited)
    (given : ∀ s, ∀ v ∈ visited, ∃ s', ask s v.1 (.ok v.2) s') :
    ∀ s, ∃ s', Chain ask next s token visited (.ok ()) s' := by
  induction linked with
  | last hnext =>
      intro s
      obtain ⟨s', hask⟩ := given s _ List.mem_cons_self
      exact ⟨s', .last hask hnext⟩
  | more hnext _ ih =>
      intro s
      obtain ⟨mid, hask⟩ := given s _ List.mem_cons_self
      obtain ⟨s', hrest⟩ := ih (fun s v hv => given s v (List.mem_cons_of_mem _ hv)) mid
      exact ⟨s', .more hask hnext hrest⟩

/-- What a link makes of the next question holds of every question but the
first, as long as an invariant of the questions is kept. -/
theorem Linked.forall_tail (inv P : τ → Prop)
    (step : ∀ token page token', inv token → next token page = some token' →
      inv token' ∧ P token')
    {token : τ} {visited : List (τ × π)} (linked : Linked next token visited) (h : inv token) :
    ∀ v ∈ visited.tail, P v.1 := by
  induction linked with
  | last _ => intro v hv; cases hv
  | more hnext linked ih =>
      obtain ⟨hinv, hP⟩ := step _ _ _ h hnext
      intro v hv
      cases linked with
      | last _ => rwa [List.mem_singleton.mp hv]
      | more _ _ =>
          rcases List.mem_cons.mp hv with rfl | hv
          · exact hP
          · exact ih hinv v hv

/-- What every question leaves in a trace of the source adds up along the
chain. -/
theorem Chain.trace {E : Type} (log : S → List E) (issued : τ → π → List E)
    (step : ∀ s token page s', ask s token (.ok page) s' →
      log s' = log s ++ issued token page)
    {s s' : S} {token : τ} {visited : List (τ × π)}
    (chain : Chain ask next s token visited (.ok ()) s') :
    log s' = log s ++ visited.flatMap fun v => issued v.1 v.2 := by
  generalize hout : (Except.ok () : Except ε Unit) = outcome at chain
  induction chain with
  | failed => cases hout
  | last hask _ => simpa using step _ _ _ _ hask
  | more hask _ _ ih =>
      rw [ih hout, step _ _ _ _ hask]
      simp

/-- **The loop that walks a chain.** Its state is an accumulator, the token to
ask with and the source; a page extends the accumulator. -/
theorem Chain.loop (body : Nat → A × τ × S → Option (Turn (A × τ × S) (Except ε B × S)))
    (extend : A → τ → π → A) (finish : A → B)
    (failed : ∀ acc s token failure s', ask s token (.error failure) s' →
      Returns (fun fuel => body fuel (acc, token, s)) (.done (.error failure, s')))
    (last : ∀ acc s token page s', ask s token (.ok page) s' → next token page = none →
      Returns (fun fuel => body fuel (acc, token, s))
        (.done (.ok (finish (extend acc token page)), s')))
    (more : ∀ acc s token page s' token', ask s token (.ok page) s' →
      next token page = some token' →
      Returns (fun fuel => body fuel (acc, token, s)) (.next (extend acc token page, token', s')))
    {s s' : S} {token : τ} {visited : List (τ × π)} {outcome : Except ε Unit}
    (chain : Chain ask next s token visited outcome s') :
    ∀ acc, LoopReturns body (acc, token, s)
      (outcome.map fun _ => finish (visited.foldl (fun a v => extend a v.1 v.2) acc), s') := by
  induction chain with
  | failed hask => exact fun acc => .done (failed acc _ _ _ _ hask)
  | last hask hnext => exact fun acc => .done (last acc _ _ _ _ hask hnext)
  | more hask hnext _ ih => exact fun acc => .next (more acc _ _ _ _ _ hask hnext) (ih _)

end DuckdbCoda.Paging
