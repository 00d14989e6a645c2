import DuckdbCoda.Lib.History
import DuckdbCoda.Lib.Slots

/-!
# Accounts of objects

A system works on a table of objects that are opened, called and closed, and the
calls of one object interleave with those of the others. An account relates an
open object to its own calls (`Calls.own`), in the state and the history around
them. `Accounting.run` is the rule: an account that an object is opened with, that
each of its calls advances and that every other step leaves alone, holds of every
open object at the end of a run. The name of an object is the number of objects that
were opened before it.
-/

namespace DuckdbCoda.History

variable {σ α ε ω : Type}

/-- The objects of a state, which events open one, and of which one an event is a
call. -/
structure Calls (σ ε ω : Type) where
  objects : σ → Slots ω
  isOpening : ε → Bool
  isCall : ε → Nat → Bool

/-- The calls of an object. -/
def Calls.own (calls : Calls σ ε ω) (name : Nat) (history : List ε) : List ε :=
  history.filter fun event => calls.isCall event name

variable {calls : Calls σ ε ω}

theorem Calls.own_snoc (name : Nat) (history : List ε) (event : ε) :
    calls.own name (history ++ [event]) =
      if calls.isCall event name then calls.own name history ++ [event]
      else calls.own name history := by
  rw [own, List.filter_append, List.filter_singleton]
  cases calls.isCall event name with
  | true => rfl
  | false => exact List.append_nil _

/-- What relates a state, the history so far and the calls of an object to its name
and the object. -/
abbrev Account (σ ε ω : Type) := σ → List ε → List ε → Nat → ω → Prop

/-- What a step does to the objects: it opens one, with an account; it is a call of
one, and advances its account; or it calls none and at most closes some. -/
inductive Advances (calls : Calls σ ε ω) (account : Account σ ε ω)
    (state : σ) (history : List ε) (next : σ) (event : ε) : Prop where
  | opens {item} : calls.objects next = (calls.objects state).push item →
      calls.isOpening event = true → (∀ name, calls.isCall event name = false) →
      ((calls.objects state).next = history.countP calls.isOpening →
        account next (history ++ [event]) [] (history.countP calls.isOpening) item) →
      Advances calls account state history next event
  | called {name old item} : (calls.objects state).get? name = some old →
      calls.objects next = (calls.objects state).set name item → calls.isOpening event = false →
      (∀ other, calls.isCall event other = (other == name)) →
      (∀ own, account state history own name old →
        account next (history ++ [event]) (own ++ [event]) name item) →
      Advances calls account state history next event
  | other : calls.isOpening event = false → (∀ name, calls.isCall event name = false) →
      (calls.objects next).next = (calls.objects state).next →
      (∀ name item, (calls.objects next).get? name = some item →
        (calls.objects state).get? name = some item) →
      Advances calls account state history next event

/-- Every step advances the accounts, and leaves that of an object it is no call of. -/
structure Accounting (step : σ → α → Option (σ × ε)) (calls : Calls σ ε ω)
    (account : Account σ ε ω) : Prop where
  advances : ∀ state history input next event, step state input = some (next, event) →
    Advances calls account state history next event
  later : ∀ state history own input next event name item,
    step state input = some (next, event) → (calls.objects state).get? name = some item →
      account state history own name item → account next (history ++ [event]) own name item

variable {step : σ → α → Option (σ × ε)} {account : Account σ ε ω}

/-- Names are given out in the order the objects are opened in, no event calls an
object that is still to come, and every open object has its account. -/
structure Accounted (calls : Calls σ ε ω) (account : Account σ ε ω)
    (state : σ) (history : List ε) : Prop where
  names : (calls.objects state).next = history.countP calls.isOpening
  unused : ∀ name, (calls.objects state).next ≤ name → calls.own name history = []
  objects : ∀ name item, (calls.objects state).get? name = some item →
    account state history (calls.own name history) name item

/-- Before anything has happened. -/
theorem accounted_empty {start : σ} (hempty : calls.objects start = .empty) :
    Accounted calls account start [] where
  names := by rw [hempty]; rfl
  unused _ _ := rfl
  objects name item hitem := by
    rw [hempty] at hitem
    cases hitem

theorem countP_snoc (kind : ε → Bool) (history : List ε) (event : ε) :
    (history ++ [event]).countP kind = history.countP kind + if kind event then 1 else 0 := by
  rw [List.countP_append, List.countP_singleton]

/-- **One step.** -/
theorem Accounting.keeps (accounting : Accounting step calls account) {state next : σ}
    {history : List ε} {input : α} {event : ε} (h : Accounted calls account state history)
    (hstep : step state input = some (next, event)) :
    Accounted calls account next (history ++ [event]) := by
  -- an object that was open before and is not called
  have hlater : ∀ name item, (calls.objects state).get? name = some item →
      calls.isCall event name = false →
      account next (history ++ [event]) (calls.own name (history ++ [event])) name item := by
    intro name item hitem hother
    rw [Calls.own_snoc, hother]
    exact accounting.later _ _ _ _ _ _ name item hstep hitem (h.objects name item hitem)
  cases accounting.advances state history input next event hstep with
  | opens hpush hopening hnone haccount =>
      constructor
      · rw [hpush, Slots.next_push, countP_snoc, hopening, h.names]
        rfl
      · intro name hname
        rw [hpush, Slots.next_push] at hname
        rw [Calls.own_snoc, hnone]
        exact h.unused name (by omega)
      · intro name item hitem
        rw [hpush, Slots.get?_push] at hitem
        split at hitem
        case isTrue hname =>
          cases hitem
          rw [Calls.own_snoc, hnone, hname, h.unused _ (Nat.le_refl _), h.names]
          exact haccount h.names
        case isFalse => exact hlater name item hitem (hnone name)
  | @called called old new hold hset hopening hcalls hadvance =>
      constructor
      · rw [hset, Slots.next_set, countP_snoc, hopening, h.names]
        rfl
      · intro name hname
        rw [hset, Slots.next_set] at hname
        have hlt := Slots.lt_next_of_get? hold
        have hother : (name == called) = false := beq_eq_false_iff_ne.mpr (by omega)
        rw [Calls.own_snoc, hcalls, hother]
        exact h.unused name hname
      · intro name item hitem
        rw [hset, Slots.get?_set hold] at hitem
        split at hitem
        case isTrue hname =>
          cases hitem
          subst hname
          rw [Calls.own_snoc, hcalls, beq_self_eq_true]
          exact hadvance _ (h.objects name old hold)
        case isFalse hname =>
          exact hlater name item hitem ((hcalls name).trans (beq_eq_false_iff_ne.mpr hname))
  | other hopening hnone hnext hkept =>
      constructor
      · rw [hnext, countP_snoc, hopening, h.names]
        rfl
      · intro name hname
        rw [Calls.own_snoc, hnone]
        exact h.unused name (hnext ▸ hname)
      · exact fun name item hitem => hlater name item (hkept name item hitem) (hnone name)

/-- **Rule for accounts.** -/
theorem Accounting.run (accounting : Accounting step calls account) {start last : σ}
    {inputs : List α} {history : List ε} (hempty : calls.objects start = .empty)
    (h : runSteps step start inputs = some (last, history)) :
    Accounted calls account last history :=
  runSteps_invariant (fun _ _ _ _ _ hinv hstep => accounting.keeps hinv hstep) inputs start last []
    history (accounted_empty hempty) h

end DuckdbCoda.History
