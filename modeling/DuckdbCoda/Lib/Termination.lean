import DuckdbCoda.Lib.Loop

/-!
# Loops that come to an end

`Terminates` says of a fuelled function that it returns once it has enough fuel,
whatever the result; `Terminates.loop` is the rule for a loop: a measure that
every turn which goes round again lowers.
-/

namespace DuckdbCoda.Loop

variable {α β : Type}

/-- With enough fuel `f` returns, and more fuel changes nothing. -/
def Terminates (f : Nat → Option β) : Prop := ∃ result, Returns f result

theorem Terminates.of_eq {f : Nat → Option β} (result : β) (h : ∀ fuel, f fuel = some result) :
    Terminates f :=
  ⟨result, .of_eq h⟩

theorem Returns.map {f : Nat → Option α} {a : α} (hf : Returns f a) (g : α → β) :
    Returns (fun fuel => (f fuel).map g) (g a) := by
  obtain ⟨enough, hf⟩ := hf
  refine ⟨enough, ?_⟩
  intro fuel hle
  show (f fuel).map g = some (g a)
  rw [hf fuel hle, Option.map_some]

theorem Terminates.map {f : Nat → Option α} (hf : Terminates f) (g : α → β) :
    Terminates fun fuel => (f fuel).map g := by
  obtain ⟨a, hf⟩ := hf
  exact ⟨g a, hf.map g⟩

/-- A turn leaves, or goes round again below the bound. -/
def Turn.Lowers (measure : α → Nat) (bound : Nat) : Turn α β → Prop
  | .next state => measure state < bound
  | .done _ => True

/-- **Rule for loops**, whose bodies may use fuel themselves. -/
theorem Terminates.loop {body : Nat → α → Option (Turn α β)} (measure : α → Nat)
    (turns : ∀ state, ∃ turn, Returns (fun fuel => body fuel state) turn ∧
      turn.Lowers measure (measure state)) (state : α) :
    Terminates fun fuel => run (body fuel) fuel state := by
  obtain ⟨result, hloop, _⟩ := LoopReturns.of_bound
    (fun bound state => measure state = bound) (fun _ => True)
    (fun bound state hbound => by
      obtain ⟨turn, hturn, hlowers⟩ := turns state
      refine ⟨turn, hturn, ?_⟩
      cases turn with
      | next state' => exact ⟨measure state', hbound ▸ hlowers, rfl⟩
      | done result => trivial)
    (measure state) state rfl
  exact ⟨result, hloop.returns⟩

end DuckdbCoda.Loop
