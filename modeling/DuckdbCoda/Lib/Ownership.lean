import Mathlib.Algebra.BigOperators.Group.Multiset.Basic
import Mathlib.Algebra.Order.Group.Multiset
import Mathlib.Tactic.Abel
import Mathlib.Tactic.Common

/-!
# Memory that is released by hand

A block of memory is named by the number of its allocation. No number is given
out twice, so a pointer to a block that was released is told from a pointer to
any later one. Releasing or using a block that is not live does not stop a
program here: it is counted as a fault.

* `Memory.Holds` says that the live blocks are exactly the given ones and that
  there was no fault. Whatever a rule does not mention is part of `owned`, so
  every rule comes with its frame.
* `RawParts` is a pointer with what it points to, null for nothing.
* `Leaves` is the contract of a step that may fail: the blocks of its result, or
  a number of blocks that nothing points to any more; `readItems_leaves` is the
  rule for a loop of such steps.
-/

namespace DuckdbCoda.Ownership

/-! ## Blocks -/

/-- The live blocks, all of them numbered below `next`. -/
structure Memory where
  next : Nat
  live : Multiset Nat
  faults : Nat
  nodup : live.Nodup
  bounded : ∀ block ∈ live, block < next

namespace Memory

def empty : Memory where
  next := 0
  live := 0
  faults := 0
  nodup := Multiset.nodup_zero
  bounded _ h := absurd h (Multiset.notMem_zero _)

def alloc (memory : Memory) : Nat × Memory :=
  (memory.next, {
    next := memory.next + 1
    live := memory.next ::ₘ memory.live
    faults := memory.faults
    nodup := Multiset.nodup_cons.mpr
      ⟨fun h => Nat.lt_irrefl _ (memory.bounded _ h), memory.nodup⟩
    bounded := by
      intro block h
      rcases Multiset.mem_cons.mp h with rfl | h
      · exact Nat.lt_succ_self _
      · exact Nat.lt_succ_of_lt (memory.bounded block h) })

def fault (memory : Memory) : Memory := { memory with faults := memory.faults + 1 }

def free (memory : Memory) (block : Nat) : Memory :=
  if block ∈ memory.live then
    { next := memory.next
      live := memory.live.erase block
      faults := memory.faults
      nodup := memory.nodup.erase block
      bounded := fun other h => memory.bounded other (Multiset.mem_of_mem_erase h) }
  else memory.fault

/-- Read what a block holds. -/
def use (memory : Memory) (block : Nat) : Memory :=
  if block ∈ memory.live then memory else memory.fault

/-- Read what a number of blocks hold. -/
def useAll (memory : Memory) (blocks : Multiset Nat) : Memory :=
  if blocks ≤ memory.live then memory else memory.fault

/-- The live blocks are exactly these, and nothing has gone wrong. -/
structure Holds (memory : Memory) (owned : Multiset Nat) : Prop where
  live : memory.live = owned
  sound : memory.faults = 0

theorem holds_empty : empty.Holds 0 := ⟨rfl, rfl⟩

variable {memory : Memory} {owned owned' : Multiset Nat} {block : Nat}

theorem Holds.of_eq (h : memory.Holds owned) (heq : owned = owned') : memory.Holds owned' :=
  heq ▸ h

theorem Holds.alloc (h : memory.Holds owned) :
    memory.alloc.2.Holds ({memory.alloc.1} + owned) :=
  ⟨congrArg (memory.next ::ₘ ·) h.live, h.sound⟩

theorem Holds.free (h : memory.Holds ({block} + owned)) : (memory.free block).Holds owned := by
  have hlive : memory.live = block ::ₘ owned := h.live
  have hmem : block ∈ memory.live := hlive ▸ Multiset.mem_cons_self block owned
  rw [Memory.free, if_pos hmem]
  exact ⟨by simp [hlive], h.sound⟩

/-- Using a live block changes nothing. -/
theorem Holds.use (h : memory.Holds owned) (hmem : block ∈ owned) : memory.use block = memory := by
  rw [Memory.use, if_pos (h.live ▸ hmem)]

theorem Holds.useAll (h : memory.Holds owned) {blocks : Multiset Nat} (hle : blocks ≤ owned) :
    memory.useAll blocks = memory := by
  rw [Memory.useAll, if_pos (h.live ▸ hle)]

end Memory

/-! ## Pointers -/

/-- A pointer with what it points to; null when there is nothing to point to. -/
structure RawParts (γ : Type) where
  block : Option Nat
  contents : γ

namespace RawParts

variable {γ : Type}

def blocks (parts : RawParts γ) : Multiset Nat := (parts.block.map fun block => {block}).getD 0

/-- Give contents away as a pointer. -/
def into (isNull : Bool) (contents : γ) (memory : Memory) : RawParts γ × Memory :=
  if isNull then (⟨none, contents⟩, memory) else (⟨some memory.alloc.1, contents⟩, memory.alloc.2)

/-- Take the block of a pointer back. -/
def release (parts : RawParts γ) (memory : Memory) : Memory :=
  match parts.block with
  | none => memory
  | some block => memory.free block

/-- Read what a pointer points to. -/
def borrow (parts : RawParts γ) (memory : Memory) : Memory :=
  match parts.block with
  | none => memory
  | some block => memory.use block

@[simp] theorem into_contents (isNull : Bool) (contents : γ) (memory : Memory) :
    (into isNull contents memory).1.contents = contents := by
  cases isNull <;> rfl

theorem card_into_blocks (isNull : Bool) (contents : γ) (memory : Memory) :
    (into isNull contents memory).1.blocks.card = if isNull then 0 else 1 := by
  cases isNull <;> rfl

variable {memory : Memory} {owned : Multiset Nat}

theorem into_holds (isNull : Bool) (contents : γ) (h : memory.Holds owned) :
    (into isNull contents memory).2.Holds ((into isNull contents memory).1.blocks + owned) := by
  cases isNull with
  | true => exact h.of_eq (zero_add owned).symm
  | false => exact h.alloc

theorem release_holds {parts : RawParts γ} (h : memory.Holds (parts.blocks + owned)) :
    (parts.release memory).Holds owned := by
  obtain ⟨block, contents⟩ := parts
  cases block with
  | none => exact h.of_eq (zero_add owned)
  | some block => exact h.free

theorem borrow_eq {parts : RawParts γ} (h : memory.Holds owned) (hle : parts.blocks ≤ owned) :
    parts.borrow memory = memory := by
  obtain ⟨block, contents⟩ := parts
  cases block with
  | none => rfl
  | some block => exact h.use (Multiset.singleton_le.mp hle)

end RawParts

/-! ## Lists of things that own blocks -/

section

variable {ι α ε : Type} {memory : Memory} {owned : Multiset Nat}

/-- The blocks of all items. -/
def blocksOf (blocks : α → Multiset Nat) (items : List α) : Multiset Nat :=
  (items.map blocks).sum

@[simp] theorem blocksOf_nil (blocks : α → Multiset Nat) : blocksOf blocks [] = 0 := rfl

@[simp] theorem blocksOf_cons (blocks : α → Multiset Nat) (item : α) (items : List α) :
    blocksOf blocks (item :: items) = blocks item + blocksOf blocks items := by
  simp [blocksOf]

@[simp] theorem blocksOf_append (blocks : α → Multiset Nat) (items more : List α) :
    blocksOf blocks (items ++ more) = blocksOf blocks items + blocksOf blocks more := by
  simp [blocksOf]

theorem blocks_le_blocksOf (blocks : α → Multiset Nat) {items : List α} {item : α}
    (hmem : item ∈ items) : blocks item ≤ blocksOf blocks items := by
  obtain ⟨before, after, rfl⟩ := List.append_of_mem hmem
  rw [blocksOf_append, blocksOf_cons]
  exact (Multiset.le_add_right _ _).trans (Multiset.le_add_left _ _)

/-- Releasing the items one after the other. -/
theorem foldl_release_holds {blocks : α → Multiset Nat} {release : Memory → α → Memory}
    (each : ∀ item memory owned, Memory.Holds memory (blocks item + owned) →
      (release memory item).Holds owned) :
    ∀ (items : List α) {memory : Memory}, memory.Holds (blocksOf blocks items + owned) →
      (items.foldl release memory).Holds owned := by
  intro items
  induction items with
  | nil => exact fun h => h.of_eq (zero_add owned)
  | cons item rest ih =>
      intro memory h
      rw [blocksOf_cons, add_assoc] at h
      exact ih (each item memory _ h)

/-- Reading items that stay where they are. -/
theorem foldl_borrow_eq {blocks : α → Multiset Nat} {borrow : Memory → α → Memory}
    (each : ∀ item memory owned, Memory.Holds memory owned → blocks item ≤ owned →
      borrow memory item = memory) (h : memory.Holds owned) :
    ∀ items : List α, blocksOf blocks items ≤ owned → items.foldl borrow memory = memory := by
  intro items
  induction items with
  | nil => exact fun _ => rfl
  | cons item rest ih =>
      intro hle
      rw [blocksOf_cons] at hle
      rw [List.foldl_cons, each item memory owned h ((Multiset.le_add_right _ _).trans hle)]
      exact ih ((Multiset.le_add_left _ _).trans hle)

/-! ## Steps that may fail -/

/-- What a step leaves besides `owned`: the blocks of its result, or, when it
fails, `leaks` blocks that nothing points to. -/
def Leaves (blocks : α → Multiset Nat) (leaks : Nat) (owned : Multiset Nat) :
    Except ε α × Memory → Prop
  | (.ok result, memory) => memory.Holds (blocks result + owned)
  | (.error _, memory) => ∃ lost : Multiset Nat, lost.card = leaks ∧ memory.Holds (lost + owned)

/-- `Leaves` with no word on how many blocks are lost. -/
def Settles (blocks : α → Multiset Nat) (owned : Multiset Nat) (answer : Except ε α)
    (memory : Memory) : Prop :=
  ∃ leaks, Leaves blocks leaks owned (answer, memory)

theorem settles_ok {blocks : α → Multiset Nat} {result : α} :
    Settles blocks owned (.ok result : Except ε α) memory ↔
      memory.Holds (blocks result + owned) :=
  ⟨fun ⟨_, h⟩ => h, fun h => ⟨0, h⟩⟩

theorem settles_error {blocks : α → Multiset Nat} {error : ε} :
    Settles blocks owned (.error error) memory ↔
      ∃ lost : Multiset Nat, memory.Holds (lost + owned) :=
  ⟨fun ⟨_, lost, _, h⟩ => ⟨lost, h⟩, fun ⟨lost, h⟩ => ⟨_, lost, rfl, h⟩⟩

/-- Read the items of a list one after the other, up to the first failure. What
was read before it is dropped without being released. -/
def readItems (read : ι → Memory → Except ε α × Memory) :
    List ι → Memory → Except ε (List α) × Memory
  | [], memory => (.ok [], memory)
  | item :: rest, memory =>
      match read item memory with
      | (.error error, memory) => (.error error, memory)
      | (.ok result, memory) =>
          match readItems read rest memory with
          | (.error error, memory) => (.error error, memory)
          | (.ok results, memory) => (.ok (result :: results), memory)

/-- The results are those of a reader that keeps no memory. -/
theorem readItems_value {β : Type} {read : ι → Memory → Except ε α × Memory}
    {pure : ι → Except ε β} {value : α → β}
    (each : ∀ item memory, (read item memory).1.map value = pure item) :
    ∀ (items : List ι) (memory : Memory),
      (readItems read items memory).1.map (List.map value) = items.mapM pure := by
  intro items
  induction items with
  | nil => exact fun _ => rfl
  | cons item rest ih =>
      intro memory
      have hfirst := each item memory
      rw [List.mapM_cons, ← hfirst, readItems]
      rcases read item memory with ⟨error | result, mid⟩
      · rfl
      · dsimp only
        rw [← ih mid]
        rcases readItems read rest mid with ⟨error | results, last⟩ <;> rfl

/-- What is lost of a list: the blocks of the items before the first failing
one, and what that one loses. -/
def leakedItems (fails : ι → Bool) (size leaks : ι → Nat) : List ι → Nat
  | [] => 0
  | item :: rest =>
      if fails item then leaks item else size item + leakedItems fails size leaks rest

/-- A reader of items: a result with `size` blocks, or, on the items that `fails`,
`leaks` blocks that nothing points to. -/
def Reads (read : ι → Memory → Except ε α × Memory) (blocks : α → Multiset Nat)
    (fails : ι → Bool) (size leaks : ι → Nat) : Prop :=
  ∀ item {memory : Memory} {owned : Multiset Nat}, memory.Holds owned →
    (∃ result memory', read item memory = (.ok result, memory') ∧ fails item = false ∧
      (blocks result).card = size item ∧ memory'.Holds (blocks result + owned)) ∨
    ∃ error lost memory', read item memory = (.error error, memory') ∧ fails item = true ∧
      Multiset.card lost = leaks item ∧ memory'.Holds (lost + owned)

/-- **Rule for a loop that reads.** -/
theorem Reads.readItems_leaves {read : ι → Memory → Except ε α × Memory}
    {blocks : α → Multiset Nat} {fails : ι → Bool} {size leaks : ι → Nat}
    (reads : Reads read blocks fails size leaks) :
    ∀ (items : List ι) {memory : Memory} {owned : Multiset Nat}, memory.Holds owned →
      Leaves (blocksOf blocks) (leakedItems fails size leaks items) owned
        (readItems read items memory) := by
  intro items
  induction items with
  | nil => exact fun h => h.of_eq (zero_add _).symm
  | cons item rest ih =>
      intro memory owned h
      rcases reads item h with
        ⟨result, mid, hread, hok, hsize, hmid⟩ | ⟨error, lost, mid, hread, hfails, hcard, hmid⟩
      · have hrest := ih hmid
        rcases hothers : readItems read rest mid with ⟨error | results, last⟩ <;>
          rw [hothers] at hrest
        · obtain ⟨lost, hcard, hlost⟩ := hrest
          simp only [readItems, hread, hothers]
          refine ⟨blocks result + lost, ?_, hlost.of_eq (by abel)⟩
          rw [Multiset.card_add, hsize, hcard, leakedItems, hok]
          rfl
        · simp only [readItems, hread, hothers]
          exact Memory.Holds.of_eq hrest (by rw [blocksOf_cons]; abel)
      · simp only [readItems, hread]
        exact ⟨lost, by rw [leakedItems, if_pos hfails, hcard], hmid⟩

end

end DuckdbCoda.Ownership
