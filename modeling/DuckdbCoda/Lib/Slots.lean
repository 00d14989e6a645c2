import Mathlib.Data.List.ReduceOption

/-!
# Tables of handles

Objects that are named by the order they were opened in: `push` opens one, and
`clear` closes one for good, so no name is given out twice.

`items_split` shows the open objects around one of them; what `set` and `clear`
make of the table is stated around the same two parts.
-/

namespace DuckdbCoda

variable {α β : Type}

structure Slots (α : Type) where
  slots : List (Option α)

namespace Slots

def empty : Slots α := ⟨[]⟩

def get? (table : Slots α) (name : Nat) : Option α := (table.slots[name]?).join

/-- The name the next object gets. -/
def next (table : Slots α) : Nat := table.slots.length

def push (table : Slots α) (item : α) : Slots α := ⟨table.slots ++ [some item]⟩

def set (table : Slots α) (name : Nat) (item : α) : Slots α := ⟨table.slots.set name (some item)⟩

def clear (table : Slots α) (name : Nat) : Slots α := ⟨table.slots.set name none⟩

/-- The open objects. -/
def items (table : Slots α) : List α := table.slots.reduceOption

def map (f : α → β) (table : Slots α) : Slots β := ⟨table.slots.map (Option.map f)⟩

@[simp] theorem next_push (table : Slots α) (item : α) : (table.push item).next = table.next + 1 :=
  List.length_append

@[simp] theorem next_set (table : Slots α) (name : Nat) (item : α) :
    (table.set name item).next = table.next :=
  List.length_set

@[simp] theorem next_clear (table : Slots α) (name : Nat) :
    (table.clear name).next = table.next :=
  List.length_set

/-! ## Lookups -/

theorem get?_push (table : Slots α) (item : α) (name : Nat) :
    (table.push item).get? name = if name = table.next then some item else table.get? name := by
  by_cases h : name = table.next
  · subst h
    simp [get?, push, next]
  · rw [if_neg h]
    simp only [get?, push]
    rcases Nat.lt_or_gt_of_ne (show name ≠ table.slots.length from h) with hlt | hgt
    · rw [List.getElem?_append_left hlt]
    · rw [List.getElem?_append_right (by omega), List.getElem?_eq_none (by simp; omega),
        List.getElem?_eq_none (by omega)]

theorem lt_next_of_get? {table : Slots α} {name : Nat} {item : α}
    (h : table.get? name = some item) : name < table.next := by
  by_contra hge
  rw [get?, List.getElem?_eq_none (Nat.le_of_not_lt hge)] at h
  cases h

theorem get?_set {table : Slots α} {name : Nat} {old : α} (h : table.get? name = some old)
    (item : α) (other : Nat) :
    (table.set name item).get? other = if other = name then some item else table.get? other := by
  have hlt : name < table.slots.length := lt_next_of_get? h
  simp only [get?, set, List.getElem?_set]
  by_cases heq : name = other
  · subst heq
    simp [hlt]
  · simp [heq, Ne.symm heq]

theorem get?_clear (table : Slots α) (name other : Nat) :
    (table.clear name).get? other = if other = name then none else table.get? other := by
  simp only [get?, clear, List.getElem?_set]
  by_cases heq : name = other
  · subst heq
    by_cases hlt : name < table.slots.length <;> simp [hlt]
  · simp [heq, Ne.symm heq]

/-- What is open after a close was open before. -/
theorem get?_of_clear {table : Slots α} {name other : Nat} {item : α}
    (h : (table.clear name).get? other = some item) : table.get? other = some item := by
  rw [get?_clear] at h
  split at h
  · cases h
  · exact h

theorem get?_map (f : α → β) (table : Slots α) (name : Nat) :
    (table.map f).get? name = (table.get? name).map f := by
  simp only [get?, map, List.getElem?_map]
  cases table.slots[name]? <;> simp

theorem mem_items_of_get? {table : Slots α} {name : Nat} {item : α}
    (h : table.get? name = some item) : item ∈ table.items := by
  rw [items, List.reduceOption_mem_iff]
  exact List.mem_of_getElem? (Option.join_eq_some_iff.mp h)

/-! ## The open objects -/

@[simp] theorem items_push (table : Slots α) (item : α) :
    (table.push item).items = table.items ++ [item] := by
  simp [items, push, List.reduceOption_append]

/-- The open objects before and after one of them. -/
theorem items_split {table : Slots α} {name : Nat} {item : α} (h : table.get? name = some item) :
    ∃ before after, table.items = before ++ item :: after ∧
      (∀ item', (table.set name item').items = before ++ item' :: after) ∧
      (table.clear name).items = before ++ after := by
  obtain ⟨slots⟩ := table
  have hget : slots[name]? = some (some item) := Option.join_eq_some_iff.mp h
  obtain ⟨hlt, hitem⟩ := List.getElem?_eq_some_iff.mp hget
  refine ⟨(slots.take name).reduceOption, (slots.drop (name + 1)).reduceOption, ?_, ?_, ?_⟩
  · show slots.reduceOption = _
    conv_lhs => rw [← List.take_append_drop name slots, List.drop_eq_getElem_cons hlt, hitem]
    rw [List.reduceOption_append, List.reduceOption_cons_of_some]
  · intro item'
    show (slots.set name (some item')).reduceOption = _
    rw [List.set_eq_take_append_cons_drop, if_pos hlt, List.reduceOption_append,
      List.reduceOption_cons_of_some]
  · show (slots.set name none).reduceOption = _
    rw [List.set_eq_take_append_cons_drop, if_pos hlt, List.reduceOption_append,
      List.reduceOption_cons_of_none]

theorem items_map (f : α → β) (table : Slots α) : (table.map f).items = table.items.map f := by
  simp [items, map, List.reduceOption_map]

theorem map_push (f : α → β) (table : Slots α) (item : α) :
    (table.push item).map f = (table.map f).push (f item) := by
  simp [map, push]

theorem map_set (f : α → β) (table : Slots α) (name : Nat) (item : α) :
    (table.set name item).map f = (table.map f).set name (f item) := by
  simp [map, set, List.map_set]

theorem map_clear (f : α → β) (table : Slots α) (name : Nat) :
    (table.clear name).map f = (table.map f).clear name := by
  simp [map, clear, List.map_set]

end Slots

end DuckdbCoda
