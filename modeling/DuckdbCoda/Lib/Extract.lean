import Mathlib.Data.List.Basic

/-!
# Taking the first qualifying item out of a list

`extractFirst f items` is the first item on which `f` is defined, as the value
`f` has there, with the other items (`extractFirst_eq`). Offering a growing
list until an item is found is offering the whole list
(`extractFirst_append`).

`filter_conjunct_iff` is what a selection must satisfy to stand in for one
conjunct of a filter.
-/

namespace DuckdbCoda

variable {α β ρ : Type}

/-- The first item on which `f` is defined, and the items without it. -/
def extractFirst (f : α → Option β) : List α → Option (β × List α)
  | [] => none
  | item :: rest =>
      match f item with
      | some value => some (value, rest)
      | none => (extractFirst f rest).map fun (value, others) => (value, item :: others)

theorem extractFirst_eq_none_iff {f : α → Option β} {items : List α} :
    extractFirst f items = none ↔ ∀ item ∈ items, f item = none := by
  induction items with
  | nil => simp [extractFirst]
  | cons item rest ih =>
      cases hitem : f item with
      | some value => simp [extractFirst, hitem]
      | none => simp [extractFirst, hitem, ih]

/-- What is taken, and what is left. -/
theorem extractFirst_eq (f : α → Option β) (items : List α) :
    extractFirst f items = (items.find? fun item => (f item).isSome).bind fun item =>
      (f item).map fun value => (value, items.eraseP fun item => (f item).isSome) := by
  induction items with
  | nil => rfl
  | cons head rest ih =>
      rw [extractFirst]
      cases hhead : f head with
      | some value => simp [hhead]
      | none =>
          rw [ih]
          cases hfind : rest.find? fun item => (f item).isSome with
          | none => simp [hhead, hfind]
          | some item => cases hitem : f item <;> simp [hhead, hfind, hitem]

/-- The first value `f` has is its value on the first item it is defined on. -/
theorem findSome?_eq_find?_bind (f : α → Option β) (items : List α) :
    items.findSome? f = (items.find? fun item => (f item).isSome).bind f := by
  induction items with
  | nil => rfl
  | cons head rest ih => cases hhead : f head <;> simp [hhead, ih]

/-- A conjunction is the item that was taken together with the others. -/
theorem all_eq_of_find? {qualifies holds : α → Bool} {items : List α} {item : α}
    (h : items.find? qualifies = some item) :
    items.all holds = (holds item && (items.eraseP qualifies).all holds) := by
  induction items with
  | nil => cases h
  | cons head rest ih =>
      cases hhead : qualifies head with
      | true =>
          rw [List.find?_cons_of_pos hhead] at h
          cases h
          rw [List.eraseP_cons_of_pos hhead, List.all_cons]
      | false =>
          have hneg : ¬ qualifies head = true := by simp [hhead]
          rw [List.find?_cons_of_neg hneg] at h
          rw [List.eraseP_cons_of_neg hneg, List.all_cons, List.all_cons, ih h,
            Bool.and_left_comm]

/-- More items behind change nothing but the items left over. -/
theorem extractFirst_append {f : α → Option β} (items more : List α) :
    extractFirst f (items ++ more) =
      match extractFirst f items with
      | some (value, others) => some (value, others ++ more)
      | none => (extractFirst f more).map fun (value, others) => (value, items ++ others) := by
  induction items with
  | nil => cases h : extractFirst f more <;> simp [extractFirst, h]
  | cons head rest ih =>
      rw [List.cons_append, extractFirst, extractFirst]
      cases hhead : f head with
      | some value => rfl
      | none =>
          rw [ih]
          cases extractFirst f rest with
          | some found => rfl
          | none => cases extractFirst f more <;> rfl

/-- A selection may stand in for a conjunct exactly if the two agree on the
rows that pass the rest of the filter. -/
theorem filter_conjunct_iff {rows : List ρ} {selected conjunct rest : ρ → Bool} :
    (rows.filter selected).filter rest = rows.filter (fun row => conjunct row && rest row) ↔
      ∀ row ∈ rows, rest row = true → selected row = conjunct row := by
  rw [List.filter_filter]
  constructor
  · intro heq row hmem hrest
    have hiff : row ∈ rows.filter (fun row => rest row && selected row) ↔
        row ∈ rows.filter fun row => conjunct row && rest row := by rw [heq]
    rw [List.mem_filter, List.mem_filter] at hiff
    simpa [hmem, hrest, ← Bool.eq_iff_iff] using hiff
  · intro hagree
    apply List.filter_congr
    intro row hmem
    cases hrest : rest row with
    | true => rw [hagree row hmem hrest, Bool.and_comm]
    | false => rw [Bool.false_and, Bool.and_false]

end DuckdbCoda
