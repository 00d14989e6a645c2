import Mathlib.Data.List.Perm.Basic
import Mathlib.Data.List.Nodup

/-!
# Maps whose keys are compared through a normal form

A map keyed by `κ` in which two keys are the same when `fold` sends them to
the same normal form (a case-insensitive map, for instance). `insert`
overwrites the value stored under an equal key and keeps that key, as
`map[key] = value` does in C++. The invariant is a field, so no map with two
equal keys can be built.

The order of `entries` is an artefact of the model; statements about a scan
of the map hold up to permutation.
-/

namespace DuckdbCoda

variable {κ κ' ν : Type} [DecidableEq κ']

/-- A finite map from `κ` to `ν` with keys identified by `fold`. -/
structure KeyedMap (fold : κ → κ') (ν : Type) where
  entries : List (κ × ν)
  nodup : (entries.map fun entry => fold entry.1).Nodup

namespace KeyedMap

variable {fold : κ → κ'}

/-- The map without entries. -/
def empty : KeyedMap fold ν := ⟨[], List.nodup_nil⟩

/-- Overwrite the value under a key equal to `key`, or add a new entry. -/
def insertEntry (fold : κ → κ') (key : κ) (value : ν) : List (κ × ν) → List (κ × ν)
  | [] => [(key, value)]
  | (key', value') :: rest =>
      if fold key' = fold key then (key', value) :: rest
      else (key', value') :: insertEntry fold key value rest

theorem insertEntry_of_mem {key : κ} (value : ν) {entries : List (κ × ν)}
    (taken : fold key ∈ entries.map fun entry => fold entry.1) :
    (insertEntry fold key value entries).map (fun entry => fold entry.1) =
      entries.map fun entry => fold entry.1 := by
  induction entries with
  | nil => simp at taken
  | cons head rest ih =>
      by_cases h : fold head.1 = fold key
      · simp [insertEntry, h]
      · have hrest : fold key ∈ rest.map fun entry => fold entry.1 := by
          rcases List.mem_cons.mp taken with heq | hmem
          · exact absurd heq.symm h
          · exact hmem
        simp [insertEntry, h, ih hrest]

theorem insertEntry_of_not_mem {key : κ} {value : ν} {entries : List (κ × ν)}
    (free : fold key ∉ entries.map fun entry => fold entry.1) :
    insertEntry fold key value entries = entries ++ [(key, value)] := by
  induction entries with
  | nil => rfl
  | cons head rest ih =>
      simp only [List.map_cons, List.mem_cons, not_or] at free
      simp [insertEntry, Ne.symm free.1, ih free.2]

/-- `map[key] = value`. -/
def insert (map : KeyedMap fold ν) (key : κ) (value : ν) : KeyedMap fold ν where
  entries := insertEntry fold key value map.entries
  nodup := by
    by_cases h : fold key ∈ map.entries.map fun entry => fold entry.1
    · rw [insertEntry_of_mem value h]
      exact map.nodup
    · rw [insertEntry_of_not_mem h, List.map_append]
      exact List.Nodup.append map.nodup (List.nodup_singleton _) (by simpa using h)

/-- `map.find(key)`. -/
def find? (map : KeyedMap fold ν) (key : κ) : Option ν :=
  (map.entries.find? fun entry => fold entry.1 = fold key).map Prod.snd

/-- `map.erase(key)`. -/
def erase (map : KeyedMap fold ν) (key : κ) : KeyedMap fold ν where
  entries := map.entries.filter fun entry => fold entry.1 ≠ fold key
  nodup := (List.filter_sublist.map _).nodup map.nodup

/-- The values in iteration order. -/
def values (map : KeyedMap fold ν) : List ν := map.entries.map Prod.snd

/-- The keys in iteration order, as they were first inserted. -/
def keys (map : KeyedMap fold ν) : List κ := map.entries.map Prod.fst

/-- Insert the items of a list one by one. -/
def insertAll (keyOf : ν → κ) (map : KeyedMap fold ν) (items : List ν) : KeyedMap fold ν :=
  items.foldl (fun acc item => acc.insert (keyOf item) item) map

/-! ## Lookup -/

theorem find?_eq_some_of_mem (map : KeyedMap fold ν) {key : κ} {value : ν}
    (h : (key, value) ∈ map.entries) : map.find? key = some value := by
  obtain ⟨entries, nodup⟩ := map
  simp only [find?] at h ⊢
  induction entries with
  | nil => cases h
  | cons head rest ih =>
      rw [List.map_cons, List.nodup_cons] at nodup
      rcases List.mem_cons.mp h with heq | hmem
      · subst heq
        simp
      · have hne : fold head.1 ≠ fold key := by
          intro heq
          exact nodup.1 (heq ▸ List.mem_map_of_mem (f := fun entry => fold entry.1) hmem)
        simpa [List.find?_cons, hne] using ih nodup.2 hmem

theorem mem_values_of_find? (map : KeyedMap fold ν) {key : κ} {value : ν}
    (h : map.find? key = some value) : value ∈ map.values := by
  simp only [find?, Option.map_eq_some_iff] at h
  obtain ⟨entry, hentry, rfl⟩ := h
  exact List.mem_map_of_mem (List.mem_of_find?_eq_some hentry)

theorem find?_empty (key : κ) : (empty : KeyedMap fold ν).find? key = none := rfl

theorem find?_insert (map : KeyedMap fold ν) (key other : κ) (value : ν) :
    (map.insert key value).find? other =
      if fold other = fold key then some value else map.find? other := by
  obtain ⟨entries, nodup⟩ := map
  simp only [find?, insert]
  clear nodup
  induction entries with
  | nil => by_cases h : fold other = fold key <;> simp [insertEntry, h, eq_comm]
  | cons head rest ih =>
      by_cases hkey : fold head.1 = fold key
      · by_cases hother : fold other = fold key
        · simp [insertEntry, hkey, hother]
        · simp [insertEntry, hkey, hother, Ne.symm hother]
      · by_cases hhead : fold head.1 = fold other
        · have hother : ¬ fold other = fold key := hhead ▸ hkey
          simp [insertEntry, hhead, hother]
        · simpa [insertEntry, hkey, hhead, List.find?_cons] using ih

theorem find?_erase (map : KeyedMap fold ν) (key other : κ) :
    (map.erase key).find? other = if fold other = fold key then none else map.find? other := by
  obtain ⟨entries, nodup⟩ := map
  simp only [find?, erase]
  clear nodup
  induction entries with
  | nil => simp
  | cons head rest ih =>
      by_cases hkey : fold head.1 = fold key
      · by_cases hother : fold other = fold key
        · simp [hother]
        · simpa [hkey, hother, Ne.symm hother] using ih
      · by_cases hhead : fold head.1 = fold other
        · have hother : ¬ fold other = fold key := hhead ▸ hkey
          simp [hhead, hother]
        · simpa [hkey, hhead] using ih

/-! ## Inserting a list of items -/

/-- Distinct keys: nothing is overwritten, every item keeps an entry. -/
theorem insertAll_entries (keyOf : ν → κ) (items : List ν) :
    ∀ map : KeyedMap fold ν,
      (map.entries.map (fun entry => fold entry.1) ++
        items.map fun item => fold (keyOf item)).Nodup →
      (map.insertAll keyOf items).entries =
        map.entries ++ items.map fun item => (keyOf item, item) := by
  induction items with
  | nil => intro map _; simp [insertAll]
  | cons item rest ih =>
      intro map hnd
      have hfree : fold (keyOf item) ∉ map.entries.map fun entry => fold entry.1 := by
        intro hmem
        exact (List.nodup_append.mp hnd).2.2 _ hmem _ (by simp) rfl
      have hstep : (map.insert (keyOf item) item).entries =
          map.entries ++ [(keyOf item, item)] := insertEntry_of_not_mem hfree
      have := ih (map.insert (keyOf item) item) (by rw [hstep]; simpa using hnd)
      simp only [insertAll, List.foldl_cons] at this ⊢
      rw [this, hstep]
      simp

theorem mem_values_insert {map : KeyedMap fold ν} {key : κ} {value v : ν}
    (h : v ∈ (map.insert key value).values) : v = value ∨ v ∈ map.values := by
  obtain ⟨entries, nodup⟩ := map
  simp only [values, insert] at h ⊢
  clear nodup
  induction entries with
  | nil => exact .inl (List.mem_singleton.mp h)
  | cons head rest ih =>
      by_cases hkey : fold head.1 = fold key
      · simp only [insertEntry, hkey, if_true, List.map_cons] at h
        rcases List.mem_cons.mp h with rfl | h
        · exact .inl rfl
        · exact .inr (List.mem_cons_of_mem _ h)
      · simp only [insertEntry, hkey, if_false, List.map_cons] at h
        rcases List.mem_cons.mp h with rfl | h
        · exact .inr List.mem_cons_self
        · exact (ih h).imp_right (List.mem_cons_of_mem _)

theorem mem_keys_insert {map : KeyedMap fold ν} {key k : κ} {value : ν}
    (h : k ∈ (map.insert key value).keys) : k = key ∨ k ∈ map.keys := by
  obtain ⟨entries, nodup⟩ := map
  simp only [keys, insert] at h ⊢
  clear nodup
  induction entries with
  | nil => exact .inl (List.mem_singleton.mp h)
  | cons head rest ih =>
      by_cases hkey : fold head.1 = fold key
      · simp only [insertEntry, hkey, if_true, List.map_cons] at h
        exact .inr h
      · simp only [insertEntry, hkey, if_false, List.map_cons] at h
        rcases List.mem_cons.mp h with rfl | h
        · exact .inr List.mem_cons_self
        · exact (ih h).imp_right (List.mem_cons_of_mem _)

theorem mem_values_erase {map : KeyedMap fold ν} {key : κ} {v : ν}
    (h : v ∈ (map.erase key).values) : v ∈ map.values :=
  (List.filter_sublist.map Prod.snd).subset h

/-- What a list of insertions leaves in the map are its items and what was
there before. -/
theorem mem_values_insertAll (keyOf : ν → κ) (items : List ν) :
    ∀ {map : KeyedMap fold ν} {v : ν}, v ∈ (map.insertAll keyOf items).values →
      v ∈ items ∨ v ∈ map.values := by
  induction items with
  | nil => exact fun h => .inr h
  | cons item rest ih =>
      intro map v h
      rcases @ih (map.insert (keyOf item) item) v h with h | h
      · exact .inl (List.mem_cons_of_mem _ h)
      · rcases mem_values_insert h with rfl | h
        · exact .inl List.mem_cons_self
        · exact .inr h

/-- One insertion adds at most one entry. -/
theorem length_insert_le (map : KeyedMap fold ν) (key : κ) (value : ν) :
    (map.insert key value).entries.length ≤ map.entries.length + 1 := by
  by_cases h : fold key ∈ map.entries.map fun entry => fold entry.1
  · have := congrArg List.length (insertEntry_of_mem value h)
    simp only [List.length_map] at this
    simp [insert, this]
  · simp [insert, insertEntry_of_not_mem h]

theorem length_insertAll_le (keyOf : ν → κ) (items : List ν) :
    ∀ map : KeyedMap fold ν,
      (map.insertAll keyOf items).entries.length ≤ map.entries.length + items.length := by
  induction items with
  | nil => intro map; simp [insertAll]
  | cons item rest ih =>
      intro map
      have hstep := length_insert_le map (keyOf item) item
      have := ih (map.insert (keyOf item) item)
      simp only [insertAll, List.foldl_cons, List.length_cons] at this ⊢
      omega

/-- A repeated key costs an entry: inserting `n` items fills `n` new entries
only if their keys are pairwise different and new. -/
theorem nodup_of_length_insertAll (keyOf : ν → κ) (items : List ν) :
    ∀ map : KeyedMap fold ν,
      (map.insertAll keyOf items).entries.length = map.entries.length + items.length →
      (map.entries.map (fun entry => fold entry.1) ++
        items.map fun item => fold (keyOf item)).Nodup := by
  induction items with
  | nil => intro map _; simpa using map.nodup
  | cons item rest ih =>
      intro map hlen
      have hstep := length_insert_le map (keyOf item) item
      have hrest := length_insertAll_le keyOf rest (map.insert (keyOf item) item)
      simp only [insertAll, List.foldl_cons, List.length_cons] at hlen hrest
      have hfree : fold (keyOf item) ∉ map.entries.map fun entry => fold entry.1 := by
        intro hmem
        have heq := congrArg List.length (insertEntry_of_mem item hmem)
        simp only [List.length_map] at heq
        simp only [insert, heq] at hrest hlen
        omega
      have hentries : (map.insert (keyOf item) item).entries =
          map.entries ++ [(keyOf item, item)] := insertEntry_of_not_mem hfree
      have hone : (map.insert (keyOf item) item).entries.length = map.entries.length + 1 := by
        simp [hentries]
      have := ih (map.insert (keyOf item) item) (by
        simp only [insertAll, hone]
        omega)
      simpa [hentries] using this

end KeyedMap

end DuckdbCoda
