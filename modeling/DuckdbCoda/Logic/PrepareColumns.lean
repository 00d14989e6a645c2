import DuckdbCoda.Model.Json

/-!
# The sweep that makes column names usable

The suffix search of `prepare_columns` ends: the candidates `base`, `base_2`,
`base_3`, .. are pairwise different up to case, so one of the first
`idx + 1` of them is not a name of the `idx` columns before
(`exists_firstFree`, `preparedName_returns`).

`Sweep` is the sweep as a relation, without fuel. It always leaves something
(`exists_sweep`), which is what `prepare_columns` returns (`Sweep.returns`), and
the rules of the sweep are inductions on it: nothing but names changes
(`Sweep.anonymous`), the names stay distinct (`Sweep.nodup`) and each column gets
the candidate its own search stopped at (`Sweep.step`).
-/

namespace DuckdbCoda

open AsciiCase Loop

/-- The candidate the search tries with the given suffix. -/
def numberedName (base : String) (suffix : Nat) : String :=
  if suffix = 1 then base else base ++ "_" ++ Nat.repr suffix

/-- The name a search starts from. -/
def baseName (original : String) : String :=
  if original.isEmpty then "column" else original

theorem numberedName_succ {base : String} {suffix : Nat} (h : 1 ≤ suffix) :
    numberedName base (suffix + 1) = base ++ "_" ++ Nat.repr (suffix + 1) :=
  if_neg (by omega)

/-- Different suffixes give candidates that differ beyond letter case. -/
theorem numberedName_injective {base : String} {i j : Nat}
    (h : foldCase (numberedName base i) = foldCase (numberedName base j)) : i = j := by
  have hlong : ∀ n, foldCase base ≠ foldCase (base ++ "_" ++ Nat.repr n) := by
    intro n heq
    have hlen := congrArg List.length heq
    simp only [foldCase_append, List.length_append] at hlen
    have hone : (foldCase "_").length = 1 := by decide
    omega
  by_cases hi1 : i = 1 <;> by_cases hj1 : j = 1
  · omega
  · simp only [numberedName, hi1, hj1, if_true, if_false] at h
    exact absurd h (hlong j)
  · simp only [numberedName, hi1, hj1, if_true, if_false] at h
    exact absurd h.symm (hlong i)
  · simp only [numberedName, hi1, hj1, if_false, foldCase_append] at h
    exact foldCase_repr_injective (List.append_cancel_left h)

/-- The test of the search: a column before has the candidate's name. -/
def nameTaken (taken : List RustExtColumn) (candidate : String) : Bool :=
  taken.any fun column => eqIgnoreAsciiCase column.name candidate

/-- The names of the columns, up to case. -/
def foldedNames (columns : List RustExtColumn) : List (List Char) :=
  columns.map fun column => foldCase column.name

theorem nameTaken_iff {taken : List RustExtColumn} {candidate : String} :
    nameTaken taken candidate = true ↔ foldCase candidate ∈ foldedNames taken := by
  simp only [nameTaken, foldedNames, List.any_eq_true, eqIgnoreAsciiCase_iff, List.mem_map]

theorem nameTaken_eq_false_iff {taken : List RustExtColumn} {candidate : String} :
    nameTaken taken candidate = false ↔ foldCase candidate ∉ foldedNames taken := by
  rw [← Bool.not_eq_true, nameTaken_iff]

/-- The search after the columns `taken` stops at candidate `k + 1`: all candidates
before are taken and this one is free. -/
structure FirstFree (taken : List RustExtColumn) (base : String) (k : Nat) : Prop where
  bound : k ≤ taken.length
  free : nameTaken taken (numberedName base (k + 1)) = false
  before : ∀ j < k, nameTaken taken (numberedName base (j + 1)) = true

/-- One of the first `taken.length + 1` candidates is free; take the first. -/
theorem exists_firstFree (taken : List RustExtColumn) (base : String) :
    ∃ k, FirstFree taken base k := by
  have hfree : ∃ k, k ≤ taken.length ∧ nameTaken taken (numberedName base (k + 1)) = false := by
    obtain ⟨k, hk, hnot⟩ := exists_fresh (fun k => foldCase (numberedName base (k + 1)))
      (foldedNames taken)
      (fun i j _ _ h => by
        have := numberedName_injective h
        omega)
    exact ⟨k, by simpa [foldedNames] using hk, nameTaken_eq_false_iff.mpr hnot⟩
  have hleast := Nat.find_spec hfree
  refine ⟨Nat.find hfree, hleast.1, hleast.2, ?_⟩
  intro j hj
  have hmin := Nat.find_min hfree hj
  rw [not_and, Bool.not_eq_false] at hmin
  exact hmin (by omega)

/-- The search stops at one candidate only. -/
theorem FirstFree.unique {taken : List RustExtColumn} {base : String} {j k : Nat}
    (hj : FirstFree taken base j) (hk : FirstFree taken base k) : j = k := by
  -- the smaller one is free for the one search and taken for the other
  rcases Nat.lt_trichotomy j k with hlt | heq | hgt
  · have := hj.free.symm.trans (hk.before j hlt)
    cases this
  · exact heq
  · have := hk.free.symm.trans (hj.before k hgt)
    cases this

/-- The search reaches the first free candidate from every suffix before it. -/
theorem suffixTurn_returns {taken : List RustExtColumn} {base : String} {k : Nat}
    (stop : FirstFree taken base k) :
    ∀ distance suffix, suffix + distance = k →
      LoopReturns (fun _ state => some (suffixTurn taken base state))
        (numberedName base (suffix + 1), suffix + 1) (numberedName base (k + 1)) := by
  intro distance
  induction distance with
  | zero =>
      intro suffix hsum
      have hsuffix : suffix = k := by omega
      subst hsuffix
      refine .done (.of_eq fun _ => ?_)
      simpa [suffixTurn, nameTaken] using stop.free
  | succ distance ih =>
      intro suffix hsum
      have htaken := stop.before suffix (by omega)
      refine .next (.of_eq fun _ => ?_) (ih (suffix + 1) (by omega))
      rw [numberedName_succ (by omega : 1 ≤ suffix + 1)]
      simp only [suffixTurn]
      rw [show (taken.any fun column =>
        eqIgnoreAsciiCase column.name (numberedName base (suffix + 1))) = true from htaken]
      rfl

/-- The search ends with the first free candidate. -/
theorem preparedName_returns {taken : List RustExtColumn} {original : String} {k : Nat}
    (stop : FirstFree taken (baseName original) k) :
    Returns (fun fuel => preparedName fuel taken original)
      (numberedName (baseName original) (k + 1)) :=
  (suffixTurn_returns stop k 0 (by omega)).returns

/-- Everything of a column but its name. -/
def anonymous (column : RustExtColumn) : RustExtColumn := { column with name := "" }

/-! ## The sweep as a relation -/

/-- A column under the candidate its search stopped at. -/
def renamed (column : RustExtColumn) (k : Nat) : RustExtColumn :=
  { column with name := numberedName (baseName column.name) (k + 1) }

/-- `Sweep taken columns prepared`: the sweep over `columns` that starts behind the
prepared columns `taken` leaves `prepared`. -/
inductive Sweep : List RustExtColumn → List RustExtColumn → List RustExtColumn → Prop
  | nil {taken} : Sweep taken [] taken
  | cons {taken column rest prepared k} : FirstFree taken (baseName column.name) k →
      Sweep (taken ++ [renamed column k]) rest prepared → Sweep taken (column :: rest) prepared

/-- Every list of columns can be swept. -/
theorem exists_sweep (columns : List RustExtColumn) :
    ∀ taken, ∃ prepared, Sweep taken columns prepared := by
  induction columns with
  | nil => intro taken; exact ⟨taken, .nil⟩
  | cons column rest ih =>
      intro taken
      obtain ⟨k, stop⟩ := exists_firstFree taken (baseName column.name)
      obtain ⟨prepared, hsweep⟩ := ih (taken ++ [renamed column k])
      exact ⟨prepared, .cons stop hsweep⟩

theorem Sweep.returns {taken columns prepared : List RustExtColumn}
    (h : Sweep taken columns prepared) :
    Returns (fun fuel => prepareFrom fuel taken columns) prepared := by
  induction h with
  | nil => exact .pure _
  | @cons taken column rest prepared k stop _ ih =>
      exact Returns.bind (g := fun name fuel =>
        prepareFrom fuel (taken ++ [{ column with name }]) rest) (preparedName_returns stop) ih

/-- The columns before stay as they are. -/
theorem Sweep.taken_prefix {taken columns prepared : List RustExtColumn}
    (h : Sweep taken columns prepared) : taken <+: prepared := by
  induction h with
  | nil => exact List.prefix_rfl
  | cons _ _ ih => exact (List.prefix_append _ _).trans ih

/-- The sweep changes nothing but names. -/
theorem Sweep.anonymous {taken columns prepared : List RustExtColumn}
    (h : Sweep taken columns prepared) :
    prepared.map anonymous = (taken ++ columns).map anonymous := by
  induction h with
  | nil => simp
  | cons _ _ ih =>
      rw [ih]
      simp [DuckdbCoda.anonymous, renamed]

theorem Sweep.length_eq {columns prepared : List RustExtColumn}
    (h : Sweep [] columns prepared) : prepared.length = columns.length := by
  have hlen := congrArg List.length h.anonymous
  simpa using hlen

theorem renamed_name_ne_empty (column : RustExtColumn) (k : Nat) :
    (renamed column k).name ≠ "" := by
  have hbase : baseName column.name ≠ "" := by
    unfold baseName
    split
    · decide
    · next hne => simpa using hne
  show numberedName (baseName column.name) (k + 1) ≠ ""
  unfold numberedName
  split
  · exact hbase
  · intro hempty
    have hlen := congrArg (fun s => s.toList.length) hempty
    simp at hlen

theorem Sweep.name_ne_empty {taken columns prepared : List RustExtColumn}
    (h : Sweep taken columns prepared) (named : ∀ column ∈ taken, column.name ≠ "") :
    ∀ column ∈ prepared, column.name ≠ "" := by
  induction h with
  | nil => exact named
  | @cons taken column rest prepared k _ _ ih =>
      apply ih
      intro other hmem
      rcases List.mem_append.mp hmem with hbefore | hlast
      · exact named other hbefore
      · rw [List.mem_singleton.mp hlast]
        exact renamed_name_ne_empty column k

/-- The candidate a search stops at is new, so distinct names stay distinct. -/
theorem Sweep.nodup {taken columns prepared : List RustExtColumn}
    (h : Sweep taken columns prepared) (distinct : (foldedNames taken).Nodup) :
    (foldedNames prepared).Nodup := by
  induction h with
  | nil => exact distinct
  | @cons taken column rest prepared k stop _ ih =>
      apply ih
      rw [foldedNames, List.map_append]
      refine List.Nodup.append distinct (List.nodup_singleton _) ?_
      intro name hbefore hlast
      rw [List.mem_singleton.mp hlast] at hbefore
      exact nameTaken_eq_false_iff.mp stop.free hbefore

/-- Names that are non-empty and distinct are left alone. -/
theorem sweep_of_usable (columns : List RustExtColumn) :
    ∀ taken, (∀ column ∈ columns, column.name ≠ "") → (foldedNames (taken ++ columns)).Nodup →
      Sweep taken columns (taken ++ columns) := by
  induction columns with
  | nil =>
      intro taken _ _
      rw [List.append_nil]
      exact .nil
  | cons column rest ih =>
      intro taken named distinct
      have hbase : baseName column.name = column.name :=
        if_neg (by simpa using named column List.mem_cons_self)
      have hfree : nameTaken taken column.name = false := by
        rw [nameTaken_eq_false_iff]
        intro hbefore
        rw [foldedNames, List.map_append, List.map_cons] at distinct
        exact List.disjoint_of_nodup_append distinct hbefore List.mem_cons_self
      have hstop : FirstFree taken (baseName column.name) 0 :=
        ⟨Nat.zero_le _, by simpa [numberedName, hbase] using hfree, by simp⟩
      have hsame : renamed column 0 = column := by simp [renamed, numberedName, hbase]
      refine .cons hstop ?_
      rw [List.append_cons] at distinct
      rw [hsame, List.append_cons taken column rest]
      exact ih (taken ++ [column]) (fun other hmem => named other (List.mem_cons_of_mem _ hmem))
        distinct

/-- What the sweep does at one position: the search behind the prepared columns
before it stops, and the column gets the candidate it stopped at. -/
theorem Sweep.step {taken columns prepared : List RustExtColumn}
    (h : Sweep taken columns prepared) :
    ∀ {idx : Nat} {column : RustExtColumn}, columns[idx]? = some column →
      ∃ k, FirstFree (prepared.take (taken.length + idx)) (baseName column.name) k ∧
        prepared[taken.length + idx]? = some (renamed column k) := by
  induction h with
  | nil =>
      intro idx column hat
      simp at hat
  | @cons taken head rest prepared k stop hrest ih =>
      intro idx column hat
      cases idx with
      | zero =>
          -- the rest of the sweep does not touch what is prepared
          obtain ⟨tail, htail⟩ := hrest.taken_prefix
          cases hat
          subst htail
          exact ⟨k, by simpa using stop, by simp⟩
      | succ idx =>
          have hrest' : rest[idx]? = some column := by simpa using hat
          obtain ⟨k', hstop, hget⟩ := ih hrest'
          rw [List.length_append, List.length_singleton, Nat.add_assoc, Nat.add_comm 1]
            at hstop hget
          exact ⟨k', hstop, hget⟩

/-- Whatever the fuel, the sweep changes nothing but names. -/
theorem prepareFrom_anonymous {fuel : Nat} (columns : List RustExtColumn) :
    ∀ {taken prepared : List RustExtColumn}, prepareFrom fuel taken columns = some prepared →
      prepared.map anonymous = (taken ++ columns).map anonymous := by
  induction columns with
  | nil =>
      intro taken prepared h
      cases h
      simp
  | cons column rest ih =>
      intro taken prepared h
      rw [prepareFrom] at h
      obtain ⟨name, _, h⟩ := Option.bind_eq_some_iff.mp h
      rw [ih h]
      simp [anonymous]

theorem prepareColumns_anonymous {fuel : Nat} {columns prepared : List RustExtColumn}
    (h : prepareColumns fuel columns = some prepared) :
    prepared.map anonymous = columns.map anonymous := by
  simpa using prepareFrom_anonymous columns h

/-- `prepare_columns` returns, with the same columns up to their names. -/
theorem prepareColumns_returns (columns : List RustExtColumn) :
    ∃ prepared, Returns (fun fuel => prepareColumns fuel columns) prepared ∧
      prepared.map anonymous = columns.map anonymous := by
  obtain ⟨prepared, hsweep⟩ := exists_sweep columns []
  exact ⟨prepared, hsweep.returns, by simpa using hsweep.anonymous⟩

end DuckdbCoda
