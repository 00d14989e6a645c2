import DuckdbCoda.Model.MockCoda
import DuckdbCoda.Logic.PrepareColumns

/-!
# What the column names of a table become

* `prepareColumns_usable` — `prepare_columns` returns usable names: non-empty,
  pairwise distinct ignoring case, each the original one or a numbered form of
  it, and stable under a second call.
* `prepareColumns_rightful_iff` — a search looks at the columns before only, so
  a generated name may be that of a column behind. `NameInUse` says, from the
  original names alone, which names are gone when a column's turn comes; a name
  that no other column bears is kept exactly if it is not among them.
-/

namespace DuckdbCoda

open AsciiCase Loop

/-- **Usable names.** The suffix, an `i32` in the source, stays within the
position of its column. -/
theorem prepareColumns_usable (columns : List RustExtColumn) :
    ∃ prepared, Returns (fun fuel => prepareColumns fuel columns) prepared ∧
      prepared.map anonymous = columns.map anonymous ∧
      (∀ column ∈ prepared, column.name ≠ "") ∧
      prepared.Pairwise (fun column other =>
        eqIgnoreAsciiCase column.name other.name = false) ∧
      (∀ (idx : Nat) (column : RustExtColumn), columns[idx]? = some column →
        ∃ after, prepared[idx]? = some after ∧
          let base := if column.name = "" then "column" else column.name
          (after.name = base ∨
            ∃ k, 2 ≤ k ∧ k ≤ idx + 1 ∧ after.name = base ++ "_" ++ Nat.repr k)) ∧
      Returns (fun fuel => prepareColumns fuel prepared) prepared := by
  obtain ⟨prepared, hsweep⟩ := exists_sweep columns []
  have hnodup : (foldedNames prepared).Nodup := hsweep.nodup List.nodup_nil
  have hnamed : ∀ column ∈ prepared, column.name ≠ "" := hsweep.name_ne_empty (by simp)
  have hagain : Sweep [] prepared prepared := sweep_of_usable prepared [] hnamed hnodup
  refine ⟨prepared, hsweep.returns, by simpa using hsweep.anonymous, hnamed, ?_, ?_,
    hagain.returns⟩
  · refine (List.pairwise_map.mp hnodup).imp fun hne => ?_
    rw [← Bool.not_eq_true, eqIgnoreAsciiCase_iff]
    exact hne
  · intro idx column hat
    obtain ⟨k, hstop, hget⟩ := hsweep.step hat
    rw [List.length_nil, Nat.zero_add] at hstop hget
    refine ⟨renamed column k, hget, ?_⟩
    have hbase : (if column.name = "" then "column" else column.name) = baseName column.name := by
      simp [baseName]
    rw [hbase]
    show numberedName (baseName column.name) (k + 1) = _ ∨ _
    have hbound : k ≤ idx := hstop.bound.trans (List.length_take_le idx prepared)
    by_cases hk : k = 0
    · left
      rw [hk]
      rfl
    · right
      exact ⟨k + 1, by omega, by omega, numberedName_succ (by omega)⟩

/-! ## Names that only one column bears -/

/-- The column at `idx` bears a name, and no other column of the list bears it. -/
def Rightful (columns : List RustExtColumn) (idx : Nat) (column : RustExtColumn) : Prop :=
  column.name ≠ "" ∧ ∀ (j : Nat) (other : RustExtColumn), columns[j]? = some other →
    eqIgnoreAsciiCase other.name column.name = true → j = idx

/-- The column at `idx` bears a name, and no column before it bears it. -/
def FirstBearer (columns : List RustExtColumn) (idx : Nat) (column : RustExtColumn) : Prop :=
  column.name ≠ "" ∧ ∀ (j : Nat) (other : RustExtColumn), columns[j]? = some other →
    eqIgnoreAsciiCase other.name column.name = true → idx ≤ j

/-- A rightful column keeps its name, and the name denotes no other column. -/
def RightfulKept (columns prepared : List RustExtColumn) : Prop :=
  ∀ (idx : Nat) (column : RustExtColumn), columns[idx]? = some column →
    Rightful columns idx column →
    (∃ after, prepared[idx]? = some after ∧ after.name = column.name) ∧
    ∀ (j : Nat) (other : RustExtColumn), prepared[j]? = some other →
      eqIgnoreAsciiCase other.name column.name = true → j = idx

/-- A name that was generated is the original name of no other column. -/
def GeneratedNamesNew (columns prepared : List RustExtColumn) : Prop :=
  ∀ (idx : Nat) (column after : RustExtColumn), columns[idx]? = some column →
    prepared[idx]? = some after → after.name ≠ column.name →
    ∀ (j : Nat) (other : RustExtColumn), columns[j]? = some other →
      eqIgnoreAsciiCase other.name after.name = true → j = idx

/-- `NameInUse columns idx name`: some column before `idx` has the candidate
`name`, and its smaller candidates were all in use before that column. -/
inductive NameInUse (columns : List RustExtColumn) : Nat → List Char → Prop
  | candidate {idx i k : Nat} {column : RustExtColumn} : i < idx → columns[i]? = some column →
      (∀ j < k, NameInUse columns i (foldCase (numberedName (baseName column.name) (j + 1)))) →
      NameInUse columns idx (foldCase (numberedName (baseName column.name) (k + 1)))

/-- The names in use are those of the prepared columns before. -/
theorem Sweep.nameInUse_iff {columns prepared : List RustExtColumn}
    (h : Sweep [] columns prepared) :
    ∀ idx name, name ∈ foldedNames (prepared.take idx) ↔ NameInUse columns idx name := by
  intro idx
  induction idx using Nat.strongRecOn with
  | ind idx ih =>
      intro name
      constructor
      · intro hmem
        obtain ⟨after, hafter, hname⟩ := List.mem_map.mp hmem
        obtain ⟨i, hi, hget⟩ := List.mem_take_iff_getElem.mp hafter
        have hlt : i < columns.length := by
          rw [← h.length_eq]
          omega
        have hat : columns[i]? = some columns[i] := List.getElem?_eq_getElem hlt
        obtain ⟨k, hstop, hprepared⟩ := h.step hat
        rw [List.length_nil, Nat.zero_add] at hstop hprepared
        have hsame : renamed columns[i] k = after := by
          rw [List.getElem?_eq_getElem (by omega), hget] at hprepared
          exact (Option.some.inj hprepared).symm
        rw [← hname, ← hsame]
        refine .candidate (by omega) hat fun j hj => ?_
        exact (ih i (by omega) _).mp (nameTaken_iff.mp (hstop.before j hj))
      · intro hused
        cases hused with
        | @candidate _ i k column hi hat hpassed =>
            obtain ⟨k', hstop, hprepared⟩ := h.step hat
            rw [List.length_nil, Nat.zero_add] at hstop hprepared
            have hsub : foldedNames (prepared.take i) ⊆ foldedNames (prepared.take idx) :=
              List.map_subset _ (List.take_subset_take_left _ (by omega))
            -- either an earlier column has the candidate, or this one stopped at it
            by_cases htaken :
                nameTaken (prepared.take i) (numberedName (baseName column.name) (k + 1)) = true
            · exact hsub (nameTaken_iff.mp htaken)
            · have hk : FirstFree (prepared.take i) (baseName column.name) k := by
                refine ⟨?_, by simpa using htaken, fun j hj => ?_⟩
                · by_contra hgt
                  have := hstop.bound
                  have hfree := nameTaken_eq_false_iff.mp hstop.free
                  exact hfree ((ih i hi _).mpr (hpassed k' (by omega)))
                · exact nameTaken_iff.mpr ((ih i hi _).mpr (hpassed j hj))
              rw [hstop.unique hk] at hprepared
              refine List.mem_map.mpr ⟨renamed column k, ?_, rfl⟩
              exact List.mem_of_getElem? ((List.getElem?_take_of_lt hi).trans hprepared)

/-- A name that is borne is in use behind its bearer. -/
theorem NameInUse.of_bearer {columns : List RustExtColumn} {idx i : Nat} {column : RustExtColumn}
    (hi : i < idx) (hat : columns[i]? = some column) :
    NameInUse columns idx (foldCase (baseName column.name)) :=
  .candidate (k := 0) hi hat fun _ hj => absurd hj (Nat.not_lt_zero _)

theorem baseName_of_ne_empty {name : String} (h : name ≠ "") : baseName name = name :=
  if_neg (by simpa using h)

/-- Of the columns that bear a name, one is the first. -/
theorem exists_firstBearer {columns : List RustExtColumn} {j : Nat} {other : RustExtColumn}
    (hat : columns[j]? = some other) (hname : other.name ≠ "") :
    ∃ m bearer, columns[m]? = some bearer ∧ FirstBearer columns m bearer ∧
      foldCase bearer.name = foldCase other.name := by
  have hbears : ∃ (m : Nat) (bearer : RustExtColumn), columns[m]? = some bearer ∧
      foldCase bearer.name = foldCase other.name := ⟨j, other, hat, rfl⟩
  obtain ⟨bearer, hget, hsame⟩ := Nat.find_spec hbears
  refine ⟨Nat.find hbears, bearer, hget, ⟨?_, fun i column hcolumn heq => ?_⟩, hsame⟩
  · intro hempty
    rw [foldCase_eq_nil_iff.mpr hempty] at hsame
    exact hname (foldCase_eq_nil_iff.mp hsame.symm)
  · exact Nat.find_min' hbears ⟨column, hcolumn, (eqIgnoreAsciiCase_iff.mp heq).trans hsame⟩

section

variable {columns prepared : List RustExtColumn} (sweep : Sweep [] columns prepared)
include sweep

/-- The search of a column whose name is not in use stops at once. -/
theorem kept_of_not_inUse {idx : Nat} {column : RustExtColumn}
    (hat : columns[idx]? = some column) (hname : column.name ≠ "")
    (hfree : ¬ NameInUse columns idx (foldCase column.name)) :
    prepared[idx]? = some column := by
  obtain ⟨k, hstop, hget⟩ := sweep.step hat
  rw [List.length_nil, Nat.zero_add] at hstop hget
  have hzero : k = 0 := by
    by_contra hk
    have htaken := hstop.before 0 (by omega)
    rw [nameTaken_iff, sweep.nameInUse_iff, baseName_of_ne_empty hname] at htaken
    exact hfree htaken
  have hsame : renamed column 0 = column := by
    simp [renamed, numberedName, baseName_of_ne_empty hname]
  rw [hget, hzero, hsame]

/-- A name in use is the name of a prepared column before. -/
theorem exists_of_inUse {idx : Nat} {name : List Char} (hused : NameInUse columns idx name) :
    ∃ i after, i < idx ∧ prepared[i]? = some after ∧ foldCase after.name = name := by
  obtain ⟨after, hafter, hname⟩ := List.mem_map.mp ((sweep.nameInUse_iff idx name).mpr hused)
  obtain ⟨i, hi, hget⟩ := List.mem_take_iff_getElem.mp hafter
  exact ⟨i, after, by omega, by rw [List.getElem?_eq_getElem (by omega), hget], hname⟩

/-- Two prepared columns do not share a name. -/
theorem prepared_injective {i j : Nat} {column other : RustExtColumn}
    (hi : prepared[i]? = some column) (hj : prepared[j]? = some other)
    (hname : foldCase column.name = foldCase other.name) : i = j := by
  have hnodup : (foldedNames prepared).Nodup := sweep.nodup List.nodup_nil
  have hlt : i < (foldedNames prepared).length := by
    rw [foldedNames, List.length_map]
    exact (List.getElem?_eq_some_iff.mp hi).1
  refine (List.getElem?_inj hlt hnodup).mp ?_
  simp only [foldedNames, List.getElem?_map, hi, hj, Option.map_some, hname]

theorem rightfulKept_iff : RightfulKept columns prepared ↔
    ∀ (idx : Nat) (column : RustExtColumn), columns[idx]? = some column →
      Rightful columns idx column → ¬ NameInUse columns idx (foldCase column.name) := by
  constructor
  · intro hkept idx column hat hright hused
    obtain ⟨i, after, hi, hget, hname⟩ := exists_of_inUse sweep hused
    have := (hkept idx column hat hright).2 i after hget (eqIgnoreAsciiCase_iff.mpr hname)
    omega
  · intro hfree idx column hat hright
    have hget := kept_of_not_inUse sweep hat hright.1 (hfree idx column hat hright)
    refine ⟨⟨column, hget, rfl⟩, ?_⟩
    intro j other hother hname
    exact prepared_injective sweep hother hget (eqIgnoreAsciiCase_iff.mp hname)

theorem generatedNamesNew_iff : GeneratedNamesNew columns prepared ↔
    ∀ (idx : Nat) (column : RustExtColumn), columns[idx]? = some column →
      FirstBearer columns idx column → ¬ NameInUse columns idx (foldCase column.name) := by
  constructor
  · intro hnew idx column hat hfirst hused
    obtain ⟨i, after, hi, hget, hname⟩ := exists_of_inUse sweep hused
    obtain ⟨original, horiginal⟩ : ∃ original, columns[i]? = some original := by
      have hlt := (List.getElem?_eq_some_iff.mp hat).1
      exact ⟨columns[i], List.getElem?_eq_getElem (by omega)⟩
    -- the bearer at `idx` is the first one, so the name at `i` is not original
    have hgenerated : after.name ≠ original.name := by
      intro heq
      have := hfirst.2 i original horiginal
        (eqIgnoreAsciiCase_iff.mpr (by rw [← heq, hname]))
      omega
    have := hnew i original after horiginal hget hgenerated idx column hat
      (eqIgnoreAsciiCase_iff.mpr hname.symm)
    omega
  · intro hfree idx column after hat hget hgenerated j other hother hname
    by_contra hne
    have hafter := sweep.name_ne_empty (by simp) after (List.mem_of_getElem? hget)
    have hnonempty : other.name ≠ "" := by
      intro hempty
      rw [eqIgnoreAsciiCase_iff, foldCase_eq_nil_iff.mpr hempty] at hname
      exact hafter (foldCase_eq_nil_iff.mp hname.symm)
    obtain ⟨m, bearer, hbearer, hfirst, hsame⟩ := exists_firstBearer hother hnonempty
    rw [eqIgnoreAsciiCase_iff.mp hname] at hsame
    obtain ⟨k, hstop, hprepared⟩ := sweep.step hat
    rw [List.length_nil, Nat.zero_add] at hstop hprepared
    rw [hget] at hprepared
    cases hprepared
    rcases Nat.lt_trichotomy m idx with hbefore | hself | hbehind
    · -- borne before: the search would not have stopped
      have hused := NameInUse.of_bearer hbefore hbearer
      rw [baseName_of_ne_empty hfirst.1, hsame, ← sweep.nameInUse_iff] at hused
      exact nameTaken_eq_false_iff.mp hstop.free hused
    · -- the column itself: its own name is the first candidate
      subst hself
      rw [hat] at hbearer
      cases hbearer
      have hbase : foldCase (numberedName (baseName column.name) (0 + 1)) =
          foldCase (numberedName (baseName column.name) (k + 1)) := by
        rw [numberedName, if_pos rfl, baseName_of_ne_empty hfirst.1]
        rw [hsame, renamed, baseName_of_ne_empty hfirst.1]
      have hk := numberedName_injective hbase
      rw [renamed, ← hk, numberedName, if_pos rfl, baseName_of_ne_empty hfirst.1] at hgenerated
      exact hgenerated rfl
    · -- borne behind: the generated name is in use when the bearer's turn comes
      refine hfree m bearer hbearer hfirst ((sweep.nameInUse_iff m _).mp ?_)
      rw [hsame]
      refine List.mem_map.mpr ⟨_, ?_, rfl⟩
      exact List.mem_of_getElem? ((List.getElem?_take_of_lt hbehind).trans hget)

end

/-- **Which names are taken away.** -/
theorem prepareColumns_rightful_iff (columns : List RustExtColumn) :
    ∃ prepared, Returns (fun fuel => prepareColumns fuel columns) prepared ∧
      (RightfulKept columns prepared ↔
        ∀ (idx : Nat) (column : RustExtColumn), columns[idx]? = some column →
          Rightful columns idx column → ¬ NameInUse columns idx (foldCase column.name)) ∧
      (GeneratedNamesNew columns prepared ↔
        ∀ (idx : Nat) (column : RustExtColumn), columns[idx]? = some column →
          FirstBearer columns idx column → ¬ NameInUse columns idx (foldCase column.name)) := by
  obtain ⟨prepared, hsweep⟩ := exists_sweep columns []
  exact ⟨prepared, hsweep.returns, rightfulKept_iff hsweep, generatedNamesNew_iff hsweep⟩

/-- Two columns `Name`, and behind them the only column `Name_2`. -/
def mockTwinColumns : List RustExtColumn :=
  [textColumn "c_1" "Name", textColumn "c_2" "Name", textColumn "c_3" "Name_2"]

/-- The second `Name` becomes `Name_2`, and the column `Name_2` is renamed: the
reference `Name_2` denotes the column `c_2`. -/
theorem rightful_name_taken :
    ∃ prepared, prepareColumns 3 mockTwinColumns = some prepared ∧
      prepared.map (fun column => (column.id, column.name)) =
        [("c_1", "Name"), ("c_2", "Name_2"), ("c_3", "Name_2_2")] ∧
      ¬ RightfulKept mockTwinColumns prepared ∧ ¬ GeneratedNamesNew mockTwinColumns prepared := by
  refine ⟨_, rfl, rfl, ?_, ?_⟩
  · intro hkept
    have hright : Rightful mockTwinColumns 2 mockTwinColumns[2] := by
      refine ⟨by decide, ?_⟩
      intro j other hother hname
      match j, hother with
      | 0, rfl => exact absurd hname (by decide)
      | 1, rfl => exact absurd hname (by decide)
      | 2, _ => rfl
    obtain ⟨⟨after, hget, hname⟩, _⟩ := hkept 2 _ rfl hright
    cases hget
    exact absurd hname (by decide)
  · intro hnew
    have := hnew 1 _ _ rfl rfl (by decide) 2 _ rfl (by decide)
    cases this

end DuckdbCoda
