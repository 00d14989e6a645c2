import DuckdbCoda.Lib.Paging
import DuckdbCoda.Model.Scan

/-!
# The buffer between batches and chunks

`remaining_rows`, `row_offset` and `finished` always stand for one list of
rows that is still to be output (`Supplies`): what is left in the buffer, and
the batches after it as long as the limit lets the scan ask for them
(`wanted`). Copying a row takes the first one off that list and refilling the
buffer leaves it as it is, so a call outputs a prefix of it
(`rustBridgeScan_returns`) and the calls up to the empty chunk output all of it
(`drain_returns`).
-/

namespace DuckdbCoda

open Loop Paging

variable {S : Type}

/-! ## The batches a limit lets through -/

/-- How many rows are wanted after a batch (0 without a limit); none when no
batch is asked for after it. -/
def wanted (remaining : Nat) (batch : RustExtScanBatch) : Option Nat :=
  if batch.finished then none
  else if remaining = 0 then some 0
  else if remaining ≤ batch.rows.length then none
  else some (remaining - batch.rows.length)

def BatchAnswer (next : Nat → S → Option (Except Exception RustExtScanBatch × S)) (s : S)
    (_ : Nat) (answer : Except Exception RustExtScanBatch) (s' : S) : Prop :=
  Returns (fun fuel => next fuel s) (answer, s')

/-- The batches a source delivers under a limit, each with the rows still
wanted when it is asked for. -/
abbrev BatchChain (next : Nat → S → Option (Except Exception RustExtScanBatch × S)) :=
  Chain (BatchAnswer next) wanted

abbrev Batches := List (Nat × RustExtScanBatch)

/-- The rows of the batches, in order. -/
def Batches.rows (batches : Batches) : List RustExtRow := batches.flatMap fun v => v.2.rows

theorem wanted_of_finished {remaining : Nat} {batch : RustExtScanBatch}
    (h : batch.finished = true) : wanted remaining batch = none := by
  simp [wanted, h]

/-- Under a limit a batch is followed by another one only if it leaves rows
wanted. -/
theorem wanted_some {remaining remaining' : Nat} {batch : RustExtScanBatch}
    (hlimit : 0 < remaining) (h : wanted remaining batch = some remaining') :
    batch.rows.length < remaining ∧ remaining' = remaining - batch.rows.length := by
  unfold wanted at h
  have hzero : ¬ remaining = 0 := by omega
  simp only [hzero, if_false] at h
  split at h
  · cases h
  · split at h
    · cases h
    · cases h
      exact ⟨by omega, rfl⟩

/-- An empty buffer leaves the limit as it was. -/
theorem wanted_empty (remaining : Nat) : wanted remaining ⟨[], false⟩ = some remaining := by
  by_cases h : remaining = 0 <;> simp [wanted, h]

/-! ## What a state still outputs -/

/-- What is left of the buffer, as a batch. -/
def RustBridgeScanGlobalState.buffered (state : RustBridgeScanGlobalState S) :
    RustExtScanBatch :=
  ⟨state.rows.rows.drop state.rowOffset, state.finished⟩

/-- The rows a state still outputs, and the number of batches it fetches for
them. -/
inductive Supplies (next : Nat → S → Option (Except Exception RustExtScanBatch × S))
    (state : RustBridgeScanGlobalState S) : List RustExtRow → Nat → Prop where
  | buffered : wanted state.remainingRows state.buffered = none →
      Supplies next state state.buffered.rows 0
  | ahead {remaining batches s'} :
      wanted state.remainingRows state.buffered = some remaining →
      BatchChain next state.scan remaining batches (.ok ()) s' →
      Supplies next state (state.buffered.rows ++ Batches.rows batches) batches.length

/-- The state is at the end: every further call returns an empty chunk. -/
def Exhausted (state : RustBridgeScanGlobalState S) : Prop :=
  state.finished = true ∧ state.rows.rows.length ≤ state.rowOffset

/-- The table and the output columns, which no call changes. -/
def Shows (table : RustBridgeTableInfo) (columns : List ColumnIndex)
    (state : RustBridgeScanGlobalState S) : Prop :=
  state.table = table ∧ state.columnIndexes = columns

/-! ## Copying a row -/

/-- The state after a row was copied. -/
def RustBridgeScanGlobalState.copied (state : RustBridgeScanGlobalState S) :
    RustBridgeScanGlobalState S :=
  { state with
    rowOffset := state.rowOffset + 1
    remainingRows := state.remainingRows - 1
    finished := state.finished || state.remainingRows == 1 }

/-- Copying a row leaves the loop exactly when it was the last one wanted. -/
theorem emitRow_eq {duckdb : DuckDb} {output : List (List Value)} {row : RustExtRow}
    {state : RustBridgeScanGlobalState S} {values : List Value}
    (hvalues : state.columnIndexes.mapM (outputValue duckdb state.table row) = .ok values) :
    emitRow duckdb output row state =
      if state.remainingRows = 1 then .done (.ok (output ++ [values]), state.copied)
      else .next (output ++ [values], state.copied) := by
  unfold emitRow
  simp only [hvalues]
  by_cases hpos : 0 < state.remainingRows
  · by_cases hone : state.remainingRows = 1
    · simp [RustBridgeScanGlobalState.copied, hone]
    · have hsub : state.remainingRows - 1 ≠ 0 := by omega
      simp [RustBridgeScanGlobalState.copied, hpos, hone, hsub]
  · have hzero : state.remainingRows = 0 := by omega
    simp [RustBridgeScanGlobalState.copied, hzero]

/-- The buffer loses its first row. -/
theorem buffered_cons {state : RustBridgeScanGlobalState S} {row : RustExtRow}
    (hrow : state.rows.rows[state.rowOffset]? = some row) :
    state.buffered.rows = row :: state.copied.buffered.rows := by
  obtain ⟨hlt, hget⟩ := List.getElem?_eq_some_iff.mp hrow
  show state.rows.rows.drop state.rowOffset = row :: state.rows.rows.drop (state.rowOffset + 1)
  rw [List.drop_eq_getElem_cons hlt, hget]

/-- Whether batches are asked for is not changed by copying a row: either the
limit and the buffer shrink together, or the scan is finished. -/
theorem wanted_copied {state : RustBridgeScanGlobalState S} {row : RustExtRow}
    (hrow : state.rows.rows[state.rowOffset]? = some row) :
    wanted state.copied.remainingRows state.copied.buffered =
      wanted state.remainingRows state.buffered := by
  have hlen : state.buffered.rows.length = state.copied.buffered.rows.length + 1 := by
    rw [buffered_cons hrow, List.length_cons]
  have hfinished : state.copied.buffered.finished =
      (state.buffered.finished || state.remainingRows == 1) := rfl
  have hremaining : state.copied.remainingRows = state.remainingRows - 1 := rfl
  unfold wanted
  rw [hlen, hfinished, hremaining]
  generalize state.buffered.finished = finished
  generalize state.copied.buffered.rows.length = length
  generalize state.remainingRows = remaining
  cases finished with
  | true => rfl
  | false =>
      rcases Nat.lt_trichotomy remaining 1 with h | h | h
      · have hzero : remaining = 0 := by omega
        simp [hzero]
      · simp [h]
      · have h0 : remaining ≠ 0 := by omega
        have h1 : (remaining == 1) = false := by simp; omega
        have hsub : remaining - 1 ≠ 0 := by omega
        have hle : remaining - 1 ≤ length ↔ remaining ≤ length + 1 := by omega
        simp only [h1, h0, hsub, hle, Bool.or_false, Bool.false_eq_true, if_false]
        split
        · rfl
        · congr 1
          omega

/-- Copying a row takes it off the rows to be output. -/
theorem Supplies.copy {next : Nat → S → Option (Except Exception RustExtScanBatch × S)}
    {state : RustBridgeScanGlobalState S} {rows : List RustExtRow} {pages : Nat}
    {row : RustExtRow} (supplies : Supplies next state rows pages)
    (hrow : state.rows.rows[state.rowOffset]? = some row) :
    ∃ rest, rows = row :: rest ∧ Supplies next state.copied rest pages := by
  cases supplies with
  | buffered hwanted =>
      rw [← wanted_copied hrow] at hwanted
      exact ⟨_, buffered_cons hrow, .buffered hwanted⟩
  | ahead hwanted chain =>
      rw [← wanted_copied hrow] at hwanted
      refine ⟨_, ?_, .ahead hwanted chain⟩
      rw [buffered_cons hrow]
      rfl

/-! ## Refilling the buffer -/

/-- The state after a batch came in. -/
def RustBridgeScanGlobalState.refilled (state : RustBridgeScanGlobalState S)
    (batch : RustExtScanBatch) (scan : S) : RustBridgeScanGlobalState S :=
  { state with scan, rows := batch, finished := batch.finished, rowOffset := 0 }

/-- The buffer has run out. -/
theorem buffered_nil {state : RustBridgeScanGlobalState S}
    (hrow : state.rows.rows[state.rowOffset]? = none) :
    state.buffered = ⟨[], state.finished⟩ := by
  have hle := List.getElem?_eq_none_iff.mp hrow
  show RustExtScanBatch.mk _ _ = _
  rw [List.drop_eq_nil_of_le hle]

/-- An empty buffer of a scan that is not finished is refilled, and the rows to
be output stay the same. -/
theorem Supplies.refill {next : Nat → S → Option (Except Exception RustExtScanBatch × S)}
    {state : RustBridgeScanGlobalState S} {rows : List RustExtRow} {pages : Nat}
    (supplies : Supplies next state rows pages)
    (hrow : state.rows.rows[state.rowOffset]? = none) (hrun : state.finished = false) :
    ∃ batch scan pages', pages = pages' + 1 ∧
      Returns (fun fuel => next fuel state.scan) (.ok batch, scan) ∧
      Supplies next (state.refilled batch scan) rows pages' := by
  have hbuffered := buffered_nil hrow
  rw [hrun] at hbuffered
  cases supplies with
  | buffered hwanted =>
      rw [hbuffered, wanted_empty] at hwanted
      cases hwanted
  | @ahead remaining batches s' hwanted chain =>
      rw [hbuffered, wanted_empty] at hwanted
      cases hwanted
      rw [hbuffered]
      cases chain with
      | @last _ _ batch _ answer hnext =>
          refine ⟨batch, s', 0, rfl, answer, ?_⟩
          have hrest : Supplies next (state.refilled batch s') batch.rows 0 :=
            .buffered hnext
          simpa [Batches.rows] using hrest
      | @more _ _ batch scan remaining' rest _ _ answer hnext chain =>
          exact ⟨batch, scan, rest.length, rfl, answer, .ahead hnext chain⟩

/-- A finished scan with an empty buffer outputs nothing more. -/
theorem Supplies.nil_of_exhausted
    {next : Nat → S → Option (Except Exception RustExtScanBatch × S)}
    {state : RustBridgeScanGlobalState S} {rows : List RustExtRow} {pages : Nat}
    (supplies : Supplies next state rows pages)
    (hrow : state.rows.rows[state.rowOffset]? = none) (hfinished : state.finished = true) :
    rows = [] := by
  cases supplies with
  | buffered _ => rw [buffered_nil hrow]
  | ahead hwanted _ =>
      have hend : wanted state.remainingRows state.buffered = none := wanted_of_finished hfinished
      rw [hend] at hwanted
      cases hwanted

end DuckdbCoda
