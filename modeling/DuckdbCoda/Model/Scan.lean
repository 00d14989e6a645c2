import DuckdbCoda.Model.Client
import DuckdbCoda.Model.Transaction

/-!
# The table function `coda_scan`

`RustBridgeScan` refills a buffer from the scan handle and copies rows from it
into output chunks, one chunk per call. It is stated over any source of
batches (`next`); `nextScanBatch` is the one of a `ScanHandle`.
-/

namespace DuckdbCoda

open Loop

variable {σ S : Type}

/-! ## Bind data and initialisation -/

structure RustBridgeScanBindData where
  /-- The catalog entry the scan was bound to, by its address. -/
  tableEntry : Nat
  table : RustBridgeTableInfo
  pushedQuery : String := ""
  pushedQueryDescription : String := ""
  pushedSortBy : String := ""
  pushedLimit : Nat := 0

/-- A projected column: a column of the table, the row id, or another virtual
column with the type of its output vector. -/
inductive ColumnIndex where
  | column (index : Nat)
  | rowId
  | virtualColumn (type : LogicalType)
  deriving DecidableEq

structure TableFunctionInitInput where
  columnIndexes : List ColumnIndex
  projectionIds : List Nat

/-- The columns the output chunk has, in order. (DuckDB's projection ids are
positions of `column_indexes`.) -/
def TableFunctionInitInput.projected (input : TableFunctionInitInput) : List ColumnIndex :=
  if input.projectionIds.isEmpty then input.columnIndexes
  else input.projectionIds.filterMap fun id => input.columnIndexes[id]?

/-- The request the scan is opened with. -/
def RustBridgeScanBindData.request (bindData : RustBridgeScanBindData) : RustExtScanRequest where
  filter := bindData.pushedQuery
  order := bindData.pushedSortBy
  limit := if bindData.pushedLimit = 0 then 500 else min bindData.pushedLimit 500

structure RustBridgeScanGlobalState (S : Type) where
  table : RustBridgeTableInfo
  columnIndexes : List ColumnIndex
  scan : S
  rows : RustExtScanBatch
  rowOffset : Nat
  remainingRows : Nat
  finished : Bool

/-- The state built by the constructor around an opened scan. -/
def RustBridgeScanGlobalState.new (bindData : RustBridgeScanBindData)
    (input : TableFunctionInitInput) (scan : S) : RustBridgeScanGlobalState S where
  table := bindData.table
  columnIndexes := input.projected
  scan := scan
  rows := ⟨[], false⟩
  rowOffset := 0
  remainingRows := bindData.pushedLimit
  finished := false

/-- `RustBridgeScanInitGlobal`, which opens the scan. -/
def rustBridgeScanInitGlobal (context : ClientContext) (config : RustExtClientConfig)
    (bindData : RustBridgeScanBindData) (input : TableFunctionInitInput) :
    Except Exception (RustBridgeScanGlobalState ScanHandle) :=
  if !supportsExplicitTransactions && !context.isAutoCommit then
    .error (.notImplemented explicitTransactionNotSupportedMessage)
  else
    .ok (.new bindData input (ScanHandle.new config bindData.table.table.id bindData.request))

/-! ## One row of output -/

def scanColumnIndexOutOfRangeMessage : String := "Coda scan column index out of range"

def outputValue (duckdb : DuckDb) (table : RustBridgeTableInfo) (row : RustExtRow) :
    ColumnIndex → Except Exception Value
  | .rowId => .ok (.varchar row.id)
  | .virtualColumn type => .ok (.null type)
  | .column index =>
      match table.columns[index]? with
      | none => .error (.internal scanColumnIndexOutOfRangeMessage)
      | some info => .ok (info.read duckdb row)

/-- What a turn carries: the rows of the chunk so far and the state. -/
abbrev ScanTurn (S : Type) := List (List Value) × RustBridgeScanGlobalState S

/-- What a call returns: the chunk or an exception, and the state. -/
abbrev ScanCall (S : Type) := Except Exception (List (List Value)) × RustBridgeScanGlobalState S

/-- The second half of a turn: copy `rows[row_offset++]` and count it. -/
def emitRow (duckdb : DuckDb) (output : List (List Value)) (row : RustExtRow)
    (state : RustBridgeScanGlobalState S) : Turn (ScanTurn S) (ScanCall S) :=
  let state := { state with rowOffset := state.rowOffset + 1 }
  match state.columnIndexes.mapM (outputValue duckdb state.table row) with
  | .error exception => .done (.error exception, state)
  | .ok values =>
      let output := output ++ [values]
      if 0 < state.remainingRows then
        let state := { state with remainingRows := state.remainingRows - 1 }
        if state.remainingRows = 0 then .done (.ok output, { state with finished := true })
        else .next (output, state)
      else .next (output, state)

/-! ## `RustBridgeScan` -/

/-- One turn of `while (out_row < STANDARD_VECTOR_SIZE)`. -/
def rustBridgeScanTurn (next : Nat → S → Option (Except Exception RustExtScanBatch × S))
    (duckdb : DuckDb) (vectorSize fuel : Nat) :
    ScanTurn S → Option (Turn (ScanTurn S) (ScanCall S))
  | (output, state) =>
      if output.length < vectorSize then
        match state.rows.rows[state.rowOffset]? with
        | some row => some (emitRow duckdb output row state)
        | none =>
            if state.finished then some (.done (.ok output, state))
            else
              (next fuel state.scan).map fun
                | (.error exception, scan) => .done (.error exception, { state with scan })
                | (.ok batch, scan) =>
                    let state := { state with
                      scan, rows := batch, finished := batch.finished, rowOffset := 0 }
                    match batch.rows with
                    | [] =>
                        -- an empty batch: `break` if it is the last one, else `continue`
                        if state.finished then .done (.ok output, state)
                        else .next (output, state)
                    | row :: _ => emitRow duckdb output row state
      else some (.done (.ok output, state))

def rustBridgeScan (fuel : Nat) (next : Nat → S → Option (Except Exception RustExtScanBatch × S))
    (duckdb : DuckDb) (vectorSize : Nat) (state : RustBridgeScanGlobalState S) :
    Option (ScanCall S) :=
  if state.finished && decide (state.rows.rows.length ≤ state.rowOffset) then some (.ok [], state)
  else Loop.run (rustBridgeScanTurn next duckdb vectorSize fuel) fuel ([], state)

/-- One call of an executor that goes on until a chunk is empty. -/
def drainTurn (next : Nat → S → Option (Except Exception RustExtScanBatch × S))
    (duckdb : DuckDb) (vectorSize fuel : Nat) :
    List (List (List Value)) × RustBridgeScanGlobalState S →
      Option (Turn (List (List (List Value)) × RustBridgeScanGlobalState S)
        (Except Exception (List (List (List Value))) × RustBridgeScanGlobalState S))
  | (chunks, state) =>
      (rustBridgeScan fuel next duckdb vectorSize state).map fun
        | (.error exception, state) => .done (.error exception, state)
        | (.ok [], state) => .done (.ok chunks, state)
        | (.ok chunk, state) => .next (chunks ++ [chunk], state)

/-- All output chunks up to the first empty one. -/
def drain (fuel : Nat) (next : Nat → S → Option (Except Exception RustExtScanBatch × S))
    (duckdb : DuckDb) (vectorSize : Nat) (state : RustBridgeScanGlobalState S) :
    Option (Except Exception (List (List (List Value))) × RustBridgeScanGlobalState S) :=
  Loop.run (drainTurn next duckdb vectorSize fuel) fuel ([], state)

/-! ## The scan handle as a source of batches -/

/-- `RustBridgeClient::NextScanBatch`. -/
def nextScanBatch (remote : Remote σ) (fuel : Nat) :
    ScanHandle × World σ → Option (Except Exception RustExtScanBatch × (ScanHandle × World σ))
  | (handle, world) =>
      (handle.nextBatch fuel remote world).map fun (answer, handle, world) =>
        ((ffiBool "failed to fetch next Coda scan batch" answer).mapError .invalidInput,
          (handle, world))

/-- A source that plays back a list of batches. -/
def listBatches (_ : Nat) :
    List RustExtScanBatch → Option (Except Exception RustExtScanBatch × List RustExtScanBatch)
  | [] => some (.ok ⟨[], true⟩, [])
  | batch :: rest => some (.ok batch, rest)

end DuckdbCoda
