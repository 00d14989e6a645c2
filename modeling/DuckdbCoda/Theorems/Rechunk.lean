import DuckdbCoda.Logic.ScanBuffer
import DuckdbCoda.Model.MockCoda

/-!
# Re-chunking batches into vectors

One call of `RustBridgeScan` outputs a prefix of the rows its state supplies,
and an empty chunk only when there is none (`rustBridgeScan_returns`), so the
calls up to the first empty chunk output all of them (`drain_returns`). What
they are is decided by the limit: it stops the fetching of batches, not the
copying of rows.
-/

namespace DuckdbCoda

open Loop Paging

variable {S : Type}

/-! ## Projection -/

/-- The value of an output column: the converted value of the column it
denotes, or the row id. -/
def projectedValue (duckdb : DuckDb) (table : RustBridgeTableInfo) (row : RustExtRow) :
    ColumnIndex → Value
  | .rowId => .varchar row.id
  | .virtualColumn type => .null type
  | .column index =>
      match table.columns[index]? with
      | some info => info.read duckdb row
      | none => .null .varchar

def projectedRow (duckdb : DuckDb) (table : RustBridgeTableInfo) (columns : List ColumnIndex)
    (row : RustExtRow) : List Value :=
  columns.map (projectedValue duckdb table row)

/-- The column that output column `k` denotes. Projection ids are positions of the
column indexes; without them every column index is one of the output. -/
def TableFunctionInitInput.denotes (input : TableFunctionInitInput) (k : Nat) :
    Option ColumnIndex :=
  if input.projectionIds = [] then input.columnIndexes[k]?
  else
    match input.projectionIds[k]? with
    | none => none
    | some id => input.columnIndexes[id]?

example : (List.range 3).map (TableFunctionInitInput.denotes ⟨[.rowId, .column 4], [1, 0]⟩) =
    [some (.column 4), some .rowId, none] := by
  decide

/-- The input is one that DuckDB may give for the table: its projection ids are
positions, and the columns it denotes are columns of the table. -/
structure TableFunctionInitInput.Fits (input : TableFunctionInitInput)
    (table : RustBridgeTableInfo) : Prop where
  ids : ∀ id ∈ input.projectionIds, id < input.columnIndexes.length
  columns : ∀ k index, input.denotes k = some (.column index) → index < table.columns.length

/-- The values are those of the row, one for each output column. -/
def TableFunctionInitInput.Projects (input : TableFunctionInitInput) (duckdb : DuckDb)
    (table : RustBridgeTableInfo) (row : RustExtRow) (values : List Value) : Prop :=
  ∀ k, values[k]? = (input.denotes k).map (projectedValue duckdb table row)

/-- Where every element is mapped to something, the places stay. -/
theorem getElem?_filterMap {α β : Type} (f : α → Option β) {items : List α}
    (h : ∀ item ∈ items, (f item).isSome) :
    ∀ k : Nat, (items.filterMap f)[k]? = items[k]?.bind f := by
  induction items with
  | nil => exact fun _ => rfl
  | cons item rest ih =>
      obtain ⟨image, himage⟩ := Option.isSome_iff_exists.mp (h item List.mem_cons_self)
      have hrest := ih fun other hmem => h other (List.mem_cons_of_mem _ hmem)
      intro k
      rw [List.filterMap_cons_some himage]
      cases k with
      | zero => exact himage.symm
      | succ k => exact hrest k

/-- The scan puts out the columns that are denoted. -/
theorem projected_denotes {input : TableFunctionInitInput}
    (hids : ∀ id ∈ input.projectionIds, id < input.columnIndexes.length) (k : Nat) :
    input.projected[k]? = input.denotes k := by
  unfold TableFunctionInitInput.projected TableFunctionInitInput.denotes
  by_cases hnone : input.projectionIds = []
  · simp only [hnone, List.isEmpty_nil, if_true]
  · have hempty : input.projectionIds.isEmpty = false := by simpa using hnone
    rw [hempty, if_neg Bool.false_ne_true, if_neg hnone, getElem?_filterMap]
    · cases input.projectionIds[k]? <;> rfl
    · intro id hmem
      rw [List.getElem?_eq_getElem (hids id hmem)]
      rfl

/-- The values are determined. -/
theorem TableFunctionInitInput.Projects.unique {input : TableFunctionInitInput} {duckdb : DuckDb}
    {table : RustBridgeTableInfo} {row : RustExtRow} {values values' : List Value}
    (h : input.Projects duckdb table row values) (h' : input.Projects duckdb table row values') :
    values = values' :=
  List.ext_getElem? fun k => (h k).trans (h' k).symm

/-- A projected row has the values of its row. -/
theorem projects_projectedRow {input : TableFunctionInitInput}
    (hids : ∀ id ∈ input.projectionIds, id < input.columnIndexes.length) (duckdb : DuckDb)
    (table : RustBridgeTableInfo) (row : RustExtRow) :
    input.Projects duckdb table row (projectedRow duckdb table input.projected row) := by
  intro k
  rw [projectedRow, List.getElem?_map, projected_denotes hids]

/-- The projected table columns exist. -/
def ColumnsInRange (table : RustBridgeTableInfo) (columns : List ColumnIndex) : Prop :=
  ∀ index, ColumnIndex.column index ∈ columns → index < table.columns.length

theorem TableFunctionInitInput.Fits.inRange {input : TableFunctionInitInput}
    {table : RustBridgeTableInfo} (h : input.Fits table) :
    ColumnsInRange table input.projected := by
  intro index hmem
  obtain ⟨k, hk⟩ := List.mem_iff_getElem?.mp hmem
  exact h.columns k index ((projected_denotes h.ids k).symm.trans hk)

/-- A row of output is the projected row. -/
theorem mapM_outputValue (duckdb : DuckDb) (table : RustBridgeTableInfo) (row : RustExtRow)
    {columns : List ColumnIndex} (inRange : ColumnsInRange table columns) :
    columns.mapM (outputValue duckdb table row) = .ok (projectedRow duckdb table columns row) := by
  induction columns with
  | nil => rfl
  | cons column rest ih =>
      have hrest := ih fun index h => inRange index (List.mem_cons_of_mem _ h)
      have hhead : outputValue duckdb table row column =
          .ok (projectedValue duckdb table row column) := by
        cases column with
        | rowId => rfl
        | virtualColumn type => rfl
        | column index =>
            have hget := List.getElem?_eq_getElem (inRange index List.mem_cons_self)
            simp only [outputValue, projectedValue, hget]
      rw [List.mapM_cons, hhead, hrest]
      rfl

/-! ## One call -/

section Calls

variable (next : Nat → S → Option (Except Exception RustExtScanBatch × S)) (duckdb : DuckDb)
  (vectorSize : Nat) (table : RustBridgeTableInfo) (columns : List ColumnIndex)

/-- What every turn of a call keeps: the rows output so far and those the state
supplies make up `rows`. The bound counts rows and batches still to come. -/
def Copying (rows : List RustExtRow) (bound : Nat) (turn : ScanTurn S) : Prop :=
  ∃ sent rest pages, rows = sent ++ rest ∧
    turn.1 = sent.map (projectedRow duckdb table columns) ∧ sent.length ≤ vectorSize ∧
    Supplies next turn.2 rest pages ∧ Shows table columns turn.2 ∧ bound = pages + rest.length

/-- What a call leaves: a chunk of at most `vectorSize` rows, the rest of the
rows for later calls, and an empty chunk only at the end. -/
def Chunked (rows : List RustExtRow) (call : ScanCall S) : Prop :=
  ∃ chunk rest pages, rows = chunk ++ rest ∧
    call.1 = .ok (chunk.map (projectedRow duckdb table columns)) ∧ chunk.length ≤ vectorSize ∧
    Supplies next call.2 rest pages ∧ Shows table columns call.2 ∧
    (chunk = [] → rest = [] ∧ Exhausted call.2)

variable {next duckdb vectorSize table columns}

/-- Copying one row from a state that shows the table: the call goes on with
one row less to come, or returns. -/
theorem emitRow_copying {rows : List RustExtRow} {state : RustBridgeScanGlobalState S}
    {sent rest : List RustExtRow} {pages : Nat} {row : RustExtRow}
    (inRange : ColumnsInRange table columns) (hrows : rows = sent ++ rest)
    (hsent : sent.length < vectorSize) (supplies : Supplies next state rest pages)
    (shows : Shows table columns state) (hrow : state.rows.rows[state.rowOffset]? = some row) :
    (emitRow duckdb (sent.map (projectedRow duckdb table columns)) row state).Progresses
      (Copying next duckdb vectorSize table columns rows)
      (Chunked next duckdb vectorSize table columns rows) (pages + rest.length) := by
  obtain ⟨rest', rfl, supplies'⟩ := supplies.copy hrow
  have hvalues : state.columnIndexes.mapM (outputValue duckdb state.table row) =
      .ok (projectedRow duckdb table columns row) := by
    rw [shows.1, shows.2]
    exact mapM_outputValue duckdb table row inRange
  have hout : sent.map (projectedRow duckdb table columns) ++
      [projectedRow duckdb table columns row] =
      (sent ++ [row]).map (projectedRow duckdb table columns) := by simp
  have hlen : (sent ++ [row]).length ≤ vectorSize := by
    rw [List.length_append, List.length_singleton]
    omega
  have hsplit : rows = (sent ++ [row]) ++ rest' := by simp [hrows]
  rw [emitRow_eq hvalues, hout]
  by_cases hone : state.remainingRows = 1
  · -- the last row that was wanted
    rw [if_pos hone]
    refine ⟨sent ++ [row], rest', pages, hsplit, rfl, hlen, supplies', shows, ?_⟩
    intro hnil
    simp at hnil
  · rw [if_neg hone]
    refine ⟨pages + rest'.length, ?_, sent ++ [row], rest', pages, hsplit, rfl, hlen, supplies',
      shows, rfl⟩
    rw [List.length_cons]
    omega

/-- A turn whose buffer holds a row copies it. -/
theorem rustBridgeScanTurn_row {output : List (List Value)} {state : RustBridgeScanGlobalState S}
    {row : RustExtRow} (hroom : output.length < vectorSize)
    (hrow : state.rows.rows[state.rowOffset]? = some row) (fuel : Nat) :
    rustBridgeScanTurn next duckdb vectorSize fuel (output, state) =
      some (emitRow duckdb output row state) := by
  simp only [rustBridgeScanTurn, hroom, if_true, hrow]

/-- A turn of a finished scan with an empty buffer ends the call. -/
theorem rustBridgeScanTurn_finished {output : List (List Value)}
    {state : RustBridgeScanGlobalState S} (hrow : state.rows.rows[state.rowOffset]? = none)
    (hfinished : state.finished = true) (fuel : Nat) :
    rustBridgeScanTurn next duckdb vectorSize fuel (output, state) =
      some (.done (.ok output, state)) := by
  simp only [rustBridgeScanTurn, hrow, hfinished, if_true, ite_self]

/-- A turn that refills the buffer. -/
theorem rustBridgeScanTurn_refill {output : List (List Value)}
    {state : RustBridgeScanGlobalState S} {batch : RustExtScanBatch} {scan : S} {fuel : Nat}
    (hroom : output.length < vectorSize) (hrow : state.rows.rows[state.rowOffset]? = none)
    (hrun : state.finished = false) (hfetch : next fuel state.scan = some (.ok batch, scan)) :
    rustBridgeScanTurn next duckdb vectorSize fuel (output, state) =
      some (match batch.rows with
        | [] =>
            if batch.finished then .done (.ok output, state.refilled batch scan)
            else .next (output, state.refilled batch scan)
        | row :: _ => emitRow duckdb output row (state.refilled batch scan)) := by
  simp only [rustBridgeScanTurn, hroom, if_true, hrow, hrun, Bool.false_eq_true, if_false, hfetch]
  rfl

/-- A turn that refills the buffer goes on with one batch less to come, or
returns what there is when the batch was the last one. -/
theorem rustBridgeScanTurn_refill_copying {rows : List RustExtRow}
    {state : RustBridgeScanGlobalState S} {sent rest : List RustExtRow} {pages : Nat}
    (inRange : ColumnsInRange table columns) (hrows : rows = sent ++ rest)
    (hsent : sent.length < vectorSize) (supplies : Supplies next state rest pages)
    (shows : Shows table columns state) (hrow : state.rows.rows[state.rowOffset]? = none)
    (hrun : state.finished = false) :
    ∃ turn, Returns (fun fuel => rustBridgeScanTurn next duckdb vectorSize fuel
        (sent.map (projectedRow duckdb table columns), state)) turn ∧
      turn.Progresses (Copying next duckdb vectorSize table columns rows)
        (Chunked next duckdb vectorSize table columns rows) (pages + rest.length) := by
  have hroom : (sent.map (projectedRow duckdb table columns)).length < vectorSize := by
    rwa [List.length_map]
  obtain ⟨batch, scan, pages', rfl, ⟨enough, hfetch⟩, supplies'⟩ := supplies.refill hrow hrun
  refine ⟨_, ⟨enough, fun fuel h => rustBridgeScanTurn_refill hroom hrow hrun (hfetch fuel h)⟩, ?_⟩
  -- the refilled buffer starts with the first row of the batch, if it has one
  have hhead : (state.refilled batch scan).rows.rows[(state.refilled batch scan).rowOffset]? =
      batch.rows.head? := by
    show batch.rows[0]? = _
    rw [List.head?_eq_getElem?]
  cases hbatch : batch.rows with
  | nil =>
      rw [hbatch] at hhead
      cases hlast : batch.finished with
      | true =>
          have hnil := supplies'.nil_of_exhausted hhead hlast
          exact ⟨sent, rest, pages', hrows, rfl, Nat.le_of_lt hsent, supplies', shows,
            fun _ => ⟨hnil, hlast, List.getElem?_eq_none_iff.mp hhead⟩⟩
      | false =>
          exact ⟨pages' + rest.length, by omega, sent, rest, pages', hrows, rfl,
            Nat.le_of_lt hsent, supplies', shows, rfl⟩
  | cons row tail =>
      rw [hbatch] at hhead
      exact (emitRow_copying inRange hrows hsent supplies' shows hhead).mono (by omega)

/-- Every turn of a call goes on with less to come, or returns a chunk. -/
theorem rustBridgeScanTurn_copying (inRange : ColumnsInRange table columns)
    (hvector : 0 < vectorSize) (rows : List RustExtRow) (bound : Nat) (turn : ScanTurn S)
    (copying : Copying next duckdb vectorSize table columns rows bound turn) :
    ∃ result, Returns (fun fuel => rustBridgeScanTurn next duckdb vectorSize fuel turn) result ∧
      result.Progresses (Copying next duckdb vectorSize table columns rows)
        (Chunked next duckdb vectorSize table columns rows) bound := by
  obtain ⟨output, state⟩ := turn
  obtain ⟨sent, rest, pages, hrows, houtput, hsent, supplies, shows, rfl⟩ := copying
  simp only at houtput supplies shows
  subst houtput
  by_cases hfull : sent.length < vectorSize
  · have hroom : (sent.map (projectedRow duckdb table columns)).length < vectorSize := by
      rwa [List.length_map]
    cases hrow : state.rows.rows[state.rowOffset]? with
    | some row =>
        exact ⟨_, .of_eq (rustBridgeScanTurn_row hroom hrow),
          emitRow_copying inRange hrows hfull supplies shows hrow⟩
    | none =>
        cases hfinished : state.finished with
        | true =>
            have hnil := supplies.nil_of_exhausted hrow hfinished
            exact ⟨_, .of_eq (rustBridgeScanTurn_finished hrow hfinished), sent, rest, pages, hrows,
              rfl, hsent, supplies, shows,
              fun _ => ⟨hnil, hfinished, List.getElem?_eq_none_iff.mp hrow⟩⟩
        | false =>
            exact rustBridgeScanTurn_refill_copying inRange hrows hfull supplies shows hrow
              hfinished
  · -- the chunk is full
    have hroom : ¬ (sent.map (projectedRow duckdb table columns)).length < vectorSize := by
      rwa [List.length_map]
    refine ⟨.done (.ok _, state), .of_eq fun fuel => ?_, sent, rest, pages, hrows, rfl, hsent,
      supplies, shows, fun hnil => ?_⟩
    · simp only [rustBridgeScanTurn, hroom, if_false]
    · rw [hnil, List.length_nil] at hfull
      exact absurd hvector hfull

/-- An exhausted state returns empty chunks for ever. -/
theorem rustBridgeScan_exhausted {state : RustBridgeScanGlobalState S} (h : Exhausted state)
    (fuel : Nat) : rustBridgeScan fuel next duckdb vectorSize state = some (.ok [], state) := by
  simp [rustBridgeScan, h.1, h.2]

variable (duckdb) in
/-- **One call** outputs a chunk of the rows its state supplies. -/
theorem rustBridgeScan_returns (inRange : ColumnsInRange table columns) (hvector : 0 < vectorSize)
    {state : RustBridgeScanGlobalState S} {rows : List RustExtRow} {pages : Nat}
    (supplies : Supplies next state rows pages) (shows : Shows table columns state) :
    ∃ call, Returns (fun fuel => rustBridgeScan fuel next duckdb vectorSize state) call ∧
      Chunked next duckdb vectorSize table columns rows call := by
  by_cases hend : Exhausted state
  · have hrow : state.rows.rows[state.rowOffset]? = none := List.getElem?_eq_none_iff.mpr hend.2
    have hnil := supplies.nil_of_exhausted hrow hend.1
    exact ⟨(.ok [], state), .of_eq fun fuel => rustBridgeScan_exhausted hend fuel, [], rows, pages,
      rfl, rfl, Nat.zero_le _, supplies, shows, fun _ => ⟨hnil, hend⟩⟩
  · have hstart : Copying next duckdb vectorSize table columns rows (pages + rows.length)
        ([], state) :=
      ⟨[], rows, pages, rfl, rfl, Nat.zero_le _, supplies, shows, rfl⟩
    obtain ⟨call, hloop, hchunk⟩ := LoopReturns.of_bound _ _
      (rustBridgeScanTurn_copying inRange hvector rows) _ _ hstart
    obtain ⟨enough, hreturns⟩ := hloop.returns
    refine ⟨call, ⟨enough, fun fuel h => ?_⟩, hchunk⟩
    have hguard :
        (state.finished && decide (state.rows.rows.length ≤ state.rowOffset)) = false := by
      simp only [Exhausted, not_and] at hend
      simpa using hend
    simp only [rustBridgeScan, hguard, Bool.false_eq_true, if_false]
    exact hreturns fuel h

/-! ## The calls up to the empty chunk -/

variable (next duckdb vectorSize table columns) in
/-- What the calls keep: the chunks output so far and the rows the state
supplies make up `rows`. -/
def Draining (rows : List RustExtRow) (bound : Nat)
    (calls : List (List (List Value)) × RustBridgeScanGlobalState S) : Prop :=
  ∃ (sent : List (List RustExtRow)) (rest : List RustExtRow) (pages : Nat),
    rows = sent.flatten ++ rest ∧
    calls.1 = sent.map (List.map (projectedRow duckdb table columns)) ∧
    (∀ chunk ∈ sent, chunk.length ≤ vectorSize) ∧
    Supplies next calls.2 rest pages ∧ Shows table columns calls.2 ∧ bound = rest.length

variable (duckdb vectorSize table columns) in
/-- All rows are output, in chunks of at most `vectorSize` rows. -/
def Drained (rows : List RustExtRow)
    (result : Except Exception (List (List (List Value))) × RustBridgeScanGlobalState S) : Prop :=
  ∃ sent : List (List RustExtRow), rows = sent.flatten ∧
    result.1 = .ok (sent.map (List.map (projectedRow duckdb table columns))) ∧
    (∀ chunk ∈ sent, chunk.length ≤ vectorSize) ∧ Exhausted result.2

/-- Every call but the last takes rows off what is still to come. -/
theorem drainTurn_draining (inRange : ColumnsInRange table columns) (hvector : 0 < vectorSize)
    (rows : List RustExtRow) (bound : Nat)
    (calls : List (List (List Value)) × RustBridgeScanGlobalState S)
    (draining : Draining next duckdb vectorSize table columns rows bound calls) :
    ∃ turn, Returns (fun fuel => drainTurn next duckdb vectorSize fuel calls) turn ∧
      turn.Progresses (Draining next duckdb vectorSize table columns rows)
        (Drained duckdb vectorSize table columns rows) bound := by
  obtain ⟨chunks, state⟩ := calls
  obtain ⟨sent, rest, pages, hrows, hchunks, hsizes, supplies, shows, rfl⟩ := draining
  simp only at hchunks supplies shows
  obtain ⟨⟨answer, state'⟩, ⟨enough, hcall⟩, chunk, rest', pages', hrest, hanswer, hsize, supplies',
    shows', hempty⟩ := rustBridgeScan_returns duckdb inRange hvector supplies shows
  simp only at hanswer supplies' shows' hempty
  subst hanswer
  cases chunk with
  | nil =>
      -- the empty chunk, after which there is nothing
      obtain ⟨hnil, hexhausted⟩ := hempty rfl
      refine ⟨.done (.ok chunks, state'), ⟨enough, fun fuel h => ?_⟩, sent, ?_, ?_, hsizes,
        hexhausted⟩
      · have hcall := hcall fuel h
        simp only at hcall
        simp only [drainTurn, hcall, Option.map_some, List.map_nil]
      · rw [hrows, hrest, hnil]
        simp
      · rw [hchunks]
  | cons row tail =>
      refine ⟨.next (chunks ++ [(row :: tail).map (projectedRow duckdb table columns)], state'),
        ⟨enough, fun fuel h => ?_⟩, rest'.length, ?_, sent ++ [row :: tail], rest', pages', ?_, ?_,
        ?_, supplies', shows', rfl⟩
      · have hcall := hcall fuel h
        simp only at hcall
        simp only [drainTurn, hcall, Option.map_some, List.map_cons]
      · rw [hrest, List.length_append, List.length_cons]
        omega
      · rw [hrows, hrest]
        simp
      · rw [hchunks]
        simp
      · intro chunk hmem
        rcases List.mem_append.mp hmem with hmem | hmem
        · exact hsizes chunk hmem
        · rw [List.mem_singleton.mp hmem]
          exact hsize

variable (duckdb) in
/-- **The calls up to the first empty chunk** output what the state supplies. -/
theorem drain_returns (inRange : ColumnsInRange table columns) (hvector : 0 < vectorSize)
    {state : RustBridgeScanGlobalState S} {rows : List RustExtRow} {pages : Nat}
    (supplies : Supplies next state rows pages) (shows : Shows table columns state) :
    ∃ result, Returns (fun fuel => drain fuel next duckdb vectorSize state) result ∧
      Drained duckdb vectorSize table columns rows result := by
  have hstart : Draining next duckdb vectorSize table columns rows rows.length ([], state) :=
    ⟨[], rows, pages, rfl, rfl, fun _ h => absurd h (List.not_mem_nil), supplies, shows, rfl⟩
  obtain ⟨result, hloop, hdrained⟩ := LoopReturns.of_bound _ _
    (drainTurn_draining inRange hvector rows) _ _ hstart
  exact ⟨result, hloop.returns, hdrained⟩

end Calls

/-! ## The limit -/

/-- A fresh state supplies the batches its limit lets through. -/
theorem supplies_new {next : Nat → S → Option (Except Exception RustExtScanBatch × S)}
    (bindData : RustBridgeScanBindData) (input : TableFunctionInitInput) {scan s' : S}
    {batches : Batches}
    (chain : BatchChain next scan bindData.pushedLimit batches (.ok ()) s') :
    Supplies next (RustBridgeScanGlobalState.new bindData input scan) batches.rows
      batches.length := by
  have h : Supplies next (RustBridgeScanGlobalState.new bindData input scan) ([] ++ batches.rows)
      batches.length := .ahead (wanted_empty bindData.pushedLimit) chain
  exact h

/-- Every batch has at most as many rows as were still wanted when it was
asked for. -/
def BatchesFit (batches : Batches) : Prop :=
  ∀ v ∈ batches, v.2.rows.length ≤ v.1

/-- The rows of the batches let through stay within the limit exactly if every
batch fits. -/
theorem rows_length_le_iff {next : Nat → S → Option (Except Exception RustExtScanBatch × S)}
    {scan s' : S} {limit : Nat} {batches : Batches}
    (chain : BatchChain next scan limit batches (.ok ()) s') (hlimit : 0 < limit) :
    batches.rows.length ≤ limit ↔ BatchesFit batches := by
  generalize hout : (Except.ok () : Except Exception Unit) = outcome at chain
  induction chain with
  | failed => cases hout
  | @last _ remaining batch _ _ _ => simp [Batches.rows, BatchesFit]
  | @more _ remaining batch _ remaining' rest _ _ _ hnext _ ih =>
      obtain ⟨hlt, hsub⟩ := wanted_some hlimit hnext
      have hrest := ih (by omega) hout
      have hsum : Batches.rows ((remaining, batch) :: rest) = batch.rows ++ Batches.rows rest := rfl
      rw [hsum, List.length_append]
      constructor
      · intro hle v hv
        rcases List.mem_cons.mp hv with rfl | hv
        · exact Nat.le_of_lt hlt
        · exact hrest.mp (by omega) v hv
      · intro hfit
        have := hrest.mpr fun v hv => hfit v (List.mem_cons_of_mem _ hv)
        omega

/-- **When the pushed limit is respected.** With a pushed limit, the rows of
all output chunks up to the first empty one are at most that many exactly if no
batch is larger than what was left of the limit when it was fetched: the limit
ends the fetching, while the rest of a batch that crosses it is output by the
next calls. -/
theorem pushedLimit_respected_iff
    (next : Nat → S → Option (Except Exception RustExtScanBatch × S)) (duckdb : DuckDb)
    (vectorSize : Nat) (bindData : RustBridgeScanBindData) (input : TableFunctionInitInput)
    (scan s' : S) (batches : Batches)
    (hvector : 0 < vectorSize) (inRange : ColumnsInRange bindData.table input.projected)
    (hlimit : 0 < bindData.pushedLimit)
    (chain : BatchChain next scan bindData.pushedLimit batches (.ok ()) s') :
    ∃ chunks state',
      Returns (fun fuel => drain fuel next duckdb vectorSize (.new bindData input scan))
        (.ok chunks, state') ∧
      (chunks.flatten.length ≤ bindData.pushedLimit ↔ BatchesFit batches) := by
  obtain ⟨⟨answer, state'⟩, hreturns, sent, hrows, hanswer, _⟩ :=
    drain_returns duckdb inRange hvector (supplies_new bindData input chain) ⟨rfl, rfl⟩
  simp only at hanswer
  subst hanswer
  refine ⟨_, state', hreturns, ?_⟩
  rw [← List.map_flatten, List.length_map, ← hrows]
  exact rows_length_le_iff chain hlimit

/-! ## A limit that falls inside a batch -/

/-- Two batches of two and three rows. -/
def mockBatches : List RustExtScanBatch := [
  ⟨[bareRow "r1" "" false, bareRow "r2" "" false], false⟩,
  ⟨[bareRow "r3" "" false, bareRow "r4" "" false, bareRow "r5" "" false], true⟩]

/-- A scan of the row ids and the names with a pushed limit. -/
def mockBindData (limit : Nat) : RustBridgeScanBindData where
  tableEntry := 0
  table := tasksInfo
  pushedLimit := limit

def mockScanInput : TableFunctionInitInput := ⟨[.rowId, .column 0], []⟩

theorem mockScan_inRange (limit : Nat) :
    ColumnsInRange (mockBindData limit).table mockScanInput.projected := by
  intro index h
  have hindex : index = 0 := by
    simpa [mockScanInput, TableFunctionInitInput.projected] using h
  rw [hindex]
  exact Nat.one_pos

theorem mockBatches_chain : BatchChain listBatches mockBatches 0
    (mockBatches.map fun batch => (0, batch)) (.ok ()) [] :=
  .more (.of_eq fun _ => rfl) rfl (.last (.of_eq fun _ => rfl) rfl)

theorem mockBatches_chain_three : BatchChain listBatches mockBatches 3
    [(3, ⟨[bareRow "r1" "" false, bareRow "r2" "" false], false⟩),
      (1, ⟨[bareRow "r3" "" false, bareRow "r4" "" false, bareRow "r5" "" false], true⟩)]
    (.ok ()) [] :=
  .more (.of_eq fun _ => rfl) rfl (.last (.of_eq fun _ => rfl) rfl)

/-- Two rows and then one of three rows are wanted, and five are output. -/
theorem pushedLimit_overrun :
    ∃ chunks state',
      drain 8 listBatches mockDuckDb 2048 (.new (mockBindData 3) mockScanInput mockBatches) =
        some (.ok chunks, state') ∧
      (mockBindData 3).pushedLimit = 3 ∧ chunks.map List.length = [3, 2] ∧
      ¬ chunks.flatten.length ≤ (mockBindData 3).pushedLimit := by
  refine ⟨_, _, rfl, rfl, rfl, ?_⟩
  show ¬ 5 ≤ 3
  omega

/-- With the limit 3 neither side holds of the two batches. -/
theorem pushedLimit_respected_iff_mock :
    ∃ chunks state',
      Returns (fun fuel => drain fuel listBatches mockDuckDb 2048
        (.new (mockBindData 3) mockScanInput mockBatches)) (.ok chunks, state') ∧
      (chunks.flatten.length ≤ 3 ↔ BatchesFit
        [(3, ⟨[bareRow "r1" "" false, bareRow "r2" "" false], false⟩),
          (1, ⟨[bareRow "r3" "" false, bareRow "r4" "" false, bareRow "r5" "" false], true⟩)]) :=
  pushedLimit_respected_iff listBatches mockDuckDb 2048 (mockBindData 3) mockScanInput mockBatches
    [] _ (by omega) (mockScan_inRange 3) (Nat.succ_pos 2) mockBatches_chain_three

/-! ## All batches of a scan -/

/-- A batch that is asked for without a limit is followed by one unless it is
the finished one. -/
theorem wanted_zero (batch : RustExtScanBatch) :
    wanted 0 batch = if batch.finished then none else some 0 := by
  unfold wanted
  simp

/-- Of the batches of a whole scan a limit lets a first part through: all of
them without a limit, and otherwise enough to reach it if they can. -/
theorem chain_under_limit {next : Nat → S → Option (Except Exception RustExtScanBatch × S)}
    {scan s' : S} {all : Batches} (chain : BatchChain next scan 0 all (.ok ()) s') :
    ∀ limit, ∃ (batches : Batches) (s'' : S), BatchChain next scan limit batches (.ok ()) s'' ∧
      batches.rows <+: all.rows ∧ (limit = 0 → batches.rows = all.rows) ∧
      (0 < limit → min limit all.rows.length ≤ batches.rows.length) := by
  obtain ⟨outcome, hout⟩ : ∃ outcome : Except Exception Unit, outcome = .ok () := ⟨_, rfl⟩
  obtain ⟨token, hzero⟩ : ∃ token : Nat, token = 0 := ⟨_, rfl⟩
  rw [← hout, ← hzero] at chain
  induction chain with
  | failed => cases hout
  | @last scan token batch s' answer hnext =>
      subst hzero
      intro limit
      rw [wanted_zero] at hnext
      have hfinished : batch.finished = true := by
        by_contra h
        simp [h] at hnext
      refine ⟨[(limit, batch)], s', .last answer (wanted_of_finished hfinished),
        List.prefix_refl _, fun _ => rfl, fun _ => Nat.min_le_right _ _⟩
  | @more scan token batch s' token' rest _ _ answer hnext chain ih =>
      subst hzero
      have hcons : Batches.rows ((0, batch) :: rest) = batch.rows ++ Batches.rows rest := rfl
      intro limit
      rw [hcons]
      have hrun : batch.finished = false ∧ token' = 0 := by
        rw [wanted_zero] at hnext
        cases hf : batch.finished <;> simp_all
      cases hwanted : wanted limit batch with
      | none =>
          -- the limit is reached within this batch
          have hreached : 0 < limit ∧ limit ≤ batch.rows.length := by
            simp only [wanted, hrun.1, Bool.false_eq_true, if_false] at hwanted
            split at hwanted
            · cases hwanted
            · split at hwanted
              · omega
              · cases hwanted
          have hsingle : Batches.rows [(limit, batch)] = batch.rows := List.append_nil _
          refine ⟨[(limit, batch)], s', .last answer hwanted, ?_, fun h => by omega, fun _ => ?_⟩
          · rw [hsingle]
            exact List.prefix_append _ _
          · rw [hsingle]
            omega
      | some limit' =>
          obtain ⟨batches, s'', chain', hpre, hall, hmin⟩ := ih hout hrun.2 limit'
          have hcons' : Batches.rows ((limit, batch) :: batches) =
              batch.rows ++ Batches.rows batches := rfl
          refine ⟨(limit, batch) :: batches, s'', .more answer hwanted chain', ?_, ?_, ?_⟩
          · rw [hcons']
            exact (List.prefix_append_right_inj _).mpr hpre
          · intro hlimit
            rw [hcons', hall ?_]
            rw [hlimit, wanted_zero, hrun.1] at hwanted
            simpa using hwanted.symm
          · intro hlimit
            obtain ⟨hlt, hsub⟩ := wanted_some hlimit hwanted
            have hmin := hmin (by omega)
            rw [hcons', List.length_append, List.length_append]
            omega

/-- **Re-chunking loses, repeats and reorders nothing.** For a finite sequence
of batches ended by a finished one, the rows output by the calls up to the
first empty chunk are those of the batches, in order, up to the end or, with a
pushed limit, up to some place after the limit. Output column `k` of each has the
value of `columnIndexes[projectionIds[k]]`, or of `columnIndexes[k]` when there are
no projection ids. No chunk is larger than a vector, and after the empty chunk no
call outputs a row. -/
theorem rechunk_exact (next : Nat → S → Option (Except Exception RustExtScanBatch × S))
    (duckdb : DuckDb) (vectorSize : Nat) (bindData : RustBridgeScanBindData)
    (input : TableFunctionInitInput) (scan s' : S) (batches : Batches)
    (hvector : 0 < vectorSize) (fits : input.Fits bindData.table)
    (chain : BatchChain next scan 0 batches (.ok ()) s') :
    ∃ chunks state' rows,
      Returns (fun fuel => drain fuel next duckdb vectorSize (.new bindData input scan))
        (.ok chunks, state') ∧
      List.Forall₂ (input.Projects duckdb bindData.table) rows chunks.flatten ∧
      rows <+: batches.rows ∧
      (bindData.pushedLimit = 0 → rows = batches.rows) ∧
      (0 < bindData.pushedLimit → min bindData.pushedLimit batches.rows.length ≤ rows.length) ∧
      (∀ chunk ∈ chunks, chunk.length ≤ vectorSize) ∧
      ∀ fuel, rustBridgeScan fuel next duckdb vectorSize state' = some (.ok [], state') := by
  obtain ⟨fetched, s'', hfetched, hpre, hall, hmin⟩ :=
    chain_under_limit chain bindData.pushedLimit
  obtain ⟨⟨answer, state'⟩, hreturns, sent, hrows, hanswer, hsizes, hexhausted⟩ :=
    drain_returns duckdb fits.inRange hvector (supplies_new bindData input hfetched) ⟨rfl, rfl⟩
  simp only at hanswer hexhausted
  subst hanswer
  have hflatten :
      (sent.map (List.map (projectedRow duckdb bindData.table input.projected))).flatten =
      (Batches.rows fetched).map (projectedRow duckdb bindData.table input.projected) := by
    rw [hrows, ← List.map_flatten]
  refine ⟨_, state', fetched.rows, hreturns, ?_, hpre, hall, hmin, ?_,
    rustBridgeScan_exhausted hexhausted⟩
  · rw [hflatten, List.forall₂_map_right_iff]
    exact List.forall₂_same.mpr fun row _ =>
      projects_projectedRow fits.ids duckdb bindData.table row
  · intro chunk hmem
    obtain ⟨raw, hraw, rfl⟩ := List.mem_map.mp hmem
    rw [List.length_map]
    exact hsizes raw hraw

/-- The columns are listed the other way round than they are put out. -/
def mockReordered : TableFunctionInitInput := ⟨[.rowId, .column 0], [1, 0]⟩

theorem mockReordered_fits (limit : Nat) : mockReordered.Fits (mockBindData limit).table where
  ids := by
    intro id hmem
    have hid : id = 1 ∨ id = 0 := by simpa [mockReordered] using hmem
    show id < 2
    omega
  columns k index h := by
    rcases k with _ | _ | k
    · cases h
      exact Nat.one_pos
    · cases h
    · cases h

/-- Without a limit the five rows of the two batches come out in two columns, the
row id last. -/
theorem rechunk_exact_mock :
    ∃ chunks state',
      Returns (fun fuel => drain fuel listBatches mockDuckDb 2048
        (.new (mockBindData 0) mockReordered mockBatches)) (.ok chunks, state') ∧
      chunks.flatten = ["r1", "r2", "r3", "r4", "r5"].map fun id =>
        [Value.null .varchar, Value.varchar id] := by
  obtain ⟨chunks, state', rows, hreturns, hread, -, hall, -⟩ := rechunk_exact listBatches
    mockDuckDb 2048 (mockBindData 0) mockReordered mockBatches [] _ (by omega)
    (mockReordered_fits 0) mockBatches_chain
  have hvalues := hread.imp fun row values (hprojects : mockReordered.Projects _ _ _ _) =>
    (projects_projectedRow (mockReordered_fits 0).ids mockDuckDb tasksInfo row).unique hprojects
  rw [← List.forall₂_map_left_iff, List.forall₂_eq_eq_eq] at hvalues
  refine ⟨chunks, state', hreturns, ?_⟩
  rw [← hvalues, hall rfl]
  rfl

end DuckdbCoda
