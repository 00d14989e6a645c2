import DuckdbCoda.Logic.Sends

/-!
# The cells a write encodes

What a statement gives the editable columns of a row (`DmlOperator.assigned`)
is what stands, cell by cell and in that order, in the bodies of the requests
it sends. What was sent are the first steps, so the rows in the bodies are the
first rows of the chunk (`write_bodies`).
-/

namespace DuckdbCoda

variable {σ : Type}

/-! ## What is in a body -/

/-- The rows of a request body. -/
def bodyRows (body : Json) : List Json :=
  match body.get "rows" with
  | some (.array rows) => rows
  | _ => (body.get "row").toList

/-- The cells of a row of a request body: the column with its value. -/
def bodyCells (row : Json) : List (String × Json) :=
  (((row.get "cells").bind Json.asArray).getD []).filterMap fun cell =>
    (cell.getStr "column").bind fun columnId =>
      (cell.get "value").map fun value => (columnId, value)

/-- The body of a mutation request. -/
def Operation.payload : Operation → Option String
  | .upsertRows input => some input.payload
  | .updateRow input => some input.payload
  | .deleteRows input => some input.payload
  | _ => none

theorem bodyCells_writeCells (columns : List RustExtWriteColumn)
    (values : List RustExtInputValue) :
    bodyCells (writeCells columns values) =
      ((columns.zip values).filter fun cell => hasBit cell.1.capabilities columnEditable).map
        fun cell => (cell.1.id, inputValueJson cell.2) := by
  show (writtenCells columns values).filterMap _ = _
  unfold writtenCells
  rw [List.filterMap_map, ← List.filterMap_eq_map]
  rfl

/-! ## What a statement gives its columns -/

def RustBridgeColumnInfo.editable (info : RustBridgeColumnInfo) : Bool :=
  hasBit info.column.capabilities columnEditable

/-- The column an assignment of an UPDATE targets and the value it gets. -/
def assignment (table : RustBridgeTableInfo) (row : Nat → Value)
    (target : Nat × UpdateExpression) : Option (RustBridgeColumnInfo × Value) :=
  (table.columns[target.1]?).bind fun info =>
    match target.2 with
    | .boundRef index => some (info, row index)
    | .valueDefault => some (info, .null info.duckdbType)
    | .other => none

/-- The editable columns a statement writes in a row, with their values. -/
def DmlOperator.assigned (operator : DmlOperator) (row : Nat → Value) :
    List (RustBridgeColumnInfo × Value) :=
  (match operator.statement with
    | .insert =>
        operator.table.columns.zip ((List.range operator.table.columns.length).map row)
    | .update assignments => assignments.filterMap (assignment operator.table row)
    | .delete _ => []).filter fun written => written.1.editable

/-- What is written are editable columns of the table. -/
theorem DmlOperator.mem_assigned {operator : DmlOperator} {row : Nat → Value}
    {written : RustBridgeColumnInfo × Value} (h : written ∈ operator.assigned row) :
    written.1 ∈ operator.table.columns ∧ written.1.editable = true := by
  obtain ⟨table, statement⟩ := operator
  obtain ⟨hmem, heditable⟩ := List.mem_filter.mp h
  refine ⟨?_, heditable⟩
  cases statement with
  | insert => exact (List.of_mem_zip hmem).1
  | update assignments =>
      obtain ⟨⟨index, expression⟩, _, htarget⟩ := List.mem_filterMap.mp hmem
      obtain ⟨info, hinfo, hwritten⟩ := Option.bind_eq_some_iff.mp htarget
      cases expression with
      | boundRef position =>
          cases hwritten
          exact List.mem_of_getElem? hinfo
      | valueDefault =>
          cases hwritten
          exact List.mem_of_getElem? hinfo
      | other => cases hwritten
  | delete rowIdIndex => cases hmem

/-- The cell of a written column. -/
def writtenCell (duckdb : DuckDb) (written : RustBridgeColumnInfo × Value) : String × Json :=
  (written.1.column.id, inputValueJson (convert duckdb written.2))

/-- The cells of a row of an INSERT. -/
theorem insertCells_eq (duckdb : DuckDb) (table : RustBridgeTableInfo) (row : Nat → Value) :
    bodyCells (writeCells (editableColumns table) (insertRowValues duckdb table row)) =
      (DmlOperator.assigned ⟨table, .insert⟩ row).map (writtenCell duckdb) := by
  have hvalues : insertRowValues duckdb table row =
      ((List.range table.columns.length).map row).map (convert duckdb) := by
    rw [List.map_map]
    rfl
  have hzip : (editableColumns table).zip (insertRowValues duckdb table row) =
      (table.columns.zip ((List.range table.columns.length).map row)).map
        fun written => (written.1.writeColumn, convert duckdb written.2) := by
    rw [editableColumns, hvalues, List.zip_map]
    rfl
  rw [bodyCells_writeCells, hzip, List.filter_map, List.map_map]
  rfl

theorem bodyCells_cons (column : RustExtWriteColumn) (columns : List RustExtWriteColumn)
    (value : RustExtInputValue) (values : List RustExtInputValue) :
    bodyCells (writeCells (column :: columns) (value :: values)) =
      bodyCells (writeCells [column] [value]) ++ bodyCells (writeCells columns values) := by
  simp only [bodyCells_writeCells, List.zip_cons_cons, List.zip_nil_right, ← List.map_append,
    ← List.filter_append, List.singleton_append]

/-- One assignment that does not throw: its cell, when its column is one of the
table and editable. -/
theorem updateCell_eq {duckdb : DuckDb} {table : RustBridgeTableInfo} {row : Nat → Value}
    {target : Nat × UpdateExpression} {value : RustExtInputValue}
    (h : updateValue duckdb table row target = .ok value) :
    bodyCells (writeCells [updateColumn table target.1] [value]) =
      ((assignment table row target).toList.filter fun written => written.1.editable).map
        (writtenCell duckdb) := by
  obtain ⟨index, expression⟩ := target
  cases hcolumn : table.columns[index]? with
  | none =>
      -- beyond the table: a column that is not editable, so no cell
      have hcolumn' : updateColumn table index = { capabilities := columnGenerated } := by
        simp only [updateColumn, hcolumn]
      have hnot : assignment table row (index, expression) = none := by
        simp only [assignment, hcolumn, Option.bind_none]
      show bodyCells (writeCells [updateColumn table index] [value]) = _
      have hgenerated : hasBit columnGenerated columnEditable = false := by decide
      rw [hcolumn', hnot, bodyCells_writeCells]
      simp [hgenerated]
  | some info =>
      have hcolumn' : updateColumn table index = info.writeColumn := by
        simp only [updateColumn, hcolumn]
      have hsome : ∃ sqlValue, assignment table row (index, expression) = some (info, sqlValue) ∧
          value = convert duckdb sqlValue := by
        simp only [updateValue, hcolumn] at h
        simp only [assignment, hcolumn, Option.bind_some]
        cases expression with
        | boundRef position =>
            cases h
            exact ⟨_, rfl, rfl⟩
        | valueDefault =>
            cases h
            exact ⟨_, rfl, rfl⟩
        | other => cases h
      obtain ⟨sqlValue, hassignment, rfl⟩ := hsome
      show bodyCells (writeCells [updateColumn table index] _) = _
      rw [hcolumn', hassignment, bodyCells_writeCells]
      have heditable : hasBit info.writeColumn.capabilities columnEditable = info.editable := rfl
      -- `write_cells` leaves out what is not editable
      cases hcase : info.editable with
      | false => simp [heditable, hcase]
      | true =>
          have hid : info.writeColumn.id = info.column.id := rfl
          simp [heditable, hcase, writtenCell, hid]

/-- The cells of a row of an UPDATE, when no assignment throws. -/
theorem updateCells_eq (duckdb : DuckDb) (table : RustBridgeTableInfo) (row : Nat → Value)
    (assignments : List (Nat × UpdateExpression)) :
    ∀ {values : List RustExtInputValue},
      assignments.mapM (updateValue duckdb table row) = .ok values →
      values.length = assignments.length ∧
      bodyCells (writeCells (assignments.map fun target => updateColumn table target.1) values) =
        (DmlOperator.assigned ⟨table, .update assignments⟩ row).map (writtenCell duckdb) := by
  induction assignments with
  | nil =>
      intro values h
      cases h
      exact ⟨rfl, rfl⟩
  | cons target rest ih =>
      intro values h
      rw [List.mapM_cons] at h
      obtain ⟨value, hvalue, h⟩ := bind_eq_ok h
      obtain ⟨others, hothers, h⟩ := bind_eq_ok h
      cases h
      obtain ⟨hlength, hcells⟩ := ih hothers
      have hassigned : DmlOperator.assigned ⟨table, .update (target :: rest)⟩ row =
          ((assignment table row target).toList.filter fun written => written.1.editable) ++
            DmlOperator.assigned ⟨table, .update rest⟩ row := by
        simp only [DmlOperator.assigned, ← List.filter_append, List.filterMap_cons]
        cases assignment table row target <;> rfl
      refine ⟨by rw [List.length_cons, hlength, List.length_cons], ?_⟩
      rw [List.map_cons, bodyCells_cons, updateCell_eq hvalue, hcells, hassigned, List.map_append]

/-! ## Rows of equal width -/

theorem rowSlice_flatten {width : Nat} (rows : List (List RustExtInputValue)) :
    (∀ row ∈ rows, row.length = width) →
      ∀ {index : Nat} {row : List RustExtInputValue}, rows[index]? = some row →
        rowSlice rows.flatten width index = row := by
  induction rows with
  | nil =>
      intro _ index row h
      cases h
  | cons head rest ih =>
      intro hwidth index row h
      have hhead : head.length = width := hwidth head List.mem_cons_self
      cases index with
      | zero =>
          cases h
          simp [rowSlice, ← hhead]
      | succ index =>
          have hrest := ih (fun row hmem => hwidth row (List.mem_cons_of_mem _ hmem)) h
          rw [← hrest, rowSlice, rowSlice, List.flatten_cons, Nat.succ_mul, Nat.add_comm,
            ← List.drop_drop, ← hhead, List.drop_left]

/-- The first slices are the first rows. -/
theorem map_rowSlice {width : Nat} {rows : List (List RustExtInputValue)}
    (hwidth : ∀ row ∈ rows, row.length = width) {count : Nat} (hcount : count ≤ rows.length) :
    (List.range count).map (rowSlice rows.flatten width) = rows.take count := by
  apply List.ext_getElem
  · simp [hcount]
  · intro index h h'
    simp only [List.length_map, List.length_range] at h
    have hrow : rows[index]? = some rows[index] := List.getElem?_eq_getElem (by omega)
    simp [rowSlice_flatten rows hwidth hrow]

/-! ## The bodies of the requests -/

/-- The requests carry the bodies. -/
def Carries (serde : SerdeJson) (sent : List Exchange) (bodies : List Json) : Prop :=
  (sent.map fun exchange => exchange.operation.payload) =
    bodies.map fun body => some (serde.toString body)

/-- A row of a body holds the cells of what the statement assigns in the row. -/
def Encodes (duckdb : DuckDb) (operator : DmlOperator) (row : Nat → Value) (rowBody : Json) :
    Prop :=
  bodyCells rowBody = (operator.assigned row).map (writtenCell duckdb)

/-- The bodies hold the first `count` rows of the chunk. -/
structure Bodies (attached : Attached σ) (operator : DmlOperator) (chunk : DataChunk)
    (sent : List Exchange) (bodies : List Json) (count : Nat) : Prop where
  carries : Carries attached.remote.serde sent bodies
  encodes : List.Forall₂ (Encodes attached.duckdb operator) (chunk.rows.take count)
    (bodies.flatMap bodyRows)

theorem Bodies.nothing (attached : Attached σ) (operator : DmlOperator) (chunk : DataChunk) :
    Bodies attached operator chunk [] [] 0 := ⟨rfl, .nil⟩

/-- The slices of the values of an INSERT are its rows. -/
theorem insert_rowSlice (duckdb : DuckDb) (table : RustBridgeTableInfo)
    (rows : List (Nat → Value)) :
    (List.range rows.length).map
        (rowSlice (rows.flatMap (insertRowValues duckdb table)) table.columns.length) =
      rows.map (insertRowValues duckdb table) := by
  have hwidth : ∀ values ∈ rows.map (insertRowValues duckdb table),
      values.length = table.columns.length := by
    intro values hmem
    obtain ⟨row, _, rfl⟩ := List.mem_map.mp hmem
    simp [insertRowValues]
  have hcount : rows.length ≤ (rows.map (insertRowValues duckdb table)).length := by simp
  rw [List.flatMap_def, map_rowSlice hwidth hcount, List.take_of_length_le (by simp)]

/-- The body of an INSERT of the rows. -/
def insertedRows (duckdb : DuckDb) (table : RustBridgeTableInfo) (rows : List (Nat → Value)) :
    Json :=
  .object [("rows", .array (rows.map fun row =>
    writeCells (editableColumns table) (insertRowValues duckdb table row)))]

theorem insertBody_ok {serde : SerdeJson} {duckdb : DuckDb} {table : RustBridgeTableInfo}
    {rows : List (Nat → Value)} {body : String}
    (h : insertBody serde (editableColumns table) (rows.flatMap (insertRowValues duckdb table))
      rows.length table.columns.length table.table.capabilities = .ok body) :
    body = serde.toString (insertedRows duckdb table rows) := by
  have hrows : (List.range rows.length).map (fun rowIndex => writeCells (editableColumns table)
      (rowSlice (rows.flatMap (insertRowValues duckdb table)) table.columns.length rowIndex)) =
        rows.map fun row =>
          writeCells (editableColumns table) (insertRowValues duckdb table row) := by
    have hslices := congrArg (List.map (writeCells (editableColumns table)))
      (insert_rowSlice duckdb table rows)
    rwa [List.map_map, List.map_map] at hslices
  unfold insertBody at h
  split at h
  · cases h
  · split at h
    · cases h
    · rw [hrows] at h
      exact (Except.ok.inj h).symm

/-- The one request of an INSERT holds all rows. -/
theorem insert_bodies {attached : Attached σ} {table : RustBridgeTableInfo} {chunk : DataChunk}
    {steps : List SendStep} {sent : List Exchange}
    (hsteps : DmlOperator.steps attached ⟨table, .insert⟩ chunk = .ok steps)
    (hsent : (sent.map fun exchange => Except.ok exchange.operation) <+: steps) :
    ∃ bodies count, Bodies attached ⟨table, .insert⟩ chunk sent bodies count ∧
      (sent.length = steps.length → chunk.rows.length ≤ count) := by
  cases hsteps
  cases sent with
  | nil => exact ⟨[], 0, .nothing attached _ chunk, fun h => by cases h⟩
  | cons exchange rest =>
      obtain ⟨hstep, hrest⟩ := List.cons_prefix_cons.mp hsent
      have hnil : rest = [] := List.map_eq_nil_iff.mp (List.prefix_nil.mp hrest)
      subst hnil
      cases hbody : insertBody attached.remote.serde (editableColumns table)
          (chunk.rows.flatMap (insertRowValues attached.duckdb table)) chunk.rows.length
          table.columns.length table.table.capabilities with
      | error message =>
          rw [hbody] at hstep
          cases hstep
      | ok body =>
          rw [hbody] at hstep
          have hoperation := Except.ok.inj hstep
          refine ⟨[insertedRows attached.duckdb table chunk.rows], chunk.rows.length, ⟨?_, ?_⟩,
            fun _ => Nat.le_refl _⟩
          · show [exchange.operation.payload] = _
            rw [hoperation, insertBody_ok hbody]
            rfl
          · show List.Forall₂ _ _ (chunk.rows.map _ ++ [])
            rw [List.append_nil, List.take_length, List.forall₂_map_right_iff, List.forall₂_same]
            exact fun row _ => insertCells_eq attached.duckdb table row

/-- The values of an UPDATE, row by row. -/
theorem updateValues_ok {duckdb : DuckDb} {table : RustBridgeTableInfo}
    {assignments : List (Nat × UpdateExpression)} {rows : List (Nat → Value)}
    {values : List RustExtInputValue}
    (h : updateValues duckdb table assignments rows = .ok values) :
    ∃ valueRows, values = valueRows.flatten ∧ List.Forall₂
      (fun row rowValues => assignments.mapM (updateValue duckdb table row) = .ok rowValues)
      rows valueRows := by
  unfold updateValues at h
  cases hrows : rows.mapM fun row => assignments.mapM (updateValue duckdb table row) with
  | error exception =>
      rw [hrows] at h
      cases h
  | ok valueRows =>
      rw [hrows] at h
      cases h
      exact ⟨valueRows, rfl, forall₂_of_mapM_ok hrows⟩

/-- Every row of the values has one for each assignment. -/
theorem updateValues_width {duckdb : DuckDb} {table : RustBridgeTableInfo}
    {assignments : List (Nat × UpdateExpression)} {rows : List (Nat → Value)}
    {valueRows : List (List RustExtInputValue)}
    (hrows : List.Forall₂
      (fun row rowValues => assignments.mapM (updateValue duckdb table row) = .ok rowValues)
      rows valueRows) :
    ∀ rowValues ∈ valueRows,
      rowValues.length = (assignments.map fun target => updateColumn table target.1).length := by
  intro rowValues hmem
  obtain ⟨index, hindex, rfl⟩ := List.getElem_of_mem hmem
  have hread := hrows.get (hrows.length_eq ▸ hindex) hindex
  rw [List.length_map]
  exact (updateCells_eq duckdb table _ assignments hread).1

/-- The body of an UPDATE of one row. -/
def updatedRow (columns : List RustExtWriteColumn) (values : List RustExtInputValue) : Json :=
  .object [("row", writeCells columns values)]

theorem updateBody_ok {serde : SerdeJson} {columns : List RustExtWriteColumn}
    {values : List RustExtInputValue} {tableCapabilities : UInt32} {body : String}
    (h : updateBody serde columns values tableCapabilities = .ok body) :
    body = serde.toString (updatedRow columns values) := by
  unfold updateBody at h
  split at h
  · cases h
  · split at h
    · cases h
    · exact (Except.ok.inj h).symm

/-- Each request of an UPDATE carries the slice of its row. -/
theorem updateSteps_carry {serde : SerdeJson} {config : RustExtClientConfig} {tableId : String}
    {columns : List RustExtWriteColumn} {values : List RustExtInputValue}
    {tableCapabilities : UInt32} (rowIds : List String) :
    ∀ {rowIndex : Nat} {sent : List Exchange},
      (sent.map fun exchange => Except.ok exchange.operation) <+:
        updateSteps serde config tableId columns values tableCapabilities rowIndex rowIds →
      Carries serde sent ((List.range' rowIndex sent.length).map fun index =>
        updatedRow columns (rowSlice values columns.length index)) := by
  induction rowIds with
  | nil =>
      intro rowIndex sent h
      have hnil : sent = [] := List.map_eq_nil_iff.mp (List.prefix_nil.mp h)
      subst hnil
      rfl
  | cons rowId rest ih =>
      intro rowIndex sent h
      cases sent with
      | nil => rfl
      | cons exchange others =>
          -- a row was sent, so its body was built
          obtain ⟨hstep, hrest⟩ := List.cons_prefix_cons.mp h
          have hothers := ih hrest
          cases hbody : updateBody serde columns (rowSlice values columns.length rowIndex)
              tableCapabilities with
          | error message =>
              rw [hbody] at hstep
              cases hstep
          | ok body =>
              rw [hbody] at hstep
              have hpayload : exchange.operation.payload = some body := by
                rw [Except.ok.inj hstep]
                rfl
              unfold Carries at hothers ⊢
              rw [List.length_cons, List.range'_succ, List.map_cons, List.map_cons, List.map_cons,
                hothers, hpayload, updateBody_ok hbody]

/-- The rows in the bodies of an UPDATE are slices of its values. -/
theorem bodyRows_updatedRows (columns : List RustExtWriteColumn)
    (values : List RustExtInputValue) (indexes : List Nat) :
    (indexes.map fun index => updatedRow columns (rowSlice values columns.length index)).flatMap
        bodyRows =
      (indexes.map (rowSlice values columns.length)).map (writeCells columns) := by
  rw [List.flatMap_map, List.map_map]
  exact List.flatMap_pure_eq_map _ _

/-- The requests of an UPDATE hold one row each. -/
theorem update_bodies {attached : Attached σ} {table : RustBridgeTableInfo} {chunk : DataChunk}
    {assignments : List (Nat × UpdateExpression)} {steps : List SendStep} {sent : List Exchange}
    (hsteps : DmlOperator.steps attached ⟨table, .update assignments⟩ chunk = .ok steps)
    (hsent : (sent.map fun exchange => Except.ok exchange.operation) <+: steps) :
    ∃ bodies count, Bodies attached ⟨table, .update assignments⟩ chunk sent bodies count ∧
      (sent.length = steps.length → chunk.rows.length ≤ count) := by
  rcases DmlOperator.update_steps_cases hsteps with ⟨message, rfl⟩ | ⟨values, hvalues, rfl⟩
  · -- a wrong shape: nothing was sent
    cases sent with
    | nil => exact ⟨[], 0, .nothing attached _ chunk, fun h => by cases h⟩
    | cons exchange rest => cases (List.cons_prefix_cons.mp hsent).1
  · have hrowIds : (chunkRowIds attached.duckdb chunk (chunk.columnCount - 1)).length =
        chunk.rows.length := List.length_map _
    obtain ⟨valueRows, rfl, hrows⟩ := updateValues_ok hvalues
    have hwidth := updateValues_width hrows
    have hlength : sent.length ≤ valueRows.length := by
      have hle := hsent.length_le
      rwa [List.length_map, updateSteps_length, hrowIds, hrows.length_eq] at hle
    refine ⟨_, sent.length, ⟨updateSteps_carry _ hsent, ?_⟩, fun h => ?_⟩
    · rw [bodyRows_updatedRows, ← List.range_eq_range', map_rowSlice hwidth hlength,
        List.forall₂_map_right_iff]
      refine (List.forall₂_take sent.length hrows).imp ?_
      intro row rowValues hread
      exact (updateCells_eq attached.duckdb table row assignments hread).2
    · rw [h, updateSteps_length, hrowIds]

/-- **What a write encodes**: the requests a client call sends carry, row by row
in front of the chunk and for all rows on success, the cells of the columns it
assigns. -/
theorem write_bodies (attached : Attached σ) (operator : DmlOperator)
    (hstatement : operator.statement = .insert ∨
      ∃ assignments, operator.statement = .update assignments)
    (chunk : DataChunk) (world : World σ) :
    ∃ bodies count,
      Bodies attached operator chunk
        (sentSince world (operator.write attached chunk world).2) bodies count ∧
      ∀ written, (operator.write attached chunk world).1 = .ok written →
        chunk.rows.length ≤ count := by
  obtain ⟨table, statement⟩ := operator
  rw [DmlOperator.write_eq]
  cases hsteps : DmlOperator.steps attached ⟨table, statement⟩ chunk with
  | error exception =>
      have hnothing : sentSince world world = [] := sentSince_eq (List.append_nil _).symm
      simp only [hnothing]
      exact ⟨[], 0, .nothing attached _ chunk, fun written h => by cases h⟩
  | ok steps =>
      obtain ⟨sent, hlog, hpre, hall, _⟩ :=
        sendAll_sent attached.remote attached.config steps world
      have hbodies : ∃ bodies count, Bodies attached ⟨table, statement⟩ chunk sent bodies count ∧
          (sent.length = steps.length → chunk.rows.length ≤ count) := by
        rcases hstatement with rfl | ⟨assignments, rfl⟩
        · exact insert_bodies hsteps hpre
        · exact update_bodies hsteps hpre
      obtain ⟨bodies, count, hencodes, hcount⟩ := hbodies
      simp only [sentSince_eq hlog]
      refine ⟨bodies, count, hencodes, fun written h => hcount (hall ?_)⟩
      rcases hresult : (sendAll attached.remote attached.config steps world).1 with message | _
      · rw [hresult] at h
        cases h
      · rfl

end DuckdbCoda
