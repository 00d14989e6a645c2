import DuckdbCoda.Model.Client
import DuckdbCoda.Model.Values

/-!
# Writing rows

`mutation.rs` builds the request bodies and sends them, one request for an
INSERT or DELETE and one per row for an UPDATE. `RustBridgeClient` turns a
DuckDB chunk into the arguments of these functions.
-/

namespace DuckdbCoda

variable {σ : Type}

/-! ## Request bodies -/

def writeCell (column : RustExtWriteColumn) (value : RustExtInputValue) : Json :=
  .object [("column", .string column.id), ("value", inputValueJson value)]

/-- The cells of the editable columns, in column order. -/
def writtenCells (columns : List RustExtWriteColumn) (values : List RustExtInputValue) :
    List Json :=
  ((columns.zip values).filter fun cell => hasBit cell.1.capabilities columnEditable).map
    fun cell => writeCell cell.1 cell.2

def writeCells (columns : List RustExtWriteColumn) (values : List RustExtInputValue) : Json :=
  .object [("cells", .array (writtenCells columns values))]

/-- `&values[start..start + width]` of the row at `rowIndex`. -/
def rowSlice (values : List RustExtInputValue) (width rowIndex : Nat) : List RustExtInputValue :=
  (values.drop (rowIndex * width)).take width

def insertBody (serde : SerdeJson) (columns : List RustExtWriteColumn)
    (values : List RustExtInputValue) (rowCount valueColumnCount : Nat)
    (tableCapabilities : UInt32) : Except String String :=
  if !hasBit tableCapabilities tableInsert then .error "insert is unsupported for this table"
  else if valueColumnCount < columns.length ∨ values.length < rowCount * valueColumnCount then
    .error "invalid insert value shape"
  else
    .ok (serde.toString (.object [("rows", .array ((List.range rowCount).map fun rowIndex =>
      writeCells columns (rowSlice values valueColumnCount rowIndex)))]))

def updateBody (serde : SerdeJson) (columns : List RustExtWriteColumn)
    (values : List RustExtInputValue) (tableCapabilities : UInt32) : Except String String :=
  if !hasBit tableCapabilities tableUpdate then .error "update is unsupported for this table"
  else if columns.length ≠ values.length then .error "invalid update value shape"
  else .ok (serde.toString (.object [("row", writeCells columns values)]))

def deleteBody (serde : SerdeJson) (rowIds : List String) : String :=
  serde.toString (.object [("rowIds", .array (rowIds.map Json.string))])

/-! ## `insert_rows`, `update_rows`, `delete_rows` -/

def upsertRowsOperation (config : RustExtClientConfig) (tableId payload : String) : Operation :=
  .upsertRows {
    docId := config.resource, tableIdOrName := tableId, disableParsing := some false, payload }

def updateRowOperation (config : RustExtClientConfig) (tableId rowId payload : String) :
    Operation :=
  .updateRow {
    docId := config.resource, tableIdOrName := tableId, rowIdOrName := rowId
    disableParsing := some false, payload }

def deleteRowsOperation (config : RustExtClientConfig) (tableId payload : String) : Operation :=
  .deleteRows { docId := config.resource, tableIdOrName := tableId, payload }

def insertRows (remote : Remote σ) (config : RustExtClientConfig) (tableId : String)
    (columns : List RustExtWriteColumn) (values : List RustExtInputValue)
    (rowCount valueColumnCount : Nat) (tableCapabilities : UInt32) (world : World σ) :
    Except String Nat × World σ :=
  match insertBody remote.serde columns values rowCount valueColumnCount tableCapabilities with
  | .error message => (.error message, world)
  | .ok body =>
      match perform remote config (upsertRowsOperation config tableId body) world with
      | (.error message, world) => (.error message, world)
      | (.ok _, world) => (.ok rowCount, world)

/-- `for (row_index, row_id) in row_ids.iter().enumerate()`, from `rowIndex` on. -/
def updateRowsFrom (remote : Remote σ) (config : RustExtClientConfig) (tableId : String)
    (columns : List RustExtWriteColumn) (values : List RustExtInputValue)
    (tableCapabilities : UInt32) (rowIndex : Nat) :
    List String → World σ → Except String Unit × World σ
  | [], world => (.ok (), world)
  | rowId :: rest, world =>
      match updateBody remote.serde columns (rowSlice values columns.length rowIndex)
          tableCapabilities with
      | .error message => (.error message, world)
      | .ok body =>
          match perform remote config (updateRowOperation config tableId rowId body) world with
          | (.error message, world) => (.error message, world)
          | (.ok _, world) =>
              updateRowsFrom remote config tableId columns values tableCapabilities (rowIndex + 1)
                rest world

def updateRows (remote : Remote σ) (config : RustExtClientConfig) (tableId : String)
    (rowIds : List String) (columns : List RustExtWriteColumn) (values : List RustExtInputValue)
    (tableCapabilities : UInt32) (world : World σ) : Except String Nat × World σ :=
  if columns.isEmpty && !rowIds.isEmpty then (.error "update column count mismatch", world)
  else if values.length ≠ rowIds.length * columns.length then
    (.error "update value count mismatch", world)
  else
    match updateRowsFrom remote config tableId columns values tableCapabilities 0 rowIds world with
    | (.error message, world) => (.error message, world)
    | (.ok (), world) => (.ok rowIds.length, world)

def deleteRows (remote : Remote σ) (config : RustExtClientConfig) (tableId : String)
    (rowIds : List String) (world : World σ) : Except String Nat × World σ :=
  if rowIds.isEmpty then (.ok 0, world)
  else
    match perform remote config
        (deleteRowsOperation config tableId (deleteBody remote.serde rowIds)) world with
    | (.error message, world) => (.error message, world)
    | (.ok _, world) => (.ok rowIds.length, world)

/-! ## `RustBridgeClient` -/

/-- A chunk, row by row: a row gives the value of each of its columns. -/
structure DataChunk where
  columnCount : Nat
  rows : List (Nat → Value)

/-- What an UPDATE assigns: a column of the chunk, the default, or anything
else. -/
inductive UpdateExpression where
  | boundRef (index : Nat)
  | valueDefault
  | other
  deriving DecidableEq

/-- The write column of a table column. -/
def RustBridgeColumnInfo.writeColumn (info : RustBridgeColumnInfo) : RustExtWriteColumn where
  id := info.column.id
  capabilities := info.column.capabilities

/-- `EditableColumns`: every column of the table, with its capabilities. -/
def editableColumns (table : RustBridgeTableInfo) : List RustExtWriteColumn :=
  table.columns.map RustBridgeColumnInfo.writeColumn

/-- The values of one row of an INSERT, column by column of the table. -/
def insertRowValues (duckdb : DuckDb) (table : RustBridgeTableInfo) (row : Nat → Value) :
    List RustExtInputValue :=
  (List.range table.columns.length).map fun index => convert duckdb (row index)

/-- The failure of an exported function, thrown by its caller. -/
def thrown {α : Type} (context : String) (result : Except String α) : Except Exception α :=
  (ffiBool context result).mapError .invalidInput

def clientInsertRows (remote : Remote σ) (duckdb : DuckDb) (config : RustExtClientConfig)
    (table : RustBridgeTableInfo) (chunk : DataChunk) (world : World σ) :
    Except Exception Nat × World σ :=
  let values := chunk.rows.flatMap (insertRowValues duckdb table)
  let (result, world) := insertRows remote config table.table.id (editableColumns table) values
    chunk.rows.length table.columns.length table.table.capabilities world
  (thrown "failed to insert Coda rows" result, world)

/-- The column an assignment targets; one beyond the table is not editable. -/
def updateColumn (table : RustBridgeTableInfo) (index : Nat) : RustExtWriteColumn :=
  match table.columns[index]? with
  | none => { capabilities := columnGenerated }
  | some info => info.writeColumn

def unsupportedUpdateExpressionMessage : String :=
  "Unsupported Coda UPDATE expression type"

/-- The value an assignment gives a column in a row. -/
def updateValue (duckdb : DuckDb) (table : RustBridgeTableInfo) (row : Nat → Value)
    (assignment : Nat × UpdateExpression) : Except Exception RustExtInputValue :=
  match table.columns[assignment.1]? with
  -- the value of a column that is not editable is never written
  | none => .ok .null
  | some info =>
      match assignment.2 with
      | .boundRef index => .ok (convert duckdb (row index))
      | .valueDefault => .ok (convert duckdb (.null info.duckdbType))
      | .other => .error (.notImplemented unsupportedUpdateExpressionMessage)

/-- The values of all rows, row by row. -/
def updateValues (duckdb : DuckDb) (table : RustBridgeTableInfo)
    (assignments : List (Nat × UpdateExpression)) (rows : List (Nat → Value)) :
    Except Exception (List RustExtInputValue) :=
  (rows.mapM fun row => assignments.mapM (updateValue duckdb table row)).map List.flatten

/-- The row ids a column of the chunk holds. -/
def chunkRowIds (duckdb : DuckDb) (chunk : DataChunk) (index : Nat) : List String :=
  chunk.rows.map fun row => duckdb.toString (row index)

/-- `UpdateRows`; an assignment is a target column with its expression. -/
def clientUpdateRows (remote : Remote σ) (duckdb : DuckDb) (config : RustExtClientConfig)
    (table : RustBridgeTableInfo) (chunk : DataChunk)
    (assignments : List (Nat × UpdateExpression)) (world : World σ) :
    Except Exception Nat × World σ :=
  match updateValues duckdb table assignments chunk.rows with
  | .error exception => (.error exception, world)
  | .ok values =>
      let (result, world) := updateRows remote config table.table.id
        (chunkRowIds duckdb chunk (chunk.columnCount - 1))
        (assignments.map fun assignment => updateColumn table assignment.1) values
        table.table.capabilities world
      (thrown "failed to update Coda rows" result, world)

def clientDeleteRows (remote : Remote σ) (duckdb : DuckDb) (config : RustExtClientConfig)
    (table : RustBridgeTableInfo) (chunk : DataChunk) (rowIdIndex : Nat) (world : World σ) :
    Except Exception Nat × World σ :=
  let (result, world) := deleteRows remote config table.table.id
    (chunkRowIds duckdb chunk rowIdIndex) world
  (thrown "failed to delete Coda rows" result, world)

end DuckdbCoda
