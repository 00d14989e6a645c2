import DuckdbCoda.Lib.GrowingArray
import DuckdbCoda.Model.AbiAttach

/-!
# Writes with their memory

`RustBridgeClient::InsertRows`, `UpdateRows` and `DeleteRows` hand vectors of
records to the exported functions, and the records have pointers to strings that
the C++ side keeps in vectors of its own (`RustBridgeInputValueBuffer`, the
`row_ids`). All of them are gone when the call is over, also when it throws.
-/

namespace DuckdbCoda.Abi

open Ownership

variable {σ : Type}

/-! ## Values with pointers -/

/-- What the standard library of C++ decides: which strings a `std::string` keeps
in itself, and how a full vector grows. -/
structure CppLibrary where
  inPlace : String → Bool
  grow : Nat → Nat

/-- `vector<string>`. -/
abbrev CppStrings := GrowingArray (RawParts String)

inductive RustExtInputValue where
  | null
  | bool (value : Bool)
  | int (value : Int64)
  | uint (value : UInt64)
  | double (value : F64)
  | string (value : RustExtString)

/-- `as_str` of a string of the C++ side: there is nothing behind a null pointer. -/
def strOf (value : RustExtString) : String :=
  match value.block with
  | none => ""
  | some _ => value.contents

namespace RustExtInputValue

/-- The string of a value. -/
def pointer : RustExtInputValue → Option RustExtString
  | .string value => some value
  | _ => none

def toValue : RustExtInputValue → DuckdbCoda.RustExtInputValue
  | .null => .null
  | .bool value => .bool value
  | .int value => .int value
  | .uint value => .uint value
  | .double value => .double value
  | .string value => .string (strOf value)

def borrow (memory : Memory) : RustExtInputValue → Memory
  | .string value => RawParts.borrow value memory
  | _ => memory

end RustExtInputValue

/-- `RustBridgeInputValueBuffer::Convert`. -/
def convert (library : CppLibrary) (duckdb : DuckDb) (value : Value) (strings : CppStrings)
    (memory : Memory) : RustExtInputValue × CppStrings × Memory :=
  match value with
  | .null _ => (.null, strings, memory)
  | .boolean value => (.bool value, strings, memory)
  | .integer _ value => (.int value, strings, memory)
  | .uinteger _ value => (.uint value, strings, memory)
  | .float value => (.double value, strings, memory)
  | .double value => (.double value, strings, memory)
  | value =>
      let text := duckdb.toString value
      let (pointer, strings, memory) :=
        strings.keepText library.grow (library.inPlace text) text memory
      (.string pointer, strings, memory)

/-! ## The exported functions -/

/-- `slice_from_raw_parts`; a slice that is longer than the array is a fault. -/
def sliceFromRawParts {α : Type} (items : RawParts (List α)) (length : Nat) (memory : Memory) :
    List α × Memory :=
  if items.block = none ∨ length = 0 then ([], memory)
  else if length ≤ items.contents.length then
    (items.contents.take length, items.borrow memory)
  else (items.contents.take length, memory.fault)

/-- `rust_ext_client_insert_rows`. The configuration, the id of the table and those
of the columns are pointers into the catalog. -/
def insertRows (remote : Remote σ) (catalog : RustBridgeCatalog) (tableId : String)
    (columns : RawParts (List RustExtWriteColumn)) (columnCount : Nat)
    (values : RawParts (List RustExtInputValue)) (rowCount valueColumnCount : Nat)
    (tableCapabilities : UInt32) (world : World σ) (memory : Memory) :
    Except String Nat × World σ × Memory :=
  let (columns, memory) := sliceFromRawParts columns columnCount memory
  let (values, memory) := sliceFromRawParts values (rowCount * valueColumnCount) memory
  let (answer, world) := DuckdbCoda.insertRows remote catalog.client.toValue tableId columns
    (values.map RustExtInputValue.toValue) rowCount valueColumnCount tableCapabilities world
  (answer, world, values.foldl RustExtInputValue.borrow (memory.useAll catalog.blocks))

/-- `rust_ext_client_update_rows`. -/
def updateRows (remote : Remote σ) (catalog : RustBridgeCatalog) (tableId : String)
    (rowIds : RawParts (List RustExtString)) (rowCount : Nat)
    (columns : RawParts (List RustExtWriteColumn)) (columnCount : Nat)
    (values : RawParts (List RustExtInputValue)) (tableCapabilities : UInt32) (world : World σ)
    (memory : Memory) : Except String Nat × World σ × Memory :=
  let (rowIds, memory) := sliceFromRawParts rowIds rowCount memory
  let (columns, memory) := sliceFromRawParts columns columnCount memory
  let (values, memory) := sliceFromRawParts values (rowCount * columnCount) memory
  let (answer, world) := DuckdbCoda.updateRows remote catalog.client.toValue tableId
    (rowIds.map strOf) columns (values.map RustExtInputValue.toValue) tableCapabilities world
  let memory := rowIds.foldl (fun memory id => id.borrow memory) (memory.useAll catalog.blocks)
  (answer, world, values.foldl RustExtInputValue.borrow memory)

/-- `rust_ext_client_delete_rows`. -/
def deleteRows (remote : Remote σ) (catalog : RustBridgeCatalog) (tableId : String)
    (rowIds : RawParts (List RustExtString)) (count : Nat) (world : World σ) (memory : Memory) :
    Except String Nat × World σ × Memory :=
  let (rowIds, memory) := sliceFromRawParts rowIds count memory
  let (answer, world) :=
    DuckdbCoda.deleteRows remote catalog.client.toValue tableId (rowIds.map strOf) world
  (answer, world,
    rowIds.foldl (fun memory id => id.borrow memory) (memory.useAll catalog.blocks))

/-! ## The buffers of a call -/

/-- `value_buffer` with the vector of the values. -/
abbrev ValueBuffers := Lender String RustExtInputValue

/-- `row_ids` with `rust_bridge_row_ids`. -/
abbrev RowIdBuffers := Lender String RustExtString

/-- `values.push_back(value_buffer.Convert(value))`. -/
def pushValue (library : CppLibrary) (duckdb : DuckDb) (buffers : ValueBuffers × Memory)
    (value : Value) : ValueBuffers × Memory :=
  let (value, strings, memory) := convert library duckdb value buffers.1.texts buffers.2
  let (values, memory) := buffers.1.lent.pushBack library.grow value memory
  (⟨strings, values⟩, memory)

/-- The id of a row, and the pointer to it. -/
def pushRowId (library : CppLibrary) (duckdb : DuckDb) (index : Nat)
    (buffers : RowIdBuffers × Memory) (row : Nat → Value) : RowIdBuffers × Memory :=
  let rowId := duckdb.toString (row index)
  buffers.1.lendText library.grow (library.inPlace rowId) rowId id buffers.2

/-- The values of a row of an INSERT. -/
def pushInsertRow (library : CppLibrary) (duckdb : DuckDb) (table : RustBridgeTableInfo)
    (buffers : ValueBuffers × Memory) (row : Nat → Value) : ValueBuffers × Memory :=
  (List.range table.columns.length).foldl
    (fun buffers index => pushValue library duckdb buffers (row index)) buffers

/-- The values of a row of an UPDATE, assignment by assignment. -/
def pushUpdateRow (library : CppLibrary) (duckdb : DuckDb) (table : RustBridgeTableInfo)
    (row : Nat → Value) : List (Nat × UpdateExpression) → ValueBuffers × Memory →
      Except Exception Unit × ValueBuffers × Memory
  | [], buffers => (.ok (), buffers)
  | (column, expression) :: rest, buffers =>
      match table.columns[column]? with
      | none =>
          pushUpdateRow library duckdb table row rest
            (buffers.1.lend library.grow .null buffers.2)
      | some info =>
          match expression with
          | .boundRef index =>
              pushUpdateRow library duckdb table row rest
                (pushValue library duckdb buffers (row index))
          | .valueDefault =>
              pushUpdateRow library duckdb table row rest
                (pushValue library duckdb buffers (.null info.duckdbType))
          | .other => (.error (.notImplemented unsupportedUpdateExpressionMessage), buffers)

/-- The ids and values of the rows of an UPDATE, row by row. -/
def pushUpdateRows (library : CppLibrary) (duckdb : DuckDb) (table : RustBridgeTableInfo)
    (rowIdIndex : Nat) (assignments : List (Nat × UpdateExpression)) :
    List (Nat → Value) → RowIdBuffers → ValueBuffers → Memory →
      Except Exception Unit × RowIdBuffers × ValueBuffers × Memory
  | [], rowIds, values, memory => (.ok (), rowIds, values, memory)
  | row :: rest, rowIds, values, memory =>
      let (rowIds, memory) := pushRowId library duckdb rowIdIndex (rowIds, memory) row
      match pushUpdateRow library duckdb table row assignments (values, memory) with
      | (.error exception, values, memory) => (.error exception, rowIds, values, memory)
      | (.ok (), values, memory) =>
          pushUpdateRows library duckdb table rowIdIndex assignments rest rowIds values memory

/-! ## `RustBridgeClient` -/

def clientInsertRows (library : CppLibrary) (remote : Remote σ) (duckdb : DuckDb)
    (catalog : RustBridgeCatalog) (table : RustBridgeTableInfo) (chunk : DataChunk)
    (world : World σ) (memory : Memory) : Except Exception Nat × World σ × Memory :=
  let (columns, memory) := GrowingArray.ofList library.grow (editableColumns table) memory
  let (values, memory) := chunk.rows.foldl (pushInsertRow library duckdb table)
    (Lender.withRoom (chunk.rows.length * table.columns.length) memory)
  let (answer, world, memory) := insertRows remote catalog table.table.id columns.storage
    columns.items.length values.lent.storage chunk.rows.length table.columns.length
    table.table.capabilities world memory
  let (answer, memory) := takeError "failed to insert Coda rows" answer memory
  (answer, world, columns.storage.release (values.destroy memory))

def clientUpdateRows (library : CppLibrary) (remote : Remote σ) (duckdb : DuckDb)
    (catalog : RustBridgeCatalog) (table : RustBridgeTableInfo) (chunk : DataChunk)
    (assignments : List (Nat × UpdateExpression)) (world : World σ) (memory : Memory) :
    Except Exception Nat × World σ × Memory :=
  let (rowIds, memory) := Lender.withRoom chunk.rows.length memory
  let (columns, memory) := GrowingArray.ofList library.grow
    (assignments.map fun assignment => updateColumn table assignment.1) memory
  let (values, memory) := Lender.withRoom (chunk.rows.length * assignments.length) memory
  match pushUpdateRows library duckdb table (chunk.columnCount - 1) assignments chunk.rows rowIds
      values memory with
  | (.error exception, rowIds, values, memory) =>
      (.error exception, world, rowIds.destroy (columns.storage.release (values.destroy memory)))
  | (.ok (), rowIds, values, memory) =>
      let (answer, world, memory) := updateRows remote catalog table.table.id rowIds.lent.storage
        rowIds.lent.items.length columns.storage columns.items.length values.lent.storage
        table.table.capabilities world memory
      let (answer, memory) := takeError "failed to update Coda rows" answer memory
      (answer, world, rowIds.destroy (columns.storage.release (values.destroy memory)))

def clientDeleteRows (library : CppLibrary) (remote : Remote σ) (duckdb : DuckDb)
    (catalog : RustBridgeCatalog) (table : RustBridgeTableInfo) (chunk : DataChunk)
    (rowIdIndex : Nat) (world : World σ) (memory : Memory) :
    Except Exception Nat × World σ × Memory :=
  let (rowIds, memory) := chunk.rows.foldl (pushRowId library duckdb rowIdIndex)
    (Lender.withRoom chunk.rows.length memory)
  let (answer, world, memory) := deleteRows remote catalog table.table.id rowIds.lent.storage
    rowIds.lent.items.length world memory
  let (answer, memory) := takeError "failed to delete Coda rows" answer memory
  (answer, world, rowIds.destroy memory)

/-! ## The sinks -/

def write (library : CppLibrary) (remote : Remote σ) (duckdb : DuckDb)
    (catalog : RustBridgeCatalog) (operator : DmlOperator) (chunk : DataChunk) (world : World σ)
    (memory : Memory) : Except Exception Nat × World σ × Memory :=
  match operator.statement with
  | .insert => clientInsertRows library remote duckdb catalog operator.table chunk world memory
  | .update assignments =>
      clientUpdateRows library remote duckdb catalog operator.table chunk assignments world memory
  | .delete rowIdIndex =>
      clientDeleteRows library remote duckdb catalog operator.table chunk rowIdIndex world memory

/-- The checks of a sink read the table. -/
def sink (library : CppLibrary) (remote : Remote σ) (duckdb : DuckDb) (catalog : RustBridgeCatalog)
    (operator : DmlOperator) (chunk : DataChunk) (context : ClientContext) (world : World σ)
    (memory : Memory) : Except Exception Unit × World σ × Memory :=
  if chunk.rows.isEmpty then (.ok (), world, memory)
  else
    match rejectExplicitTransaction context with
    | .error exception => (.error exception, world, memory)
    | .ok () =>
        let memory := memory.useAll catalog.blocks
        if !operator.table.supports operator.statement.capability then
          (.error (.notImplemented operator.statement.dmlNotSupportedMessage), world, memory)
        else
          let (answer, world, memory) :=
            write library remote duckdb catalog operator chunk world memory
          (answer.map fun _ => (), world, memory)

end DuckdbCoda.Abi
