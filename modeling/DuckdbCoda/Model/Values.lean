import DuckdbCoda.Model.Json

/-!
# DuckDB values on both sides of the bridge

DuckDB itself is third-party code: its types and values are data here, and the
two conversions the bridge asks of it are the parameter `DuckDb`. The rest
follows the source: `Convert` and `input_value_json` on the way out,
`scan_value` and `ScanValueToValue` on the way in.
-/

namespace DuckdbCoda

open AsciiCase

/-! ## Types, values and exceptions -/

/-- TINYINT, SMALLINT, INTEGER and BIGINT, and their unsigned counterparts. -/
inductive IntegerWidth where
  | tiny
  | small
  | regular
  | big
  deriving DecidableEq, Repr

/-- `LogicalTypeId`; the types the bridge treats alike are one case. -/
inductive LogicalType where
  | boolean
  | integer (width : IntegerWidth)
  | uinteger (width : IntegerWidth)
  | float
  | double
  | varchar
  | timestampTz
  | other (name : String)
  deriving DecidableEq, Repr

/-- `duckdb::Value`. An integer is kept as the 64-bit integer and a FLOAT as the
double it converts to; a value of any other type is kept as its text. -/
inductive Value where
  | null (type : LogicalType)
  | boolean (value : Bool)
  | integer (width : IntegerWidth) (value : Int64)
  | uinteger (width : IntegerWidth) (value : UInt64)
  | float (value : F64)
  | double (value : F64)
  | varchar (value : String)
  | timestampTz (text : String)
  | other (name : String) (text : String)
  deriving DecidableEq

/-- `value.type()`. -/
def Value.type : Value → LogicalType
  | .null type => type
  | .boolean _ => .boolean
  | .integer width _ => .integer width
  | .uinteger width _ => .uinteger width
  | .float _ => .float
  | .double _ => .double
  | .varchar _ => .varchar
  | .timestampTz _ => .timestampTz
  | .other name _ => .other name

def Value.isNull : Value → Bool
  | .null _ => true
  | _ => false

/-- What the bridge throws, by the kind of its DuckDB exception. -/
inductive Exception where
  | invalidInput (message : String)
  | notImplemented (message : String)
  | internal (message : String)
  deriving DecidableEq

/-- The conversions of DuckDB the bridge relies on. -/
structure DuckDb where
  /-- `Value(text).DefaultCastAs(type)`; none when it throws. -/
  castText : LogicalType → String → Option Value
  /-- `Value::ToString` of numbers. -/
  numberText : Value → String

/-- `value.ToString()`. -/
def DuckDb.toString (duckdb : DuckDb) : Value → String
  | .null _ => "NULL"
  | .varchar value => value
  | .timestampTz text => text
  | .other _ text => text
  | value => duckdb.numberText value

/-! ## Tables as the catalog hands them out -/

/-- `RustBridgeDuckDBLogicalType`. -/
def rustBridgeDuckDBLogicalType (rustBridgeType : Int32) : LogicalType :=
  if rustBridgeType = 1 then .boolean
  else if rustBridgeType = 2 then .double
  else if rustBridgeType = 3 then .timestampTz
  else .varchar

structure RustBridgeColumnInfo where
  column : RustExtColumn
  duckdbType : LogicalType
  deriving DecidableEq

def rustBridgeColumnInfo (column : RustExtColumn) : RustBridgeColumnInfo where
  column := column
  duckdbType := rustBridgeDuckDBLogicalType column.logicalType

/-- A table of the catalog with its columns; the columns are always those of
the table. -/
structure RustBridgeTableInfo where
  table : RustExtCatalogTable
  columns : List RustBridgeColumnInfo
  borrowed : columns = table.columns.map rustBridgeColumnInfo

/-- `BorrowRustBridgeTableInfo`. -/
def borrowRustBridgeTableInfo (table : RustExtCatalogTable) : RustBridgeTableInfo where
  table := table
  columns := table.columns.map rustBridgeColumnInfo
  borrowed := rfl

def RustBridgeTableInfo.supports (info : RustBridgeTableInfo) (capability : UInt32) : Bool :=
  hasBit info.table.capabilities capability

/-! ## Out: `RustBridgeInputValueBuffer::Convert` and `input_value_json` -/

def convert (duckdb : DuckDb) (value : Value) : RustExtInputValue :=
  match value with
  | .null _ => .null
  | .boolean value => .bool value
  | .integer _ value => .int value
  | .uinteger _ value => .uint value
  | .float value => .double value
  | .double value => .double value
  | value => .string (duckdb.toString value)

/-- `json!` of an `i64`. -/
def JsonNumber.ofInt64 (value : Int64) : JsonNumber :=
  if h : value < 0 then .negInt value h else .posInt value.toUInt64

/-- `json!` of an `f64`: the infinities and NaN have no JSON number. -/
def jsonDouble (value : F64) : Json :=
  if h : value.isFinite = true then .number (.float value h) else .null

def inputValueJson : RustExtInputValue → Json
  | .null => .null
  | .bool value => .bool value
  | .int value => .number (.ofInt64 value)
  | .uint value => .number (.posInt value)
  | .double value => jsonDouble value
  | .string value => .string value

/-! ## In: `scan_value` and `ScanValueToValue` -/

/-- The row metadata a system column shows. -/
def systemValue (columnId : String) (row : RustExtRow) : String :=
  if eqIgnoreAsciiCase columnId "createdAt" then row.createdAt
  else if eqIgnoreAsciiCase columnId "updatedAt" then row.updatedAt
  else ""

/-- The first cell whose column id is the given one up to ASCII case. -/
def findCell (columnId : String) (cells : List RustExtCell) : Option RustExtCell :=
  cells.find? fun cell => eqIgnoreAsciiCase cell.columnId columnId

/-- What `scan_value` makes of the cell it found. -/
def cellScanValue (logicalType : Int32) (cell : RustExtCell) : RustExtScanValue :=
  if cell.valueType = .invalid ∨ cell.valueType = .null then {}
  else
    let doubleValue := if logicalType = 2 then F64.parse cell.value else none
    { isNull := false
      valueType := cell.valueType
      boolValue := cell.valueType == .boolean && cell.value == "true"
      hasDoubleValue := doubleValue.isSome
      doubleValue := doubleValue.getD ⟨0⟩
      value := cell.value }

def scanValue (column : RustExtColumn) (row : RustExtRow) : RustExtScanValue :=
  if hasBit column.capabilities columnSystem then
    let value := systemValue column.id row
    if value.isEmpty then {} else { isNull := false, valueType := .string, value }
  else
    match findCell column.id row.cells with
    | none => {}
    | some cell => cellScanValue column.logicalType cell

/-- `DefaultCastAs` inside the `try`: NULL of the type when it throws. -/
def castOrNull (duckdb : DuckDb) (text : String) (targetType : LogicalType) : Value :=
  (duckdb.castText targetType text).getD (.null targetType)

def scanValueToValue (duckdb : DuckDb) (scanValue : RustExtScanValue)
    (targetType : LogicalType) : Value :=
  if scanValue.isNull then .null targetType
  else
    match targetType with
    | .varchar => .varchar scanValue.value
    | .boolean =>
        if scanValue.valueType = .boolean then .boolean scanValue.boolValue
        else castOrNull duckdb scanValue.value .boolean
    | .double =>
        if scanValue.hasDoubleValue then .double scanValue.doubleValue
        else castOrNull duckdb scanValue.value .double
    | targetType => castOrNull duckdb scanValue.value targetType

/-- The SQL value of a column in a row. (`rust_ext_scan_value` fails only
without an output pointer.) -/
def RustBridgeColumnInfo.read (duckdb : DuckDb) (info : RustBridgeColumnInfo)
    (row : RustExtRow) : Value :=
  scanValueToValue duckdb (scanValue info.column row) info.duckdbType

end DuckdbCoda
