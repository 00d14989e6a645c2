import DuckdbCoda.Model.Pushdown
import DuckdbCoda.Model.Schema

/-!
# The life of the bind data

DuckDB gets the bind data from `GetScanFunction`, lets the pushdown hooks
change it, copies it with `Copy`, compares two of them with `Equals`, and shows
them in EXPLAIN.
-/

namespace DuckdbCoda

/-! ## `GetScanFunction`, `Copy` and `Equals` -/

/-- `GetScanFunction` of the catalog entry that lies at an address. -/
def getScanFunction (entries : Nat → RustBridgeTableCatalogEntry) (address : Nat) :
    RustBridgeScanBindData where
  tableEntry := address
  table := (entries address).tableInfo

namespace RustBridgeScanBindData

def copy (bindData : RustBridgeScanBindData) : RustBridgeScanBindData :=
  let copy : RustBridgeScanBindData :=
    { tableEntry := bindData.tableEntry, table := bindData.table }
  { copy with
    pushedQuery := bindData.pushedQuery
    pushedQueryDescription := bindData.pushedQueryDescription
    pushedSortBy := bindData.pushedSortBy
    pushedLimit := bindData.pushedLimit }

/-- `Equals`. `idPointer` tells where the id of a table lies; copies of the
table info point to the same table. -/
def equals (idPointer : RustBridgeTableInfo → Nat) (self other : RustBridgeScanBindData) : Bool :=
  decide (self.tableEntry = other.tableEntry) &&
    decide (idPointer self.table = idPointer other.table) &&
    decide (self.table.table.id.utf8ByteSize = other.table.table.id.utf8ByteSize)

end RustBridgeScanBindData

/-! ## `RustBridgeScanSetScanOrder` -/

/-- DuckDB's `OrderType`. -/
inductive OrderType where
  | invalid
  | orderDefault
  | ascending
  | descending
  deriving DecidableEq

structure RowGroupOrderOptions where
  columnIndex : Nat
  orderType : OrderType
  /-- The limit of the ordered rows, when there is one. -/
  rowLimit : Option Nat

/-- `rust_ext_scan_sort_by`. -/
def scanSortBy (column : RustExtColumn) : Option String :=
  if hasBit column.capabilities columnSortAsc then some column.id else none

def rustBridgeScanSetScanOrder (orderOptions : Option RowGroupOrderOptions)
    (bindData : RustBridgeScanBindData) : RustBridgeScanBindData :=
  match orderOptions with
  | none => bindData
  | some options =>
      match options.rowLimit with
      | none => bindData
      | some rowLimit =>
          if options.orderType = .descending then bindData
          else
            match bindData.table.columns[options.columnIndex]? with
            | none => bindData
            | some info =>
                match scanSortBy info.column with
                | none => bindData
                | some sortBy => { bindData with pushedSortBy := sortBy, pushedLimit := rowLimit }

/-! ## `RustBridgeScanToString` -/

def scanQueryLabel : String := "Coda Query"
def scanSortLabel : String := "Coda Sort"
def scanLimitLabel : String := "Coda Limit"

/-- What EXPLAIN shows of the scan, by label. -/
def rustBridgeScanToString (bindData : RustBridgeScanBindData) : List (String × String) :=
  (if bindData.pushedQuery.isEmpty then []
    else [(scanQueryLabel, bindData.pushedQueryDescription)]) ++
  (if bindData.pushedSortBy.isEmpty then [] else [(scanSortLabel, bindData.pushedSortBy)]) ++
  (if 0 < bindData.pushedLimit then [(scanLimitLabel, Nat.repr bindData.pushedLimit)] else [])

/-! ## What the planner calls -/

/-- A call on the bind data. After a `Copy` the planner goes on with the copy. -/
inductive BindDataCall where
  | pushdownComplexFilter (get : LogicalGet) (filters : List Expression)
  | setScanOrder (orderOptions : Option RowGroupOrderOptions)
  | copy

def BindDataCall.apply (serde : SerdeJson) (duckdb : DuckDb) (bindData : RustBridgeScanBindData) :
    BindDataCall → RustBridgeScanBindData
  | .pushdownComplexFilter get filters =>
      (rustBridgeScanPushdownComplexFilter serde duckdb get bindData filters).1
  | .setScanOrder orderOptions => rustBridgeScanSetScanOrder orderOptions bindData
  | .copy => bindData.copy

/-- The bind data of an entry after a number of calls, in any order. -/
def boundScan (serde : SerdeJson) (duckdb : DuckDb)
    (entries : Nat → RustBridgeTableCatalogEntry) (address : Nat) (calls : List BindDataCall) :
    RustBridgeScanBindData :=
  calls.foldl (BindDataCall.apply serde duckdb) (getScanFunction entries address)

end DuckdbCoda
