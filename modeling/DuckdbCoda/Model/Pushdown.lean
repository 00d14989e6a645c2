import DuckdbCoda.Lib.Extract
import DuckdbCoda.Model.Mutation
import DuckdbCoda.Model.Scan

/-!
# Pushing an equality filter into the scan

`build_equality_query`, and the table function callback that DuckDB hands its
conjunctive filters: the first one that is an equality of a filterable column
with a constant becomes the query of the scan and is erased from the list.
-/

namespace DuckdbCoda

/-! ## Expressions -/

/-- The values the column bindings of a row have, by table index and column
index. -/
abbrev Bindings := Nat → Nat → Value

/-- A side of a comparison. DuckDB evaluates whatever is not a column or a
constant in its own way. -/
inductive Operand where
  | columnRef (tableIndex columnIndex : Nat)
  | constant (value : Value)
  | other (eval : Bindings → Value)

/-- A bound filter: an equality, or anything else. -/
inductive Expression where
  | equal (left right : Operand)
  | other (keeps : Bindings → Bool)

def Operand.eval (bindings : Bindings) : Operand → Value
  | .columnRef tableIndex columnIndex => bindings tableIndex columnIndex
  | .constant value => value
  | .other eval => eval bindings

/-- `=` of DuckDB: never true of NULL, all NaNs equal. -/
def sqlEqual : Value → Value → Bool
  | .null _, _ => false
  | _, .null _ => false
  | .float left, .float right => left.sameDouble right
  | .double left, .double right => left.sameDouble right
  | left, right => decide (left = right)

/-- Whether a filter keeps a row. -/
def Expression.keeps (bindings : Bindings) : Expression → Bool
  | .equal left right => sqlEqual (left.eval bindings) (right.eval bindings)
  | .other keeps => keeps bindings

/-! ## `build_equality_query` -/

/-- A value as the description of a query shows it. -/
def inputValueText : RustExtInputValue → String
  | .null => "NULL"
  | .bool value => if value then "true" else "false"
  | .int value => Int.repr value.toInt
  | .uint value => Nat.repr value.toNat
  | .double value => value.display
  | .string value => value

/-- The query `id:literal` and its description. -/
def buildEqualityQuery (serde : SerdeJson) (columnId columnName : String)
    (value : RustExtInputValue) : Except String (String × String) :=
  if value = .null then .error "null query value"
  else .ok (columnId ++ ":" ++ serde.toString (inputValueJson value),
    columnName ++ " = " ++ inputValueText value)

/-! ## `TryExtractRustBridgeEqualityFilter` -/

/-- The scan as the planner sees it. -/
structure LogicalGet where
  tableIndex : Nat
  columnIds : List ColumnIndex

/-- The column reference and the constant of an equality, on either side. -/
def comparisonOperands : Expression → Option ((Nat × Nat) × Value)
  | .equal (.columnRef tableIndex columnIndex) (.constant value) =>
      some ((tableIndex, columnIndex), value)
  | .equal (.constant value) (.columnRef tableIndex columnIndex) =>
      some ((tableIndex, columnIndex), value)
  | _ => none

/-- The column of the table an equality filter compares with a constant, when
the filter can be pushed. -/
def filterTarget (get : LogicalGet) (table : RustBridgeTableInfo) (filter : Expression) :
    Option (RustBridgeColumnInfo × Value) :=
  match comparisonOperands filter with
  | none => none
  | some ((tableIndex, columnIndex), constant) =>
      if tableIndex ≠ get.tableIndex then none
      else
        match get.columnIds[columnIndex]? with
        | some (.column index) =>
            match table.columns[index]? with
            | none => none
            | some info =>
                if !hasBit info.column.capabilities columnFilterEquality then none
                else if constant.isNull then none
                else some (info, constant)
        | _ => none

/-- The query of a filter that can be pushed, with its description. -/
def tryExtractRustBridgeEqualityFilter (serde : SerdeJson) (duckdb : DuckDb) (get : LogicalGet)
    (table : RustBridgeTableInfo) (filter : Expression) : Option (String × String) :=
  (filterTarget get table filter).bind fun (info, constant) =>
    (ffiBool "failed to build Coda equality query"
      (buildEqualityQuery serde info.column.id info.column.name (convert duckdb constant))).toOption

/-! ## `RustBridgeScanPushdownComplexFilter` -/

def rustBridgeScanPushdownComplexFilter (serde : SerdeJson) (duckdb : DuckDb) (get : LogicalGet)
    (bindData : RustBridgeScanBindData) (filters : List Expression) :
    RustBridgeScanBindData × List Expression :=
  if !bindData.pushedQuery.isEmpty then (bindData, filters)
  else
    match extractFirst (tryExtractRustBridgeEqualityFilter serde duckdb get bindData.table)
        filters with
    | none => (bindData, filters)
    | some ((query, description), remaining) =>
        ({ bindData with pushedQuery := query, pushedQueryDescription := description }, remaining)

/-- A number of calls: each is handed the filters that are left and new ones
behind them. -/
def pushdownCalls (serde : SerdeJson) (duckdb : DuckDb) (get : LogicalGet) :
    List (List Expression) → RustBridgeScanBindData × List Expression →
      RustBridgeScanBindData × List Expression
  | [], state => state
  | new :: rest, (bindData, filters) =>
      pushdownCalls serde duckdb get rest
        (rustBridgeScanPushdownComplexFilter serde duckdb get bindData (filters ++ new))

/-! ## Rows under filters -/

/-- A row of the table: the item the server answers with it and what is read
from the item. -/
structure TableRow (serde : SerdeJson) where
  item : Json
  row : RustExtRow
  decoded : rowFromJson serde item = .ok row

/-- The rows a scan gives: what the server answers to its query, without the
deleted rows. -/
def scanRows {serde : SerdeJson} (answer : Option String → List (TableRow serde))
    (bindData : RustBridgeScanBindData) : List (TableRow serde) :=
  (answer (nonEmptyString bindData.request.filter)).filter fun row => !row.row.deleted

/-- The bindings of a row of the scan, within those of the rest of the query. -/
def scanBindings (duckdb : DuckDb) (get : LogicalGet) (table : RustBridgeTableInfo)
    (outer : Bindings) (row : RustExtRow) : Bindings :=
  fun tableIndex columnIndex =>
    match get.columnIds[columnIndex]? with
    | none => outer tableIndex columnIndex
    | some column =>
        if tableIndex = get.tableIndex then
          match outputValue duckdb table row column with
          | .ok value => value
          | .error _ => outer tableIndex columnIndex
        else outer tableIndex columnIndex

/-- The rows of a scan that pass all filters. -/
def filteredScan {serde : SerdeJson} (duckdb : DuckDb) (get : LogicalGet) (outer : Bindings)
    (answer : Option String → List (TableRow serde))
    (state : RustBridgeScanBindData × List Expression) : List (TableRow serde) :=
  (scanRows answer state.1).filter fun row =>
    state.2.all fun filter =>
      filter.keeps (scanBindings duckdb get state.1.table outer row.row)

end DuckdbCoda
