import DuckdbCoda.Model.AbiWrites

/-!
# The planner's calls with their memory

The hooks of the scan once more: an equality filter hands the constant over as a
record with a pointer and gets two strings back, an order gets the id of a column.
The strings are copied and freed (`TakeRustBridgeString`).
-/

namespace DuckdbCoda.Abi

open Ownership

/-- `rust_ext_build_equality_query`. -/
def buildEqualityQuery (serde : SerdeJson) (columnId columnName : String)
    (value : RustExtInputValue) (memory : Memory) :
    Except String (RustExtString × RustExtString) × Memory :=
  let memory := value.borrow memory
  match DuckdbCoda.buildEqualityQuery serde columnId columnName value.toValue with
  | .error message => (.error message, memory)
  | .ok (query, description) =>
      let (query, memory) := allocString query memory
      let (description, memory) := allocString description memory
      (.ok (query, description), memory)

/-- The buffer of the value has one string at most, and no room for it yet. -/
def tryExtractRustBridgeEqualityFilter (library : CppLibrary) (serde : SerdeJson) (duckdb : DuckDb)
    (get : LogicalGet) (table : RustBridgeTableInfo) (filter : Expression) (memory : Memory) :
    Option (String × String) × Memory :=
  match filterTarget get table filter with
  | none => (none, memory)
  | some (info, constant) =>
      let (value, strings, memory) := convert library duckdb constant .empty memory
      match buildEqualityQuery serde info.column.id info.column.name value memory with
      | (.error message, memory) =>
          let (message, memory) :=
            allocString ("failed to build Coda equality query" ++ ": " ++ message) memory
          (none, strings.destroyTexts (message.release memory))
      | (.ok (query, description), memory) =>
          let (query, memory) := takeToken query memory
          let (description, memory) := takeToken description memory
          (some (query, description), strings.destroyTexts memory)

/-- The loop over the filters, up to the first that is pushed. -/
def extractFilter (library : CppLibrary) (serde : SerdeJson) (duckdb : DuckDb) (get : LogicalGet)
    (table : RustBridgeTableInfo) :
    List Expression → Memory → Option ((String × String) × List Expression) × Memory
  | [], memory => (none, memory)
  | filter :: rest, memory =>
      match tryExtractRustBridgeEqualityFilter library serde duckdb get table filter memory with
      | (some pushed, memory) => (some (pushed, rest), memory)
      | (none, memory) =>
          let (found, memory) := extractFilter library serde duckdb get table rest memory
          (found.map fun (pushed, others) => (pushed, filter :: others), memory)

def rustBridgeScanPushdownComplexFilter (library : CppLibrary) (serde : SerdeJson)
    (duckdb : DuckDb) (get : LogicalGet) (bindData : RustBridgeScanBindData)
    (filters : List Expression) (memory : Memory) :
    (RustBridgeScanBindData × List Expression) × Memory :=
  if !bindData.pushedQuery.isEmpty then ((bindData, filters), memory)
  else
    match extractFilter library serde duckdb get bindData.table filters memory with
    | (none, memory) => ((bindData, filters), memory)
    | (some ((query, description), remaining), memory) =>
        (({ bindData with pushedQuery := query, pushedQueryDescription := description },
          remaining), memory)

def rustBridgeScanSetScanOrder (orderOptions : Option RowGroupOrderOptions)
    (bindData : RustBridgeScanBindData) (memory : Memory) : RustBridgeScanBindData × Memory :=
  match orderOptions with
  | none => (bindData, memory)
  | some options =>
      match options.rowLimit with
      | none => (bindData, memory)
      | some rowLimit =>
          if options.orderType = .descending then (bindData, memory)
          else
            match bindData.table.columns[options.columnIndex]? with
            | none => (bindData, memory)
            | some info =>
                match scanSortBy info.column with
                | none => (bindData, memory)
                | some sortBy =>
                    let (sortBy, memory) := allocString sortBy memory
                    let (sortBy, memory) := takeToken sortBy memory
                    ({ bindData with pushedSortBy := sortBy, pushedLimit := rowLimit }, memory)

/-- A call of the planner; a copy copies strings of the C++ side. -/
def applyCall (library : CppLibrary) (serde : SerdeJson) (duckdb : DuckDb)
    (state : RustBridgeScanBindData × Memory) (call : BindDataCall) :
    RustBridgeScanBindData × Memory :=
  match call with
  | .pushdownComplexFilter get filters =>
      let (pushed, memory) := rustBridgeScanPushdownComplexFilter library serde duckdb get state.1
        filters state.2
      (pushed.1, memory)
  | .setScanOrder orderOptions => rustBridgeScanSetScanOrder orderOptions state.1 state.2
  | .copy => (state.1.copy, state.2)

def boundScan (library : CppLibrary) (serde : SerdeJson) (duckdb : DuckDb)
    (entry : RustBridgeTableCatalogEntry) (calls : List BindDataCall) (memory : Memory) :
    RustBridgeScanBindData × Memory :=
  calls.foldl (applyCall library serde duckdb) (getScanFunction (fun _ => entry) 0, memory)

end DuckdbCoda.Abi
