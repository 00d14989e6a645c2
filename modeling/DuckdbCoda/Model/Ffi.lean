import DuckdbCoda.Lib.Binary64

/-!
# The C ABI records

The records both sides of the bridge exchange (`ffi.rs`,
`rust_bridge_extension.h`), with the capability bits as the `u32` masks of the
source. A `RustExtString` is a `String`: the null pointer and the empty string
are the same value on both sides. A pointer with a count is a `List`, the null
pointer being `[]`.
-/

namespace DuckdbCoda

/-! ## Capability bits -/

def columnGenerated : UInt32 := (1 : UInt32) <<< 0
def columnSystem : UInt32 := (1 : UInt32) <<< 1
def columnEditable : UInt32 := (1 : UInt32) <<< 2
def columnFilterEquality : UInt32 := (1 : UInt32) <<< 3
def columnSortAsc : UInt32 := (1 : UInt32) <<< 4
def columnArray : UInt32 := (1 : UInt32) <<< 5

def tableView : UInt32 := (1 : UInt32) <<< 0
def tableInsert : UInt32 := (1 : UInt32) <<< 1
def tableUpdate : UInt32 := (1 : UInt32) <<< 2
def tableDelete : UInt32 := (1 : UInt32) <<< 3
def tableRowId : UInt32 := (1 : UInt32) <<< 4

/-- `capabilities & bit != 0`. -/
def hasBit (capabilities bit : UInt32) : Bool := capabilities &&& bit != 0

/-! ## Values crossing the boundary -/

/-- `RustExtJSONValueType`; the tags are 0 to 4 in this order. -/
inductive JsonValueType where
  | invalid
  | null
  | boolean
  | string
  | other
  deriving DecidableEq, Repr

/-- `RustExtInputValue`: the tag with the one member it selects. -/
inductive RustExtInputValue where
  | null
  | bool (value : Bool)
  | int (value : Int64)
  | uint (value : UInt64)
  | double (value : F64)
  | string (value : String)
  deriving DecidableEq

/-- `RustExtScanValue`; the default is SQL NULL. -/
structure RustExtScanValue where
  isNull : Bool := true
  valueType : JsonValueType := .invalid
  boolValue : Bool := false
  hasDoubleValue : Bool := false
  doubleValue : F64 := ⟨0⟩
  value : String := ""
  deriving DecidableEq

structure RustExtWriteColumn where
  id : String := ""
  capabilities : UInt32 := 0
  deriving DecidableEq

/-! ## Catalog records -/

structure RustExtTable where
  id : String
  name : String
  capabilities : UInt32
  deriving DecidableEq

structure RustExtTableList where
  items : List RustExtTable
  nextPageToken : String

structure RustExtColumn where
  id : String
  name : String
  typeName : String
  capabilities : UInt32
  logicalType : Int32
  deriving DecidableEq

structure RustExtColumnList where
  items : List RustExtColumn
  nextPageToken : String

structure RustExtCatalogTable where
  id : String
  name : String
  capabilities : UInt32
  columns : List RustExtColumn
  deriving DecidableEq

structure RustExtCatalog where
  tables : List RustExtCatalogTable

/-! ## Row records -/

structure RustExtCell where
  columnId : String
  valueType : JsonValueType
  value : String
  deriving DecidableEq

structure RustExtRow where
  id : String
  createdAt : String
  updatedAt : String
  deleted : Bool
  cells : List RustExtCell
  deriving DecidableEq

structure RustExtScanBatch where
  rows : List RustExtRow
  finished : Bool
  deriving DecidableEq

structure CodaRowsResponse where
  rows : List RustExtRow
  nextPageToken : String
  nextSyncToken : String

/-! ## Requests -/

structure RustExtClientConfig where
  resource : String
  credential : String
  endpoint : String
  includeSystemColumns : Bool

structure RustExtScanRequest where
  filter : String
  order : String
  limit : Nat

structure CodaRowsRequest where
  pageToken : String
  query : String
  sortBy : String
  syncToken : String
  limit : Nat

/-- `ffi_bool`: the caller sees the failure under the context of the exported
function. (The panic branch is not modelled: no modelled function panics.) -/
def ffiBool {α : Type} (context : String) (result : Except String α) : Except String α :=
  result.mapError fun message => context ++ ": " ++ message

end DuckdbCoda
