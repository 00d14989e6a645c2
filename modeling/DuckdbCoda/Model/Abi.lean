import DuckdbCoda.Lib.Ownership
import DuckdbCoda.Model.Json

/-!
# The records with their memory

The records of the C ABI once more, now as pointers into the memory of the
extension: `ffi.rs` gives strings and arrays away as raw parts, the readers of
`json.rs` fill records with them, and the `free_*` functions take them back.
`value` forgets the pointers and gives the record of `Model.Ffi`.

A Rust `Vec` or `String` that is not given away frees itself, so only what is
given away is a block. A reader that fails returns early: the strings it has
allocated by then are in records that have no destructor.
-/

namespace DuckdbCoda.Abi

open Ownership

/-! ## Strings and arrays -/

abbrev RustExtString := RawParts String

/-- `alloc_string`: no block for the empty string. -/
def allocString (value : String) : Memory → RustExtString × Memory :=
  RawParts.into value.isEmpty value

/-- `vec_into_raw_parts`: no block for the empty array. -/
def vecIntoRawParts {α : Type} (items : List α) : Memory → RawParts (List α) × Memory :=
  RawParts.into items.isEmpty items

/-- `vec_from_raw_parts`: the items, and the buffer back to a `Vec` that frees
it. -/
def vecFromRawParts {α : Type} (items : RawParts (List α)) (memory : Memory) : List α × Memory :=
  (items.contents, items.release memory)

/-- `as_str`. -/
def asStr (value : RustExtString) (memory : Memory) : String × Memory :=
  (value.contents, value.borrow memory)

/-! ## Records -/

structure RustExtTable where
  id : RustExtString
  name : RustExtString
  capabilities : UInt32

structure RustExtTableList where
  items : RawParts (List RustExtTable)
  nextPageToken : RustExtString

structure RustExtColumn where
  id : RustExtString
  name : RustExtString
  typeName : RustExtString
  capabilities : UInt32
  logicalType : Int32

structure RustExtColumnList where
  items : RawParts (List RustExtColumn)
  nextPageToken : RustExtString

structure RustExtCatalogTable where
  id : RustExtString
  name : RustExtString
  capabilities : UInt32
  columns : RawParts (List RustExtColumn)

structure RustExtCatalog where
  tables : RawParts (List RustExtCatalogTable)

structure RustExtCell where
  columnId : RustExtString
  valueType : JsonValueType
  value : RustExtString

structure RustExtRow where
  id : RustExtString
  createdAt : RustExtString
  updatedAt : RustExtString
  deleted : Bool
  cells : RawParts (List RustExtCell)

structure RustExtScanBatch where
  rows : RawParts (List RustExtRow)
  finished : Bool

structure CodaRowsResponse where
  rows : RawParts (List RustExtRow)
  nextPageToken : RustExtString
  nextSyncToken : RustExtString

structure RustExtClientConfig where
  resource : RustExtString
  credential : RustExtString
  endpoint : RustExtString
  includeSystemColumns : Bool

/-! ## What a record owns, and what it says -/

def RustExtTable.blocks (table : RustExtTable) : Multiset Nat :=
  table.id.blocks + table.name.blocks

def RustExtTable.toValue (table : RustExtTable) : DuckdbCoda.RustExtTable where
  id := table.id.contents
  name := table.name.contents
  capabilities := table.capabilities

def RustExtTableList.blocks (list : RustExtTableList) : Multiset Nat :=
  list.items.blocks + blocksOf RustExtTable.blocks list.items.contents + list.nextPageToken.blocks

def RustExtTableList.toValue (list : RustExtTableList) : DuckdbCoda.RustExtTableList where
  items := list.items.contents.map RustExtTable.toValue
  nextPageToken := list.nextPageToken.contents

def RustExtColumn.blocks (column : RustExtColumn) : Multiset Nat :=
  column.id.blocks + column.name.blocks + column.typeName.blocks

def RustExtColumn.toValue (column : RustExtColumn) : DuckdbCoda.RustExtColumn where
  id := column.id.contents
  name := column.name.contents
  typeName := column.typeName.contents
  capabilities := column.capabilities
  logicalType := column.logicalType

def RustExtColumnList.blocks (list : RustExtColumnList) : Multiset Nat :=
  list.items.blocks + blocksOf RustExtColumn.blocks list.items.contents + list.nextPageToken.blocks

def RustExtColumnList.toValue (list : RustExtColumnList) : DuckdbCoda.RustExtColumnList where
  items := list.items.contents.map RustExtColumn.toValue
  nextPageToken := list.nextPageToken.contents

def RustExtCatalogTable.blocks (table : RustExtCatalogTable) : Multiset Nat :=
  table.id.blocks + table.name.blocks + table.columns.blocks +
    blocksOf RustExtColumn.blocks table.columns.contents

def RustExtCatalogTable.toValue (table : RustExtCatalogTable) :
    DuckdbCoda.RustExtCatalogTable where
  id := table.id.contents
  name := table.name.contents
  capabilities := table.capabilities
  columns := table.columns.contents.map RustExtColumn.toValue

def RustExtCatalog.blocks (catalog : RustExtCatalog) : Multiset Nat :=
  catalog.tables.blocks + blocksOf RustExtCatalogTable.blocks catalog.tables.contents

def RustExtCatalog.toValue (catalog : RustExtCatalog) : DuckdbCoda.RustExtCatalog where
  tables := catalog.tables.contents.map RustExtCatalogTable.toValue

def RustExtCell.blocks (cell : RustExtCell) : Multiset Nat :=
  cell.columnId.blocks + cell.value.blocks

def RustExtCell.toValue (cell : RustExtCell) : DuckdbCoda.RustExtCell where
  columnId := cell.columnId.contents
  valueType := cell.valueType
  value := cell.value.contents

def RustExtRow.blocks (row : RustExtRow) : Multiset Nat :=
  row.id.blocks + row.createdAt.blocks + row.updatedAt.blocks + row.cells.blocks +
    blocksOf RustExtCell.blocks row.cells.contents

def RustExtRow.toValue (row : RustExtRow) : DuckdbCoda.RustExtRow where
  id := row.id.contents
  createdAt := row.createdAt.contents
  updatedAt := row.updatedAt.contents
  deleted := row.deleted
  cells := row.cells.contents.map RustExtCell.toValue

def RustExtScanBatch.blocks (batch : RustExtScanBatch) : Multiset Nat :=
  batch.rows.blocks + blocksOf RustExtRow.blocks batch.rows.contents

def RustExtScanBatch.toValue (batch : RustExtScanBatch) : DuckdbCoda.RustExtScanBatch where
  rows := batch.rows.contents.map RustExtRow.toValue
  finished := batch.finished

def CodaRowsResponse.blocks (response : CodaRowsResponse) : Multiset Nat :=
  response.rows.blocks + blocksOf RustExtRow.blocks response.rows.contents +
    response.nextPageToken.blocks + response.nextSyncToken.blocks

def CodaRowsResponse.toValue (response : CodaRowsResponse) : DuckdbCoda.CodaRowsResponse where
  rows := response.rows.contents.map RustExtRow.toValue
  nextPageToken := response.nextPageToken.contents
  nextSyncToken := response.nextSyncToken.contents

def RustExtClientConfig.blocks (config : RustExtClientConfig) : Multiset Nat :=
  config.resource.blocks + config.credential.blocks + config.endpoint.blocks

def RustExtClientConfig.toValue (config : RustExtClientConfig) :
    DuckdbCoda.RustExtClientConfig where
  resource := config.resource.contents
  credential := config.credential.contents
  endpoint := config.endpoint.contents
  includeSystemColumns := config.includeSystemColumns

/-! ## The readers -/

/-- The shape of the three page readers: the items, an array of them, and what
`finish` adds. -/
def readPage {α β : Type} (serde : SerdeJson) (read : Json → Memory → Except String α × Memory)
    (finish : Json → RawParts (List α) → Memory → β × Memory) (body : String) (memory : Memory) :
    Except String β × Memory :=
  match serde.fromStr body with
  | .error message => (.error message, memory)
  | .ok root =>
      match pageItems root with
      | .error message => (.error message, memory)
      | .ok items =>
          match readItems read items memory with
          | (.error message, memory) => (.error message, memory)
          | (.ok results, memory) =>
              let (array, memory) := vecIntoRawParts results memory
              let (page, memory) := finish root array memory
              (.ok page, memory)

def tableFromJson (item : Json) (memory : Memory) : Except String RustExtTable × Memory :=
  match item.getStr "id" with
  | none => (.error "missing table id", memory)
  | some id =>
      let (id, memory) := allocString id memory
      match item.getStr "name" with
      -- `?` returns past `id`, which has no destructor
      | none => (.error "missing table name", memory)
      | some name =>
          let (name, memory) := allocString name memory
          (.ok { id, name, capabilities := tableCapabilities item }, memory)

def finishTableList (root : Json) (items : RawParts (List RustExtTable)) (memory : Memory) :
    RustExtTableList × Memory :=
  let (nextPageToken, memory) := allocString ((root.getStr "nextPageToken").getD "") memory
  ({ items, nextPageToken }, memory)

def tableListFromJson (serde : SerdeJson) : String → Memory → Except String RustExtTableList × Memory :=
  readPage serde tableFromJson finishTableList

def columnFromJson (item : Json) (memory : Memory) : Except String RustExtColumn × Memory :=
  let format := (item.get "format").bind fun inner => inner.asObject.map fun _ => inner
  let formatType := (format.bind (Json.getStr "type")).getD "text"
  let isArray := (format.bind (Json.getBool "isArray")).getD false
  let calculated := (item.getBool "calculated").getD false
  match item.getStr "id" with
  | none => (.error "missing column id", memory)
  | some id =>
      let (id, memory) := allocString id memory
      match item.getStr "name" with
      | none => (.error "missing column name", memory)
      | some name =>
          let (name, memory) := allocString name memory
          let (typeName, memory) := allocString formatType memory
          (.ok {
            id, name, typeName
            capabilities := columnCapabilities calculated isArray
            logicalType := logicalType formatType isArray }, memory)

def finishColumnList (root : Json) (items : RawParts (List RustExtColumn)) (memory : Memory) :
    RustExtColumnList × Memory :=
  let (nextPageToken, memory) := allocString ((root.getStr "nextPageToken").getD "") memory
  ({ items, nextPageToken }, memory)

def columnListFromJson (serde : SerdeJson) :
    String → Memory → Except String RustExtColumnList × Memory :=
  readPage serde columnFromJson finishColumnList

def cellFromJson (serde : SerdeJson) (member : String × Json) (memory : Memory) :
    RustExtCell × Memory :=
  let (columnId, memory) := allocString member.1 memory
  let (value, memory) := allocString (jsonValueString serde member.2) memory
  ({ columnId, valueType := jsonValueType member.2, value }, memory)

def cellsFromJson (serde : SerdeJson) : List (String × Json) → Memory → List RustExtCell × Memory
  | [], memory => ([], memory)
  | member :: rest, memory =>
      let (cell, memory) := cellFromJson serde member memory
      let (cells, memory) := cellsFromJson serde rest memory
      (cell :: cells, memory)

/-- The cells are given away before the id is looked for. -/
def rowFromJson (serde : SerdeJson) (item : Json) (memory : Memory) :
    Except String RustExtRow × Memory :=
  let (cells, memory) := cellsFromJson serde (rowValues item) memory
  let (cells, memory) := vecIntoRawParts cells memory
  match item.getStr "id" with
  | none => (.error "missing row id", memory)
  | some id =>
      let (id, memory) := allocString id memory
      let (createdAt, memory) := allocString ((item.getStr "createdAt").getD "") memory
      let (updatedAt, memory) := allocString ((item.getStr "updatedAt").getD "") memory
      (.ok {
        id, createdAt, updatedAt, cells
        deleted := (item.getBool "deleted").getD false || (item.getBool "isDeleted").getD false },
        memory)

def finishRows (root : Json) (rows : RawParts (List RustExtRow)) (memory : Memory) :
    CodaRowsResponse × Memory :=
  let (nextPageToken, memory) := allocString ((root.getStr "nextPageToken").getD "") memory
  let (nextSyncToken, memory) := allocString ((root.getStr "nextSyncToken").getD "") memory
  ({ rows, nextPageToken, nextSyncToken }, memory)

def rowsFromJson (serde : SerdeJson) : String → Memory → Except String CodaRowsResponse × Memory :=
  readPage serde (rowFromJson serde) finishRows

/-! ## `free_*` -/

def freeTable (memory : Memory) (table : RustExtTable) : Memory :=
  table.name.release (table.id.release memory)

def freeColumn (memory : Memory) (column : RustExtColumn) : Memory :=
  column.typeName.release (column.name.release (column.id.release memory))

def freeColumns (list : RustExtColumnList) (memory : Memory) : Memory :=
  let (items, memory) := vecFromRawParts list.items memory
  list.nextPageToken.release (items.foldl freeColumn memory)

def freeCell (memory : Memory) (cell : RustExtCell) : Memory :=
  cell.value.release (cell.columnId.release memory)

/-- The body of the loop in `free_rows_partial`. -/
def freeRow (memory : Memory) (row : RustExtRow) : Memory :=
  let memory := row.updatedAt.release (row.createdAt.release (row.id.release memory))
  let (cells, memory) := vecFromRawParts row.cells memory
  cells.foldl freeCell memory

def freeRowsPartial (rows : RawParts (List RustExtRow)) (memory : Memory) : Memory :=
  let (rows, memory) := vecFromRawParts rows memory
  rows.foldl freeRow memory

def freeCodaRowsResponse (response : CodaRowsResponse) (memory : Memory) : Memory :=
  response.nextSyncToken.release
    (response.nextPageToken.release (freeRowsPartial response.rows memory))

def freeScanBatch (batch : RustExtScanBatch) : Memory → Memory :=
  freeRowsPartial batch.rows

/-- The body of the loop in `free_catalog`. -/
def freeCatalogTable (memory : Memory) (table : RustExtCatalogTable) : Memory :=
  freeColumns ⟨table.columns, ⟨none, ""⟩⟩ (table.name.release (table.id.release memory))

def freeCatalog (catalog : RustExtCatalog) (memory : Memory) : Memory :=
  let (tables, memory) := vecFromRawParts catalog.tables memory
  tables.foldl freeCatalogTable memory

/-! ## Preparing the columns of a table -/

/-- The sweep over `idx`. The suffix search reads the names before the column;
a name that changes is freed and given away anew. -/
def prepareFrom (fuel : Nat) (taken : List RustExtColumn) :
    List RustExtColumn → Memory → Option (List RustExtColumn × Memory)
  | [], memory => some (taken, memory)
  | column :: rest, memory =>
      let (original, memory) := asStr column.name memory
      let memory := taken.foldl (fun memory column => column.name.borrow memory) memory
      (preparedName fuel (taken.map RustExtColumn.toValue) original).bind fun candidate =>
        if candidate ≠ original then
          let (name, memory) := allocString candidate (column.name.release memory)
          prepareFrom fuel (taken ++ [{ column with name }]) rest memory
        else prepareFrom fuel (taken ++ [column]) rest memory

def prepareColumns (fuel : Nat) (columns : List RustExtColumn) (memory : Memory) :
    Option (List RustExtColumn × Memory) :=
  prepareFrom fuel [] columns memory

def metadataColumn (name : String) (memory : Memory) : RustExtColumn × Memory :=
  let (id, memory) := allocString name memory
  let (name, memory) := allocString name memory
  let (typeName, memory) := allocString "timestampTz" memory
  ({ id, name, typeName
     capabilities := columnGenerated ||| columnSystem ||| columnSortAsc
     logicalType := 3 }, memory)

def appendRowMetadata (columns : List RustExtColumn) (memory : Memory) :
    List RustExtColumn × Memory :=
  let (createdAt, memory) := metadataColumn "createdAt" memory
  let (updatedAt, memory) := metadataColumn "updatedAt" memory
  (columns ++ [createdAt, updatedAt], memory)

end DuckdbCoda.Abi
