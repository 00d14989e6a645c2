import DuckdbCoda.Model.Sdk

/-!
# Loading the catalog and scanning rows

`client.rs`: the two nested pagination loops of `load_catalog`, and the
`ScanHandle` with its two tokens and two flags. Loops take fuel
(`DuckdbCoda.Lib.Loop`); `none` means it ran out.
-/

namespace DuckdbCoda

open Loop

variable {σ : Type}

/-- `send_request(config, request)?` followed by the reader of the page. -/
def fetch {α : Type} (remote : Remote σ) (config : RustExtClientConfig)
    (operation : Operation) (decode : String → Except String α) (world : World σ) :
    Except String α × World σ :=
  let (body, world) := perform remote config operation world
  (body.bind decode, world)

/-! ## `load_columns` -/

def listColumnsOperation (config : RustExtClientConfig) (tableId pageToken : String) :
    Operation :=
  .listColumns {
    docId := config.resource, tableIdOrName := tableId, limit := some 100
    pageToken := nonEmptyString pageToken, visibleOnly := some false }

def fetchColumns (remote : Remote σ) (config : RustExtClientConfig) (tableId pageToken : String) :
    World σ → Except String RustExtColumnList × World σ :=
  fetch remote config (listColumnsOperation config tableId pageToken)
    (columnListFromJson remote.serde)

/-- One turn of the `loop` in `load_columns`, over `all` and `page_token`. -/
def loadColumnsTurn (remote : Remote σ) (config : RustExtClientConfig) (tableId : String) :
    List RustExtColumn × String × World σ →
      Turn (List RustExtColumn × String × World σ) (Except String (List RustExtColumn) × World σ)
  | (all, pageToken, world) =>
      match fetchColumns remote config tableId pageToken world with
      | (.error message, world) => .done (.error message, world)
      | (.ok page, world) =>
          if page.nextPageToken.isEmpty then .done (.ok (all ++ page.items), world)
          else .next (all ++ page.items, page.nextPageToken, world)

/-- The end of `load_columns`: row metadata when it is enabled, then usable
names. -/
def finishColumns (fuel : Nat) (config : RustExtClientConfig) (all : List RustExtColumn) :
    Option (List RustExtColumn) :=
  prepareColumns fuel (if config.includeSystemColumns then appendRowMetadata all else all)

def loadColumns (fuel : Nat) (remote : Remote σ) (config : RustExtClientConfig)
    (tableId : String) (world : World σ) :
    Option (Except String (List RustExtColumn) × World σ) :=
  match Loop.run (fun state => some (loadColumnsTurn remote config tableId state)) fuel
      ([], "", world) with
  | none => none
  | some (.error message, world) => some (.error message, world)
  | some (.ok all, world) =>
      (finishColumns fuel config all).map fun columns => (.ok columns, world)

/-! ## `load_catalog` -/

def listTablesOperation (config : RustExtClientConfig) (pageToken : String) : Operation :=
  .listTables {
    docId := config.resource, limit := some 100, pageToken := nonEmptyString pageToken }

def fetchTables (remote : Remote σ) (config : RustExtClientConfig) (pageToken : String) :
    World σ → Except String RustExtTableList × World σ :=
  fetch remote config (listTablesOperation config pageToken) (tableListFromJson remote.serde)

def catalogTable (table : RustExtTable) (columns : List RustExtColumn) : RustExtCatalogTable where
  id := table.id
  name := table.name
  capabilities := table.capabilities
  columns := columns

/-- `for table in tables { .. }`: the columns of each table of one page. -/
def loadTables (fuel : Nat) (remote : Remote σ) (config : RustExtClientConfig) :
    List RustExtTable → List RustExtCatalogTable → World σ →
      Option (Except String (List RustExtCatalogTable) × World σ)
  | [], catalogTables, world => some (.ok catalogTables, world)
  | table :: rest, catalogTables, world =>
      match loadColumns fuel remote config table.id world with
      | none => none
      | some (.error message, world) => some (.error message, world)
      | some (.ok columns, world) =>
          loadTables fuel remote config rest (catalogTables ++ [catalogTable table columns]) world

/-- One turn of the `loop` in `load_catalog`. -/
def loadCatalogTurn (remote : Remote σ) (config : RustExtClientConfig) (fuel : Nat) :
    List RustExtCatalogTable × String × World σ →
      Option (Turn (List RustExtCatalogTable × String × World σ)
        (Except String RustExtCatalog × World σ))
  | (catalogTables, pageToken, world) =>
      match fetchTables remote config pageToken world with
      | (.error message, world) => some (.done (.error message, world))
      | (.ok page, world) =>
          (loadTables fuel remote config page.items catalogTables world).map fun
            | (.error message, world) => .done (.error message, world)
            | (.ok catalogTables, world) =>
                if page.nextPageToken.isEmpty then .done (.ok ⟨catalogTables⟩, world)
                else .next (catalogTables, page.nextPageToken, world)

def loadCatalog (fuel : Nat) (remote : Remote σ) (config : RustExtClientConfig)
    (world : World σ) : Option (Except String RustExtCatalog × World σ) :=
  Loop.run (loadCatalogTurn remote config fuel) fuel ([], "", world)

/-! ## `list_rows` -/

def listRowsOperation (config : RustExtClientConfig) (tableId : String)
    (request : CodaRowsRequest) : Operation :=
  .listRows {
    docId := config.resource
    tableIdOrName := tableId
    query := nonEmptyString request.query
    sortBy := nonEmptyString request.sortBy
    useColumnNames := some false
    valueFormat := some "simpleWithArrays"
    visibleOnly := some false
    limit := some request.limit
    pageToken := nonEmptyString request.pageToken
    syncToken := nonEmptyString request.syncToken }

def listRows (remote : Remote σ) (config : RustExtClientConfig) (tableId : String)
    (request : CodaRowsRequest) : World σ → Except String CodaRowsResponse × World σ :=
  fetch remote config (listRowsOperation config tableId request) (rowsFromJson remote.serde)

/-! ## `ScanHandle` -/

structure ScanHandle where
  config : RustExtClientConfig
  tableId : String
  query : String
  sortBy : String
  limit : Nat
  nextPageToken : String
  nextSyncToken : String
  syncCheckDone : Bool
  finished : Bool

namespace ScanHandle

def new (config : RustExtClientConfig) (tableId : String) (request : RustExtScanRequest) :
    ScanHandle where
  config := config
  tableId := tableId
  query := request.filter
  sortBy := request.order
  limit := if request.limit = 0 then 500 else min request.limit 500
  nextPageToken := ""
  nextSyncToken := ""
  syncCheckDone := false
  finished := false

/-- Whether the request about to be built is the sync check. -/
def syncDue (handle : ScanHandle) : Bool :=
  handle.nextPageToken.isEmpty && !handle.nextSyncToken.isEmpty && !handle.syncCheckDone

/-- `request(&mut self)`: the flag is set while the request is being built. -/
def request (handle : ScanHandle) : CodaRowsRequest × ScanHandle :=
  let syncToken := if handle.syncDue then handle.nextSyncToken else ""
  ({ pageToken := handle.nextPageToken, query := handle.query, sortBy := handle.sortBy,
     syncToken, limit := handle.limit },
    { handle with syncCheckDone := handle.syncCheckDone || handle.syncDue })

/-- The handle after a response: both tokens, and the test for the end. -/
def advance (handle : ScanHandle) (response : CodaRowsResponse) : ScanHandle :=
  { handle with
    nextPageToken := response.nextPageToken
    nextSyncToken := response.nextSyncToken
    finished := handle.finished || (response.nextPageToken.isEmpty &&
      (response.nextSyncToken.isEmpty || handle.syncCheckDone)) }

end ScanHandle

/-- The rows of a response that are not flagged deleted. -/
def visibleRows (response : CodaRowsResponse) : List RustExtRow :=
  response.rows.filter fun row => !row.deleted

namespace ScanHandle

/-- One turn of `while !self.finished { .. }` in `next_batch`. -/
def nextBatchTurn (remote : Remote σ) :
    ScanHandle × World σ →
      Turn (ScanHandle × World σ) (Except String RustExtScanBatch × ScanHandle × World σ)
  | (handle, world) =>
      if handle.finished then .done (.ok { rows := [], finished := true }, handle, world)
      else
        let (request, handle) := handle.request
        match listRows remote handle.config handle.tableId request world with
        | (.error message, world) => .done (.error message, handle, world)
        | (.ok response, world) =>
            let handle := handle.advance response
            let rows := visibleRows response
            -- a page without visible rows is returned only as the last one
            if !rows.isEmpty || handle.finished then
              .done (.ok { rows, finished := handle.finished }, handle, world)
            else .next (handle, world)

def nextBatch (fuel : Nat) (remote : Remote σ) (handle : ScanHandle) (world : World σ) :
    Option (Except String RustExtScanBatch × ScanHandle × World σ) :=
  Loop.run (fun state => some (nextBatchTurn remote state)) fuel (handle, world)

/-- One `next_batch` call of a caller that goes on until a batch is marked
finished or a call fails. -/
def collectTurn (remote : Remote σ) (fuel : Nat) :
    List RustExtScanBatch × ScanHandle × World σ →
      Option (Turn (List RustExtScanBatch × ScanHandle × World σ)
        (Except String (List RustExtScanBatch) × ScanHandle × World σ))
  | (batches, handle, world) =>
      (handle.nextBatch fuel remote world).map fun
        | (.error message, handle, world) => .done (.error message, handle, world)
        | (.ok batch, handle, world) =>
            if batch.finished then .done (.ok (batches ++ [batch]), handle, world)
            else .next (batches ++ [batch], handle, world)

/-- Repeated `next_batch` calls up to the finished batch. -/
def collect (fuel : Nat) (remote : Remote σ) (handle : ScanHandle) (world : World σ) :
    Option (Except String (List RustExtScanBatch) × ScanHandle × World σ) :=
  Loop.run (collectTurn remote fuel) fuel ([], handle, world)

end ScanHandle

end DuckdbCoda
