import DuckdbCoda.Model.Abi
import DuckdbCoda.Model.Client

/-!
# The client with its memory

`load_columns`, `load_catalog` and `ScanHandle::next_batch` once more, over the
records of `Model.Abi`. The strings of the configuration belong to the caller and
are only read here. A `?` that fails drops what the function holds: vectors free
their buffers, the strings and arrays in their items stay behind.
-/

namespace DuckdbCoda.Abi

open Ownership Loop

variable {σ : Type}

/-- `RustExtClientConfig` is read for every request: the document, the endpoint
and the credential. -/
def RustExtClientConfig.borrow (config : RustExtClientConfig) (memory : Memory) : Memory :=
  config.credential.borrow (config.endpoint.borrow (config.resource.borrow memory))

/-- Build and send a request and decode the answer. -/
def fetch {α : Type} (remote : Remote σ) (config : RustExtClientConfig) (operation : Operation)
    (decode : String → Memory → Except String α × Memory) (world : World σ) (memory : Memory) :
    Except String α × World σ × Memory :=
  let memory := config.borrow memory
  match perform remote config.toValue operation world with
  | (.error message, world) => (.error message, world, memory)
  | (.ok body, world) =>
      let (answer, memory) := decode body memory
      (answer, world, memory)

/-- `page_token = token.as_str().to_string()`, and `token.free()`. -/
def takeToken (token : RustExtString) (memory : Memory) : String × Memory :=
  let (text, memory) := asStr token memory
  (text, token.release memory)

/-! ## `load_columns` -/

/-- What a loop over pages goes through: what is collected, the token, the world
and the memory. -/
abbrev PageLoop (σ α : Type) := List α × String × World σ × Memory

def loadColumnsTurn (remote : Remote σ) (config : RustExtClientConfig) (tableId : RustExtString) :
    PageLoop σ RustExtColumn →
      Turn (PageLoop σ RustExtColumn) (Except String (List RustExtColumn) × World σ × Memory)
  | (all, pageToken, world, memory) =>
      let (id, memory) := asStr tableId memory
      match fetch remote config (listColumnsOperation config.toValue id pageToken)
          (columnListFromJson remote.serde) world memory with
      | (.error message, world, memory) => .done (.error message, world, memory)
      | (.ok page, world, memory) =>
          let (items, memory) := vecFromRawParts page.items memory
          let all := all ++ items
          let (pageToken, memory) := takeToken page.nextPageToken memory
          if pageToken.isEmpty then .done (.ok all, world, memory)
          else .next (all, pageToken, world, memory)

/-- The end of `load_columns`, up to the array it gives away. -/
def finishColumns (fuel : Nat) (config : RustExtClientConfig) (all : List RustExtColumn)
    (memory : Memory) : Option (List RustExtColumn × Memory) :=
  let (all, memory) :=
    if config.includeSystemColumns then appendRowMetadata all memory else (all, memory)
  prepareColumns fuel all memory

def loadColumns (fuel : Nat) (remote : Remote σ) (config : RustExtClientConfig)
    (tableId : RustExtString) (world : World σ) (memory : Memory) :
    Option (Except String RustExtColumnList × World σ × Memory) :=
  match Loop.run (fun state => some (loadColumnsTurn remote config tableId state)) fuel
      ([], "", world, memory) with
  | none => none
  | some (.error message, world, memory) => some (.error message, world, memory)
  | some (.ok all, world, memory) =>
      (finishColumns fuel config all memory).map fun (columns, memory) =>
        let (items, memory) := vecIntoRawParts columns memory
        (.ok ⟨items, ⟨none, ""⟩⟩, world, memory)

/-! ## `load_catalog` -/

/-- The entry made of a listed table: its id and its name are copied. -/
def catalogTable (table : RustExtTable) (columns : RustExtColumnList) (memory : Memory) :
    RustExtCatalogTable × Memory :=
  let (idText, memory) := asStr table.id memory
  let (id, memory) := allocString idText memory
  let (nameText, memory) := asStr table.name memory
  let (name, memory) := allocString nameText memory
  ({ id, name, capabilities := table.capabilities, columns := columns.items }, memory)

/-- `for table in tables { .. }`. -/
def loadTables (fuel : Nat) (remote : Remote σ) (config : RustExtClientConfig) :
    List RustExtTable → List RustExtCatalogTable → World σ → Memory →
      Option (Except String (List RustExtCatalogTable) × World σ × Memory)
  | [], catalogTables, world, memory => some (.ok catalogTables, world, memory)
  | table :: rest, catalogTables, world, memory =>
      match loadColumns fuel remote config table.id world memory with
      | none => none
      | some (.error message, world, memory) => some (.error message, world, memory)
      | some (.ok columns, world, memory) =>
          let (entry, memory) := catalogTable table columns memory
          loadTables fuel remote config rest (catalogTables ++ [entry]) world
            (freeTable memory table)

def loadCatalogTurn (remote : Remote σ) (config : RustExtClientConfig) (fuel : Nat) :
    PageLoop σ RustExtCatalogTable →
      Option (Turn (PageLoop σ RustExtCatalogTable)
        (Except String RustExtCatalog × World σ × Memory))
  | (catalogTables, pageToken, world, memory) =>
      match fetch remote config (listTablesOperation config.toValue pageToken)
          (tableListFromJson remote.serde) world memory with
      | (.error message, world, memory) => some (.done (.error message, world, memory))
      | (.ok page, world, memory) =>
          let (tables, memory) := vecFromRawParts page.items memory
          (loadTables fuel remote config tables catalogTables world memory).map fun
            | (.error message, world, memory) => .done (.error message, world, memory)
            | (.ok catalogTables, world, memory) =>
                let (pageToken, memory) := takeToken page.nextPageToken memory
                if pageToken.isEmpty then
                  let (tables, memory) := vecIntoRawParts catalogTables memory
                  .done (.ok ⟨tables⟩, world, memory)
                else .next (catalogTables, pageToken, world, memory)

def loadCatalog (fuel : Nat) (remote : Remote σ) (config : RustExtClientConfig) (world : World σ)
    (memory : Memory) : Option (Except String RustExtCatalog × World σ × Memory) :=
  Loop.run (loadCatalogTurn remote config fuel) fuel ([], "", world, memory)

/-! ## `next_batch` -/

def listRows (remote : Remote σ) (config : RustExtClientConfig) (tableId : String)
    (request : CodaRowsRequest) :
    World σ → Memory → Except String CodaRowsResponse × World σ × Memory :=
  fetch remote config (listRowsOperation config.toValue tableId request)
    (rowsFromJson remote.serde)

/-- The rows that are not flagged deleted; the others are freed (their cells
first, which comes to the same). -/
def keepVisible : List RustExtRow → Memory → List RustExtRow × Memory
  | [], memory => ([], memory)
  | row :: rest, memory =>
      if row.deleted then keepVisible rest (freeRow memory row)
      else
        let (rows, memory) := keepVisible rest memory
        (row :: rows, memory)

/-- What `next_batch` makes of a response: both tokens are copied and freed, the
rows that are left are given away. -/
def visiblePage (response : CodaRowsResponse) (memory : Memory) :
    RawParts (List RustExtRow) × Memory :=
  let memory := response.nextSyncToken.borrow (response.nextPageToken.borrow memory)
  let memory := response.nextSyncToken.release (response.nextPageToken.release memory)
  let (rows, memory) := vecFromRawParts response.rows memory
  let (visibleRows, memory) := keepVisible rows memory
  vecIntoRawParts visibleRows memory

/-- `ScanHandle` with the pointers of the caller's configuration. The other
strings of a handle are its own. -/
structure ScanHandle where
  config : RustExtClientConfig
  handle : DuckdbCoda.ScanHandle

namespace ScanHandle

def toValue (scan : ScanHandle) : DuckdbCoda.ScanHandle :=
  { scan.handle with config := scan.config.toValue }

def nextBatchTurn (remote : Remote σ) :
    ScanHandle × World σ × Memory →
      Turn (ScanHandle × World σ × Memory)
        (Except String RustExtScanBatch × ScanHandle × World σ × Memory)
  | (scan, world, memory) =>
      if scan.handle.finished then
        .done (.ok { rows := ⟨none, []⟩, finished := true }, scan, world, memory)
      else
        let (request, handle) := scan.handle.request
        match listRows remote scan.config handle.tableId request world memory with
        | (.error message, world, memory) =>
            .done (.error message, { scan with handle }, world, memory)
        | (.ok response, world, memory) =>
            let handle := handle.advance response.toValue
            let (rows, memory) := visiblePage response memory
            if !rows.contents.isEmpty || handle.finished then
              .done (.ok { rows, finished := handle.finished }, { scan with handle }, world, memory)
            else .next ({ scan with handle }, world, memory)

def nextBatch (fuel : Nat) (remote : Remote σ) (scan : ScanHandle) (world : World σ)
    (memory : Memory) :
    Option (Except String RustExtScanBatch × ScanHandle × World σ × Memory) :=
  Loop.run (fun state => some (nextBatchTurn remote state)) fuel (scan, world, memory)

end ScanHandle

end DuckdbCoda.Abi
