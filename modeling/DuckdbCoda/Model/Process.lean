import DuckdbCoda.Lib.History
import DuckdbCoda.Lib.Slots
import DuckdbCoda.Model.Attach
import DuckdbCoda.Model.BindData
import DuckdbCoda.Model.Storage

/-!
# A DuckDB process with the extension loaded

Any number of databases attached, each with any number of scans open. ATTACH
resolves the configuration and loads the catalog (`rust_bridge_storage.cpp`,
the constructor of `RustBridgeCatalog`); a scan keeps a client of its database
(`RustBridgeScanGlobalState`). The calls of different statements interleave in
any order, and other clients of the server may do something in between.
-/

namespace DuckdbCoda

variable {σ : Type}

/-! ## Attached databases -/

/-- `RustBridgeCatalog`; its schema is made of the catalog. -/
structure RustBridgeCatalog where
  attachConfig : RustExtAttachConfig
  catalogInfo : RustExtCatalog

/-- `RustBridgeAttachConfig::ClientConfig`. -/
def RustExtAttachConfig.clientConfig (config : RustExtAttachConfig) : RustExtClientConfig where
  resource := config.resource
  credential := config.credential
  endpoint := config.endpoint
  includeSystemColumns := false

namespace RustBridgeCatalog

/-- `Client()`. -/
def client (catalog : RustBridgeCatalog) : RustExtClientConfig := catalog.attachConfig.clientConfig

def mainSchema (catalog : RustBridgeCatalog) : RustBridgeSchemaCatalogEntry :=
  RustBridgeSchemaCatalogEntry.ofCatalog catalog.catalogInfo

end RustBridgeCatalog

/-- `RustBridgeClient::ListTables`. -/
def listTables (fuel : Nat) (remote : Remote σ) (config : RustExtClientConfig)
    (includeSystemColumns : Bool) (world : World σ) :
    Option (Except Exception RustExtCatalog × World σ) :=
  (loadCatalog fuel remote { config with includeSystemColumns } world).map fun (answer, world) =>
    (thrown "failed to load Coda catalog" answer, world)

/-- `RustBridgeAttach`. -/
def rustBridgeAttach (fuel : Nat) (remote : Remote σ) (duckdb : DuckDb)
    (context : AttachHostContext) (path : String) (world : World σ) :
    Option (Except Exception RustBridgeCatalog × World σ) :=
  match resolveAttachConfig remote.sdk (attachHost duckdb) path context with
  | .error exception => some (.error exception, world)
  | .ok attachConfig =>
      (listTables fuel remote attachConfig.clientConfig attachConfig.includeSystemColumns
        world).map fun (answer, world) =>
          (answer.map fun catalogInfo => { attachConfig, catalogInfo }, world)

/-! ## Scans -/

/-- A scan between two calls, without its handle (`withScan` puts one in). -/
def RustBridgeScanGlobalState.withScan {S T : Type} (state : RustBridgeScanGlobalState S)
    (scan : T) : RustBridgeScanGlobalState T :=
  { state with scan }

/-- An open scan and the database it was bound to. -/
structure OpenScan (S : Type) where
  database : Nat
  state : RustBridgeScanGlobalState S

/-! ## The process -/

/-- What does not change while the process runs. -/
structure Environment (σ : Type) where
  remote : Remote σ
  duckdb : DuckDb
  vectorSize : Nat

structure Process (σ : Type) where
  databases : Slots RustBridgeCatalog
  scans : Slots (OpenScan ScanHandle)
  world : World σ

/-- What DuckDB does next. `outside` is what other clients do to the server. -/
inductive ProcessEvent (σ : Type) where
  | attach (context : AttachHostContext) (path : String)
  | openScan (database : Nat) (tableName : String) (context : ClientContext)
      (calls : List BindDataCall) (input : TableFunctionInitInput)
  | scan (name : Nat)
  | closeScan (name : Nat)
  | sink (database : Nat) (tableName : String) (context : ClientContext)
      (statement : DmlStatement) (chunk : DataChunk)
  | detach (database : Nat)
  | outside (change : σ → σ)

/-- What DuckDB gets to see of an event: the rows of a chunk, or an exception. -/
abbrev ProcessAnswer := Except Exception (List (List Value))

namespace Process

/-- No scan of the database is open. -/
def unused (process : Process σ) (database : Nat) : Bool :=
  process.scans.items.all fun scan => scan.database != database

def attach (fuel : Nat) (env : Environment σ) (process : Process σ) (context : AttachHostContext)
    (path : String) : Option (Process σ × ProcessAnswer) :=
  (rustBridgeAttach fuel env.remote env.duckdb context path process.world).map fun
    | (.error exception, world) => ({ process with world }, .error exception)
    | (.ok catalog, world) =>
        ({ process with databases := process.databases.push catalog, world }, .ok [])

/-- `GetScanFunction`, the calls of the planner and `RustBridgeScanInitGlobal`. -/
def openScan (env : Environment σ) (process : Process σ) (database : Nat)
    (catalog : RustBridgeCatalog) (entry : RustBridgeTableCatalogEntry) (context : ClientContext)
    (calls : List BindDataCall) (input : TableFunctionInitInput) : Process σ × ProcessAnswer :=
  match rustBridgeScanInitGlobal context catalog.client
      (boundScan env.remote.serde env.duckdb (fun _ => entry) 0 calls) input with
  | .error exception => (process, .error exception)
  | .ok state => ({ process with scans := process.scans.push { database, state } }, .ok [])

/-- One call of `RustBridgeScan`. -/
def scan (fuel : Nat) (env : Environment σ) (process : Process σ) (name : Nat)
    (scan : OpenScan ScanHandle) : Option (Process σ × ProcessAnswer) :=
  (rustBridgeScan fuel (nextScanBatch env.remote) env.duckdb env.vectorSize
    (scan.state.withScan (scan.state.scan, process.world))).map fun (answer, state) =>
      ({ process with
          scans := process.scans.set name { scan with state := state.withScan state.scan.1 }
          world := state.scan.2 }, answer)

/-- One sink call of a statement. -/
def sink (env : Environment σ) (process : Process σ) (catalog : RustBridgeCatalog)
    (operator : DmlOperator) (context : ClientContext) (chunk : DataChunk) :
    Process σ × ProcessAnswer :=
  let (answer, session) := DuckdbCoda.sink ⟨env.remote, env.duckdb, catalog.client⟩ operator chunk
    (.start context process.world)
  ({ process with world := session.world }, answer.map fun _ => [])

/-- One event; none when it cannot happen, or does not return with the fuel. A
database is not detached under an open scan: DuckDB keeps what a statement
uses. -/
def step (fuel : Nat) (env : Environment σ) (process : Process σ) :
    ProcessEvent σ → Option (Process σ × ProcessAnswer)
  | .attach context path => process.attach fuel env context path
  | .openScan database tableName context calls input =>
      (process.databases.get? database).bind fun catalog =>
        (catalog.mainSchema.lookupEntry tableName).map fun entry =>
          process.openScan env database catalog entry context calls input
  | .scan name => (process.scans.get? name).bind (process.scan fuel env name)
  | .closeScan name =>
      (process.scans.get? name).map fun _ =>
        ({ process with scans := process.scans.clear name }, .ok [])
  | .sink database tableName context statement chunk =>
      (process.databases.get? database).bind fun catalog =>
        (catalog.mainSchema.lookupEntry tableName).map fun entry =>
          process.sink env catalog ⟨entry.tableInfo, statement⟩ context chunk
  | .detach database =>
      (process.databases.get? database).bind fun _ =>
        if process.unused database then
          some ({ process with databases := process.databases.clear database }, .ok [])
        else none
  | .outside change =>
      some ({ process with world := { process.world with server := change process.world.server } },
        .ok [])

/-- A process that has just loaded the extension. -/
def start (server : σ) : Process σ := ⟨.empty, .empty, ⟨server, []⟩⟩

/-- A run, with the events and what DuckDB saw of each. -/
def run (fuel : Nat) (env : Environment σ) (process : Process σ) (events : List (ProcessEvent σ)) :
    Option (Process σ × List (ProcessEvent σ × ProcessAnswer)) :=
  History.runSteps (fun process event =>
    (process.step fuel env event).map fun (process, answer) => (process, (event, answer)))
    process events

end Process

end DuckdbCoda
