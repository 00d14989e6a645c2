import DuckdbCoda.Model.AbiPushdown

/-!
# The process with its memory

`Model.Process` once more, with what its objects own: an attached database as in
`Model.AbiAttach`, an open scan its handle and the batch in its buffer. A scan
borrows the configuration and the columns of its database, which DuckDB keeps as
long; a write (`Model.AbiWrites`) and the calls of the planner
(`Model.AbiPushdown`) own something only while they run.
-/

namespace DuckdbCoda.Abi

open Ownership

variable {σ : Type}

/-! ## Scans -/

/-- What a scan asks for batches: the boxed handle, the batch in the buffer, and
where they live. -/
structure ScanSource (σ : Type) where
  scan : RawParts ScanHandle
  rows : RustExtScanBatch
  world : World σ
  memory : Memory

/-- `NextScanBatch` and the assignment to the buffer, which frees the batch that
was there. -/
def nextScanBatch (remote : Remote σ) (fuel : Nat) (source : ScanSource σ) :
    Option (Except Exception DuckdbCoda.RustExtScanBatch × ScanSource σ) :=
  (source.scan.contents.nextBatch fuel remote source.world (source.scan.borrow source.memory)).map
    fun (answer, handle, world, memory) =>
      let scan := { source.scan with contents := handle }
      match takeError "failed to fetch next Coda scan batch" answer memory with
      | (.error exception, memory) => (.error exception, { source with scan, world, memory })
      | (.ok rows, memory) =>
          let memory := (freeScanBatch source.rows memory).useAll rows.blocks
          (.ok rows.toValue, { scan, rows, world, memory })

/-- An open scan. Client and columns are pointers into the catalog it was bound
to; the state holds the rows of the buffer as values. -/
structure OpenScan where
  database : Nat
  catalog : RustBridgeCatalog
  scan : RawParts ScanHandle
  rows : RustExtScanBatch
  state : RustBridgeScanGlobalState Unit

namespace OpenScan

/-- What it owns: the catalog is not among it. -/
def blocks (scan : OpenScan) : Multiset Nat := scan.scan.blocks + scan.rows.blocks

def toValue (scan : OpenScan) : DuckdbCoda.OpenScan DuckdbCoda.ScanHandle where
  database := scan.database
  state := scan.state.withScan scan.scan.contents.toValue

/-- The destructor of the global state: the batch, then the handle. -/
def destroy (scan : OpenScan) (memory : Memory) : Memory :=
  scan.scan.release (freeScanBatch scan.rows memory)

end OpenScan

/-! ## The process -/

structure Process (σ : Type) where
  databases : Slots RustBridgeCatalog
  scans : Slots OpenScan
  world : World σ
  memory : Memory

namespace Process

def unused (process : Process σ) (database : Nat) : Bool :=
  process.scans.items.all fun scan => scan.database != database

def attach (fuel : Nat) (env : Environment σ) (process : Process σ) (context : AttachHostContext)
    (path : String) : Option (Process σ × ProcessAnswer) :=
  (rustBridgeAttach fuel env.remote env.duckdb context path process.world process.memory).map fun
    | (.error exception, world, memory) => ({ process with world, memory }, .error exception)
    | (.ok catalog, world, memory) =>
        ({ process with databases := process.databases.push catalog, world, memory }, .ok [])

/-- The client and the table are read from the catalog, and the handle boxed. -/
def openScan (env : Environment σ) (library : CppLibrary) (process : Process σ) (database : Nat)
    (catalog : RustBridgeCatalog) (entry : RustBridgeTableCatalogEntry) (context : ClientContext)
    (calls : List BindDataCall) (input : TableFunctionInitInput) : Process σ × ProcessAnswer :=
  let (bindData, memory) := boundScan library env.remote.serde env.duckdb entry calls
    (process.memory.useAll catalog.blocks)
  match rustBridgeScanInitGlobal context catalog.client.toValue bindData input with
  | .error exception => ({ process with memory }, .error exception)
  | .ok state =>
      let (scan, memory) := RawParts.into false ⟨catalog.client, state.scan⟩ memory
      let opened := {
        database, catalog, scan, rows := ⟨⟨none, []⟩, false⟩, state := state.withScan () }
      ({ process with scans := process.scans.push opened, memory }, .ok [])

/-- The columns of the table and the rows that are left are read as well. -/
def scan (fuel : Nat) (env : Environment σ) (process : Process σ) (name : Nat) (scan : OpenScan) :
    Option (Process σ × ProcessAnswer) :=
  let memory := process.memory.useAll (scan.catalog.blocks + scan.rows.blocks)
  let source : ScanSource σ := { scan := scan.scan, rows := scan.rows, world := process.world, memory }
  (rustBridgeScan fuel (nextScanBatch env.remote) env.duckdb env.vectorSize
    (scan.state.withScan source)).map fun (answer, state) =>
      let source := state.scan
      let scan := { scan with scan := source.scan, rows := source.rows, state := state.withScan () }
      ({ process with
          scans := process.scans.set name scan
          world := source.world
          memory := source.memory }, answer)

/-- One sink call of a statement. -/
def sink (env : Environment σ) (library : CppLibrary) (process : Process σ)
    (catalog : RustBridgeCatalog) (operator : DmlOperator) (context : ClientContext)
    (chunk : DataChunk) : Process σ × ProcessAnswer :=
  let (answer, world, memory) := DuckdbCoda.Abi.sink library env.remote env.duckdb catalog operator
    chunk context process.world process.memory
  ({ process with world, memory }, answer.map fun _ => [])

def step (fuel : Nat) (env : Environment σ) (library : CppLibrary) (process : Process σ) :
    ProcessEvent σ → Option (Process σ × ProcessAnswer)
  | .attach context path => process.attach fuel env context path
  | .openScan database tableName context calls input =>
      (process.databases.get? database).bind fun catalog =>
        (catalog.toValue.mainSchema.lookupEntry tableName).map fun entry =>
          process.openScan env library database catalog entry context calls input
  | .scan name => (process.scans.get? name).bind (process.scan fuel env name)
  | .closeScan name =>
      (process.scans.get? name).map fun scan =>
        ({ process with scans := process.scans.clear name, memory := scan.destroy process.memory },
          .ok [])
  | .sink database tableName context statement chunk =>
      (process.databases.get? database).bind fun catalog =>
        (catalog.toValue.mainSchema.lookupEntry tableName).map fun entry =>
          process.sink env library catalog ⟨entry.tableInfo, statement⟩ context chunk
  | .detach database =>
      (process.databases.get? database).bind fun catalog =>
        if process.unused database then
          some ({ process with
            databases := process.databases.clear database
            memory := catalog.destroy process.memory }, .ok [])
        else none
  | .outside change =>
      some ({ process with world := { process.world with server := change process.world.server } },
        .ok [])

/-- Nothing is attached, and nothing allocated. -/
def start (server : σ) : Process σ := ⟨.empty, .empty, ⟨server, []⟩, .empty⟩

def run (fuel : Nat) (env : Environment σ) (library : CppLibrary) (process : Process σ)
    (events : List (ProcessEvent σ)) :
    Option (Process σ × List (ProcessEvent σ × ProcessAnswer)) :=
  History.runSteps (fun process event =>
    (process.step fuel env library event).map fun (process, answer) => (process, (event, answer)))
    process events

end Process

end DuckdbCoda.Abi
