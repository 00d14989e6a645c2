import DuckdbCoda.Logic.ProcessSteps
import DuckdbCoda.Logic.Speakers
import DuckdbCoda.Theorems.AttachConfig
import DuckdbCoda.Theorems.BindData

/-!
# Whose requests a process makes

Databases with different credentials, endpoints and documents live in one
process, and their statements interleave. Whatever the order, a request is made
for the database of the statement it belongs to, with what its ATTACH resolved
to (`requests_of_own_database`).
-/

namespace DuckdbCoda

open History

variable {σ : Type} {env : Environment σ}

/-! ## What is bound to what -/

/-- The configuration was resolved by an ATTACH of the history. -/
def AttachedIn (env : Environment σ) (history : List (ProcessEvent σ × ProcessAnswer))
    (config : RustExtAttachConfig) : Prop :=
  ∃ context path answer, (ProcessEvent.attach context path, answer) ∈ history ∧
    resolveAttachConfig env.remote.sdk (attachHost env.duckdb) path context = .ok config

theorem DatabaseAttached.attachedIn {history : List (ProcessEvent σ × ProcessAnswer)}
    {database : Nat} {config : RustExtAttachConfig}
    (h : DatabaseAttached env history database config)
    (event : ProcessEvent σ × ProcessAnswer) : AttachedIn env (history ++ [event]) config := by
  obtain ⟨context, path, hattach, hresolve⟩ := h
  exact ⟨context, path, .ok [], List.mem_append_left _ hattach.mem, hresolve⟩

/-- The bind data of a scan of the entry. -/
abbrev bindDataOf (env : Environment σ) (entry : RustBridgeTableCatalogEntry)
    (planned : List BindDataCall) : RustBridgeScanBindData :=
  boundScan env.remote.serde env.duckdb (fun _ => entry) 0 planned

theorem bindDataOf_table (env : Environment σ) (entry : RustBridgeTableCatalogEntry)
    (planned : List BindDataCall) : (bindDataOf env entry planned).table = entry.tableInfo :=
  (boundScan_pushed env.remote.serde env.duckdb (fun _ => entry) 0 planned).2.1

/-- The handle that is opened with the bind data. -/
def RustBridgeScanBindData.openedScan (bindData : RustBridgeScanBindData)
    (config : RustExtClientConfig) : ScanHandle :=
  ScanHandle.new config bindData.table.table.id bindData.request

/-- The event a scan was opened by, and what the scan has of it ever since: the client
of its database, the table of its entry and the columns it puts out. -/
structure ScanOpened (env : Environment σ) (history : List (ProcessEvent σ × ProcessAnswer))
    (catalog : RustBridgeCatalog) (name : Nat) (scan : OpenScan ScanHandle) (tableName : String)
    (context : ClientContext) (planned : List BindDataCall) (input : TableFunctionInitInput)
    (entry : RustBridgeTableCatalogEntry) : Prop where
  opened : OpenedBy history name scan.database tableName context planned input
  found : catalog.mainSchema.lookupEntry tableName = some entry
  terms : scan.state.scan.terms = ((bindDataOf env entry planned).openedScan catalog.client).terms
  table : scan.state.table = entry.tableInfo
  columns : scan.state.columnIndexes = input.projected

def ScanBound (env : Environment σ) : ScanRelation (ProcessEvent σ × ProcessAnswer) :=
  fun history _ catalog name scan => ∃ tableName context planned input entry,
    ScanOpened env history catalog name scan tableName context planned input entry

section

variable {history : List (ProcessEvent σ × ProcessAnswer)} {catalog : RustBridgeCatalog}
  {name : Nat} {scan : OpenScan ScanHandle} {tableName : String} {context : ClientContext}
  {planned : List BindDataCall} {input : TableFunctionInitInput}
  {entry : RustBridgeTableCatalogEntry}

/-- The handle asks as a client of the database, for the table of the entry. -/
theorem ScanOpened.asks
    (h : ScanOpened env history catalog name scan tableName context planned input entry) :
    scan.state.scan.config = catalog.client ∧
      scan.state.scan.tableId = entry.tableInfo.table.id := by
  have hterms := h.terms
  simp only [ScanHandle.terms, Prod.mk.injEq] at hterms
  refine ⟨hterms.1, hterms.2.1.trans ?_⟩
  show (bindDataOf env entry planned).table.table.id = _
  rw [bindDataOf_table]

theorem ScanOpened.later
    (h : ScanOpened env history catalog name scan tableName context planned input entry)
    (event : ProcessEvent σ × ProcessAnswer) :
    ScanOpened env (history ++ [event]) catalog name scan tableName context planned input entry :=
  ⟨h.opened.snoc event, h.found, h.terms, h.table, h.columns⟩

/-- A call keeps the terms, the table and the columns. -/
theorem ScanOpened.called {fuel : Nat} {world : World σ}
    {call : ScanCall (ScanHandle × World σ)}
    (h : ScanOpened env history catalog name scan tableName context planned input entry)
    (hcall : rustBridgeScan fuel (nextScanBatch env.remote) env.duckdb env.vectorSize
      (scan.state.withScan (scan.state.scan, world)) = some call)
    (event : ProcessEvent σ × ProcessAnswer) :
    ScanOpened env (history ++ [event]) catalog name
      { scan with state := call.2.withScan call.2.scan.1 } tableName context planned input entry := by
  obtain ⟨htable, hterms⟩ := rustBridgeScan_same hcall
  exact ⟨h.opened.snoc event, h.found, hterms.trans h.terms, htable.trans h.table,
    (rustBridgeScan_columns _ hcall).trans h.columns⟩

theorem scanOpened_opened {database : Nat} {state : RustBridgeScanGlobalState ScanHandle}
    (hentry : catalog.mainSchema.lookupEntry tableName = some entry)
    (h : rustBridgeScanInitGlobal context catalog.client (bindDataOf env entry planned) input =
      .ok state) :
    ScanOpened env
      (history ++ [(.openScan database tableName context planned input, .ok [])]) catalog
      (history.countP opensScan) { database, state } tableName context planned input entry := by
  rw [rustBridgeScanInitGlobal] at h
  split at h
  · cases h
  · cases h
    refine ⟨nth_last ?_, hentry, rfl, bindDataOf_table env entry planned, rfl⟩
    rfl

/-- Scans stay bound as they were. -/
theorem scansKeep_bound (fuel : Nat) (env : Environment σ) :
    ScansKeep fuel env plainly (ScanBound env) where
  later := by
    rintro history own catalog name scan record ⟨tableName, context, planned, input, entry, h⟩
    exact ⟨tableName, context, planned, input, entry, h.later record⟩
  opened := by
    rintro history record database catalog tableName entry context planned input state rfl hentry
      hinit
    exact ⟨tableName, context, planned, input, entry, scanOpened_opened hentry hinit⟩
  scanned := by
    rintro history own catalog name scan process process' call ⟨tableName, context, planned, input,
      entry, h⟩ hcall _
    exact ⟨tableName, context, planned, input, entry, h.called hcall _⟩

end

/-! ## The invariant -/

/-- What holds of a process with the history so far. -/
structure WellBound (env : Environment σ) (process : Process σ)
    (history : List (ProcessEvent σ × ProcessAnswer)) : Prop where
  databases : Accounted databaseCalls (fun _ history _ database catalog =>
    DatabaseAttached env history database catalog.attachConfig) process history
  scans : Accounted (scanCalls plainly) (ScanSatisfies (ScanBound env)) process history

theorem wellBound_start (env : Environment σ) (server : σ) :
    WellBound env (Process.start server) [] :=
  ⟨accounted_empty rfl, accounted_empty rfl⟩

theorem wellBound_step {fuel : Nat} {process process' : Process σ}
    {history : List (ProcessEvent σ × ProcessAnswer)} {event : ProcessEvent σ}
    {answer : ProcessAnswer} (h : WellBound env process history)
    (hstep : process.step fuel env event = some (process', answer)) :
    WellBound env process' (history ++ [(event, answer)]) := by
  have hrecord : plainly.step fuel env process event = some (process', (event, answer)) := by
    rw [Recording.step, hstep]
    rfl
  exact ⟨(databaseAccounting fuel env).keeps h.databases hrecord,
    (scansKeep_bound fuel env).accounting.keeps h.scans hrecord⟩

/-- The invariant of every run. -/
theorem wellBound_run {fuel : Nat} {server : σ} {events : List (ProcessEvent σ)}
    {process : Process σ} {history : List (ProcessEvent σ × ProcessAnswer)}
    (hrun : (Process.start server).run fuel env events = some (process, history)) :
    WellBound env process history :=
  ⟨(databaseAccounting fuel env).run rfl hrun, (scansKeep_bound fuel env).accounting.run rfl hrun⟩

/-- The database of an event or of a scan. -/
theorem WellBound.attached {process : Process σ}
    {history : List (ProcessEvent σ × ProcessAnswer)} (h : WellBound env process history)
    {database : Nat} {catalog : RustBridgeCatalog}
    (hdatabase : process.databases.get? database = some catalog) :
    DatabaseAttached env history database catalog.attachConfig :=
  h.databases.objects database catalog hdatabase

/-! ## One event -/

/-- The configuration an event speaks for, and the requests it may make. A scan
speaks for the database it was opened on, and asks for the table it was opened for. -/
inductive SpeaksFor (env : Environment σ) (process : Process σ)
    (history : List (ProcessEvent σ × ProcessAnswer)) :
    ProcessEvent σ → RustExtAttachConfig → (Operation → Prop) → Prop where
  | attach {context path config} :
      resolveAttachConfig env.remote.sdk (attachHost env.duckdb) path context = .ok config →
      SpeaksFor env process history (.attach context path) config Operation.ListsCatalog
  | scan {name scan catalog tableName context planned input entry} :
      process.scans.get? name = some scan →
      OpenedBy history name scan.database tableName context planned input →
      process.databases.get? scan.database = some catalog →
      DatabaseAttached env history scan.database catalog.attachConfig →
      catalog.mainSchema.lookupEntry tableName = some entry →
      scan.state.table = entry.tableInfo →
      SpeaksFor env process history (.scan name) catalog.attachConfig
        (Operation.ListsRowsOf entry.tableInfo.table.id)
  | sink {database tableName context statement chunk catalog entry} :
      process.databases.get? database = some catalog →
      DatabaseAttached env history database catalog.attachConfig →
      catalog.mainSchema.lookupEntry tableName = some entry →
      SpeaksFor env process history (.sink database tableName context statement chunk)
        catalog.attachConfig (Writes entry.tableInfo)

/-- The requests of one event. -/
theorem step_speaks {fuel : Nat} {seen : σ → List SeenRequest}
    (account : KeepsAccount env.remote seen) {process process' : Process σ}
    {history : List (ProcessEvent σ × ProcessAnswer)} {event : ProcessEvent σ}
    {answer : ProcessAnswer} (h : WellBound env process history)
    (hstep : process.step fuel env event = some (process', answer)) :
    (∃ change, event = .outside change) ∨
    seen process'.world.server = seen process.world.server ∨
    ∃ config kind, SpeaksFor env process history event config kind ∧
      AttachedIn env (history ++ [(event, answer)]) config ∧
      Asks env.remote seen config.clientConfig kind process.world.server process'.world.server := by
  cases step_moves hstep with
  | refused => exact .inr (.inl rfl)
  | @notLoaded context path attachConfig message world exception hresolve hload =>
      -- the requests before the one that failed
      exact .inr (.inr ⟨attachConfig, _, .attach hresolve,
        ⟨context, path, _, List.mem_append_right _ List.mem_cons_self, hresolve⟩,
        (loadCatalog_sends hload).withSystemColumns.asks account⟩)
  | @attached context path attachConfig catalogInfo world hresolve hload =>
      exact .inr (.inr ⟨attachConfig, _, .attach hresolve,
        ⟨context, path, _, List.mem_append_right _ List.mem_cons_self, hresolve⟩,
        (loadCatalog_sends hload).withSystemColumns.asks account⟩)
  -- a scan is opened without a request
  | notOpened => exact .inr (.inl rfl)
  | opened hdatabase hentry hinit => exact .inr (.inl rfl)
  | @scanned name scan call hscan hcall =>
      -- its handle keeps the client and the table it was opened with
      obtain ⟨catalog, hdatabase, tableName, context, planned, input, entry, hopened⟩ :=
        h.scans.objects name scan hscan
      obtain ⟨hconfig, htable⟩ := hopened.asks
      have hasks := (rustBridgeScan_sends hcall).asks account
      refine .inr (.inr ⟨catalog.attachConfig, _, .scan hscan hopened.opened hdatabase
        (h.attached hdatabase) hopened.found hopened.table, (h.attached hdatabase).attachedIn _, ?_⟩)
      rw [← htable]
      show Asks env.remote seen catalog.client _ _ _
      rw [← hconfig]
      exact hasks
  | closed hscan => exact .inr (.inl rfl)
  | @sunk database tableName context statement chunk catalog entry answer hdatabase hentry =>
      -- a sink makes a client of its catalog for each chunk
      exact .inr (.inr ⟨catalog.attachConfig, _, .sink hdatabase (h.attached hdatabase) hentry,
        (h.attached hdatabase).attachedIn _,
        (sink_sends ⟨env.remote, env.duckdb, catalog.client⟩ ⟨entry.tableInfo, statement⟩ chunk
          (.start context process.world)).asks account⟩)
  | detached hunused => exact .inr (.inl rfl)
  | @outside change => exact .inl ⟨change, rfl⟩

/-- **Every request is one of the database its statement is about.** In a process
with any number of databases, scans and writes in any order, the requests of an
event carry the credential that some ATTACH resolved to, go to the endpoint and
are about the document of the same ATTACH; it is the one of the database the
event is about, or that its scan was opened on. A scan asks for the rows of the table
it was opened for, a write changes its own table, and nothing else asks for
anything. -/
theorem requests_of_own_database (fuel : Nat) (env : Environment σ)
    (seen : σ → List SeenRequest) (account : KeepsAccount env.remote seen) (server : σ)
    (events : List (ProcessEvent σ)) (process process' : Process σ)
    (history : List (ProcessEvent σ × ProcessAnswer)) (event : ProcessEvent σ)
    (answer : ProcessAnswer)
    (hrun : (Process.start server).run fuel env events = some (process, history))
    (hstep : process.step fuel env event = some (process', answer)) :
    (∃ change, event = .outside change) ∨
    seen process'.world.server = seen process.world.server ∨
    ∃ config kind, SpeaksFor env process history event config kind ∧
      AttachedIn env (history ++ [(event, answer)]) config ∧
      Asks env.remote seen config.clientConfig kind process.world.server process'.world.server :=
  step_speaks account (wellBound_run hrun) hstep

/-! ## Two databases -/

def mockRowEnvironment : Environment (List HttpReply) :=
  ⟨mockRemote (mockSerde mockRowTexts (mockText 3)), mockDuckDb, 2048⟩

def mockObserved : Environment (List HttpReply × List SeenRequest) :=
  { mockRowEnvironment with remote := mockRowEnvironment.remote.observed }

/-- The replies to two ATTACHs, a DELETE and a scan. -/
def mockTwoServer : List HttpReply × List SeenRequest :=
  (mockCatalogReplies ++ mockCatalogReplies ++ [.answered 202 (.ok "")] ++ mockRowReplies, [])

/-- Two documents with tokens of their own, and a scan of the first one. -/
def mockTwoDatabases : List (ProcessEvent (List HttpReply × List SeenRequest)) := [
  .attach (mockAttach [("token", "mock-token")] none) "mock-doc",
  .attach (mockAttach [("token", "other-token")] none) "other-doc",
  .openScan 0 "Tasks" ⟨true, ""⟩ [] ⟨[.rowId], []⟩]

/-- `DELETE FROM other_doc.main."Tasks"`, with one row. -/
def mockOtherDelete : ProcessEvent (List HttpReply × List SeenRequest) :=
  .sink 1 "Tasks" ⟨true, "DELETE FROM other_doc.main.\"Tasks\""⟩ (.delete 0)
    ⟨1, [fun _ => .varchar "r9"]⟩

/-- The DELETE carries the token of its own document, and the scan after it the one
of the other document. -/
theorem requests_of_own_database_mock :
    ∃ process history process' history' last answer answer',
      (Process.start mockTwoServer).run 8 mockObserved mockTwoDatabases = some (process, history) ∧
      process.step 8 mockObserved mockOtherDelete = some (process', answer) ∧
      (Process.start mockTwoServer).run 8 mockObserved (mockTwoDatabases ++ [mockOtherDelete]) =
        some (process', history') ∧
      process'.step 8 mockObserved (.scan 0) = some (last, answer') ∧
      last.world.server.2.map Prod.fst = List.replicate 3 "mock-token" ++
        List.replicate 4 "other-token" ++ List.replicate 3 "mock-token" ∧
      (∃ config kind, SpeaksFor mockObserved process history mockOtherDelete config kind ∧
        AttachedIn mockObserved (history ++ [(mockOtherDelete, answer)]) config ∧
        Asks mockObserved.remote Prod.snd config.clientConfig kind process.world.server
          process'.world.server) ∧
      ∃ config kind, SpeaksFor mockObserved process' history' (.scan 0) config kind ∧
        AttachedIn mockObserved (history' ++ [(.scan 0, answer')]) config ∧
        Asks mockObserved.remote Prod.snd config.clientConfig kind process'.world.server
          last.world.server := by
  have hdelete := requests_of_own_database 8 mockObserved Prod.snd (Remote.observed_account _)
    mockTwoServer mockTwoDatabases _ _ _ mockOtherDelete _ rfl rfl
  have hscan := requests_of_own_database 8 mockObserved Prod.snd (Remote.observed_account _)
    mockTwoServer (mockTwoDatabases ++ [mockOtherDelete]) _ _ _ (.scan 0) _ rfl rfl
  refine ⟨_, _, _, _, _, _, _, rfl, rfl, rfl, rfl, rfl, ?_, ?_⟩
  · rcases hdelete with ⟨change, hother⟩ | hsilent | hasked
    · cases hother
    · exact absurd (congrArg List.length hsilent) (by decide)
    · exact hasked
  · rcases hscan with ⟨change, hother⟩ | hsilent | hasked
    · cases hother
    · exact absurd (congrArg List.length hsilent) (by decide)
    · exact hasked

end DuckdbCoda
