import DuckdbCoda.Logic.Listings
import DuckdbCoda.Theorems.ProcessRequests
import DuckdbCoda.Theorems.WriteGuards

/-!
# Rows and requests of a process

In every run of a process the requests for rows are well formed
(`requests_wellFormed`), the rows a scan hands out are rows the server has shown
of its table (`scanned_rows_shown`), and an UPDATE or a DELETE that gets its row
ids from scans of its table names such rows only (`written_rows_shown`).
-/

namespace DuckdbCoda

open History

variable {σ : Type} {env : Environment σ} {fuel : Nat} {serde : SerdeJson} {log log' : List Exchange}

/-! ## A scan -/

/-- Between two batches. -/
def BufferShown (serde : SerdeJson) (asked : ListRowsInput) (start : List Exchange) :
    SourceRelation (ScanHandle × World σ) :=
  fun _ rows source => Listing serde asked start source.1 source.2 ∧
    RowsShown serde source.2.log asked rows

theorem nextScanBatch_shown {remote : Remote σ} {asked : ListRowsInput} {start : List Exchange} :
    SourceKeeps (nextScanBatch remote) (BufferShown remote.serde asked start)
      (BufferShown remote.serde asked start) := by
  intro fuel table rows source ⟨hlisting, hshown⟩
  constructor
  · intro batch source' h
    obtain ⟨⟨answer, handle, world⟩, hbatch, heq⟩ := Option.map_eq_some_iff.mp h
    obtain ⟨hlisting', hrows⟩ := nextBatch_listing hlisting hbatch
    cases answer with
    | error message => cases heq
    | ok batch =>
        cases heq
        exact ⟨hlisting', hrows batch rfl⟩
  · intro exception source' h
    obtain ⟨⟨answer, handle, world⟩, hbatch, heq⟩ := Option.map_eq_some_iff.mp h
    obtain ⟨hlisting', _⟩ := nextBatch_listing hlisting hbatch
    have hgrows := (nextBatch_sends hbatch).log_grows
    cases answer with
    | ok batch => cases heq
    | error message =>
        cases heq
        exact ⟨hlisting', fun row hrow => (hshown row hrow).mono hgrows.subset⟩

/-- An open scan over a log. -/
structure ScanListing (serde : SerdeJson) (log : List Exchange)
    (state : RustBridgeScanGlobalState ScanHandle) : Prop where
  sound : state.scan.Sound serde log
  rows : RowsShown serde log state.scan.listing state.rows

theorem ScanListing.mono {state : RustBridgeScanGlobalState ScanHandle} (hlog : log ⊆ log')
    (h : ScanListing serde log state) : ScanListing serde log' state where
  sound := h.sound.mono hlog
  rows row hrow := (h.rows row hrow).mono hlog

/-- **One call of a scan.** -/
theorem rustBridgeScan_listing {world : World σ} {state : RustBridgeScanGlobalState ScanHandle}
    {call : ScanCall (ScanHandle × World σ)} (h : ScanListing env.remote.serde world.log state)
    (hlog : WellFormedLog env.remote.serde world.log)
    (hcall : rustBridgeScan fuel (nextScanBatch env.remote) env.duckdb env.vectorSize
      (state.withScan (state.scan, world)) = some call) :
    call.2.scan.1.listing = state.scan.listing ∧
      WellFormedLog env.remote.serde call.2.scan.2.log ∧
      AsksListing state.scan.listing world.log call.2.scan.2.log ∧
      ScanListing env.remote.serde call.2.scan.2.log (call.2.withScan call.2.scan.1) ∧
      ∀ chunk, call.1 = .ok chunk → ∀ values ∈ chunk, ∃ row,
        Shown env.remote.serde call.2.scan.2.log state.scan.listing row ∧
        state.Reads env.duckdb row values := by
  have hstart : (state.withScan (state.scan, world)).Satisfies
      (BufferShown env.remote.serde state.scan.listing world.log) :=
    ⟨⟨rfl, h.sound, hlog, .refl _⟩, h.rows⟩
  obtain ⟨hlisting, hrows⟩ := rustBridgeScan_invariant _ nextScanBatch_shown _ hstart hcall
  refine ⟨hlisting.listing, hlisting.log, hlisting.asks, ⟨hlisting.sound, ?_⟩, ?_⟩
  · show RowsShown _ _ call.2.scan.1.listing call.2.rows
    rw [hlisting.listing]
    exact hrows
  · refine rustBridgeScan_reads _ nextScanBatch_shown (fun _ _ _ hbuffer => hbuffer.2) ?_ _ hstart
      hcall
    intro fuel source answer source' row hnext hshown
    exact hshown.mono (nextScanBatch_sends hnext).log_grows.subset

/-! ## A scan that is opened -/

/-- The query the calls of the planner leave: none, or an equality of a listed
column. -/
theorem boundScan_query {docId : String} {entry : RustBridgeTableCatalogEntry}
    (hcolumns : ∀ column ∈ entry.tableInfo.table.columns,
      ColumnOf serde log docId entry.tableInfo.table.id column)
    (duckdb : DuckDb) (calls : List BindDataCall) :
    (boundScan serde duckdb (fun _ => entry) 0 calls).pushedQuery = "" ∨
      EqualityQuery serde log docId entry.tableInfo.table.id
        (boundScan serde duckdb (fun _ => entry) 0 calls).pushedQuery := by
  rw [(boundScan_pushed serde duckdb (fun _ => entry) 0 calls).2.2.1]
  cases hquery : firstQuery serde duckdb entry.tableInfo calls with
  | none => exact .inl rfl
  | some query =>
      obtain ⟨⟨info, constant⟩, htarget, rfl⟩ := Option.map_eq_some_iff.mp hquery
      obtain ⟨call, _, hcall⟩ := List.exists_of_findSome?_eq_some htarget
      cases call with
      | pushdownComplexFilter get filters =>
          obtain ⟨filter, _, hfilter⟩ := List.exists_of_findSome?_eq_some hcall
          obtain ⟨_, _, _, _, hinfo, hfilterable, hnull⟩ := filterTarget_some hfilter
          have hcolumn := entry.tableInfo.column_mem (List.mem_of_getElem? hinfo)
          obtain ⟨listed, hlisted, hid, hbit⟩ := (hcolumns _ hcolumn).filterable hfilterable
          refine .inr ⟨listed, convert duckdb constant, hlisted, hbit, ?_, ?_⟩
          · exact convert_ne_null duckdb hnull
          · rw [hid]
            rfl
      | setScanOrder orderOptions => cases hcall
      | copy => cases hcall

/-- The order the calls of the planner leave: none, or one by row metadata. -/
theorem boundScan_sortBy {docId : String} {entry : RustBridgeTableCatalogEntry}
    (hcolumns : ∀ column ∈ entry.tableInfo.table.columns,
      ColumnOf serde log docId entry.tableInfo.table.id column)
    (duckdb : DuckDb) (calls : List BindDataCall) :
    (boundScan serde duckdb (fun _ => entry) 0 calls).pushedSortBy = "" ∨
      (boundScan serde duckdb (fun _ => entry) 0 calls).pushedSortBy = "createdAt" ∨
      (boundScan serde duckdb (fun _ => entry) 0 calls).pushedSortBy = "updatedAt" := by
  have hpushed := (boundScan_pushed serde duckdb (fun _ => entry) 0 calls).2.2.2
  rw [show (boundScan serde duckdb (fun _ => entry) 0 calls).pushedSortBy = _ from
    congrArg Prod.fst hpushed]
  cases horder : lastOrder entry.tableInfo calls with
  | none => exact .inl rfl
  | some order =>
      obtain ⟨sortBy, rowLimit⟩ := order
      right
      obtain ⟨call, _, hcall⟩ := List.exists_of_findSome?_eq_some horder
      cases call with
      | pushdownComplexFilter get filters => cases hcall
      | setScanOrder orderOptions =>
          simp only [BindDataCall.orderTarget, Option.bind_eq_bind, Option.bind_eq_some_iff] at hcall
          obtain ⟨options, _, _, _, info, hinfo, column, hsort, hlast⟩ := hcall
          split at hlast
          · cases hlast
          · cases hlast
            obtain ⟨hbit, heq⟩ := Option.ite_none_right_eq_some.mp hsort
            cases heq
            have hcolumn := entry.tableInfo.column_mem (List.mem_of_getElem? hinfo)
            exact (hcolumns _ hcolumn).sortable hbit
      | copy => cases hcall

/-- A scan of a table of a loaded catalog starts a listing. -/
theorem openScan_listing {catalog : RustBridgeCatalog} {tableName : String}
    {entry : RustBridgeTableCatalogEntry} {context : ClientContext} {calls : List BindDataCall}
    {input : TableFunctionInitInput} {state : RustBridgeScanGlobalState ScanHandle}
    (hcolumns : CatalogColumns env.remote.serde log catalog.attachConfig.resource
      catalog.catalogInfo)
    (hentry : catalog.mainSchema.lookupEntry tableName = some entry)
    (h : rustBridgeScanInitGlobal context catalog.client
      (boundScan env.remote.serde env.duckdb (fun _ => entry) 0 calls) input = .ok state) :
    ScanListing env.remote.serde log state := by
  have htable := hcolumns _ (lookupEntry_mem hentry)
  have hpushed := (boundScan_pushed env.remote.serde env.duckdb (fun _ => entry) 0 calls).2.1
  rw [rustBridgeScanInitGlobal] at h
  split at h
  · cases h
  · cases h
    refine ⟨⟨ScanHandle.new_limit _ _ _, boundScan_sortBy htable env.duckdb calls, ?_, .inl rfl,
      .inl rfl⟩, fun row hrow => by cases hrow⟩
    have hquery := boundScan_query htable env.duckdb calls
    show _ ∨ EqualityQuery _ _ _ (RustBridgeScanBindData.table _).table.id _
    rw [hpushed]
    exact hquery

/-! ## The invariant -/

/-- What the log, the catalogs and the open scans of a process are like. -/
structure WellListed (env : Environment σ) (process : Process σ) : Prop where
  log : WellFormedLog env.remote.serde process.world.log
  databases : ∀ name catalog, process.databases.get? name = some catalog →
    CatalogColumns env.remote.serde process.world.log catalog.attachConfig.resource
      catalog.catalogInfo
  scans : ∀ name scan, process.scans.get? name = some scan →
    ScanListing env.remote.serde process.world.log scan.state

theorem wellListed_start (env : Environment σ) (server : σ) :
    WellListed env (Process.start server) where
  log := ordered_nil
  databases _ _ h := by cases h
  scans _ _ h := by cases h

/-- The log goes on, and what is new in the tables is about the longer log. -/
theorem WellListed.advance {process process' : Process σ} (h : WellListed env process)
    (hlog : WellFormedLog env.remote.serde process'.world.log)
    (hgrows : process.world.log <+: process'.world.log)
    (hdatabases : ∀ name catalog, process'.databases.get? name = some catalog →
      process.databases.get? name = some catalog ∨
        CatalogColumns env.remote.serde process'.world.log catalog.attachConfig.resource
          catalog.catalogInfo)
    (hscans : ∀ name scan, process'.scans.get? name = some scan →
      process.scans.get? name = some scan ∨
        ScanListing env.remote.serde process'.world.log scan.state) :
    WellListed env process' where
  log := hlog
  databases name catalog hget := by
    rcases hdatabases name catalog hget with hold | hnew
    · exact (h.databases name catalog hold).mono hgrows.subset
    · exact hnew
  scans name scan hget := by
    rcases hscans name scan hget with hold | hnew
    · exact (h.scans name scan hold).mono hgrows.subset
    · exact hnew

/-- Requests for something else than rows, and no other change. -/
theorem WellListed.sends {process : Process σ} {world : World σ} {config : RustExtClientConfig}
    {kind : Operation → Prop} (h : WellListed env process)
    (hsends : Sends env.remote config kind process.world world)
    (hkind : ∀ input, ¬ kind (.listRows input)) : WellListed env { process with world } := by
  obtain ⟨sent, hlog, hsent, _⟩ := hsends
  refine h.advance ?_ ⟨sent, hlog.symm⟩ (fun _ _ => .inl) fun _ _ => .inl
  show WellFormedLog env.remote.serde world.log
  rw [hlog]
  refine h.log.append ?_
  intro exchange hmem input hoperation
  exact hkind input (hoperation ▸ (hsent exchange hmem).kind)

theorem wellListed_step {process process' : Process σ} {event : ProcessEvent σ}
    {answer : ProcessAnswer} (h : WellListed env process)
    (hstep : process.step fuel env event = some (process', answer)) :
    WellListed env process' := by
  cases step_moves hstep with
  | refused => exact h
  | notLoaded _ hload => exact h.sends (loadCatalog_sends hload) fun _ => id
  | @attached context path attachConfig catalogInfo world _ hload =>
      -- the new catalog is what the requests of the ATTACH have listed
      have hsent := h.sends (loadCatalog_sends hload) fun _ => id
      refine hsent.advance hsent.log (List.prefix_refl _) ?_ fun _ _ => .inl
      intro name catalog hget
      rw [Slots.get?_push] at hget
      split at hget
      · cases hget
        exact .inr (loadCatalog_columns hload)
      · exact .inl hget
  | notOpened => exact h
  | @opened database _ _ _ _ catalog _ state hdatabase hentry hinit =>
      -- its query and its order are about columns of the catalog
      refine h.advance h.log (List.prefix_refl _) (fun _ _ => .inl) ?_
      intro name scan hget
      rw [Slots.get?_push] at hget
      split at hget
      · cases hget
        exact .inr (openScan_listing (h.databases database catalog hdatabase) hentry hinit)
      · exact .inl hget
  | @scanned name scan call hscan hcall =>
      -- the tokens it sends are those of the answers it has had
      obtain ⟨_, hlog, hasks, hlisting, _⟩ :=
        rustBridgeScan_listing (h.scans name scan hscan) h.log hcall
      refine h.advance hlog hasks.grows (fun _ _ => .inl) ?_
      intro other scan' hget
      rw [Slots.get?_set hscan] at hget
      split at hget
      · cases hget
        exact .inr hlisting
      · exact .inl hget
  | closed hscan =>
      -- what is left was there before
      refine h.advance h.log (List.prefix_refl _) (fun _ _ => .inl) ?_
      intro other scan' hget
      rw [Slots.get?_clear] at hget
      split at hget
      · cases hget
      · exact .inl hget
  -- a write does not ask for rows
  | sunk => exact h.sends (sink_sends _ _ _ _) fun _ hwrites => Bool.noConfusion hwrites.1
  | detached =>
      refine h.advance h.log (List.prefix_refl _) ?_ fun _ _ => .inl
      intro other catalog hget
      rw [Slots.get?_clear] at hget
      split at hget
      · cases hget
      · exact .inl hget
  | outside => exact h.advance h.log (List.prefix_refl _) (fun _ _ => .inl) fun _ _ => .inl

theorem wellListed_run {server : σ} {events : List (ProcessEvent σ)} {process : Process σ}
    {history : List (ProcessEvent σ × ProcessAnswer)}
    (hrun : (Process.start server).run fuel env events = some (process, history)) :
    WellListed env process := by
  have steps : ∀ (state : Process σ) (before : List (ProcessEvent σ × ProcessAnswer)) event next
      entry, WellListed env state →
      (state.step fuel env event).map (fun result => (result.1, (event, result.2))) =
        some (next, entry) → WellListed env next := by
    intro state before event next entry hinv hstep
    obtain ⟨⟨process, answer⟩, hevent, heq⟩ := Option.map_eq_some_iff.mp hstep
    cases heq
    exact wellListed_step hinv hevent
  exact runSteps_invariant steps events (Process.start server) process [] history
    (wellListed_start env server) hrun

/-! ## Requests -/

/-- The server has shown the row, for a listing of the table. -/
def ShownRow (serde : SerdeJson) (log : List Exchange) (docId tableId : String)
    (row : RustExtRow) : Prop :=
  ∃ asked, asked.docId = docId ∧ asked.tableIdOrName = tableId ∧ Shown serde log asked row

theorem ShownRow.mono {docId tableId : String} {row : RustExtRow} (hlog : log ⊆ log')
    (h : ShownRow serde log docId tableId row) : ShownRow serde log' docId tableId row := by
  obtain ⟨asked, hdoc, htable, hshown⟩ := h
  exact ⟨asked, hdoc, htable, hshown.mono hlog⟩

/-- A call on an open scan. -/
theorem scanStep_shown {process process' : Process σ} {name : Nat} {scan : OpenScan ScanHandle}
    {chunk : List (List Value)} (h : WellListed env process)
    (hscan : process.scans.get? name = some scan)
    (hstep : process.step fuel env (.scan name) = some (process', .ok chunk)) :
    ∀ values ∈ chunk, ∃ row,
      ShownRow env.remote.serde process'.world.log scan.state.scan.config.resource
        scan.state.scan.tableId row ∧ scan.state.Reads env.duckdb row values := by
  obtain ⟨scan', hscan', hstep⟩ := Option.bind_eq_some_iff.mp hstep
  cases hscan.symm.trans hscan'
  obtain ⟨⟨answer, state⟩, hcall, heq⟩ := Option.map_eq_some_iff.mp hstep
  cases heq
  obtain ⟨_, _, _, _, hrows⟩ := rustBridgeScan_listing (h.scans name scan hscan) h.log hcall
  intro values hvalues
  obtain ⟨row, hshown, hreads⟩ := hrows chunk rfl values hvalues
  exact ⟨row, ⟨scan.state.scan.listing, rfl, rfl, hshown⟩, hreads⟩

/-- **Every row a scan hands out was shown by the server**, for the table the scan
was opened for and the document of its database, and not flagged deleted; its
values are read from that row, one for each column the scan was opened with
(`projected_denotes` says which these are). -/
theorem scanned_rows_shown (fuel : Nat) (env : Environment σ) (server : σ)
    (events : List (ProcessEvent σ)) (process process' : Process σ)
    (history : List (ProcessEvent σ × ProcessAnswer)) (name : Nat) (chunk : List (List Value))
    (hrun : (Process.start server).run fuel env events = some (process, history))
    (hstep : process.step fuel env (.scan name) = some (process', .ok chunk)) :
    ∃ scan catalog tableName context planned input entry,
      process.scans.get? name = some scan ∧
      OpenedBy history name scan.database tableName context planned input ∧
      process.databases.get? scan.database = some catalog ∧
      DatabaseAttached env history scan.database catalog.attachConfig ∧
      catalog.mainSchema.lookupEntry tableName = some entry ∧
      scan.state.table = entry.tableInfo ∧
      ∀ values ∈ chunk, ∃ row,
        ShownRow env.remote.serde process'.world.log catalog.attachConfig.resource
          entry.tableInfo.table.id row ∧
        input.projected.mapM (outputValue env.duckdb entry.tableInfo row) = .ok values := by
  obtain ⟨scan, hscan, _⟩ := Option.bind_eq_some_iff.mp hstep
  have hbound := wellBound_run hrun
  obtain ⟨catalog, hdatabase, tableName, context, planned, input, entry, hopened⟩ :=
    hbound.scans.objects name scan hscan
  obtain ⟨hconfig, htable⟩ := hopened.asks
  refine ⟨scan, catalog, tableName, context, planned, input, entry, hscan, hopened.opened, hdatabase,
    hbound.attached hdatabase, hopened.found, hopened.table, ?_⟩
  have hdoc : scan.state.scan.config.resource = catalog.attachConfig.resource :=
    congrArg RustExtClientConfig.resource hconfig
  intro values hvalues
  obtain ⟨row, hshown, hreads⟩ := scanStep_shown (wellListed_run hrun) hscan hstep values hvalues
  rw [hdoc, htable] at hshown
  rw [RustBridgeScanGlobalState.Reads, hopened.table, hopened.columns] at hreads
  exact ⟨row, hshown, hreads⟩

/-! ## Rows that are written -/

/-- Every event adds to the log. -/
theorem step_grows {process process' : Process σ} {event : ProcessEvent σ}
    {answer : ProcessAnswer} (hstep : process.step fuel env event = some (process', answer)) :
    process.world.log <+: process'.world.log := by
  cases step_moves hstep with
  | refused => exact List.prefix_refl _
  | notLoaded _ hload => exact (loadCatalog_sends hload).log_grows
  | attached _ hload => exact (loadCatalog_sends hload).log_grows
  | notOpened => exact List.prefix_refl _
  | opened => exact List.prefix_refl _
  | scanned _ hcall => exact (rustBridgeScan_sends hcall).log_grows
  | closed => exact List.prefix_refl _
  | sunk =>
      show process.world.log <+: _
      exact (sink_sends _ _ _ (.start _ process.world)).log_grows
  | detached => exact List.prefix_refl _
  | outside => exact List.prefix_refl _

theorem run_grows {process process' : Process σ} {events : List (ProcessEvent σ)}
    {history : List (ProcessEvent σ × ProcessAnswer)}
    (hrun : process.run fuel env events = some (process', history)) :
    process.world.log <+: process'.world.log := by
  have steps : ∀ (state : Process σ) (before : List (ProcessEvent σ × ProcessAnswer)) event next
      entry, process.world.log <+: state.world.log →
      (state.step fuel env event).map (fun result => (result.1, (event, result.2))) =
        some (next, entry) → process.world.log <+: next.world.log := by
    intro state before event next entry hinv hstep
    obtain ⟨⟨last, answer⟩, hevent, heq⟩ := Option.map_eq_some_iff.mp hstep
    cases heq
    exact hinv.trans (step_grows hevent)
  exact runSteps_invariant steps events process process' [] history (List.prefix_refl _) hrun

/-- A scan of the table that was open during the run has put out the value as the
id of a row. -/
def Yielded (fuel : Nat) (env : Environment σ) (server : σ) (events : List (ProcessEvent σ))
    (docId tableId : String) (value : Value) : Prop :=
  ∃ before name after process history scan process' chunk,
    events = before ++ .scan name :: after ∧
    (Process.start server).run fuel env before = some (process, history) ∧
    process.scans.get? name = some scan ∧ scan.state.scan.config.resource = docId ∧
    scan.state.scan.tableId = tableId ∧
    process.step fuel env (.scan name) = some (process', .ok chunk) ∧
    ∃ values ∈ chunk, (ColumnIndex.rowId, value) ∈ scan.state.columnIndexes.zip values

/-- Where a row id was read, its value is the id of the row. -/
theorem rowId_of_reads {duckdb : DuckDb} {table : RustBridgeTableInfo} {row : RustExtRow}
    {columns : List ColumnIndex} {values : List Value} {value : Value}
    (h : columns.mapM (outputValue duckdb table row) = .ok values)
    (hmem : (ColumnIndex.rowId, value) ∈ columns.zip values) : value = .varchar row.id := by
  induction columns generalizing values with
  | nil => cases hmem
  | cons column rest ih =>
      rw [List.mapM_cons] at h
      obtain ⟨first, hfirst, h⟩ := bind_eq_ok h
      obtain ⟨others, hothers, h⟩ := bind_eq_ok h
      cases h
      rcases List.mem_cons.mp hmem with heq | hmem
      · cases heq
        cases hfirst
        rfl
      · exact ih hothers hmem

theorem Yielded.shown {server : σ} {events : List (ProcessEvent σ)} {docId tableId : String}
    {value : Value} {process : Process σ} {history : List (ProcessEvent σ × ProcessAnswer)}
    (h : Yielded fuel env server events docId tableId value)
    (hrun : (Process.start server).run fuel env events = some (process, history)) :
    ∃ row, ShownRow env.remote.serde process.world.log docId tableId row ∧
      env.duckdb.toString value = row.id := by
  obtain ⟨before, name, after, mid, past, scan, mid', chunk, rfl, hbefore, hscan, hdoc, htable,
    hstep, values, hvalues, hzip⟩ := h
  have hgrows : mid'.world.log <+: process.world.log := by
    rw [Process.run, runSteps_append] at hrun
    obtain ⟨⟨first, past'⟩, hfirst, hrest⟩ := Option.bind_eq_some_iff.mp hrun
    cases hbefore.symm.trans hfirst
    obtain ⟨⟨last, more⟩, hlast, heq⟩ := Option.map_eq_some_iff.mp hrest
    cases heq
    simp only [runSteps, hstep, Option.map_some, Option.map_eq_some_iff] at hlast
    obtain ⟨⟨last', later⟩, hlater, heq⟩ := hlast
    cases heq
    exact run_grows hlater
  obtain ⟨row, hshown, hreads⟩ := scanStep_shown (wellListed_run hbefore) hscan hstep values hvalues
  rw [hdoc, htable] at hshown
  refine ⟨row, hshown.mono hgrows.subset, ?_⟩
  rw [rowId_of_reads hreads hzip]
  rfl

/-- The rows an operation changes by their ids. -/
def Operation.ChangesOnly (serde : SerdeJson) (named : String → Prop) : Operation → Prop
  | .updateRow input => named input.rowIdOrName
  | .deleteRows input => ∃ rowIds, input.payload = deleteBody serde rowIds ∧
      ∀ rowId ∈ rowIds, named rowId
  | _ => True

/-- The column of the chunk that holds the row ids, when the statement has one. -/
def DmlStatement.rowIdColumn (chunk : DataChunk) : DmlStatement → Option Nat
  | .insert => none
  | .update _ => some (chunk.columnCount - 1)
  | .delete rowIdIndex => some rowIdIndex

theorem DmlOperator.Issues.changesOnly {attached : Attached σ} {operator : DmlOperator}
    {chunk : DataChunk} {operation : Operation} {named : String → Prop}
    (h : operator.Issues attached chunk operation)
    (hnamed : ∀ index, operator.statement.rowIdColumn chunk = some index → ∀ row ∈ chunk.rows,
      named (attached.duckdb.toString (row index))) :
    operation.ChangesOnly attached.remote.serde named := by
  obtain ⟨table, statement⟩ := operator
  cases statement with
  | insert =>
      obtain ⟨body, rfl⟩ := h
      trivial
  | update assignments =>
      obtain ⟨rowId, hmem, body, rfl⟩ := h
      obtain ⟨row, hrow, rfl⟩ := List.mem_map.mp hmem
      exact hnamed _ rfl row hrow
  | delete rowIdIndex =>
      cases h
      refine ⟨_, rfl, ?_⟩
      intro rowId hmem
      obtain ⟨row, hrow, rfl⟩ := List.mem_map.mp hmem
      exact hnamed _ rfl row hrow

/-- **A statement that gets its row ids from scans of its table writes to rows the
server has shown.** Whatever else happens in the run, if each row id an UPDATE or
a DELETE finds in its chunk was put out by some scan of the table before, the
requests it sends are about its table, and name only ids of rows that the server
has shown for a listing of that table of that document, not flagged deleted. -/
theorem written_rows_shown (fuel : Nat) (env : Environment σ) (server : σ)
    (events : List (ProcessEvent σ)) (process process' : Process σ)
    (history : List (ProcessEvent σ × ProcessAnswer)) (database : Nat)
    (catalog : RustBridgeCatalog) (tableName : String) (entry : RustBridgeTableCatalogEntry)
    (context : ClientContext) (statement : DmlStatement) (chunk : DataChunk)
    (answer : ProcessAnswer)
    (hrun : (Process.start server).run fuel env events = some (process, history))
    (hdatabase : process.databases.get? database = some catalog)
    (hentry : catalog.mainSchema.lookupEntry tableName = some entry)
    (hrowIds : ∀ index, statement.rowIdColumn chunk = some index → ∀ row ∈ chunk.rows,
      Yielded fuel env server events catalog.attachConfig.resource entry.tableInfo.table.id
        (row index))
    (hstep : process.step fuel env (.sink database tableName context statement chunk) =
      some (process', answer)) :
    ∃ sent, process'.world.log = process.world.log ++ sent ∧ ∀ exchange ∈ sent,
      exchange.operation.docId = catalog.attachConfig.resource ∧
      exchange.operation.tableId = some entry.tableInfo.table.id ∧
      exchange.operation.ChangesOnly env.remote.serde fun rowId => ∃ row,
        ShownRow env.remote.serde process.world.log catalog.attachConfig.resource
          entry.tableInfo.table.id row ∧ row.id = rowId := by
  obtain ⟨catalog', hdatabase', hstep⟩ := Option.bind_eq_some_iff.mp hstep
  obtain ⟨entry', hentry', heq⟩ := Option.map_eq_some_iff.mp hstep
  cases hdatabase.symm.trans hdatabase'
  cases hentry.symm.trans hentry'
  cases heq
  obtain ⟨sent, hlog, hsent, _⟩ := sink_issues ⟨env.remote, env.duckdb, catalog.client⟩
    ⟨entry.tableInfo, statement⟩ chunk (.start context process.world)
  refine ⟨sent, hlog, ?_⟩
  intro exchange hmem
  have hissued := (hsent exchange hmem).kind
  refine ⟨hissued.docId, hissued.writes.2, hissued.changesOnly ?_⟩
  intro index hindex row hrow
  obtain ⟨shown, hshown, htext⟩ := (hrowIds index hindex row hrow).shown hrun
  exact ⟨shown, hshown, htext.symm⟩

/-! ## A run of the mock document -/

/-- `WHERE "Name" = 'new' ORDER BY created LIMIT 10`, with row metadata. -/
def mockPlanned : List (ProcessEvent (List HttpReply)) := [
  .attach (mockAttach [("token", "mock-token"), ("include_row_metadata", "true")] none) "mock-doc",
  .openScan 0 "Tasks" ⟨true, ""⟩ [
      .pushdownComplexFilter ⟨0, [.column 0]⟩
        [.equal (.columnRef 0 0) (.constant (.varchar "new"))],
      .setScanOrder (some ⟨2, .ascending, some 10⟩)] ⟨[.rowId], []⟩]

/-- What its requests have in common. -/
def mockListing : ListRowsInput where
  docId := "mock-doc"
  tableIdOrName := "tbl1"
  query := some "c_name:\"new\""
  sortBy := some "createdAt"
  useColumnNames := some false
  valueFormat := some "simpleWithArrays"
  visibleOnly := some false
  limit := some 10
  pageToken := none
  syncToken := none

/-- The replies to an ATTACH, a scan and a DELETE. -/
def mockRowServer : List HttpReply :=
  mockCatalogReplies ++ mockRowReplies ++ [.answered 202 (.ok "")]

theorem scanned_rows_shown_mock :
    ∃ process history process', (Process.start mockRowServer).run 8 mockRowEnvironment
        mockPlanned = some (process, history) ∧
      process.step 8 mockRowEnvironment (.scan 0) =
        some (process', .ok [[.varchar "r1"], [.varchar "r2"]]) ∧
      ∃ scan catalog tableName context planned input entry,
        process.scans.get? 0 = some scan ∧
        OpenedBy history 0 scan.database tableName context planned input ∧
        process.databases.get? scan.database = some catalog ∧
        DatabaseAttached mockRowEnvironment history scan.database catalog.attachConfig ∧
        catalog.mainSchema.lookupEntry tableName = some entry ∧
        scan.state.table = entry.tableInfo ∧
        ∀ values ∈ [[Value.varchar "r1"], [Value.varchar "r2"]], ∃ row,
          ShownRow mockRowEnvironment.remote.serde process'.world.log
            catalog.attachConfig.resource entry.tableInfo.table.id row ∧
          input.projected.mapM (outputValue mockDuckDb entry.tableInfo row) = .ok values :=
  ⟨_, _, _, rfl, rfl, scanned_rows_shown 8 mockRowEnvironment mockRowServer mockPlanned _ _ _ 0 _
    rfl rfl⟩

/-- `DELETE FROM "Tasks"`, with the rows the scan has put out. -/
def mockDeleted : DataChunk := ⟨1, [fun _ => .varchar "r1", fun _ => .varchar "r2"]⟩

def mockDeleteContext : ClientContext := ⟨true, "DELETE FROM \"Tasks\""⟩

theorem written_rows_shown_mock :
    ∃ process history process' answer, (Process.start mockRowServer).run 8 mockRowEnvironment
        (mockPlanned ++ [.scan 0]) = some (process, history) ∧
      process.step 8 mockRowEnvironment (.sink 0 "Tasks" mockDeleteContext (.delete 0) mockDeleted) =
        some (process', answer) ∧
      (process'.world.log.drop 6).map (·.operation) =
        [.deleteRows ⟨"mock-doc", "tbl1", "\x7b\"rowIds\":[\"r1\",\"r2\"]\x7d"⟩] ∧
      ∃ sent, process'.world.log = process.world.log ++ sent ∧ ∀ exchange ∈ sent,
        exchange.operation.docId = "mock-doc" ∧ exchange.operation.tableId = some "tbl1" ∧
        exchange.operation.ChangesOnly mockRowEnvironment.remote.serde fun rowId => ∃ row,
          ShownRow mockRowEnvironment.remote.serde process.world.log "mock-doc" "tbl1" row ∧
          row.id = rowId := by
  have hyielded : ∀ row ∈ mockDeleted.rows, Yielded 8 mockRowEnvironment mockRowServer
      (mockPlanned ++ [.scan 0]) "mock-doc" "tbl1" (row 0) := by
    intro row hrow
    refine ⟨mockPlanned, 0, [], _, _, _, _, _, rfl, rfl, rfl, rfl, rfl, rfl, [row 0], ?_,
      List.mem_cons_self⟩
    rcases List.mem_cons.mp hrow with rfl | hrow
    · exact List.mem_cons_self
    · cases List.mem_singleton.mp hrow
      exact List.mem_cons_of_mem _ List.mem_cons_self
  have hwritten := written_rows_shown 8 mockRowEnvironment mockRowServer
    (mockPlanned ++ [.scan 0]) _ _ _ 0 _ "Tasks" _ mockDeleteContext (.delete 0) mockDeleted _
    rfl rfl rfl (fun index hindex row hrow => by
      cases hindex
      exact hyielded row hrow) rfl
  exact ⟨_, _, _, _, rfl, rfl, rfl, hwritten⟩

end DuckdbCoda
