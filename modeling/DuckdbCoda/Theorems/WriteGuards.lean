import DuckdbCoda.Logic.CatalogOrigin
import DuckdbCoda.Logic.Sends
import DuckdbCoda.Model.MockCoda

/-!
# Writes are sent only where they are allowed

The invariant of a connection (`Guarded`): the statements planned on it are for
tables of the loaded catalog, every request of its sinks was sent in autocommit
mode to a listed base table, and every scan was opened in autocommit mode.
`run_guarded` carries it over a whole run.
-/

namespace DuckdbCoda

variable {σ : Type}

/-- A mutation of a table that the server listed as a base table. -/
def AllowedWrite (serde : SerdeJson) (log : List Exchange) (operation : Operation) : Prop :=
  operation.isMutation = true ∧
    ∃ id item, operation.tableId = some id ∧ ListedItem serde log item ∧
      item.getStr "id" = some id ∧ listedAsTable item = true

/-- The invariant of a connection to a database whose catalog was loaded from
the answers in the log. -/
structure Guarded (serde : SerdeJson) (log : List Exchange) (connection : Connection σ) :
    Prop where
  plans : ∀ operator ∈ connection.plans, LoadedTable serde log operator.table.table
  issued : ∀ entry ∈ connection.issued, entry.1 = true ∧ AllowedWrite serde log entry.2
  opened : ∀ mode ∈ connection.opened, mode = true

/-! ## The guards -/

/-- What a lookup finds is a table of the catalog. -/
theorem lookupEntry_mem {catalog : RustExtCatalog} {name : String}
    {entry : RustBridgeTableCatalogEntry}
    (h : (RustBridgeSchemaCatalogEntry.ofCatalog catalog).lookupEntry name = some entry) :
    entry.tableInfo.table ∈ catalog.tables := by
  have hvalue := KeyedMap.mem_values_of_find? _ h
  rcases KeyedMap.mem_values_insertAll _ _ hvalue with hmem | hmem
  · obtain ⟨table, htable, rfl⟩ := List.mem_map.mp hmem
    exact htable
  · cases hmem

/-- A table of the catalog that supports a statement was listed as a base
table. -/
theorem LoadedTable.allowed {serde : SerdeJson} {log : List Exchange}
    {operator : DmlOperator} {operation : Operation}
    (hloaded : LoadedTable serde log operator.table.table)
    (hsupports : operator.table.supports operator.statement.capability = true)
    (hwrites : Writes operator.table operation) : AllowedWrite serde log operation := by
  obtain ⟨item, hitem, hid, hcapabilities⟩ := hloaded.listed
  obtain ⟨hmutation, htable⟩ := hwrites
  rw [RustBridgeTableInfo.supports, hcapabilities] at hsupports
  have hbit : operator.statement.capability = tableInsert ∨
      operator.statement.capability = tableUpdate ∨
      operator.statement.capability = tableDelete := by
    cases operator.statement with
    | insert => exact .inl rfl
    | update assignments => exact .inr (.inl rfl)
    | delete rowIdIndex => exact .inr (.inr rfl)
  exact ⟨hmutation, _, item, htable, hitem, hid, listedAsTable_of_writable hbit hsupports⟩

/-- Whatever a sink sends, it sends in autocommit mode and is allowed. -/
theorem sink_guarded {serde : SerdeJson} {log : List Exchange} (attached : Attached σ)
    {operator : DmlOperator} (chunk : DataChunk) (session : Session σ)
    (hloaded : LoadedTable serde log operator.table.table) :
    ∀ exchange ∈ sentSince session.world (sink attached operator chunk session).2.world,
      session.context.isAutoCommit = true ∧ AllowedWrite serde log exchange.operation := by
  have hnothing : sentSince session.world session.world = [] :=
    sentSince_eq (List.append_nil _).symm
  intro exchange hmem
  by_cases hrows : chunk.rows = []
  · rw [sink_empty attached operator session hrows, hnothing] at hmem
    cases hmem
  · cases hready : operator.ready attached chunk session.context with
    | error exception =>
        rw [sink_not_ready hrows hready, hnothing] at hmem
        cases hmem
    | ok steps =>
        obtain ⟨hauto, hsupports, hsteps⟩ := DmlOperator.ready_ok hready
        obtain ⟨sent, hlog, hpre, _⟩ :=
          sendAll_sent attached.remote attached.config steps session.world
        have hworld : (sink attached operator chunk session).2.world =
            (sendAll attached.remote attached.config steps session.world).2 := by
          rw [sink_ready hrows hready]
          rcases sendAll attached.remote attached.config steps session.world with
            ⟨message | _, world⟩ <;> rfl
        rw [hworld, sentSince_eq hlog] at hmem
        have hstep := hpre.subset (List.mem_map_of_mem hmem)
        have hwrites := DmlOperator.steps_writes hsteps _ hstep
        exact ⟨hauto, hloaded.allowed hsupports hwrites⟩

/-- A statement that was planned is the one asked for. -/
theorem planDml_ok {context : ClientContext} {operator planned : DmlOperator}
    {returnChunk : Bool} (h : planDml context operator returnChunk = .ok planned) :
    planned = operator := by
  unfold planDml at h
  split at h
  · cases h
  · split at h
    · cases h
    · split at h
      · cases h
      · cases h
        rfl

/-- A scan that was opened was opened in autocommit mode. -/
theorem isAutoCommit_of_initGlobal {context : ClientContext} {config : RustExtClientConfig}
    {bindData : RustBridgeScanBindData} {input : TableFunctionInitInput}
    {state : RustBridgeScanGlobalState ScanHandle}
    (h : rustBridgeScanInitGlobal context config bindData input = .ok state) :
    context.isAutoCommit = true := by
  cases hauto : context.isAutoCommit with
  | true => rfl
  | false =>
      simp [rustBridgeScanInitGlobal, supportsExplicitTransactions, hauto] at h

/-! ## One event, and a run -/

section

variable (attached : Attached σ) {catalog : RustExtCatalog} {serde : SerdeJson}
  {log : List Exchange}

/-- **Every event keeps the invariant.** -/
theorem step_guarded (hcatalog : ∀ table ∈ catalog.tables, LoadedTable serde log table)
    {connection : Connection σ} (h : Guarded serde log connection) (event : ConnectionEvent σ) :
    Guarded serde log (connection.step attached (.ofCatalog catalog) event) := by
  cases event with
  | query text => exact ⟨h.plans, h.issued, h.opened⟩
  | beginTransaction => exact ⟨h.plans, h.issued, h.opened⟩
  | endTransaction => exact ⟨h.plans, h.issued, h.opened⟩
  | startTransaction =>
      rw [Connection.step]
      cases startTransaction connection.session.context with
      | error exception => exact h
      | ok transaction => exact ⟨h.plans, h.issued, h.opened⟩
  | outside world => exact ⟨h.plans, h.issued, h.opened⟩
  | plan tableName statement returnChunk =>
      rw [Connection.step]
      cases hlookup : (RustBridgeSchemaCatalogEntry.ofCatalog catalog).lookupEntry tableName with
      | none => exact h
      | some entry =>
          cases hplan : planDml connection.session.context ⟨entry.tableInfo, statement⟩
              returnChunk with
          | error exception =>
              simp only [hplan]
              exact h
          | ok planned =>
              -- the table of the new plan is an entry of the schema
              simp only [hplan]
              refine ⟨fun operator hmem => ?_, h.issued, h.opened⟩
              rcases List.mem_append.mp hmem with hmem | hmem
              · exact h.plans operator hmem
              · rw [List.mem_singleton.mp hmem, planDml_ok hplan]
                exact hcatalog _ (lookupEntry_mem hlookup)
  | sink plan chunk =>
      rw [Connection.step]
      cases hplan : connection.plans[plan]? with
      | none => exact h
      | some operator =>
          -- whenever it was planned, the sink looks at the mode it runs in
          have hloaded := h.plans operator (List.mem_of_getElem? hplan)
          refine ⟨h.plans, fun entry hmem => ?_, h.opened⟩
          rcases List.mem_append.mp hmem with hmem | hmem
          · exact h.issued entry hmem
          · obtain ⟨exchange, hsent, rfl⟩ := List.mem_map.mp hmem
            exact sink_guarded attached chunk connection.session hloaded exchange hsent
  | initScan tableName bindData input =>
      rw [Connection.step]
      cases hlookup : (RustBridgeSchemaCatalogEntry.ofCatalog catalog).lookupEntry tableName with
      | none => exact h
      | some entry =>
          cases hinit : rustBridgeScanInitGlobal connection.session.context attached.config
              (bindData entry.tableInfo) input with
          | error exception =>
              simp only [hinit]
              exact h
          | ok state =>
              simp only [hinit]
              refine ⟨h.plans, h.issued, ?_⟩
              intro mode hmem
              rcases List.mem_append.mp hmem with hmem | hmem
              · exact h.opened mode hmem
              · rw [List.mem_singleton.mp hmem]
                exact isAutoCommit_of_initGlobal hinit

/-- A run keeps the invariant, by induction on its events. -/
theorem run_guarded (hcatalog : ∀ table ∈ catalog.tables, LoadedTable serde log table)
    (events : List (ConnectionEvent σ)) :
    ∀ {connection : Connection σ}, Guarded serde log connection →
      Guarded serde log (connection.run attached (.ofCatalog catalog) events) := by
  induction events with
  | nil => exact fun h => h
  | cons event rest ih => exact fun h => ih (step_guarded attached hcatalog h event)

end

/-- **Writes are sent only where they are allowed.** On every run of a
connection to a database whose catalog was loaded from the server, the requests
of the sinks are mutations sent in autocommit mode to tables the server listed
as base tables, and no scan is opened with autocommit off. -/
theorem writes_guarded (attached : Attached σ) (fuel : Nat) (world world' : World σ)
    (catalog : RustExtCatalog)
    (hload : loadCatalog fuel attached.remote attached.config world = some (.ok catalog, world'))
    (context : ClientContext) (events : List (ConnectionEvent σ)) :
    (∀ entry ∈ ((Connection.fresh context world').run attached (.ofCatalog catalog) events).issued,
      entry.1 = true ∧
        AllowedWrite attached.remote.serde (sentSince world world') entry.2) ∧
    ∀ mode ∈ ((Connection.fresh context world').run attached (.ofCatalog catalog) events).opened,
      mode = true := by
  have hfresh : Guarded attached.remote.serde (sentSince world world')
      (Connection.fresh context world') := ⟨by simp [Connection.fresh], by simp [Connection.fresh],
        by simp [Connection.fresh]⟩
  have hrun := run_guarded attached (loadCatalog_origin hload) events hfresh
  exact ⟨hrun.issued, hrun.opened⟩

/-! ## A statement planned before a transaction, executed in it and after it -/

def mockCatalogAttached : Attached (List HttpReply) where
  remote := mockCatalogRemote
  duckdb := mockDuckDb
  config := mockConfig

def mockContext : ClientContext := ⟨true, "INSERT INTO tasks VALUES ('new', 'new')"⟩

/-- The catalog requests, and one mutation. -/
def mockGuardWorld : World (List HttpReply) :=
  mockWorld (mockCatalogTexts.map (fun text => ok200 text.1) ++ [.answered 202 (.ok "")])

def mockInsertChunk : DataChunk := ⟨2, [fun _ => .varchar "new"]⟩

def mockGuardEvents : List (ConnectionEvent (List HttpReply)) := [
  .plan "tasks" .insert false, .beginTransaction, .sink 0 mockInsertChunk, .endTransaction,
  .sink 0 mockInsertChunk]

/-- The insert is refused within the transaction and sent after it. -/
theorem writes_guarded_mock : ∃ world',
    loadCatalog 4 mockCatalogRemote mockConfig mockGuardWorld =
      some (.ok mockCatalog, world') ∧
    ((Connection.fresh mockContext world').run mockCatalogAttached
      (.ofCatalog mockCatalog) mockGuardEvents).issued =
        [(true, upsertRowsOperation mockConfig "tbl1" "")] ∧
    AllowedWrite mockCatalogAttached.remote.serde (sentSince mockGuardWorld world')
      (upsertRowsOperation mockConfig "tbl1" "") := by
  obtain ⟨world', hload, hissued⟩ : ∃ world',
      loadCatalog 4 mockCatalogRemote mockConfig mockGuardWorld =
        some (.ok mockCatalog, world') ∧
      ((Connection.fresh mockContext world').run mockCatalogAttached
        (.ofCatalog mockCatalog) mockGuardEvents).issued =
          [(true, upsertRowsOperation mockConfig "tbl1" "")] := ⟨_, rfl, rfl⟩
  have h := (writes_guarded mockCatalogAttached 4 mockGuardWorld world' mockCatalog hload
    mockContext mockGuardEvents).1
  rw [hissued] at h
  exact ⟨world', hload, hissued, (h _ List.mem_cons_self).2⟩

end DuckdbCoda
