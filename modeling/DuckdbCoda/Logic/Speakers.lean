import DuckdbCoda.Logic.ScanSource
import DuckdbCoda.Logic.Traces

/-!
# Whose requests a call makes

Every call of the client, with any number of requests, is made for one
configuration: what it adds to the log is built for its endpoint and is about its
document (`Sends`). A server that keeps account of what it sees, and so tells the
credentials apart, has seen the same requests with its credential (`Asks`).
-/

namespace DuckdbCoda

open Loop

variable {σ : Type}

/-! ## Requests as a server sees them -/

/-- A credential with the request it came with. -/
abbrev SeenRequest := String × Request

/-- The server keeps account of the requests it answers. -/
def KeepsAccount (remote : Remote σ) (seen : σ → List SeenRequest) : Prop :=
  ∀ server credential request,
    seen (remote.respond server credential request).2 = seen server ++ [(credential, request)]

/-- A server that answers as before, and writes down what it sees. -/
def Remote.observed (remote : Remote σ) : Remote (σ × List SeenRequest) where
  sdk := remote.sdk
  serde := remote.serde
  respond server credential request :=
    let (reply, next) := remote.respond server.1 credential request
    (reply, next, server.2 ++ [(credential, request)])

theorem Remote.observed_account (remote : Remote σ) : KeepsAccount remote.observed Prod.snd :=
  fun _ _ _ => rfl

/-- The document an operation is about. -/
def Operation.docId : Operation → String
  | .listTables input => input.docId
  | .listColumns input => input.docId
  | .listRows input => input.docId
  | .upsertRows input => input.docId
  | .updateRow input => input.docId
  | .deleteRows input => input.docId

/-- The request is one of the configuration, for an operation of a kind. -/
def IssuedFor (sdk : Sdk) (config : RustExtClientConfig) (kind : Operation → Prop)
    (sent : SeenRequest) : Prop :=
  ∃ operation, kind operation ∧ operation.docId = config.resource ∧
    sdk.build (endpoint sdk config) operation = .ok sent.2 ∧ sent.1 = config.credential

/-- Between two states the server saw requests of the configuration only. -/
def Asks (remote : Remote σ) (seen : σ → List SeenRequest) (config : RustExtClientConfig)
    (kind : Operation → Prop) (before after : σ) : Prop :=
  ∃ sent, seen after = seen before ++ sent ∧ ∀ request ∈ sent,
    IssuedFor remote.sdk config kind request

/-- The exchange is one of the configuration, for an operation of a kind. -/
structure SentFor (sdk : Sdk) (config : RustExtClientConfig) (kind : Operation → Prop)
    (exchange : Exchange) : Prop where
  kind : kind exchange.operation
  docId : exchange.operation.docId = config.resource
  built : sdk.build (endpoint sdk config) exchange.operation = .ok exchange.request

/-- The server after the requests, each with the credential. -/
def Remote.serve (remote : Remote σ) (credential : String) (server : σ) (sent : List Exchange) : σ :=
  sent.foldl (fun server exchange => (remote.respond server credential exchange.request).2) server

/-- A server that keeps account has seen what it has served. -/
theorem KeepsAccount.serve {remote : Remote σ} {seen : σ → List SeenRequest}
    (account : KeepsAccount remote seen) (credential : String) (sent : List Exchange) :
    ∀ server, seen (remote.serve credential server sent) =
      seen server ++ sent.map fun exchange => (credential, exchange.request) := by
  induction sent with
  | nil => exact fun server => (List.append_nil _).symm
  | cons exchange rest ih =>
      intro server
      show seen (remote.serve credential (remote.respond server credential exchange.request).2 rest) = _
      rw [ih, account server credential exchange.request, List.append_assoc]
      rfl

/-- Between two worlds only exchanges of the configuration were added to the log,
and the server has served their requests with its credential. -/
def Sends (remote : Remote σ) (config : RustExtClientConfig) (kind : Operation → Prop)
    (before after : World σ) : Prop :=
  ∃ sent, after.log = before.log ++ sent ∧
    (∀ exchange ∈ sent, SentFor remote.sdk config kind exchange) ∧
    after.server = remote.serve config.credential before.server sent

section

variable {remote : Remote σ} {config : RustExtClientConfig} {kind : Operation → Prop}

theorem Sends.refl (world : World σ) : Sends remote config kind world world :=
  ⟨[], by simp, by simp, rfl⟩

theorem Sends.trans {first second third : World σ} (h : Sends remote config kind first second)
    (h' : Sends remote config kind second third) : Sends remote config kind first third := by
  obtain ⟨sent, hlog, hsent, hserved⟩ := h
  obtain ⟨sent', hlog', hsent', hserved'⟩ := h'
  refine ⟨sent ++ sent', by rw [hlog', hlog, List.append_assoc], fun exchange hmem => ?_, ?_⟩
  · exact (List.mem_append.mp hmem).elim (hsent exchange) (hsent' exchange)
  · rw [hserved', hserved]
    exact (List.foldl_append ..).symm

/-- Whether row metadata is wanted shows in no request. -/
theorem Sends.withSystemColumns {includeSystemColumns : Bool} {before after : World σ}
    (h : Sends remote { config with includeSystemColumns } kind before after) :
    Sends remote config kind before after := by
  obtain ⟨sent, hlog, hsent, hserved⟩ := h
  exact ⟨sent, hlog, fun exchange hmem =>
    ⟨(hsent exchange hmem).kind, (hsent exchange hmem).docId, (hsent exchange hmem).built⟩, hserved⟩

theorem Sends.imp {kind' : Operation → Prop} {before after : World σ}
    (h : Sends remote config kind before after)
    (hkind : ∀ operation, kind operation → kind' operation) :
    Sends remote config kind' before after := by
  obtain ⟨sent, hlog, hsent, hserved⟩ := h
  refine ⟨sent, hlog, ?_, hserved⟩
  intro exchange hmem
  have hfor := hsent exchange hmem
  exact ⟨hkind _ hfor.kind, hfor.docId, hfor.built⟩

theorem Sends.log_grows {before after : World σ} (h : Sends remote config kind before after) :
    before.log <+: after.log := by
  obtain ⟨sent, hlog, _⟩ := h
  exact ⟨sent, hlog.symm⟩

/-- What the server has seen of it. -/
theorem Sends.asks {before after : World σ} (h : Sends remote config kind before after)
    {seen : σ → List SeenRequest} (account : KeepsAccount remote seen) :
    Asks remote seen config kind before.server after.server := by
  obtain ⟨sent, _, hsent, hserved⟩ := h
  refine ⟨_, hserved ▸ account.serve config.credential sent before.server, fun request hmem => ?_⟩
  obtain ⟨exchange, hexchange, rfl⟩ := List.mem_map.mp hmem
  have hfor := hsent exchange hexchange
  exact ⟨exchange.operation, hfor.kind, hfor.docId, hfor.built, rfl⟩

/-- One request. -/
theorem perform_sends {operation : Operation} (hkind : kind operation)
    (hdoc : operation.docId = config.resource) (world : World σ) :
    Sends remote config kind world (perform remote config operation world).2 := by
  rcases perform_cases remote config operation world with
    ⟨message, _, hperform⟩ | ⟨request, reply, server, hbuild, hrespond, hperform⟩ <;>
    rw [hperform]
  · exact Sends.refl _
  · refine ⟨[⟨operation, request, reply⟩], rfl, ?_, ?_⟩
    · intro exchange hmem
      rw [List.mem_singleton.mp hmem]
      exact ⟨hkind, hdoc, hbuild⟩
    · exact (congrArg Prod.snd hrespond).symm

theorem fetch_sends {α : Type} {operation : Operation} (hkind : kind operation)
    (hdoc : operation.docId = config.resource) {decode : String → Except String α}
    {world world' : World σ} {answer : Except String α}
    (h : fetch remote config operation decode world = (answer, world')) :
    Sends remote config kind world world' := by
  have hworld : world' = (perform remote config operation world).2 := (congrArg Prod.snd h).symm
  rw [hworld]
  exact perform_sends hkind hdoc world

/-- Whatever it asks for. -/
theorem fetch_log_grows {α : Type} {operation : Operation}
    {decode : String → Except String α} {world world' : World σ} {answer : Except String α}
    (h : fetch remote config operation decode world = (answer, world')) :
    world.log <+: world'.log := by
  obtain ⟨sent, hlog, _⟩ := fetch_log remote config operation decode world
  rw [h] at hlog
  exact ⟨sent, hlog.symm⟩

/-! ## Loading a catalog -/

/-- The two requests a catalog is loaded with. -/
def Operation.ListsCatalog : Operation → Prop
  | .listTables _ | .listColumns _ => True
  | _ => False

theorem loadColumns_sends {fuel : Nat} {tableId : String} {world world' : World σ}
    {answer : Except String (List RustExtColumn)}
    (h : loadColumns fuel remote config tableId world = some (answer, world')) :
    Sends remote config Operation.ListsCatalog world world' := by
  unfold loadColumns at h
  rcases hrun : run (fun state => some (loadColumnsTurn remote config tableId state)) fuel
    ([], "", world) with _ | ⟨pages, last⟩ <;> rw [hrun] at h
  · cases h
  have hsends := run_invariant
    (fun state => Sends remote config Operation.ListsCatalog world state.2.2)
    (fun result => Sends remote config Operation.ListsCatalog world result.2)
    (fun state turn hinv hturn => by
      obtain ⟨all, pageToken, mid⟩ := state
      cases hturn
      rw [loadColumnsTurn]
      rcases hfetch : fetchColumns remote config tableId pageToken mid with ⟨message | page, next⟩
      · exact hinv.trans (fetch_sends trivial rfl hfetch)
      · have hnext := hinv.trans (fetch_sends trivial rfl hfetch)
        exact Turn.keeps_ite hnext hnext)
    fuel ([], "", world) (pages, last) (Sends.refl _) hrun
  cases pages with
  | error message =>
      cases h
      exact hsends
  | ok all =>
      obtain ⟨columns, _, heq⟩ := Option.map_eq_some_iff.mp h
      cases heq
      exact hsends

theorem loadTables_sends {fuel : Nat} :
    ∀ (tables : List RustExtTable) {catalogTables : List RustExtCatalogTable}
      {world world' : World σ} {answer : Except String (List RustExtCatalogTable)},
      loadTables fuel remote config tables catalogTables world = some (answer, world') →
      Sends remote config Operation.ListsCatalog world world' := by
  intro tables
  induction tables with
  | nil =>
      intro catalogTables world world' answer h
      cases h
      exact Sends.refl _
  | cons table rest ih =>
      intro catalogTables world world' answer h
      rw [loadTables] at h
      rcases hcolumns : loadColumns fuel remote config table.id world with
        _ | ⟨message | columns, mid⟩ <;> rw [hcolumns] at h
      · cases h
      · -- the first table whose columns do not load ends the loop
        cases h
        exact loadColumns_sends hcolumns
      · exact (loadColumns_sends hcolumns).trans (ih h)

theorem loadCatalog_sends {fuel : Nat} {world world' : World σ}
    {answer : Except String RustExtCatalog}
    (h : loadCatalog fuel remote config world = some (answer, world')) :
    Sends remote config Operation.ListsCatalog world world' :=
  run_invariant
    (fun state => Sends remote config Operation.ListsCatalog world state.2.2)
    (fun result => Sends remote config Operation.ListsCatalog world result.2)
    (fun state turn hinv hturn => by
      obtain ⟨catalogTables, pageToken, mid⟩ := state
      rw [loadCatalogTurn] at hturn
      rcases hfetch : fetchTables remote config pageToken mid with ⟨message | page, next⟩ <;>
        rw [hfetch] at hturn
      · cases hturn
        exact hinv.trans (fetch_sends trivial rfl hfetch)
      · obtain ⟨⟨entries, last⟩, hload, rfl⟩ := Option.map_eq_some_iff.mp hturn
        have hlast := (hinv.trans (fetch_sends trivial rfl hfetch)).trans
          (loadTables_sends page.items hload)
        cases entries with
        | error message => exact hlast
        | ok entries => exact Turn.keeps_ite hlast hlast)
    fuel ([], "", world) (answer, world') (Sends.refl _) h

/-! ## Scanning -/

/-- A page of rows of a table. -/
def Operation.ListsRowsOf (tableId : String) : Operation → Prop
  | .listRows input => input.tableIdOrName = tableId
  | _ => False

theorem listRows_sends {tableId : String} {request : CodaRowsRequest} {world world' : World σ}
    {answer : Except String CodaRowsResponse}
    (h : listRows remote config tableId request world = (answer, world')) :
    Sends remote config (Operation.ListsRowsOf tableId) world world' :=
  have hkind : Operation.ListsRowsOf tableId (listRowsOperation config tableId request) := rfl
  fetch_sends hkind rfl h

theorem nextBatch_sends {fuel : Nat} {handle handle' : ScanHandle} {world world' : World σ}
    {answer : Except String RustExtScanBatch}
    (h : handle.nextBatch fuel remote world = some (answer, handle', world')) :
    Sends remote handle.config (Operation.ListsRowsOf handle.tableId) world world' :=
  (run_invariant
    (fun state => (state.1.config = handle.config ∧ state.1.tableId = handle.tableId) ∧
      Sends remote handle.config (Operation.ListsRowsOf handle.tableId) world state.2)
    (fun result => Sends remote handle.config (Operation.ListsRowsOf handle.tableId) world
      result.2.2)
    (fun state turn hinv hturn => by
      obtain ⟨handle', mid⟩ := state
      obtain ⟨⟨hconfig, htable⟩, hsends⟩ := hinv
      cases hturn
      rw [ScanHandle.nextBatchTurn]
      split
      case isTrue hfinished => exact hsends
      case isFalse hgoing =>
        dsimp only
        rcases hfetch : listRows remote handle'.request.2.config handle'.request.2.tableId
          handle'.request.1 mid with ⟨answer, next⟩
        have hnext := hsends.trans (hconfig ▸ htable ▸ listRows_sends hfetch)
        cases answer with
        | error message => exact hnext
        | ok response => exact Turn.keeps_ite hnext ⟨⟨hconfig, htable⟩, hnext⟩)
    fuel (handle, world) (answer, handle', world') ⟨⟨rfl, rfl⟩, Sends.refl _⟩ h)

theorem nextScanBatch_sends {fuel : Nat} {source source' : ScanHandle × World σ}
    {answer : Except Exception RustExtScanBatch}
    (h : nextScanBatch remote fuel source = some (answer, source')) :
    Sends remote source.1.config (Operation.ListsRowsOf source.1.tableId) source.2 source'.2 := by
  obtain ⟨⟨batch, handle, last⟩, hbatch, heq⟩ := Option.map_eq_some_iff.mp h
  cases heq
  exact nextBatch_sends hbatch

/-- A call of `RustBridgeScan` asks for the rows of its table only. -/
theorem rustBridgeScan_sends {fuel vectorSize : Nat} {duckdb : DuckDb}
    {state : RustBridgeScanGlobalState (ScanHandle × World σ)}
    {call : ScanCall (ScanHandle × World σ)}
    (h : rustBridgeScan fuel (nextScanBatch remote) duckdb vectorSize state = some call) :
    Sends remote state.scan.1.config (Operation.ListsRowsOf state.scan.1.tableId)
      state.scan.2 call.2.scan.2 := by
  refine (rustBridgeScan_invariant (fun _ _ source =>
      source.1.terms = state.scan.1.terms ∧
      Sends remote state.scan.1.config (Operation.ListsRowsOf state.scan.1.tableId)
        state.scan.2 source.2)
    (sourceKeeps_of_answers fun fuel _ source answer source' hsource hnext => ?_)
    state ⟨rfl, Sends.refl _⟩ h).2
  obtain ⟨hsame, hsends⟩ := hsource
  have hmore := nextScanBatch_sends hnext
  have hterms := hsame
  simp only [ScanHandle.terms, Prod.mk.injEq] at hterms
  rw [hterms.1, hterms.2.1] at hmore
  exact ⟨(nextScanBatch_same hnext).trans hsame, hsends.trans hmore⟩

/-! ## Writing -/

theorem sendAll_sends :
    ∀ (steps : List SendStep), (∀ operation, .ok operation ∈ steps →
      kind operation ∧ operation.docId = config.resource) → ∀ world : World σ,
      Sends remote config kind world (sendAll remote config steps world).2 := by
  intro steps
  induction steps with
  | nil => exact fun _ _ => Sends.refl _
  | cons step rest ih =>
      intro hsteps world
      cases step with
      | error message => exact Sends.refl _
      | ok operation =>
          obtain ⟨hkind, hdoc⟩ := hsteps operation List.mem_cons_self
          have hfirst : Sends remote config kind world (perform remote config operation world).2 :=
            perform_sends hkind hdoc world
          -- what follows a failed request is not sent
          rw [sendAll]
          rcases hperform : perform remote config operation world with ⟨message | body, mid⟩ <;>
            rw [hperform] at hfirst
          · exact hfirst
          · exact hfirst.trans (ih (fun operation hmem =>
              hsteps operation (List.mem_cons_of_mem _ hmem)) mid)

end

/-- What an operator may send for a chunk: the rows of an INSERT, one row that an
UPDATE found in the chunk, or all that a DELETE found there. -/
def DmlOperator.Issues (attached : Attached σ) (operator : DmlOperator) (chunk : DataChunk)
    (operation : Operation) : Prop :=
  match operator.statement with
  | .insert =>
      ∃ body, operation = upsertRowsOperation attached.config operator.table.table.id body
  | .update _ =>
      ∃ rowId ∈ chunkRowIds attached.duckdb chunk (chunk.columnCount - 1), ∃ body,
        operation = updateRowOperation attached.config operator.table.table.id rowId body
  | .delete rowIdIndex =>
      operation = deleteRowsOperation attached.config operator.table.table.id
        (deleteBody attached.remote.serde (chunkRowIds attached.duckdb chunk rowIdIndex))

section

variable {attached : Attached σ} {operator : DmlOperator} {chunk : DataChunk}

theorem DmlOperator.Issues.docId {operation : Operation}
    (h : operator.Issues attached chunk operation) :
    operation.docId = attached.config.resource := by
  obtain ⟨table, statement⟩ := operator
  cases statement with
  | insert =>
      obtain ⟨body, rfl⟩ := h
      rfl
  | update assignments =>
      obtain ⟨rowId, _, body, rfl⟩ := h
      rfl
  | delete rowIdIndex =>
      cases h
      rfl

theorem DmlOperator.Issues.writes {operation : Operation}
    (h : operator.Issues attached chunk operation) : Writes operator.table operation := by
  obtain ⟨table, statement⟩ := operator
  cases statement with
  | insert =>
      obtain ⟨body, rfl⟩ := h
      exact ⟨rfl, rfl⟩
  | update assignments =>
      obtain ⟨rowId, _, body, rfl⟩ := h
      exact ⟨rfl, rfl⟩
  | delete rowIdIndex =>
      cases h
      exact ⟨rfl, rfl⟩

theorem DmlOperator.steps_issues {steps : List SendStep}
    (h : operator.steps attached chunk = .ok steps) :
    ∀ operation, .ok operation ∈ steps → operator.Issues attached chunk operation := by
  obtain ⟨table, statement⟩ := operator
  intro operation hmem
  cases statement with
  | insert =>
      cases h
      have hstep := List.mem_singleton.mp hmem
      cases hbody : insertBody attached.remote.serde (editableColumns table)
          (chunk.rows.flatMap (insertRowValues attached.duckdb table)) chunk.rows.length
          table.columns.length table.table.capabilities with
      | error message =>
          rw [hbody] at hstep
          cases hstep
      | ok body =>
          rw [hbody] at hstep
          cases hstep
          exact ⟨body, rfl⟩
  | update assignments =>
      -- one step for each row id, in the order of the chunk
      rcases DmlOperator.update_steps_cases h with ⟨message, rfl⟩ | ⟨values, _, rfl⟩
      · cases List.mem_singleton.mp hmem
      · obtain ⟨index, hindex⟩ := List.getElem?_of_mem hmem
        rw [updateSteps_getElem?, Option.map_eq_some_iff] at hindex
        obtain ⟨rowId, hrowId, hstep⟩ := hindex
        cases hbody : updateBody attached.remote.serde
            (assignments.map fun assignment => updateColumn table assignment.1)
            (rowSlice values (assignments.map fun assignment =>
              updateColumn table assignment.1).length (0 + index)) table.table.capabilities with
        | error message =>
            rw [hbody] at hstep
            cases hstep
        | ok body =>
            rw [hbody] at hstep
            cases hstep
            exact ⟨rowId, List.mem_of_getElem? hrowId, body, rfl⟩
  | delete rowIdIndex =>
      -- a chunk without row ids sends nothing
      cases h
      split at hmem
      · cases hmem
      · cases List.mem_singleton.mp hmem
        rfl

/-- A sink sends what its operator may send for the chunk. -/
theorem sink_issues (attached : Attached σ) (operator : DmlOperator) (chunk : DataChunk)
    (session : Session σ) :
    Sends attached.remote attached.config (operator.Issues attached chunk) session.world
      (sink attached operator chunk session).2.world := by
  have hwrite : Sends attached.remote attached.config (operator.Issues attached chunk)
      session.world (operator.write attached chunk session.world).2 := by
    rw [operator.write_eq]
    cases hsteps : operator.steps attached chunk with
    | error exception => exact Sends.refl _
    | ok steps =>
        refine sendAll_sends steps ?_ session.world
        intro operation hmem
        have hissues := DmlOperator.steps_issues hsteps operation hmem
        exact ⟨hissues, hissues.docId⟩
  rw [sink]
  split
  · exact Sends.refl _
  · -- both checks come before the first request
    cases rejectExplicitTransaction session.context with
    | error exception => exact Sends.refl _
    | ok _ =>
        dsimp only
        split
        · exact Sends.refl _
        · rcases hresult : operator.write attached chunk session.world with
            ⟨exception | count, world⟩ <;> rw [hresult] at hwrite
          · exact hwrite
          · exact hwrite

/-- A sink makes requests for its table only. -/
theorem sink_sends (attached : Attached σ) (operator : DmlOperator) (chunk : DataChunk)
    (session : Session σ) :
    Sends attached.remote attached.config (Writes operator.table) session.world
      (sink attached operator chunk session).2.world :=
  (sink_issues attached operator chunk session).imp fun _ => DmlOperator.Issues.writes

end

end DuckdbCoda
