import DuckdbCoda.Lib.Termination
import DuckdbCoda.Logic.PrepareColumns
import DuckdbCoda.Logic.ProcessSteps
import DuckdbCoda.Logic.ScanBuffer
import DuckdbCoda.Logic.Speakers
import DuckdbCoda.Theorems.ScanDelivery

/-!
# No call hangs

The loops of the extension end when the listings of the server do: a page token
leads to one of lower rank (`EndsListings`). Pages whose rows are all deleted,
the sync check at the end of a listing, suffixes of column names and empty
batches keep none of them going. So in every run each event that can happen
returns (`runs_return`).
-/

namespace DuckdbCoda

open Loop

variable {σ : Type} {remote : Remote σ} {rank : σ → String → Nat}

/-- The listings of the server end. In each of its states page tokens have ranks: a
page leads to a token of lower rank, and a request that lists raises no rank. -/
structure EndsListings (remote : Remote σ) (rank : σ → String → Nat) : Prop where
  keeps : ∀ config operation request server token, operation.isMutation = false →
    remote.sdk.build (endpoint remote.sdk config) operation = .ok request →
      rank (remote.respond server config.credential request).2 token ≤ rank server token
  tables : ∀ config pageToken world page world',
    fetchTables remote config pageToken world = (.ok page, world') →
      page.nextPageToken ≠ "" → rank world'.server page.nextPageToken < rank world.server pageToken
  columns : ∀ config tableId pageToken world page world',
    fetchColumns remote config tableId pageToken world = (.ok page, world') →
      page.nextPageToken ≠ "" → rank world'.server page.nextPageToken < rank world.server pageToken
  rows : ∀ config tableId request world response world',
    listRows remote config tableId request world = (.ok response, world') →
      response.nextPageToken ≠ "" →
        rank world'.server response.nextPageToken < rank world.server request.pageToken

/-- Requests that list, one after the other. -/
theorem EndsListings.sends (ends : EndsListings remote rank) {config : RustExtClientConfig}
    {kind : Operation → Prop} {world world' : World σ} (h : Sends remote config kind world world')
    (hkind : ∀ operation, kind operation → operation.isMutation = false) (token : String) :
    rank world'.server token ≤ rank world.server token := by
  obtain ⟨sent, -, hsent, hserved⟩ := h
  rw [hserved]
  clear hserved
  generalize world.server = server
  induction sent generalizing server with
  | nil => exact Nat.le_refl _
  | cons exchange rest ih =>
      have hfirst := hsent exchange List.mem_cons_self
      have hrest := ih (fun other hmem => hsent other (List.mem_cons_of_mem _ hmem))
        (remote.respond server config.credential exchange.request).2
      exact Nat.le_trans hrest
        (ends.keeps config exchange.operation exchange.request server token
          (hkind _ hfirst.kind) hfirst.built)

theorem Operation.ListsCatalog.not_isMutation {operation : Operation}
    (h : operation.ListsCatalog) : operation.isMutation = false := by
  cases operation <;> first | rfl | cases h

theorem Operation.ListsRowsOf.not_isMutation {operation : Operation} {tableId : String}
    (h : operation.ListsRowsOf tableId) : operation.isMutation = false := by
  cases operation <;> first | rfl | cases h

/-! ## The catalog -/

theorem loadColumnsTurn_lowers (ends : EndsListings remote rank) (config : RustExtClientConfig)
    (tableId : String) (state : List RustExtColumn × String × World σ) :
    (loadColumnsTurn remote config tableId state).Lowers
      (fun state => rank state.2.2.server state.2.1) (rank state.2.2.server state.2.1) := by
  obtain ⟨all, pageToken, world⟩ := state
  rw [loadColumnsTurn]
  cases hfetch : fetchColumns remote config tableId pageToken world with
  | mk answer world' =>
  cases answer with
  | error message => trivial
  | ok page =>
      dsimp only
      split
      case isTrue => trivial
      case isFalse hmore =>
        exact ends.columns config tableId pageToken world page world' hfetch
          fun hempty => hmore (String.isEmpty_iff.mpr hempty)

theorem loadColumns_terminates (ends : EndsListings remote rank) (config : RustExtClientConfig)
    (tableId : String) (world : World σ) :
    Terminates fun fuel => loadColumns fuel remote config tableId world := by
  have hloop := @Terminates.loop _ _
    (fun _ state => some (loadColumnsTurn remote config tableId state))
    (fun state => rank state.2.2.server state.2.1)
    (fun state => ⟨_, .of_eq fun _ => rfl, loadColumnsTurn_lowers ends config tableId state⟩)
    ([], "", world)
  obtain ⟨⟨answer, last⟩, n, hrun⟩ := hloop
  cases answer with
  | error message =>
      refine ⟨(.error message, last), n, ?_⟩
      intro fuel hfuel
      simp only [loadColumns, hrun fuel hfuel]
  | ok all =>
      obtain ⟨prepared, ⟨m, hprepare⟩, _⟩ := prepareColumns_returns
        (if config.includeSystemColumns then appendRowMetadata all else all)
      refine ⟨(.ok prepared, last), max n m, ?_⟩
      intro fuel hfuel
      simp only [loadColumns, hrun fuel (by omega), finishColumns, hprepare fuel (by omega),
        Option.map_some]

theorem loadTables_terminates (ends : EndsListings remote rank) (config : RustExtClientConfig)
    (tables : List RustExtTable) : ∀ catalogTables (world : World σ),
    Terminates fun fuel => loadTables fuel remote config tables catalogTables world := by
  induction tables with
  | nil => exact fun catalogTables world => .of_eq (.ok catalogTables, world) fun _ => rfl
  | cons table rest ih =>
      intro catalogTables world
      obtain ⟨⟨answer, mid⟩, n, hcolumns⟩ := loadColumns_terminates ends config table.id world
      cases answer with
      | error message =>
          refine ⟨(.error message, mid), n, ?_⟩
          intro fuel hfuel
          simp only [loadTables, hcolumns fuel hfuel]
      | ok columns =>
          obtain ⟨result, m, hrest⟩ := ih (catalogTables ++ [catalogTable table columns]) mid
          refine ⟨result, max n m, ?_⟩
          intro fuel hfuel
          simp only [loadTables, hcolumns fuel (by omega), hrest fuel (by omega)]

/-- The end of a turn of `load_catalog`. -/
def loadedTables (page : RustExtTableList) :
    Except String (List RustExtCatalogTable) × World σ →
      Turn (List RustExtCatalogTable × String × World σ) (Except String RustExtCatalog × World σ)
  | (.error message, world) => .done (.error message, world)
  | (.ok catalogTables, world) =>
      if page.nextPageToken.isEmpty then .done (.ok ⟨catalogTables⟩, world)
      else .next (catalogTables, page.nextPageToken, world)

theorem loadCatalog_terminates (ends : EndsListings remote rank) (config : RustExtClientConfig)
    (world : World σ) : Terminates fun fuel => loadCatalog fuel remote config world := by
  refine Terminates.loop
    (fun state : List RustExtCatalogTable × String × World σ => rank state.2.2.server state.2.1) ?_
    ([], "", world)
  rintro ⟨catalogTables, pageToken, world⟩
  cases hfetch : fetchTables remote config pageToken world with
  | mk answer world' =>
  cases answer with
  | error message =>
      exact ⟨.done (.error message, world'), .of_eq fun _ => by simp only [loadCatalogTurn, hfetch],
        trivial⟩
  | ok page =>
      obtain ⟨⟨loaded, last⟩, htables⟩ :=
        loadTables_terminates ends config page.items catalogTables world'
      have hturn := htables.map (loadedTables page)
      have hbody : (fun fuel => loadCatalogTurn remote config fuel (catalogTables, pageToken, world)) =
          fun fuel => (loadTables fuel remote config page.items catalogTables world').map
            (loadedTables page) := by
        funext fuel
        simp only [loadCatalogTurn, hfetch]
        rfl
      refine ⟨_, hbody ▸ hturn, ?_⟩
      cases loaded with
      | error message => trivial
      | ok tables =>
          show Turn.Lowers _ _ (if page.nextPageToken.isEmpty then _ else _)
          split
          case isTrue => trivial
          case isFalse hmore =>
            have hlower := ends.tables config pageToken world page world' hfetch
              fun hempty => hmore (String.isEmpty_iff.mpr hempty)
            -- the columns of the page were listed in between
            obtain ⟨enough, hloaded⟩ := htables
            have hkept := ends.sends (loadTables_sends page.items (hloaded enough (Nat.le_refl _)))
              (fun _ => Operation.ListsCatalog.not_isMutation) page.nextPageToken
            exact Nat.lt_of_le_of_lt hkept hlower

theorem rustBridgeAttach_terminates (ends : EndsListings remote rank) (duckdb : DuckDb)
    (context : AttachHostContext) (path : String) (world : World σ) :
    Terminates fun fuel => rustBridgeAttach fuel remote duckdb context path world := by
  unfold rustBridgeAttach
  cases resolveAttachConfig remote.sdk (attachHost duckdb) path context with
  | error exception => exact .of_eq (.error exception, world) fun _ => rfl
  | ok attachConfig =>
      exact ((loadCatalog_terminates ends _ world).map _).map _

/-! ## One batch -/

/-- What the requests of a handle can still come to. Its pages go down in rank; the
sync check comes after all of them, and lists the changes from the top. -/
def ScanHandle.left (rank : String → Nat) (handle : ScanHandle) : Nat :=
  if handle.nextPageToken = "" then
    if handle.syncDue then rank "" + 2
    else if handle.syncCheckDone then rank "" + 1
    else 2 * rank "" + 3
  else rank handle.nextPageToken + if handle.syncCheckDone then 1 else rank "" + 3

/-- A page that is not the last one leaves less. -/
theorem ScanHandle.left_advance {before after : String → Nat} {handle : ScanHandle}
    {response : CodaRowsResponse} (htop : after "" ≤ before "")
    (hrank : response.nextPageToken ≠ "" →
      after response.nextPageToken < before handle.nextPageToken)
    (hgoing : (handle.request.2.advance response).finished = false) :
    (handle.request.2.advance response).left after < handle.left before := by
  have hdone : (handle.request.2.advance response).syncCheckDone =
    (handle.syncCheckDone || handle.syncDue) := rfl
  have hpage : (handle.request.2.advance response).nextPageToken = response.nextPageToken := rfl
  have hfinished : (handle.request.2.advance response).finished = (handle.finished ||
    (response.nextPageToken.isEmpty && (response.nextSyncToken.isEmpty ||
      (handle.syncCheckDone || handle.syncDue)))) := rfl
  have hdue : (handle.request.2.advance response).syncDue = (response.nextPageToken.isEmpty &&
    !response.nextSyncToken.isEmpty && !(handle.syncCheckDone || handle.syncDue)) := rfl
  rw [hfinished] at hgoing
  unfold ScanHandle.left
  rw [hpage, hdone, hdue]
  by_cases hnext : response.nextPageToken = ""
  · -- the sync check is next: it was not made before
    have hempty : response.nextPageToken.isEmpty = true := String.isEmpty_iff.mpr hnext
    simp only [hempty, Bool.true_and, Bool.or_eq_false_iff] at hgoing
    obtain ⟨_, hsync, hnotDone, hnotDue⟩ := hgoing
    rw [if_pos hnext, if_pos (by simp [hempty, hsync, hnotDone, hnotDue]), hnotDone, hnotDue]
    simp only [Bool.false_eq_true, if_false]
    split <;> omega
  · have hlower := hrank hnext
    rw [if_neg hnext]
    by_cases htoken : handle.nextPageToken = ""
    · rw [if_pos htoken]
      rw [htoken] at hlower
      cases hcheck : handle.syncDue <;> cases hmade : handle.syncCheckDone <;> simp <;> omega
    · rw [if_neg htoken]
      have hnot : handle.syncDue = false := by simp [ScanHandle.syncDue, htoken]
      rw [hnot, Bool.or_false]
      split <;> omega

/-- A turn of `next_batch` leaves less to ask, or leaves the loop. -/
theorem nextBatchTurn_lowers (ends : EndsListings remote rank) (state : ScanHandle × World σ) :
    (ScanHandle.nextBatchTurn remote state).Lowers
      (fun state => state.1.left (rank state.2.server)) (state.1.left (rank state.2.server)) := by
  obtain ⟨handle, world⟩ := state
  rw [ScanHandle.nextBatchTurn]
  split
  case isTrue => trivial
  case isFalse =>
    dsimp only
    cases hlist : listRows remote handle.request.2.config handle.request.2.tableId
        handle.request.1 world with
    | mk answer world' =>
    cases answer with
    | error message => trivial
    | ok response =>
        dsimp only
        split
        case isTrue => trivial
        case isFalse hagain =>
          simp only [Bool.or_eq_true, not_or, Bool.not_eq_true] at hagain
          have htop := ends.sends (listRows_sends hlist)
            (fun _ => Operation.ListsRowsOf.not_isMutation) ""
          exact ScanHandle.left_advance htop (ends.rows _ _ _ _ _ _ hlist) hagain.2

theorem nextScanBatch_terminates (ends : EndsListings remote rank)
    (source : ScanHandle × World σ) : Terminates fun fuel => nextScanBatch remote fuel source := by
  have hloop := @Terminates.loop _ _
    (fun _ state => some (ScanHandle.nextBatchTurn remote state))
    (fun state => state.1.left (rank state.2.server))
    (fun state => ⟨_, .of_eq fun _ => rfl, nextBatchTurn_lowers ends state⟩) source
  exact hloop.map _

/-- Only the last batch may be empty. -/
theorem nextScanBatch_empty {fuel : Nat} {source source' : ScanHandle × World σ}
    {batch : RustExtScanBatch}
    (h : nextScanBatch remote fuel source = some (.ok batch, source')) (hempty : batch.rows = []) :
    batch.finished = true := by
  obtain ⟨⟨answer, handle, last⟩, hbatch, heq⟩ := Option.map_eq_some_iff.mp h
  have hpost := run_invariant (fun _ => True)
    (fun result : Except String RustExtScanBatch × ScanHandle × World σ =>
      ∀ batch, result.1 = .ok batch → batch.rows = [] → batch.finished = true)
    (fun state turn _ hturn => by
      obtain ⟨handle, world⟩ := state
      cases hturn
      rw [ScanHandle.nextBatchTurn]
      split
      case isTrue =>
        rintro batch heq _
        cases heq
        rfl
      case isFalse =>
        dsimp only
        rcases listRows remote handle.request.2.config handle.request.2.tableId
          handle.request.1 world with ⟨message | response, world'⟩
        · intro batch heq
          cases heq
        · dsimp only
          split
          case isTrue hleave =>
            rintro batch heq hrows
            cases heq
            have hnone : visibleRows response = [] := hrows
            simpa [hnone] using hleave
          case isFalse => trivial)
    fuel source (answer, handle, last) trivial hbatch
  cases answer with
  | error message => cases heq
  | ok _ =>
      cases heq
      exact hpost batch rfl hempty

/-! ## One call of a scan -/

theorem emitRow_lowers {S : Type} {duckdb : DuckDb} {vectorSize : Nat}
    {output : List (List Value)} {row : RustExtRow} {state : RustBridgeScanGlobalState S}
    (hroom : output.length < vectorSize) :
    (emitRow duckdb output row state).Lowers (fun turn => vectorSize - turn.1.length)
      (vectorSize - output.length) := by
  cases hvalues : state.columnIndexes.mapM (outputValue duckdb state.table row) with
  | error exception =>
      simp only [emitRow, hvalues]
      trivial
  | ok values =>
      rw [emitRow_eq hvalues]
      split
      · trivial
      · show vectorSize - (output ++ [values]).length < vectorSize - output.length
        rw [List.length_append, List.length_singleton]
        omega

/-- A source that returns, and is empty only at its end, is all a call needs. -/
theorem rustBridgeScan_terminates {S : Type}
    {next : Nat → S → Option (Except Exception RustExtScanBatch × S)}
    (hnext : ∀ scan, Terminates fun fuel => next fuel scan)
    (hbatch : ∀ fuel scan batch scan', next fuel scan = some (.ok batch, scan') →
      batch.rows = [] → batch.finished = true) (duckdb : DuckDb) (vectorSize : Nat)
    (state : RustBridgeScanGlobalState S) :
    Terminates fun fuel => rustBridgeScan fuel next duckdb vectorSize state := by
  unfold rustBridgeScan
  split
  case isTrue => exact .of_eq (.ok [], state) fun _ => rfl
  case isFalse =>
    refine Terminates.loop (fun turn : ScanTurn S => vectorSize - turn.1.length) ?_ ([], state)
    rintro ⟨output, state⟩
    by_cases hroom : output.length < vectorSize
    · simp only [rustBridgeScanTurn, if_pos hroom]
      cases hrow : state.rows.rows[state.rowOffset]? with
      | some row => exact ⟨_, .of_eq fun _ => rfl, emitRow_lowers hroom⟩
      | none =>
          dsimp only
          by_cases hfinished : state.finished = true
          · exact ⟨.done (.ok output, state), .of_eq fun _ => by rw [if_pos hfinished], trivial⟩
          · simp only [if_neg hfinished]
            obtain ⟨⟨answer, scan⟩, enough, hfetch⟩ := hnext state.scan
            refine ⟨_, (Returns.map ⟨enough, hfetch⟩ _), ?_⟩
            cases answer with
            | error exception => trivial
            | ok batch =>
                -- an empty batch is the last one, so a turn that goes on puts out a row
                dsimp only
                cases hrows : batch.rows with
                | nil =>
                    have hlast := hbatch enough _ batch scan (hfetch enough (Nat.le_refl _)) hrows
                    rw [if_pos hlast]
                    trivial
                | cons row rest => exact emitRow_lowers hroom
    · simp only [rustBridgeScanTurn, if_neg hroom]
      exact ⟨_, .of_eq fun _ => rfl, trivial⟩

/-! ## Events -/

namespace Process

/-- The table is there to be scanned or written to. -/
def HasTable (process : Process σ) (database : Nat) (tableName : String) : Prop :=
  ∃ catalog entry, process.databases.get? database = some catalog ∧
    catalog.mainSchema.lookupEntry tableName = some entry

/-- The event can happen: what it is about is there, and a database that is detached
is not in use. -/
def Enabled (process : Process σ) : ProcessEvent σ → Prop
  | .attach _ _ => True
  | .openScan database tableName _ _ _ => process.HasTable database tableName
  | .scan name => ∃ scan, process.scans.get? name = some scan
  | .closeScan name => ∃ scan, process.scans.get? name = some scan
  | .sink database tableName _ _ _ => process.HasTable database tableName
  | .detach database =>
      (∃ catalog, process.databases.get? database = some catalog) ∧ process.unused database = true
  | .outside _ => True

/-- Every event that can happen returns. -/
theorem step_terminates {env : Environment σ} (ends : EndsListings env.remote rank)
    {process : Process σ} {event : ProcessEvent σ} (h : process.Enabled event) :
    Terminates fun fuel => process.step fuel env event := by
  cases event with
  | attach context path =>
      exact (rustBridgeAttach_terminates ends env.duckdb context path process.world).map _
  | openScan database tableName context calls input =>
      obtain ⟨catalog, entry, hcatalog, hentry⟩ := h
      refine .of_eq (process.openScan env database catalog entry context calls input) fun _ => ?_
      simp only [step, hcatalog, hentry, Option.bind_some, Option.map_some]
  | scan name =>
      obtain ⟨scan, hscan⟩ := h
      have hcall := rustBridgeScan_terminates (nextScanBatch_terminates ends)
        (fun _ _ _ _ => nextScanBatch_empty) env.duckdb env.vectorSize
        (scan.state.withScan (scan.state.scan, process.world))
      simp only [step, hscan, Option.bind_some]
      exact hcall.map _
  | closeScan name =>
      obtain ⟨scan, hscan⟩ := h
      refine .of_eq ({ process with scans := process.scans.clear name }, .ok []) fun _ => ?_
      simp only [step, hscan, Option.map_some]
  | sink database tableName context statement chunk =>
      obtain ⟨catalog, entry, hcatalog, hentry⟩ := h
      refine .of_eq (process.sink env catalog ⟨entry.tableInfo, statement⟩ context chunk)
        fun _ => ?_
      simp only [step, hcatalog, hentry, Option.bind_some, Option.map_some]
  | detach database =>
      obtain ⟨⟨catalog, hcatalog⟩, hunused⟩ := h
      refine .of_eq ({ process with databases := process.databases.clear database }, .ok [])
        fun _ => ?_
      simp only [step, hcatalog, Option.bind_some, if_pos hunused]
  | outside change => exact .of_eq _ fun _ => rfl

/-- An event that cannot happen has no step. -/
theorem step_of_not_enabled {env : Environment σ} {process : Process σ}
    {event : ProcessEvent σ} (h : ¬ process.Enabled event) (fuel : Nat) :
    process.step fuel env event = none := by
  by_contra hstep
  obtain ⟨⟨process', answer⟩, hsome⟩ := Option.ne_none_iff_exists'.mp hstep
  apply h
  cases step_moves hsome with
  | refused => trivial
  | notLoaded => trivial
  | attached => trivial
  | notOpened =>
      obtain ⟨catalog, hcatalog, hmap⟩ := Option.bind_eq_some_iff.mp hsome
      obtain ⟨entry, hentry, _⟩ := Option.map_eq_some_iff.mp hmap
      exact ⟨catalog, entry, hcatalog, hentry⟩
  | opened hcatalog hentry => exact ⟨_, _, hcatalog, hentry⟩
  | scanned hscan => exact ⟨_, hscan⟩
  | closed hscan => exact ⟨_, hscan⟩
  | sunk hcatalog hentry => exact ⟨_, _, hcatalog, hentry⟩
  | detached hunused =>
      obtain ⟨catalog, hcatalog, _⟩ := Option.bind_eq_some_iff.mp hsome
      exact ⟨⟨catalog, hcatalog⟩, hunused⟩
  | outside => trivial

/-- A run whose first step and whose rest return. -/
theorem Returns.run_cons {env : Environment σ} {process mid last : Process σ}
    {event : ProcessEvent σ} {answer : ProcessAnswer} {rest : List (ProcessEvent σ)}
    {history : List (ProcessEvent σ × ProcessAnswer)}
    (hstep : Returns (fun fuel => process.step fuel env event) (mid, answer))
    (hrest : Returns (fun fuel => mid.run fuel env rest) (last, history)) :
    Returns (fun fuel => process.run fuel env (event :: rest))
      (last, (event, answer) :: history) := by
  obtain ⟨n, hstep⟩ := hstep
  obtain ⟨m, hrest⟩ := hrest
  refine ⟨max n m, ?_⟩
  intro fuel hfuel
  have hfirst : process.step fuel env event = some (mid, answer) := hstep fuel (by omega)
  have hlater : mid.run fuel env rest = some (last, history) := hrest fuel (by omega)
  show History.runSteps _ process (event :: rest) = _
  rw [History.runSteps, hfirst]
  exact congrArg (Option.map _) hlater

end Process

/-- **No run hangs.** When the listings of the server end, every list of events makes
a run with enough fuel, up to the first event that cannot happen. -/
theorem runs_return (env : Environment σ) (rank : σ → String → Nat)
    (ends : EndsListings env.remote rank) (events : List (ProcessEvent σ)) :
    ∀ process : Process σ,
      (∃ last history, Returns (fun fuel => process.run fuel env events) (last, history)) ∨
      ∃ before event after mid history, events = before ++ event :: after ∧
        Returns (fun fuel => process.run fuel env before) (mid, history) ∧
        ¬ mid.Enabled event ∧ ∀ fuel, mid.step fuel env event = none := by
  induction events with
  | nil => exact fun process => .inl ⟨process, [], .of_eq fun _ => rfl⟩
  | cons event rest ih =>
      intro process
      by_cases henabled : process.Enabled event
      · obtain ⟨⟨mid, answer⟩, hstep⟩ := Process.step_terminates ends henabled
        rcases ih mid with ⟨last, history, hrest⟩ | ⟨before, stuck, after, last, history, rfl, hbefore,
          hstuck⟩
        · exact .inl ⟨last, _, Process.Returns.run_cons hstep hrest⟩
        · exact .inr ⟨event :: before, stuck, after, last, _, rfl,
            Process.Returns.run_cons hstep hbefore, hstuck⟩
      · exact .inr ⟨[], event, rest, process, [], rfl, .of_eq fun _ => rfl, henabled,
          Process.step_of_not_enabled henabled⟩

/-- The mock server has a reply less for every request it answers. -/
theorem mockRemote_fetch {α : Type} {serde : SerdeJson} {config : RustExtClientConfig}
    {operation : Operation} {decode : String → Except String α}
    {world world' : World (List HttpReply)} {answer : α}
    (h : fetch (mockRemote serde) config operation decode world = (.ok answer, world')) :
    world'.server.length < world.server.length := by
  rcases perform_cases (mockRemote serde) config operation world with
    ⟨message, _, hperform⟩ | ⟨request, reply, server, _, hrespond, hperform⟩ <;>
    rw [fetch, hperform] at h
  · cases h
  · simp only [Prod.mk.injEq] at h
    obtain ⟨hbody, rfl⟩ := h
    cases hreplies : world.server with
    | nil =>
        rw [hreplies] at hrespond
        cases hrespond
        cases hbody
    | cons first rest =>
        rw [hreplies] at hrespond
        cases hrespond
        exact Nat.lt_succ_self _

theorem mockRemote_ends (serde : SerdeJson) :
    EndsListings (mockRemote serde) fun replies _ => replies.length where
  keeps config operation request server token _ _ := by
    cases server with
    | nil => exact Nat.le_refl _
    | cons reply rest => exact Nat.le_succ _
  tables _ _ _ _ _ h _ := mockRemote_fetch h
  columns _ _ _ _ _ _ h _ := mockRemote_fetch h
  rows _ _ _ _ _ _ h _ := mockRemote_fetch h

/-- Two scans with a query, a sort column, both kinds of tokens and a request that
fails. All six events happen, so that it is the first disjunct that holds. -/
theorem runs_return_mock :
    ((Process.start mockFailingServer).run 8 mockRowEnvironment mockTwoScans).map
        (fun result => result.2.length) = some 6 ∧
      ((∃ last history, Returns (fun fuel => (Process.start mockFailingServer).run fuel
          mockRowEnvironment mockTwoScans) (last, history)) ∨
        ∃ before event after mid history, mockTwoScans = before ++ event :: after ∧
          Returns (fun fuel => (Process.start mockFailingServer).run fuel mockRowEnvironment before)
            (mid, history) ∧
          ¬ mid.Enabled event ∧ ∀ fuel, mid.step fuel mockRowEnvironment event = none) :=
  ⟨by decide +kernel, runs_return mockRowEnvironment (fun replies _ => replies.length)
    (mockRemote_ends _) mockTwoScans (.start mockFailingServer)⟩

end DuckdbCoda
