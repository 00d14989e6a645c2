import DuckdbCoda.Lib.Accounts
import DuckdbCoda.Logic.ScanDelivery
import DuckdbCoda.Theorems.Rechunk
import DuckdbCoda.Theorems.ScanExplain

/-!
# No row of a scan is lost or put out twice

Calls of a scan interleave with everything else that happens in a process. In
every run, an open scan has had one conversation with the server about its table,
in the order of the scan protocol, and each row it was answered was taken by
exactly one of its calls or is still in its buffer (`scan_rows_delivered`).
-/

namespace DuckdbCoda

open History

variable {σ : Type} {env : Environment σ} {fuel : Nat}

/-! ## Runs with what they send -/

/-- A step of a run, with what it has put on the wire. -/
structure Record (σ : Type) where
  event : ProcessEvent σ
  answer : ProcessAnswer
  sent : List Exchange

/-- What DuckDB sees of a step. -/
def Record.seen (record : Record σ) : ProcessEvent σ × ProcessAnswer :=
  (record.event, record.answer)

/-- A run that keeps apart what each of its steps sends. -/
def journaled : Recording σ (Record σ) where
  tell process process' event answer := ⟨event, answer, sentSince process.world process'.world⟩
  seen := Record.seen
  seen_tell _ _ _ _ := rfl

def Process.journal (fuel : Nat) (env : Environment σ) (process : Process σ)
    (events : List (ProcessEvent σ)) : Option (Process σ × List (Record σ)) :=
  runSteps (journaled.step fuel env) process events

/-- Every run has a journal. -/
theorem journal_of_run {process process' : Process σ} {events : List (ProcessEvent σ)}
    {history : List (ProcessEvent σ × ProcessAnswer)}
    (h : process.run fuel env events = some (process', history)) :
    ∃ journal, process.journal fuel env events = some (process', journal) ∧
      journal.map Record.seen = history := by
  have hobserved := runSteps_observe (journaled.step fuel env) Record.seen events process
  have hsteps : (fun process event => (journaled.step fuel env process event).map fun result =>
      (result.1, Record.seen result.2)) = fun process event =>
        (process.step fuel env event).map fun result => (result.1, (event, result.2)) := by
    funext process event
    rw [Recording.step, Option.map_map]
    rfl
  rw [hsteps] at hobserved
  obtain ⟨⟨last, journal⟩, hjournal, heq⟩ := Option.map_eq_some_iff.mp (hobserved.trans h)
  cases heq
  exact ⟨journal, hjournal, rfl⟩

/-- What the calls have put on the wire. -/
def sentBy (records : List (Record σ)) : List Exchange := records.flatMap (·.sent)

theorem sentBy_snoc (records : List (Record σ)) (record : Record σ) :
    sentBy (records ++ [record]) = sentBy records ++ record.sent := by
  simp [sentBy]

/-- The log of a run is what its steps have sent. -/
theorem journal_log {process process' : Process σ} {events : List (ProcessEvent σ)}
    {journal : List (Record σ)} (h : process.journal fuel env events = some (process', journal)) :
    process'.world.log = process.world.log ++ sentBy journal := by
  have hsteps : ∀ (mid : Process σ) history event next record,
      mid.world.log = process.world.log ++ sentBy history →
      journaled.step fuel env mid event = some (next, record) →
      next.world.log = process.world.log ++ sentBy (history ++ [record]) := by
    intro mid history event next record hinv hstep
    obtain ⟨answer, hevent, rfl⟩ := Recording.step_some hstep
    obtain ⟨sent, hlog⟩ := step_grows hevent
    rw [sentBy_snoc, ← List.append_assoc, ← hinv, ← hlog]
    exact congrArg (mid.world.log ++ ·) (sentSince_eq hlog.symm).symm
  exact runSteps_invariant hsteps events process process' [] journal (List.append_nil _).symm h

/-! ## A scan and its calls -/

/-- The calls of a scan so far: its account, the rows each call has taken, which are
those of its chunk, and that a chunk with room left was at the end. -/
structure Told (env : Environment σ) (bindData : RustBridgeScanBindData)
    (config : RustExtClientConfig) (input : TableFunctionInitInput) (calls : List (Record σ))
    (state : RustBridgeScanGlobalState ScanHandle) (taken : List (List RustExtRow)) : Prop where
  accounts : Accounts env.remote (bindData.openedScan config) bindData.pushedLimit state
    (sentBy calls) taken.flatten
  shows : Shows bindData.table input.projected state
  read : List.Forall₂ (fun record rows => ∀ chunk, record.answer = .ok chunk →
    List.Forall₂ (fun row values =>
      input.projected.mapM (outputValue env.duckdb bindData.table row) = .ok values) rows chunk)
    calls taken
  ended : ∀ record ∈ calls, ∀ chunk, record.answer = .ok chunk → chunk.length < env.vectorSize →
    LimitReached bindData.pushedLimit taken.flatten ∨ state.RanOut

theorem told_opened {bindData : RustBridgeScanBindData} {config : RustExtClientConfig}
    {input : TableFunctionInitInput} {context : ClientContext}
    {state : RustBridgeScanGlobalState ScanHandle}
    (h : rustBridgeScanInitGlobal context config bindData input = .ok state) :
    Told env bindData config input [] state [] := by
  rw [rustBridgeScanInitGlobal] at h
  split at h
  · cases h
  · cases h
    refine ⟨⟨.asking (pending_new _ _ _) .start, rfl, Nat.le_refl _, Nat.le_refl _, ?_⟩, ⟨rfl, rfl⟩,
      .nil, ?_⟩
    · intro hfinished
      cases hfinished
    · intro record hmem
      cases hmem

/-- A scan that has run out does not go on. -/
theorem RustBridgeScanGlobalState.RanOut.stays {S : Type}
    {next : Nat → S → Option (Except Exception RustExtScanBatch × S)} {duckdb : DuckDb}
    {vectorSize : Nat} {state : RustBridgeScanGlobalState S} (h : state.RanOut)
    {call : ScanCall S} (hcall : rustBridgeScan fuel next duckdb vectorSize state = some call) :
    call.2 = state := by
  have hexhausted : Exhausted state := ⟨h.1, List.getElem?_eq_none_iff.mp h.2⟩
  rw [rustBridgeScan_exhausted hexhausted fuel] at hcall
  cases hcall
  rfl

/-- **One more call.** -/
theorem Told.call {bindData : RustBridgeScanBindData} {config : RustExtClientConfig}
    {input : TableFunctionInitInput} {calls : List (Record σ)}
    {state : RustBridgeScanGlobalState ScanHandle} {taken : List (List RustExtRow)}
    {world : World σ} {call : ScanCall (ScanHandle × World σ)}
    (h : Told env bindData config input calls state taken) (name : Nat)
    (hcall : rustBridgeScan fuel (nextScanBatch env.remote) env.duckdb env.vectorSize
      (state.withScan (state.scan, world)) = some call) :
    ∃ rows, Told env bindData config input
      (calls ++ [⟨.scan name, call.1, sentSince world call.2.scan.2⟩])
      (call.2.withScan call.2.scan.1) (taken ++ [rows]) := by
  obtain ⟨more, rows, account⟩ := rustBridgeScan_accounts h.accounts hcall
  obtain ⟨htable, hcolumns⟩ := h.shows
  have hsent : sentSince world call.2.scan.2 = more := sentSince_eq account.log
  have hflat : (taken ++ [rows]).flatten = taken.flatten ++ rows := by simp
  refine ⟨rows, ?_, ?_, ?_, ?_⟩
  · rw [sentBy_snoc, hflat, hsent]
    exact account.accounts
  · exact ⟨account.shows.1.trans htable, account.shows.2.trans hcolumns⟩
  · refine List.rel_append h.read (.cons ?_ .nil)
    intro chunk hchunk
    refine (account.read chunk hchunk).imp ?_
    intro row values hvalues
    rw [RustBridgeScanGlobalState.Reads, htable, hcolumns] at hvalues
    exact hvalues
  · intro record hmem chunk hchunk hshort
    rw [hflat]
    rcases List.mem_append.mp hmem with hold | hnew
    · -- a scan that was done stays done
      rcases h.ended record hold chunk hchunk hshort with hreached | hran
      · exact .inl (hreached.append rows)
      · have hstays := RustBridgeScanGlobalState.RanOut.stays
          (show (state.withScan (state.scan, world)).RanOut from hran) hcall
        rw [hstays]
        exact .inr hran
    · cases List.mem_singleton.mp hnew
      exact account.short chunk hchunk hshort

/-! ## A process and its journal -/

/-- The scan was opened by an event of the journal, after some calls of the planner,
and what its own calls tell. -/
def ScanTold (env : Environment σ) : ScanRelation (Record σ) :=
  fun journal own catalog name scan => ∃ tableName context planned input entry taken,
    ScanOpened env (journal.map Record.seen) catalog name scan tableName context planned input
      entry ∧
    Told env (bindDataOf env entry planned) catalog.client input own scan.state taken

theorem scansKeep_told (fuel : Nat) (env : Environment σ) :
    ScansKeep fuel env journaled (ScanTold env) where
  later := by
    rintro journal own catalog name scan record ⟨tableName, context, planned, input, entry, taken,
      hopened, told⟩
    refine ⟨tableName, context, planned, input, entry, taken, ?_, told⟩
    rw [List.map_append]
    exact hopened.later record.seen
  opened := by
    intro journal record database catalog tableName entry context planned input state hseen hentry
      hinit
    refine ⟨tableName, context, planned, input, entry, [], ?_, told_opened hinit⟩
    -- the scan has the number of the openings before it
    have hname : journal.countP (scanCalls journaled).isOpening =
        (journal.map Record.seen).countP opensScan := by
      rw [List.countP_map]
      rfl
    have hlast : record.seen = _ := hseen
    rw [hname, List.map_append, List.map_singleton, hlast]
    exact scanOpened_opened hentry hinit
  scanned := by
    rintro journal own catalog name scan process process' call ⟨tableName, context, planned, input,
      entry, taken, hopened, told⟩ hcall hworld
    obtain ⟨rows, told'⟩ := told.call name hcall
    rw [← hworld] at told'
    refine ⟨tableName, context, planned, input, entry, taken ++ [rows], ?_, told'⟩
    rw [List.map_append]
    exact hopened.called hcall _

/-! ## What the journal of a run tells -/

/-- What became of the rows the server has answered the calls of a scan with:
they are those the calls have taken, in order, and those left in the buffer. The
rows of a chunk are read from the ones its call has taken; a call that fails loses
its own. After a chunk with room left nothing is left to ask or to put out,
unless as many rows as the limit were taken. -/
structure ScanDelivered (env : Environment σ) (bindData : RustBridgeScanBindData)
    (config : RustExtClientConfig) (input : TableFunctionInitInput) (calls : List (Record σ))
    (state : RustBridgeScanGlobalState ScanHandle) (taken : List (List RustExtRow)) : Prop where
  conversation : ∃ next,
    Conversation env.remote (bindData.openedScan config) (sentBy calls) next
  rows : answeredRows env.remote.serde (sentBy calls) = taken.flatten ++ state.buffered.rows
  read : List.Forall₂ (fun record rows => ∀ chunk, record.answer = .ok chunk →
    List.Forall₂ (fun row values =>
      input.projected.mapM (outputValue env.duckdb bindData.table row) = .ok values) rows chunk)
    calls taken
  ended : ∀ record ∈ calls, ∀ chunk, record.answer = .ok chunk → chunk.length < env.vectorSize →
    LimitReached bindData.pushedLimit taken.flatten ∨
      (Conversation env.remote (bindData.openedScan config) (sentBy calls) none ∧
        state.buffered.rows = [])

theorem Told.delivered {bindData : RustBridgeScanBindData} {config : RustExtClientConfig}
    {input : TableFunctionInitInput} {calls : List (Record σ)}
    {state : RustBridgeScanGlobalState ScanHandle} {taken : List (List RustExtRow)}
    (h : Told env bindData config input calls state taken) :
    ScanDelivered env bindData config input calls state taken where
  conversation := h.accounts.had.conversation
  rows := h.accounts.rows
  read := h.read
  ended record hmem chunk hchunk hshort := by
    rcases h.ended record hmem chunk hchunk hshort with hreached | hran
    · exact .inl hreached
    · refine (h.accounts.finished hran.1).symm.imp id fun hfinished => ?_
      exact ⟨h.accounts.had.ended hfinished, congrArg RustExtScanBatch.rows (buffered_nil hran.2)⟩

/-- **Rows are neither lost nor put out twice.** In every run each request belongs to
one step, and for a scan that is open at its end: the requests of its calls are
those of a scan that is alone with the server, and the rows it was answered are
accounted for, whatever else has happened in between. -/
theorem scan_rows_delivered (fuel : Nat) (env : Environment σ) (server : σ)
    (events : List (ProcessEvent σ)) (process : Process σ)
    (history : List (ProcessEvent σ × ProcessAnswer))
    (hrun : (Process.start server).run fuel env events = some (process, history)) :
    ∃ journal, (Process.start server).journal fuel env events = some (process, journal) ∧
      journal.map Record.seen = history ∧ process.world.log = sentBy journal ∧
      ∀ name scan, process.scans.get? name = some scan →
        ∃ catalog tableName context planned input entry taken,
          OpenedBy history name scan.database tableName context planned input ∧
          process.databases.get? scan.database = some catalog ∧
          catalog.mainSchema.lookupEntry tableName = some entry ∧
          ScanDelivered env (boundScan env.remote.serde env.duckdb (fun _ => entry) 0 planned)
            catalog.client input ((scanCalls journaled).own name journal) scan.state taken := by
  obtain ⟨journal, hjournal, rfl⟩ := journal_of_run hrun
  have htold := (scansKeep_told fuel env).accounting.run rfl hjournal
  refine ⟨journal, hjournal, rfl, journal_log hjournal, ?_⟩
  intro name scan hscan
  obtain ⟨catalog, hcatalog, tableName, context, planned, input, entry, taken, hopened, told⟩ :=
    htold.objects name scan hscan
  exact ⟨catalog, tableName, context, planned, input, entry, taken, hopened.opened, hcatalog,
    hopened.found, told.delivered⟩

/-- The replies to an ATTACH, and to two scans of which one has a request that fails. -/
def mockFailingServer : List HttpReply :=
  mockCatalogReplies ++ mockRowReplies.take 1 ++ [.failed "connection reset by peer"] ++
    mockRowReplies ++ mockRowReplies.drop 1

/-- A call of the first scan fails; the second scan is read to its end, and then the
rest of the first one. -/
def mockTwoScans : List (ProcessEvent (List HttpReply)) :=
  mockPlanned ++ [.openScan 0 "Tasks" ⟨true, ""⟩ [] ⟨[.rowId], []⟩, .scan 0, .scan 1, .scan 0]

/-- The failed call has lost its row. The first scan has run out, and 8 rows are left of
its limit, so that its last chunk ends in the second of the two ways. -/
theorem scan_rows_delivered_mock :
    ∃ process history, (Process.start mockFailingServer).run 8 mockRowEnvironment mockTwoScans =
        some (process, history) ∧
      history.map (fun event => event.2.toOption) = [some [], some [], some [], none,
        some [[.varchar "r1"], [.varchar "r2"]], some [[.varchar "r2"]]] ∧
      (process.scans.get? 0).map (fun scan => (scan.state.finished, scan.state.remainingRows,
        scan.state.buffered.rows.length)) = some (true, 8, 0) ∧
      ∃ journal, (Process.start mockFailingServer).journal 8 mockRowEnvironment mockTwoScans =
          some (process, journal) ∧
        journal.map Record.seen = history ∧ process.world.log = sentBy journal ∧
        ∀ name scan, process.scans.get? name = some scan →
          ∃ catalog tableName context planned input entry taken,
            OpenedBy history name scan.database tableName context planned input ∧
            process.databases.get? scan.database = some catalog ∧
            catalog.mainSchema.lookupEntry tableName = some entry ∧
            ScanDelivered mockRowEnvironment (boundScan mockRowEnvironment.remote.serde mockDuckDb
              (fun _ => entry) 0 planned) catalog.client input
              ((scanCalls journaled).own name journal) scan.state taken := by
  have hend : ((Process.start mockFailingServer).run 8 mockRowEnvironment mockTwoScans).map
      (fun result => (result.2.map (fun event => event.2.toOption),
        (result.1.scans.get? 0).map fun scan => (scan.state.finished, scan.state.remainingRows,
          scan.state.buffered.rows.length))) =
      some ([some [], some [], some [], none, some [[.varchar "r1"], [.varchar "r2"]],
        some [[.varchar "r2"]]], some (true, 8, 0)) := by
    decide +kernel
  obtain ⟨⟨process, history⟩, hrun, heq⟩ := Option.map_eq_some_iff.mp hend
  simp only [Prod.mk.injEq] at heq
  exact ⟨process, history, hrun, heq.1, heq.2, scan_rows_delivered 8 mockRowEnvironment
    mockFailingServer mockTwoScans process history hrun⟩

end DuckdbCoda
