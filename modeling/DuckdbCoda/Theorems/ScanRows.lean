import DuckdbCoda.Logic.ScanProtocol
import DuckdbCoda.Model.MockCoda

/-!
# A scan follows the protocol

`ScanHandle` is a simulation of the protocol of `Logic.ScanProtocol`: at every
call its two tokens and two flags stand for exactly one pending question
(`Pending`), and a response moves the handle to the question that follows it,
or to `finished` when none does. One `next_batch` call reads the pages up to
the first one with a visible row (`nextBatch_returns`); the calls up to the
finished batch read the whole run (`scan_exact`).
-/

namespace DuckdbCoda

open Loop Paging

variable {σ : Type}

/-! ## The pending question of a handle -/

/-- The handle stands at `question` of the scan it was opened for: the request
it builds next is the one for that question. -/
structure Pending (scan handle : ScanHandle) (question : Question) : Prop where
  running : handle.finished = false
  request : handle.request =
    (question.request scan, { handle with syncCheckDone := question.checked })
  config : handle.config = scan.config
  tableId : handle.tableId = scan.tableId
  query : handle.query = scan.query
  sortBy : handle.sortBy = scan.sortBy
  limit : handle.limit = scan.limit

/-- A fresh handle stands at the first question. -/
theorem pending_new (config : RustExtClientConfig) (tableId : String)
    (request : RustExtScanRequest) :
    Pending (ScanHandle.new config tableId request) (ScanHandle.new config tableId request)
      firstQuestion :=
  ⟨rfl, rfl, rfl, rfl, rfl, rfl, rfl⟩

/-- The handle once the response to its pending question is in. -/
def ScanHandle.answered (handle : ScanHandle) (checked : Bool) (response : CodaRowsResponse) :
    ScanHandle :=
  { handle with syncCheckDone := checked }.advance response

/-- A response with a following question leaves the handle at it. -/
theorem Pending.more {scan handle : ScanHandle} {question question' : Question}
    {response : CodaRowsResponse} (pending : Pending scan handle question)
    (hnext : following question response = some question') :
    Pending scan (handle.answered question.checked response) question' := by
  obtain ⟨hrun, hreq, hconfig, htable, hquery, hsort, hlimit⟩ := pending
  rcases following_cases question response with
    ⟨hpage, hf⟩ | ⟨hpage, hc, hsync, hf⟩ | ⟨_, _, hf⟩ <;> rw [hf] at hnext
  · cases hnext
    refine ⟨?_, ?_, hconfig, htable, hquery, hsort, hlimit⟩
    · simp [ScanHandle.answered, ScanHandle.advance, hrun, hpage]
    · simp [ScanHandle.answered, ScanHandle.advance, ScanHandle.request, ScanHandle.syncDue,
        Question.request, Ask.pageToken, Ask.syncToken, hpage, hquery, hsort, hlimit]
  · cases hnext
    refine ⟨?_, ?_, hconfig, htable, hquery, hsort, hlimit⟩
    · simp [ScanHandle.answered, ScanHandle.advance, hrun, hc, hsync]
    · simp [ScanHandle.answered, ScanHandle.advance, ScanHandle.request, ScanHandle.syncDue,
        Question.request, Ask.pageToken, Ask.syncToken, hpage, hc, hsync, hquery, hsort, hlimit]
  · cases hnext

/-- A response with no following question finishes the handle. -/
theorem answered_finished {handle : ScanHandle} {question : Question}
    {response : CodaRowsResponse} (hnext : following question response = none) :
    (handle.answered question.checked response).finished = true := by
  rcases following_cases question response with ⟨_, hf⟩ | ⟨_, _, _, hf⟩ | ⟨hpage, hend, _⟩
  · rw [hf] at hnext
    cases hnext
  · rw [hf] at hnext
    cases hnext
  · rcases hend with hsync | hchecked
    · simp [ScanHandle.answered, ScanHandle.advance, hpage, hsync]
    · simp [ScanHandle.answered, ScanHandle.advance, hpage, hchecked]

/-! ## One turn and one call of `next_batch` -/

/-- A turn of the loop puts the pending question. -/
theorem nextBatchTurn_asked {remote : Remote σ} {scan handle : ScanHandle} {question : Question}
    {world world' : World σ} {answer : Except String CodaRowsResponse}
    (pending : Pending scan handle question)
    (asked : RowsAnswer remote scan world question answer world') :
    ScanHandle.nextBatchTurn remote (handle, world) =
      match answer with
      | .error message => .done
          (.error message, { handle with syncCheckDone := question.checked }, world')
      | .ok response =>
          let handle := handle.answered question.checked response
          if !(visibleRows response).isEmpty || handle.finished then
            .done (.ok ⟨visibleRows response, handle.finished⟩, handle, world')
          else .next (handle, world') := by
  have hlist : listRows remote handle.config handle.tableId (question.request scan) world =
      (answer, world') := by
    rw [pending.config, pending.tableId]
    exact asked
  have hrunning : ¬ handle.finished = true := by simp [pending.running]
  rw [ScanHandle.nextBatchTurn, if_neg hrunning, pending.request]
  simp only [hlist]
  cases answer <;> rfl

/-- A turn of the loop takes in the response. -/
theorem nextBatchTurn_pending {remote : Remote σ} {scan handle : ScanHandle}
    {question : Question} {world world' : World σ} {response : CodaRowsResponse}
    (pending : Pending scan handle question)
    (answer : RowsAnswer remote scan world question (.ok response) world') :
    ScanHandle.nextBatchTurn remote (handle, world) =
      if !(visibleRows response).isEmpty ||
          (handle.answered question.checked response).finished then
        .done (.ok ⟨visibleRows response, (handle.answered question.checked response).finished⟩,
          handle.answered question.checked response, world')
      else .next (handle.answered question.checked response, world') :=
  nextBatchTurn_asked pending answer

/-- A call that leaves in its first turn. -/
theorem nextBatch_of_done {remote : Remote σ} {handle : ScanHandle} {world : World σ}
    {call : Except String RustExtScanBatch × ScanHandle × World σ}
    (hturn : ScanHandle.nextBatchTurn remote (handle, world) = .done call) :
    Returns (fun fuel => handle.nextBatch fuel remote world) call :=
  .run_done (congrArg some hturn)

/-- A call that goes round again. -/
theorem nextBatch_of_next {remote : Remote σ} {handle handle' : ScanHandle} {world mid : World σ}
    {call : Except String RustExtScanBatch × ScanHandle × World σ}
    (hturn : ScanHandle.nextBatchTurn remote (handle, world) = .next (handle', mid))
    (hrest : Returns (fun fuel => handle'.nextBatch fuel remote mid) call) :
    Returns (fun fuel => handle.nextBatch fuel remote world) call :=
  .run_next (congrArg some hturn) hrest

/-- What one `next_batch` call makes of the rest of a run: it reads some of its
pages and delivers their visible rows. Either these were all of them and the
batch is marked finished, or the batch has a row and the handle stands at the
question after them. -/
theorem nextBatch_returns {remote : Remote σ} {scan handle : ScanHandle} {question : Question}
    {world world' : World σ} {pages : RowsPages}
    (chain : RowsChain remote scan world question pages (.ok ()) world')
    (pending : Pending scan handle question) :
    ∃ read rest batch handle' mid, pages = read ++ rest ∧
      Returns (fun fuel => handle.nextBatch fuel remote world) (.ok batch, handle', mid) ∧
      batch.rows = RowsPages.visible read ∧
      ((rest = [] ∧ batch.finished = true ∧ handle'.finished = true ∧ mid = world') ∨
        (rest.length < pages.length ∧ batch.finished = false ∧ batch.rows ≠ [] ∧
          ∃ question', Pending scan handle' question' ∧
            RowsChain remote scan mid question' rest (.ok ()) world')) := by
  generalize hout : (Except.ok () : Except String Unit) = outcome at chain
  induction chain generalizing handle with
  | failed => cases hout
  | @last world question response world' answer hnext =>
      have hturn := nextBatchTurn_pending pending answer
      have hfinished : (handle.answered question.checked response).finished = true :=
        answered_finished hnext
      rw [hfinished, Bool.or_true, if_pos rfl] at hturn
      exact ⟨[(question, response)], [], ⟨visibleRows response, true⟩, _, _, rfl,
        nextBatch_of_done hturn, by simp [RowsPages.visible], .inl ⟨rfl, rfl, hfinished, rfl⟩⟩
  | @more world question response mid question' rest outcome world' answer hnext chain ih =>
      subst hout
      have hturn := nextBatchTurn_pending pending answer
      have pending' := pending.more hnext
      rw [pending'.running, Bool.or_false] at hturn
      cases hrows : visibleRows response with
      | nil =>
          -- every row of the page is deleted: the loop goes round again
          rw [hrows, List.isEmpty_nil, Bool.not_true, if_neg (by simp)] at hturn
          obtain ⟨read, rest', batch, handle', mid', hsplit, hcall, hbatch, hcases⟩ :=
            ih pending' rfl
          refine ⟨(question, response) :: read, rest', batch, handle', mid', by rw [hsplit]; rfl,
            nextBatch_of_next hturn hcall, ?_, ?_⟩
          · simp [RowsPages.visible, hbatch, hrows]
          · rcases hcases with hdone | ⟨hlt, hgoing⟩
            · exact .inl hdone
            · exact .inr ⟨by simp only [List.length_cons]; omega, hgoing⟩
      | cons row rows =>
          -- the page has a visible row: the call returns it at once
          rw [hrows, List.isEmpty_cons, Bool.not_false, if_pos rfl] at hturn
          exact ⟨[(question, response)], rest, ⟨row :: rows, false⟩, _, _, rfl,
            nextBatch_of_done hturn, by simp [RowsPages.visible, hrows],
            .inr ⟨by simp, rfl, by simp, question', pending', chain⟩⟩

/-- A finished handle delivers the empty finished batch and asks nothing. -/
theorem nextBatch_finished {remote : Remote σ} {handle : ScanHandle} (world : World σ)
    (h : handle.finished = true) (fuel : Nat) :
    handle.nextBatch (fuel + 1) remote world = some (.ok ⟨[], true⟩, handle, world) := by
  have hturn : ScanHandle.nextBatchTurn remote (handle, world) =
      .done (.ok ⟨[], true⟩, handle, world) := by
    simp [ScanHandle.nextBatchTurn, h]
  exact run_succ_done (congrArg some hturn) fuel

/-! ## The calls up to the finished batch -/

/-- A batch without rows is the finished one. -/
def EmptyOnlyAtEnd (batches : List RustExtScanBatch) : Prop :=
  ∀ batch ∈ batches, batch.rows = [] → batch.finished = true

/-- Repeated calls read a whole run, whatever batches they start from. -/
theorem collect_returns {remote : Remote σ} {scan : ScanHandle} {world' : World σ} :
    ∀ (n : Nat) {handle : ScanHandle} {question : Question} {world : World σ} {pages : RowsPages},
      pages.length ≤ n →
      RowsChain remote scan world question pages (.ok ()) world' →
      Pending scan handle question →
      ∃ batches handle', (∀ acc, LoopReturns (ScanHandle.collectTurn remote) (acc, handle, world)
          (.ok (acc ++ batches), handle', world')) ∧
        batches.flatMap (·.rows) = pages.visible ∧ EmptyOnlyAtEnd batches ∧
        handle'.finished = true := by
  intro n
  induction n with
  | zero =>
      intro handle question world pages hlen chain _
      exact absurd (List.length_eq_zero_iff.mp (Nat.le_zero.mp hlen)) chain.linked.ne_nil
  | succ n ih =>
      intro handle question world pages hlen chain pending
      obtain ⟨read, rest, batch, handle', mid, hsplit, ⟨fuel, hcall⟩, hbatch, hcases⟩ :=
        nextBatch_returns chain pending
      rcases hcases with ⟨rfl, hfin, hfin', rfl⟩ | ⟨hlt, hfin, hrows, question', pending', chain'⟩
      · -- the call read the rest of the run
        refine ⟨[batch], handle', fun acc => .done ⟨fuel, fun k hk => ?_⟩, ?_, ?_, hfin'⟩
        · simp [ScanHandle.collectTurn, hcall k hk, hfin]
        · simp [hbatch, hsplit]
        · intro b hb _
          rw [List.mem_singleton.mp hb]
          exact hfin
      · -- pages are left, fewer than before, and the handle stands at the first of them
        obtain ⟨batches, last, hloop, hvisible, hempty, hlast⟩ :=
          ih (by omega) chain' pending'
        refine ⟨batch :: batches, last, fun acc => .next
          ⟨fuel, fun k hk => by simp [ScanHandle.collectTurn, hcall k hk, hfin]; rfl⟩
          (by simpa using hloop (acc ++ [batch])), ?_, ?_, hlast⟩
        · rw [List.flatMap_cons, hvisible, hbatch, hsplit]
          simp [RowsPages.visible]
        · intro b hb hnil
          rcases List.mem_cons.mp hb with rfl | hb
          · exact absurd hnil hrows
          · exact hempty b hb hnil

/-- The rows operations of a run. -/
theorem RowsChain.operations {remote : Remote σ} {scan : ScanHandle} {question : Question}
    {world world' : World σ} {pages : RowsPages}
    (chain : RowsChain remote scan world question pages (.ok ()) world') :
    world'.operations = world.operations ++
      (pages.requests scan).map (listRowsOperation scan.config scan.tableId) := by
  have h := Chain.trace World.operations
    (fun question _ => [listRowsOperation scan.config scan.tableId (question.request scan)])
    (fun _ _ _ _ answer => fetch_ok_operations answer) chain
  rw [h]
  simp [RowsPages.requests, List.map_eq_flatMap, List.flatMap_assoc]

/-- **A scan follows its tokens exactly.** Along a finite token chain whose
requests all succeed, the calls of a fresh handle up to the finished batch
issue one request per question of the chain and deliver the rows not flagged
deleted, in response order; a batch is empty only if it is marked finished, and
further calls deliver the empty finished batch without a request. The questions
follow the tokens of the responses: the first carries none, every other one
carries exactly one, and at most one carries a sync token. The fields of the
operations are those `ScanHandle.Sound.request` tells. -/
theorem scan_exact (remote : Remote σ) (config : RustExtClientConfig) (tableId : String)
    (request : RustExtScanRequest) (world world' : World σ) (pages : RowsPages)
    (chain : RowsChain remote (ScanHandle.new config tableId request) world firstQuestion pages
      (.ok ()) world') :
    let scan := ScanHandle.new config tableId request
    (∃ batches handle',
      Returns (fun fuel => scan.collect fuel remote world) (.ok batches, handle', world') ∧
      batches.flatMap (·.rows) = pages.visible ∧
      EmptyOnlyAtEnd batches ∧
      ∀ later fuel, handle'.nextBatch (fuel + 1) remote later =
        some (.ok ⟨[], true⟩, handle', later)) ∧
    world'.operations = world.operations ++
      (pages.requests scan).map (listRowsOperation config tableId) ∧
    Linked following firstQuestion pages ∧
    (pages.requests scan).head? = some (firstQuestion.request scan) ∧
    (∀ request ∈ pages.requests scan, request.pageToken = "" ∨ request.syncToken = "") ∧
    (∀ request ∈ (pages.requests scan).tail, request.pageToken ≠ "" ∨ request.syncToken ≠ "") ∧
    pages.syncChecks ≤ 1 := by
  intro scan
  have linked := chain.linked
  refine ⟨?_, chain.operations, linked, ?_, ?_, requests_tail_token linked,
    syncChecks_le_one linked rfl⟩
  · obtain ⟨batches, handle', hloop, hvisible, hempty, hfinished⟩ :=
      collect_returns pages.length (Nat.le_refl _) chain (pending_new config tableId request)
    refine ⟨batches, handle', ?_, hvisible, hempty, fun later fuel =>
      nextBatch_finished later hfinished fuel⟩
    exact (hloop []).returns
  · have hhead := congrArg (Option.map (Question.request scan)) linked.head_eq
    rw [← List.head?_map, List.map_map] at hhead
    exact hhead
  · intro issued hmem
    obtain ⟨page, _, rfl⟩ := List.mem_map.mp hmem
    exact page.1.ask.one_token

/-! ## A document that changes while it is scanned -/

/-- A listing of two pages, and a sync check that reports its first row again. -/
def mockChangedTexts : List (String × Json) := [
  ("\x7b\"items\":[\x7b\"id\":\"r1\"\x7d,\x7b\"id\":\"r2\",\"deleted\":true\x7d],\"nextPageToken\":\"p2\"\x7d",
    .object [("items", .array [.object [("id", .string "r1")],
        .object [("deleted", .bool true), ("id", .string "r2")]]),
      ("nextPageToken", .string "p2")]),
  ("\x7b\"items\":[],\"nextSyncToken\":\"s1\"\x7d",
    .object [("items", .array []), ("nextSyncToken", .string "s1")]),
  ("\x7b\"items\":[\x7b\"id\":\"r1\",\"updatedAt\":\"now\"\x7d]\x7d",
    .object [("items", .array [.object [("id", .string "r1"), ("updatedAt", .string "now")]])])]

def mockChangedRemote : Remote (List HttpReply) :=
  mockRemote (mockSerde mockChangedTexts fun _ => "")

def mockChangedWorld : World (List HttpReply) :=
  mockWorld (mockChangedTexts.map fun text => ok200 text.1)

def mockScanRequest : RustExtScanRequest := ⟨"", "", 0⟩

def mockScan : ScanHandle := ScanHandle.new mockConfig "tbl1" mockScanRequest

def mockChangedPages : RowsPages := [
  (⟨false, .start⟩, ⟨[bareRow "r1" "" false, bareRow "r2" "" true], "p2", ""⟩),
  (⟨false, .page "p2"⟩, ⟨[], "", "s1"⟩),
  (⟨true, .sync "s1"⟩, ⟨[bareRow "r1" "now" false], "", ""⟩)]

theorem mockChanged_chain : ∃ world', RowsChain mockChangedRemote mockScan mockChangedWorld
    firstQuestion mockChangedPages (.ok ()) world' :=
  ⟨_, .more rfl rfl (.more rfl rfl (.last rfl rfl))⟩

/-- The scan of the changing document makes three requests. -/
theorem scan_exact_mock :
    ∃ world', world'.operations =
        (mockChangedPages.requests mockScan).map (listRowsOperation mockConfig "tbl1") ∧
      ∃ batches handle',
        Returns (fun fuel => mockScan.collect fuel mockChangedRemote mockChangedWorld)
          (.ok batches, handle', world') ∧
        batches.flatMap (·.rows) = [bareRow "r1" "" false, bareRow "r1" "now" false] := by
  obtain ⟨world', chain⟩ := mockChanged_chain
  obtain ⟨⟨batches, handle', hreturns, hvisible, -⟩, hops, -⟩ :=
    scan_exact mockChangedRemote mockConfig "tbl1" mockScanRequest mockChangedWorld world'
      mockChangedPages chain
  exact ⟨world', hops.trans rfl, batches, handle', hreturns, hvisible.trans rfl⟩

/-! ## Rows the sync check reports again -/

/-- The pages before the sync check. -/
def RowsPages.listing (pages : RowsPages) : RowsPages := pages.filter fun page => !page.1.checked

/-- The pages of the sync check. -/
def RowsPages.syncAnswer (pages : RowsPages) : RowsPages := pages.filter fun page => page.1.checked

/-- The ids of all rows of the pages, the deleted ones included. -/
def RowsPages.rowIds (pages : RowsPages) : List String :=
  pages.flatMap fun page => page.2.rows.map (·.id)

/-- The ids of the rows not flagged deleted. -/
def RowsPages.visibleIds (pages : RowsPages) : List String := pages.visible.map (·.id)

/-- The sync check reports no row twice, and none that is still there and was
listed before. -/
def RowsPages.SyncReportsNewRows (pages : RowsPages) : Prop :=
  pages.syncAnswer.visibleIds.Nodup ∧
    ∀ id ∈ pages.syncAnswer.visibleIds, id ∉ pages.listing.visibleIds

/-- The sync check comes after the listing. -/
theorem listing_append_syncAnswer {question : Question} {pages : RowsPages}
    (linked : Linked following question pages) :
    pages = pages.listing ++ pages.syncAnswer := by
  induction linked with
  | @last question response _ =>
      cases hc : question.checked <;> simp [RowsPages.listing, RowsPages.syncAnswer, hc]
  | @more question response question' rest hnext linked ih =>
      cases hc : question.checked with
      | false =>
          have hcons : RowsPages.listing ((question, response) :: rest) =
              (question, response) :: RowsPages.listing rest := by simp [RowsPages.listing, hc]
          have hsync : RowsPages.syncAnswer ((question, response) :: rest) =
              RowsPages.syncAnswer rest := by simp [RowsPages.syncAnswer, hc]
          rw [hcons, hsync, List.cons_append, ← ih]
      | true =>
          -- no link leads from the sync check back to the listing
          have hchecked : ∀ page ∈ (question, response) :: rest, page.1.checked = true := by
            have htail := (Linked.more hnext linked).forall_tail
              (fun question => question.checked = true) (fun question => question.checked = true)
              (fun question page question' hinv hlink => by
                rcases following_sync hlink with ⟨hsame, _⟩ | ⟨_, hc'⟩
                · exact ⟨hsame.trans hinv, hsame.trans hinv⟩
                · exact ⟨hc', hc'⟩) hc
            intro page hpage
            rcases List.mem_cons.mp hpage with rfl | hpage
            · exact hc
            · exact htail page hpage
          have hlisting : RowsPages.listing ((question, response) :: rest) = [] :=
            List.filter_eq_nil_iff.mpr fun page hpage => by simp [hchecked page hpage]
          have hsync : RowsPages.syncAnswer ((question, response) :: rest) =
              (question, response) :: rest :=
            List.filter_eq_self.mpr fun page hpage => hchecked page hpage
          rw [hlisting, hsync, List.nil_append]

/-- The visible rows are among the rows. -/
theorem visibleIds_sublist (pages : RowsPages) : pages.visibleIds.Sublist pages.rowIds := by
  induction pages with
  | nil => exact .slnil
  | cons page rest ih =>
      have hpage : ((visibleRows page.2).map (·.id)).Sublist (page.2.rows.map (·.id)) :=
        List.filter_sublist.map _
      have h := hpage.append ih
      simpa [RowsPages.visibleIds, RowsPages.visible, RowsPages.rowIds, visibleRows] using h

/-- **When a scan yields each row at most once.** The rows of a scan whose
listing has pairwise distinct row ids have pairwise distinct row ids exactly if
the sync check reports new rows only: a row that was returned and is reported
changed is returned again. -/
theorem scan_rows_nodup_iff (remote : Remote σ) (config : RustExtClientConfig) (tableId : String)
    (request : RustExtScanRequest) (world world' : World σ) (pages : RowsPages)
    (chain : RowsChain remote (ScanHandle.new config tableId request) world firstQuestion pages
      (.ok ()) world')
    (distinct : pages.listing.rowIds.Nodup) :
    ∃ batches handle',
      Returns (fun fuel => (ScanHandle.new config tableId request).collect fuel remote world)
        (.ok batches, handle', world') ∧
      (((batches.flatMap (·.rows)).map (·.id)).Nodup ↔ pages.SyncReportsNewRows) := by
  obtain ⟨batches, handle', hloop, hvisible, _, _⟩ :=
    collect_returns pages.length (Nat.le_refl _) chain (pending_new config tableId request)
  refine ⟨batches, handle', (hloop []).returns, ?_⟩
  have hsplit : pages.visible = pages.listing.visible ++ pages.syncAnswer.visible := by
    have h := congrArg RowsPages.visible (listing_append_syncAnswer chain.linked)
    simpa [RowsPages.visible] using h
  have hids : (batches.flatMap (·.rows)).map (·.id) =
      pages.listing.visibleIds ++ pages.syncAnswer.visibleIds := by
    rw [hvisible, hsplit, List.map_append]
    rfl
  have hlisting : pages.listing.visibleIds.Nodup := distinct.sublist (visibleIds_sublist _)
  rw [hids, List.nodup_append]
  constructor
  · rintro ⟨_, hsync, hdisjoint⟩
    exact ⟨hsync, fun id hid hmem => hdisjoint id hmem id hid rfl⟩
  · rintro ⟨hsync, hdisjoint⟩
    exact ⟨hlisting, hsync, fun id hmem id' hid heq => hdisjoint id' hid (heq ▸ hmem)⟩

/-- The row that changed is delivered twice, before and after the change. -/
theorem changed_row_delivered_twice :
    ∃ (pages : RowsPages) (batches : List RustExtScanBatch) (handle' : ScanHandle)
        (world' : World (List HttpReply)),
      RowsChain mockChangedRemote mockScan mockChangedWorld firstQuestion pages (.ok ()) world' ∧
      pages.listing.rowIds = ["r1", "r2"] ∧ pages.listing.rowIds.Nodup ∧
      mockScan.collect 3 mockChangedRemote mockChangedWorld =
        some (.ok batches, handle', world') ∧
      (batches.flatMap (·.rows)).map (·.id) = ["r1", "r1"] ∧
      ¬ ((batches.flatMap (·.rows)).map (·.id)).Nodup := by
  refine ⟨mockChangedPages, [⟨[bareRow "r1" "" false], false⟩, ⟨[bareRow "r1" "now" false], true⟩],
    _, _, .more rfl rfl (.more rfl rfl (.last rfl rfl)), rfl, ?_, rfl, rfl, ?_⟩
  · show ["r1", "r2"].Nodup
    decide
  · show ¬ ["r1", "r1"].Nodup
    decide

/-- On the changing document neither side holds. -/
theorem scan_rows_nodup_iff_mock :
    ∃ batches handle' world',
      Returns (fun fuel => mockScan.collect fuel mockChangedRemote mockChangedWorld)
        (.ok batches, handle', world') ∧
      (((batches.flatMap (·.rows)).map (·.id)).Nodup ↔ mockChangedPages.SyncReportsNewRows) := by
  obtain ⟨world', chain⟩ := mockChanged_chain
  have distinct : mockChangedPages.listing.rowIds.Nodup := by
    show ["r1", "r2"].Nodup
    decide
  obtain ⟨batches, handle', h⟩ := scan_rows_nodup_iff mockChangedRemote mockConfig "tbl1"
    mockScanRequest mockChangedWorld world' mockChangedPages chain distinct
  exact ⟨batches, handle', world', h⟩

end DuckdbCoda
