import DuckdbCoda.Lib.History
import DuckdbCoda.Logic.ListedColumns
import DuckdbCoda.Logic.ScanProtocol

/-!
# Listings of rows

All requests of a scan are one listing: they differ in their tokens only. A token
that is sent was issued by the server in an answer to the same listing, and a row
that a scan hands out was in such an answer and not flagged deleted. The handle
keeps that (`nextBatch_sound`), whatever other requests come in between.
-/

namespace DuckdbCoda

open Loop History

variable {σ : Type} {serde : SerdeJson} {log log' : List Exchange} {asked : ListRowsInput}

/-! ## Answers to a listing -/

/-- What the requests of a listing have in common. -/
def ListRowsInput.listing (input : ListRowsInput) : ListRowsInput :=
  { input with pageToken := none, syncToken := none }

/-- The log holds this answer to a request of the listing. -/
def AnsweredWith (serde : SerdeJson) (log : List Exchange) (asked : ListRowsInput)
    (response : CodaRowsResponse) : Prop :=
  ∃ exchange ∈ log, ∃ input body,
    exchange.operation = .listRows input ∧ input.listing = asked ∧
    exchange.reply = .answered exchange.request.expectedStatus (.ok body) ∧
    rowsFromJson serde body = .ok response

/-- A row of the listing that the server has shown. -/
def Shown (serde : SerdeJson) (log : List Exchange) (asked : ListRowsInput) (row : RustExtRow) :
    Prop :=
  ∃ response, AnsweredWith serde log asked response ∧ row ∈ visibleRows response

/-- A token that is empty or was issued in an answer to the listing. -/
def Issued (serde : SerdeJson) (log : List Exchange) (asked : ListRowsInput)
    (issue : CodaRowsResponse → String) (token : String) : Prop :=
  token = "" ∨ ∃ response, AnsweredWith serde log asked response ∧ issue response = token

/-- The equality of a column that was listed for the table as one to filter by with
a value that is not null. -/
def EqualityQuery (serde : SerdeJson) (log : List Exchange) (docId tableId query : String) :
    Prop :=
  ∃ column value, ListedColumn serde log docId tableId column ∧
    hasBit column.capabilities columnFilterEquality = true ∧ value ≠ RustExtInputValue.null ∧
    query = column.id ++ ":" ++ serde.toString (inputValueJson value)

theorem AnsweredWith.mono {response : CodaRowsResponse} (hlog : log ⊆ log')
    (h : AnsweredWith serde log asked response) : AnsweredWith serde log' asked response := by
  obtain ⟨exchange, hmem, h⟩ := h
  exact ⟨exchange, hlog hmem, h⟩

theorem Shown.mono {row : RustExtRow} (hlog : log ⊆ log') (h : Shown serde log asked row) :
    Shown serde log' asked row := by
  obtain ⟨response, hanswered, hmem⟩ := h
  exact ⟨response, hanswered.mono hlog, hmem⟩

theorem Issued.mono {issue : CodaRowsResponse → String} {token : String} (hlog : log ⊆ log')
    (h : Issued serde log asked issue token) : Issued serde log' asked issue token := by
  rcases h with hempty | ⟨response, hanswered, hissue⟩
  · exact .inl hempty
  · exact .inr ⟨response, hanswered.mono hlog, hissue⟩

theorem EqualityQuery.mono {docId tableId query : String} (hlog : log ⊆ log')
    (h : EqualityQuery serde log docId tableId query) :
    EqualityQuery serde log' docId tableId query := by
  obtain ⟨column, value, hlisted, h⟩ := h
  exact ⟨column, value, hlisted.mono hlog, h⟩

/-! ## Requests for rows -/

/-- What a request for rows is like after the exchanges before it. -/
structure WellFormedRequest (serde : SerdeJson) (before : List Exchange) (input : ListRowsInput) :
    Prop where
  format : input.useColumnNames = some false ∧ input.valueFormat = some "simpleWithArrays" ∧
    input.visibleOnly = some false
  limit : ∃ limit, input.limit = some limit ∧ 0 < limit ∧ limit ≤ 500
  sortBy : ∀ column, input.sortBy = some column → column = "createdAt" ∨ column = "updatedAt"
  query : ∀ query, input.query = some query →
    EqualityQuery serde before input.docId input.tableIdOrName query
  oneToken : input.pageToken = none ∨ input.syncToken = none
  pageToken : ∀ token, input.pageToken = some token →
    ∃ response, AnsweredWith serde before input.listing response ∧ response.nextPageToken = token
  syncToken : ∀ token, input.syncToken = some token →
    ∃ response, AnsweredWith serde before input.listing response ∧ response.nextSyncToken = token

/-- Every request for rows of the log is well formed. -/
def WellFormedLog (serde : SerdeJson) : List Exchange → Prop :=
  Ordered fun before exchange => ∀ input, exchange.operation = .listRows input →
    WellFormedRequest serde before input

/-- Requests for anything else do no harm. -/
theorem WellFormedLog.append {sent : List Exchange} (h : WellFormedLog serde log)
    (hsent : ∀ exchange ∈ sent, ∀ input, exchange.operation ≠ .listRows input) :
    WellFormedLog serde (log ++ sent) :=
  Ordered.append h fun exchange hmem _ input heq => absurd heq (hsent exchange hmem input)

/-! ## The handle -/

/-- The listing a handle asks for. -/
def ScanHandle.listing (handle : ScanHandle) : ListRowsInput where
  docId := handle.config.resource
  tableIdOrName := handle.tableId
  query := nonEmptyString handle.query
  sortBy := nonEmptyString handle.sortBy
  useColumnNames := some false
  valueFormat := some "simpleWithArrays"
  visibleOnly := some false
  limit := some handle.limit
  pageToken := none
  syncToken := none

/-- Whatever a request asks for, the pages of a handle have a size. -/
theorem ScanHandle.new_limit (config : RustExtClientConfig) (tableId : String)
    (request : RustExtScanRequest) :
    0 < (ScanHandle.new config tableId request).limit ∧
      (ScanHandle.new config tableId request).limit ≤ 500 := by
  show 0 < (if request.limit = 0 then 500 else min request.limit 500) ∧
    (if request.limit = 0 then 500 else min request.limit 500) ≤ 500
  split <;> omega

/-- A handle between two calls. -/
structure ScanHandle.Sound (serde : SerdeJson) (log : List Exchange) (handle : ScanHandle) :
    Prop where
  limit : 0 < handle.limit ∧ handle.limit ≤ 500
  sortBy : handle.sortBy = "" ∨ handle.sortBy = "createdAt" ∨ handle.sortBy = "updatedAt"
  query : handle.query = "" ∨
    EqualityQuery serde log handle.config.resource handle.tableId handle.query
  pageToken : Issued serde log handle.listing (·.nextPageToken) handle.nextPageToken
  syncToken : Issued serde log handle.listing (·.nextSyncToken) handle.nextSyncToken

theorem ScanHandle.Sound.mono {handle : ScanHandle} (hlog : log ⊆ log')
    (h : handle.Sound serde log) : handle.Sound serde log' where
  limit := h.limit
  sortBy := h.sortBy
  query := h.query.imp_right (EqualityQuery.mono hlog)
  pageToken := h.pageToken.mono hlog
  syncToken := h.syncToken.mono hlog

/-- A token that is sent is not empty. -/
theorem Issued.of_some {issue : CodaRowsResponse → String} {token sent : String}
    (h : Issued serde log asked issue token) (hsent : nonEmptyString token = some sent) :
    ∃ response, AnsweredWith serde log asked response ∧ issue response = sent := by
  obtain ⟨rfl, hempty⟩ := nonEmptyString_eq_some.mp hsent
  exact h.resolve_left hempty

/-- The request of a sound handle is well formed. -/
theorem ScanHandle.Sound.request {handle : ScanHandle} (h : handle.Sound serde log)
    {input : ListRowsInput}
    (hinput : listRowsOperation handle.config handle.tableId handle.request.1 = .listRows input) :
    WellFormedRequest serde log input ∧ input.listing = handle.listing := by
  cases hinput
  refine ⟨⟨⟨rfl, rfl, rfl⟩, ⟨handle.limit, rfl, h.limit⟩, ?_, ?_, ?_, ?_, ?_⟩, rfl⟩
  · intro column hcolumn
    obtain ⟨rfl, hempty⟩ := nonEmptyString_eq_some.mp hcolumn
    exact h.sortBy.resolve_left hempty
  · intro query hquery
    obtain ⟨rfl, hempty⟩ := nonEmptyString_eq_some.mp hquery
    exact h.query.resolve_left hempty
  · -- a sync token is due only when there is no page token
    by_cases hdue : handle.syncDue = true
    · left
      simp only [ScanHandle.syncDue, Bool.and_eq_true] at hdue
      exact nonEmptyString_eq_none.mpr (String.isEmpty_iff.mp hdue.1.1)
    · right
      simp [ScanHandle.request, hdue, nonEmptyString]
  · exact fun token htoken => h.pageToken.of_some htoken
  · intro token htoken
    by_cases hdue : handle.syncDue = true
    · refine h.syncToken.of_some ?_
      simpa [ScanHandle.request, hdue] using htoken
    · simp [ScanHandle.request, hdue, nonEmptyString] at htoken

/-! ## `next_batch` -/

variable {remote : Remote σ} {fuel : Nat}

/-- A `fetch` adds one exchange of its operation to the log, or nothing. -/
theorem fetch_snoc {α : Type} {config : RustExtClientConfig} {operation : Operation}
    {decode : String → Except String α} {world world' : World σ} {answer : Except String α}
    (h : fetch remote config operation decode world = (answer, world')) :
    world'.log = world.log ∨
      ∃ exchange, exchange.operation = operation ∧ world'.log = world.log ++ [exchange] := by
  rcases perform_cases remote config operation world with
    ⟨message, _, hp⟩ | ⟨request, reply, server, _, _, hp⟩ <;>
    simp only [fetch, hp, Prod.mk.injEq] at h <;> obtain ⟨_, rfl⟩ := h
  · exact .inl rfl
  · exact .inr ⟨⟨operation, request, reply⟩, rfl, rfl⟩

/-- Between two logs only requests of the listing were sent. -/
def AsksListing (asked : ListRowsInput) (before after : List Exchange) : Prop :=
  ∃ sent, after = before ++ sent ∧
    ∀ exchange ∈ sent, ∃ input, exchange.operation = .listRows input ∧ input.listing = asked

variable {start : List Exchange}

theorem AsksListing.refl (log : List Exchange) : AsksListing asked log log :=
  ⟨[], (List.append_nil _).symm, fun _ h => by cases h⟩

theorem AsksListing.snoc (h : AsksListing asked start log) {exchange : Exchange}
    {input : ListRowsInput} (hoperation : exchange.operation = .listRows input)
    (hlisting : input.listing = asked) : AsksListing asked start (log ++ [exchange]) := by
  obtain ⟨sent, rfl, hsent⟩ := h
  refine ⟨sent ++ [exchange], List.append_assoc _ _ _, ?_⟩
  intro other hmem
  rcases List.mem_append.mp hmem with hmem | hmem
  · exact hsent other hmem
  · rw [List.mem_singleton.mp hmem]
    exact ⟨input, hoperation, hlisting⟩

theorem AsksListing.grows (h : AsksListing asked start log) : start <+: log := by
  obtain ⟨sent, hlog, _⟩ := h
  exact ⟨sent, hlog.symm⟩

/-- A handle on a listing, over a well-formed log that goes on from an earlier one
with requests of the listing. -/
structure Listing (serde : SerdeJson) (asked : ListRowsInput) (start : List Exchange)
    (handle : ScanHandle) (world : World σ) : Prop where
  listing : handle.listing = asked
  sound : handle.Sound serde world.log
  log : WellFormedLog serde world.log
  asks : AsksListing asked start world.log

/-- One request of a handle. -/
theorem Listing.listRows {handle : ScanHandle} {world world' : World σ}
    {answer : Except String CodaRowsResponse} (h : Listing remote.serde asked start handle world)
    (hlist : listRows remote handle.request.2.config handle.request.2.tableId handle.request.1
      world = (answer, world')) :
    Listing remote.serde asked start handle.request.2 world' ∧
      ∀ response, answer = .ok response →
        Listing remote.serde asked start (handle.request.2.advance response) world' ∧
        ∀ row ∈ visibleRows response, Shown remote.serde world'.log asked row := by
  have hlog : WellFormedLog remote.serde world'.log ∧ AsksListing asked start world'.log := by
    rcases fetch_snoc hlist with hsame | ⟨exchange, hoperation, hsnoc⟩
    · -- the request could not be built
      rw [hsame]
      exact ⟨h.log, h.asks⟩
    · rw [hsnoc]
      have hrequest := h.sound.request rfl
      refine ⟨h.log.snoc ?_, h.asks.snoc hoperation (hrequest.2.trans h.listing)⟩
      intro input hinput
      exact (h.sound.request (hoperation ▸ hinput)).1
  have hgrows := fetch_log_grows hlist
  have hsound := h.sound.mono hgrows.subset
  refine ⟨⟨h.listing, ⟨hsound.limit, hsound.sortBy, hsound.query, hsound.pageToken,
    hsound.syncToken⟩, hlog.1, hlog.2⟩, ?_⟩
  rintro response rfl
  have hanswered : AnsweredWith remote.serde world'.log asked response := by
    obtain ⟨exchange, body, hsnoc, hoperation, hreply, hdecode⟩ := fetch_ok hlist
    refine ⟨exchange, ?_, _, body, hoperation, ?_, hreply, hdecode⟩
    · rw [hsnoc]
      exact List.mem_append_right _ List.mem_cons_self
    · exact h.listing
  -- the tokens the handle goes on with are those of this response
  have hissued : ∀ issue : CodaRowsResponse → String,
      Issued remote.serde world'.log handle.listing issue (issue response) :=
    fun issue => .inr ⟨response, h.listing ▸ hanswered, rfl⟩
  exact ⟨⟨h.listing, ⟨hsound.limit, hsound.sortBy, hsound.query, hissued _, hissued _⟩, hlog.1,
    hlog.2⟩, fun row hrow => ⟨response, hanswered, hrow⟩⟩

/-- The rows of a batch were shown. -/
def RowsShown (serde : SerdeJson) (log : List Exchange) (asked : ListRowsInput)
    (batch : RustExtScanBatch) : Prop :=
  ∀ row ∈ batch.rows, Shown serde log asked row

/-- **A batch**: the handle stays on its listing, and the rows were shown. -/
theorem nextBatch_listing {handle handle' : ScanHandle} {world world' : World σ}
    {answer : Except String RustExtScanBatch} (h : Listing remote.serde asked start handle world)
    (hnext : handle.nextBatch fuel remote world = some (answer, handle', world')) :
    Listing remote.serde asked start handle' world' ∧
      ∀ batch, answer = .ok batch → RowsShown remote.serde world'.log asked batch :=
  run_invariant (fun state : ScanHandle × World σ =>
      Listing remote.serde asked start state.1 state.2)
    (fun result : Except String RustExtScanBatch × ScanHandle × World σ =>
      Listing remote.serde asked start result.2.1 result.2.2 ∧
        ∀ batch, result.1 = .ok batch → RowsShown remote.serde result.2.2.log asked batch)
    (fun state turn hinv hturn => by
      obtain ⟨handle, world⟩ := state
      cases hturn
      rw [ScanHandle.nextBatchTurn]
      split
      case isTrue hfinished =>
        refine ⟨hinv, ?_⟩
        rintro batch heq row hrow
        cases heq
        cases hrow
      case isFalse hgoing =>
        dsimp only
        rcases hlist : listRows remote handle.request.2.config handle.request.2.tableId
          handle.request.1 world with ⟨answer, world'⟩
        obtain ⟨hasked, hanswered⟩ := hinv.listRows hlist
        cases answer with
        | error message => exact ⟨hasked, fun batch heq => by cases heq⟩
        | ok response =>
            obtain ⟨hnext, hshown⟩ := hanswered response rfl
            refine Turn.keeps_ite ⟨hnext, ?_⟩ hnext
            rintro batch heq
            cases heq
            exact hshown)
    fuel (handle, world) (answer, handle', world') h hnext

end DuckdbCoda
