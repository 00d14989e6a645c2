import DuckdbCoda.Logic.ScanBuffer
import DuckdbCoda.Logic.ScanSource
import DuckdbCoda.Theorems.ScanRetry

/-!
# What becomes of the rows of a scan

A scan and the server have a conversation: the questions of `Logic.ScanProtocol`,
each with its answer or its failure (`Conversation`). Every row it is answered is
taken out of the buffer by one of its calls, or is still in it (`Accounts`).
`nextBatch_accounts` and `rustBridgeScan_accounts` say that this is so after every
call, whatever the server does between two of them.
-/

namespace DuckdbCoda

open Loop

variable {σ : Type} {remote : Remote σ} {serde : SerdeJson} {opened handle : ScanHandle}
  {sent : List Exchange}

/-! ## The rows that are answered -/

/-- What the client makes of the reply to a request for rows. -/
def Exchange.rowsAnswer (serde : SerdeJson) (exchange : Exchange) :
    Except String CodaRowsResponse :=
  (replyBody exchange.request exchange.reply).bind (rowsFromJson serde)

/-- The rows that a reply hands to the scan; none when the call fails. -/
def Exchange.visibleRows (serde : SerdeJson) (exchange : Exchange) : List RustExtRow :=
  match exchange.rowsAnswer serde with
  | .ok response => DuckdbCoda.visibleRows response
  | .error _ => []

def answeredRows (serde : SerdeJson) (sent : List Exchange) : List RustExtRow :=
  sent.flatMap (Exchange.visibleRows serde)

theorem answeredRows_append (serde : SerdeJson) (sent more : List Exchange) :
    answeredRows serde (sent ++ more) = answeredRows serde sent ++ answeredRows serde more :=
  List.flatMap_append

theorem answeredRows_single (serde : SerdeJson) (exchange : Exchange) :
    answeredRows serde [exchange] = exchange.visibleRows serde :=
  List.flatMap_singleton _ _

theorem Exchange.visibleRows_ok {exchange : Exchange} {response : CodaRowsResponse}
    (h : exchange.rowsAnswer serde = .ok response) :
    exchange.visibleRows serde = DuckdbCoda.visibleRows response := by
  rw [Exchange.visibleRows, h]

theorem Exchange.visibleRows_error {exchange : Exchange} {message : String}
    (h : exchange.rowsAnswer serde = .error message) : exchange.visibleRows serde = [] := by
  rw [Exchange.visibleRows, h]

/-! ## Conversations -/

/-- What the client wants of the server for the question. -/
def Question.operation (opened : ScanHandle) (question : Question) : Operation :=
  listRowsOperation opened.config opened.tableId (question.request opened)

/-- The exchange puts the question. -/
structure Exchange.Puts (sdk : Sdk) (exchange : Exchange) (opened : ScanHandle)
    (question : Question) : Prop where
  operation : exchange.operation = question.operation opened
  built : sdk.build (endpoint sdk opened.config) exchange.operation = .ok exchange.request

/-- The exchanges of a scan so far, and the question it stands at; none when the
last answer has left no question. A request that fails leaves the question to be
put again, be it that it was answered with an error or could not even be built. -/
inductive Conversation (remote : Remote σ) (opened : ScanHandle) :
    List Exchange → Option Question → Prop where
  | start : Conversation remote opened [] (some firstQuestion)
  | unsent {sent question message} : Conversation remote opened sent (some question) →
      remote.sdk.build (endpoint remote.sdk opened.config) (question.operation opened) =
        .error message →
      Conversation remote opened sent (some question.retried)
  | failed {sent question exchange message} : Conversation remote opened sent (some question) →
      exchange.Puts remote.sdk opened question →
      exchange.rowsAnswer remote.serde = .error message →
      Conversation remote opened (sent ++ [exchange]) (some question.retried)
  | answered {sent question exchange response} :
      Conversation remote opened sent (some question) → exchange.Puts remote.sdk opened question →
      exchange.rowsAnswer remote.serde = .ok response →
      Conversation remote opened (sent ++ [exchange]) (following question response)

/-- The handle has had the conversation: it stands at its question, or has
finished with it. -/
inductive ScanHandle.HasHad (remote : Remote σ) (handle opened : ScanHandle)
    (sent : List Exchange) : Prop where
  | asking {question} : Pending opened handle question →
      Conversation remote opened sent (some question) → HasHad remote handle opened sent
  | finished : handle.finished = true → Conversation remote opened sent none →
      HasHad remote handle opened sent

theorem ScanHandle.HasHad.conversation (h : handle.HasHad remote opened sent) :
    ∃ next, Conversation remote opened sent next := by
  cases h with
  | asking _ conversation => exact ⟨_, conversation⟩
  | finished _ conversation => exact ⟨none, conversation⟩

theorem ScanHandle.HasHad.ended (h : handle.HasHad remote opened sent)
    (hfinished : handle.finished = true) : Conversation remote opened sent none := by
  cases h with
  | asking pending _ => exact absurd (pending.running.symm.trans hfinished) (by simp)
  | finished _ conversation => exact conversation

/-! ## One question -/

/-- The question is put and answered, or fails, perhaps before it is sent. -/
theorem rowsAnswer_exchange {question : Question} {world world' : World σ}
    {answer : Except String CodaRowsResponse}
    (h : RowsAnswer remote opened world question answer world') :
    (world'.log = world.log ∧ ∃ message, answer = .error message ∧
      remote.sdk.build (endpoint remote.sdk opened.config) (question.operation opened) =
        .error message) ∨
      ∃ exchange, world'.log = world.log ++ [exchange] ∧
        exchange.Puts remote.sdk opened question ∧ exchange.rowsAnswer remote.serde = answer := by
  unfold RowsAnswer listRows fetch at h
  rcases perform_cases remote opened.config
      (listRowsOperation opened.config opened.tableId (question.request opened)) world with
    ⟨message, hbuild, hperform⟩ | ⟨request, reply, server, hbuild, _, hperform⟩ <;>
    rw [hperform] at h <;> cases h
  · exact .inl ⟨rfl, message, rfl, hbuild⟩
  · exact .inr ⟨⟨_, request, reply⟩, rfl, ⟨rfl, hbuild⟩, rfl⟩

/-- A question that fails. -/
theorem ScanHandle.HasHad.failed {question : Question}
    {world world' : World σ} {message : String} (pending : Pending opened handle question)
    (conversation : Conversation remote opened sent (some question))
    (h : RowsAnswer remote opened world question (.error message) world') :
    ∃ more, world'.log = world.log ++ more ∧ answeredRows remote.serde more = [] ∧
      ScanHandle.HasHad remote { handle with syncCheckDone := question.checked } opened
        (sent ++ more) := by
  rcases rowsAnswer_exchange h with
    ⟨hlog, reason, _, hbuild⟩ | ⟨exchange, hlog, hputs, hanswer⟩
  · exact ⟨[], by rw [hlog, List.append_nil], rfl,
      .asking pending.failed (by rw [List.append_nil]; exact .unsent conversation hbuild)⟩
  · refine ⟨[exchange], hlog, ?_, .asking pending.failed (.failed conversation hputs hanswer)⟩
    rw [answeredRows_single, Exchange.visibleRows_error hanswer]

/-- A question that is answered. -/
theorem ScanHandle.HasHad.answered {question : Question}
    {world world' : World σ} {response : CodaRowsResponse}
    (pending : Pending opened handle question)
    (conversation : Conversation remote opened sent (some question))
    (h : RowsAnswer remote opened world question (.ok response) world') :
    ∃ more, world'.log = world.log ++ more ∧
      answeredRows remote.serde more = visibleRows response ∧
      (handle.answered question.checked response).HasHad remote opened
        (sent ++ more) := by
  rcases rowsAnswer_exchange h with ⟨_, _, herror, _⟩ | ⟨exchange, hlog, hputs, hanswer⟩
  · cases herror
  · refine ⟨[exchange], hlog, ?_, ?_⟩
    · rw [answeredRows_single, Exchange.visibleRows_ok hanswer]
    · have hanswered := Conversation.answered conversation hputs hanswer
      cases hnext : following question response with
      | some question' =>
          rw [hnext] at hanswered
          exact .asking (pending.more hnext) hanswered
      | none =>
          rw [hnext] at hanswered
          exact .finished (answered_finished hnext) hanswered

/-! ## One batch -/

/-- What a call of `next_batch` has come to. -/
structure BatchAccount (remote : Remote σ) (opened : ScanHandle) (sent : List Exchange)
    (world : World σ) (answer : Except String RustExtScanBatch) (handle : ScanHandle)
    (world' : World σ) (more : List Exchange) : Prop where
  log : world'.log = world.log ++ more
  had : handle.HasHad remote opened (sent ++ more)
  rows : ∀ batch, answer = .ok batch → answeredRows remote.serde more = batch.rows
  finished : ∀ batch, answer = .ok batch → batch.finished = handle.finished
  lost : ∀ message, answer = .error message → answeredRows remote.serde more = []

/-- **A batch has the rows that were answered.** Pages without visible rows are
read on; a request that fails hands no row to anyone. -/
theorem nextBatch_accounts {handle' : ScanHandle} {world world' : World σ}
    {answer : Except String RustExtScanBatch} {fuel : Nat}
    (had : handle.HasHad remote opened sent)
    (h : handle.nextBatch fuel remote world = some (answer, handle', world')) :
    ∃ more, BatchAccount remote opened sent world answer handle' world' more := by
  -- while the loop goes round no row has been answered
  let inv := fun (state : ScanHandle × World σ) => ∃ more,
    state.2.log = world.log ++ more ∧ answeredRows remote.serde more = [] ∧
      state.1.HasHad remote opened (sent ++ more)
  let post := fun (result : Except String RustExtScanBatch × ScanHandle × World σ) =>
    ∃ more, BatchAccount remote opened sent world result.1 result.2.1 result.2.2 more
  have turns : ∀ state turn, inv state →
      some (ScanHandle.nextBatchTurn remote state) = some turn → turn.Keeps inv post := by
    rintro ⟨handle, mid⟩ turn ⟨more, hlog, hnone, hhad⟩ hturn
    cases hturn
    cases hhad with
    | finished hfinished conversation =>
        rw [ScanHandle.nextBatchTurn, if_pos hfinished]
        refine ⟨more, hlog, .finished hfinished conversation, ?_, ?_, ?_⟩
        · rintro batch heq
          cases heq
          exact hnone
        · rintro batch heq
          cases heq
          exact hfinished.symm
        · rintro message heq
          cases heq
    | @asking question pending conversation =>
        cases hasked : listRows remote opened.config opened.tableId (question.request opened) mid
          with
        | mk answer next =>
        rw [nextBatchTurn_asked pending hasked]
        cases answer with
        | error message =>
            obtain ⟨last, hlast, hlost, hhad⟩ := ScanHandle.HasHad.failed pending conversation hasked
            refine ⟨more ++ last, ?_, ?_, ?_, ?_, ?_⟩
            · rw [hlast, hlog, List.append_assoc]
            · rw [← List.append_assoc]
              exact hhad
            · rintro batch heq
              cases heq
            · rintro batch heq
              cases heq
            · rintro message heq
              rw [answeredRows_append, hnone, hlost]
              rfl
        | ok response =>
            obtain ⟨last, hlast, hrows, hhad⟩ :=
              ScanHandle.HasHad.answered pending conversation hasked
            have hlogged : next.log = world.log ++ (more ++ last) := by
              rw [hlast, hlog, List.append_assoc]
            have hanswered : answeredRows remote.serde (more ++ last) = visibleRows response := by
              rw [answeredRows_append, hnone, hrows, List.nil_append]
            rw [List.append_assoc] at hhad
            dsimp only
            split
            case isTrue hleave =>
              refine ⟨more ++ last, hlogged, hhad, ?_, ?_, ?_⟩
              · rintro batch heq
                cases heq
                exact hanswered
              · rintro batch heq
                cases heq
                rfl
              · rintro message heq
                cases heq
            case isFalse hagain =>
              refine ⟨more ++ last, hlogged, ?_, hhad⟩
              rw [hanswered]
              simp only [Bool.or_eq_true, not_or, Bool.not_eq_true', Bool.not_eq_false] at hagain
              exact List.isEmpty_iff.mp hagain.1
  refine run_invariant inv post turns fuel (handle, world) (answer, handle', world') ?_ h
  exact ⟨[], (List.append_nil _).symm, rfl, by rw [List.append_nil]; exact had⟩

/-! ## One call of the scan -/

/-- As many rows as the pushed limit have been taken. -/
def LimitReached (limit : Nat) (taken : List RustExtRow) : Prop := 0 < limit ∧ limit ≤ taken.length

/-- The account of a scan: the rows it was answered are those that its calls have
taken out of the buffer, and those that are left in it. -/
structure Accounts (remote : Remote σ) (opened : ScanHandle) (limit : Nat)
    (state : RustBridgeScanGlobalState ScanHandle) (sent : List Exchange)
    (taken : List RustExtRow) : Prop where
  had : state.scan.HasHad remote opened sent
  rows : answeredRows remote.serde sent = taken ++ state.buffered.rows
  remaining : state.remainingRows ≤ limit
  owed : limit ≤ state.remainingRows + taken.length
  finished : state.finished = true → state.scan.finished = true ∨ LimitReached limit taken

theorem LimitReached.append {limit : Nat} {taken : List RustExtRow}
    (h : LimitReached limit taken) (more : List RustExtRow) : LimitReached limit (taken ++ more) :=
  ⟨h.1, by rw [List.length_append]; exact Nat.le_add_right_of_le h.2⟩

section

variable {limit : Nat} {state : RustBridgeScanGlobalState ScanHandle} {taken : List RustExtRow}
  {row : RustExtRow} {duckdb : DuckDb}

/-- The buffer is filled from the next pages. -/
theorem Accounts.refilled {batch : RustExtScanBatch} {more : List Exchange} {scan : ScanHandle}
    (h : Accounts remote opened limit state sent taken)
    (hempty : state.rows.rows[state.rowOffset]? = none)
    (had : scan.HasHad remote opened (sent ++ more))
    (hrows : answeredRows remote.serde more = batch.rows) (hfinished : batch.finished = scan.finished) :
    Accounts remote opened limit (state.refilled batch scan) (sent ++ more) taken where
  had := had
  rows := by
    have hnone := congrArg RustExtScanBatch.rows (buffered_nil hempty)
    rw [answeredRows_append, h.rows, hnone, List.append_nil, hrows]
    rfl
  remaining := h.remaining
  owed := h.owed
  finished hbatch := .inl (hfinished.symm.trans hbatch)

/-- A row is taken from the buffer and output. -/
theorem Accounts.copied (h : Accounts remote opened limit state sent taken)
    (hrow : state.rows.rows[state.rowOffset]? = some row) :
    Accounts remote opened limit state.copied sent (taken ++ [row]) where
  had := h.had
  rows := by
    rw [h.rows, buffered_cons hrow, List.append_assoc]
    rfl
  remaining := by
    show state.remainingRows - 1 ≤ limit
    have hremaining := h.remaining
    omega
  owed := by
    show limit ≤ state.remainingRows - 1 + (taken ++ [row]).length
    have howed := h.owed
    rw [List.length_append, List.length_singleton]
    omega
  finished hcopied := by
    rcases Bool.or_eq_true_iff.mp hcopied with hfinished | hlast
    · exact (h.finished hfinished).imp_right fun hreached => hreached.append [row]
    · have hone : state.remainingRows = 1 := beq_iff_eq.mp hlast
      have hremaining := h.remaining
      have howed := h.owed
      refine .inr ⟨by omega, ?_⟩
      rw [List.length_append, List.length_singleton]
      omega

/-- A row is taken from the buffer, and lost in an exception. -/
theorem Accounts.dropped (h : Accounts remote opened limit state sent taken)
    (hrow : state.rows.rows[state.rowOffset]? = some row) :
    Accounts remote opened limit { state with rowOffset := state.rowOffset + 1 } sent
      (taken ++ [row]) where
  had := h.had
  rows := by
    rw [h.rows, buffered_cons hrow, List.append_assoc]
    rfl
  remaining := h.remaining
  owed := by
    show limit ≤ state.remainingRows + (taken ++ [row]).length
    have howed := h.owed
    rw [List.length_append, List.length_singleton]
    omega
  finished hfinished := (h.finished hfinished).imp_right fun hreached => hreached.append [row]

end

/-- What a call of a scan has come to: what it has sent, and the rows it has taken
from the buffer. A chunk has these rows, one by one; it has room left only when
the scan is at its end. -/
structure CallAccount (remote : Remote σ) (duckdb : DuckDb) (vectorSize : Nat)
    (opened : ScanHandle) (limit : Nat) (state : RustBridgeScanGlobalState ScanHandle)
    (sent : List Exchange) (taken : List RustExtRow) (world : World σ)
    (call : ScanCall (ScanHandle × World σ)) (more : List Exchange) (rows : List RustExtRow) :
    Prop where
  log : call.2.scan.2.log = world.log ++ more
  accounts : Accounts remote opened limit (call.2.withScan call.2.scan.1) (sent ++ more)
    (taken ++ rows)
  read : ∀ chunk, call.1 = .ok chunk → List.Forall₂ (state.Reads duckdb) rows chunk
  shows : Shows state.table state.columnIndexes call.2
  short : ∀ chunk, call.1 = .ok chunk → chunk.length < vectorSize →
    LimitReached limit (taken ++ rows) ∨ call.2.RanOut

/-- The same between two turns of the call. -/
structure TurnAccount (remote : Remote σ) (duckdb : DuckDb) (opened : ScanHandle) (limit : Nat)
    (state : RustBridgeScanGlobalState ScanHandle) (sent : List Exchange)
    (taken : List RustExtRow) (world : World σ) (turn : ScanTurn (ScanHandle × World σ))
    (more : List Exchange) (rows : List RustExtRow) : Prop where
  log : turn.2.scan.2.log = world.log ++ more
  accounts : Accounts remote opened limit (turn.2.withScan turn.2.scan.1) (sent ++ more)
    (taken ++ rows)
  read : List.Forall₂ (state.Reads duckdb) rows turn.1
  shows : Shows state.table state.columnIndexes turn.2

section

variable {duckdb : DuckDb} {vectorSize fuel limit : Nat}
  {state : RustBridgeScanGlobalState ScanHandle} {taken : List RustExtRow} {world : World σ}
  {output : List (List Value)} {now : RustBridgeScanGlobalState (ScanHandle × World σ)}
  {more : List Exchange} {rows : List RustExtRow}

/-- The buffer has run out, and the handle delivers a batch. -/
theorem TurnAccount.refill {batch : RustExtScanBatch} {scan : ScanHandle × World σ}
    (h : TurnAccount remote duckdb opened limit state sent taken world (output, now) more rows)
    (hstarved : now.Starved)
    (hfetch : nextScanBatch remote fuel now.scan = some (.ok batch, scan)) :
    ∃ more', TurnAccount remote duckdb opened limit state sent taken world
      (output, now.refilled batch scan) more' rows := by
  obtain ⟨⟨answer, handle, last⟩, hbatch, heq⟩ := Option.map_eq_some_iff.mp hfetch
  cases answer with
  | error message => cases heq
  | ok _ =>
      cases heq
      obtain ⟨new, account⟩ := nextBatch_accounts h.accounts.had hbatch
      have hrefilled := h.accounts.refilled hstarved.2 account.had (account.rows batch rfl)
        (account.finished batch rfl)
      rw [List.append_assoc] at hrefilled
      exact ⟨more ++ new, by rw [← List.append_assoc, ← h.log]; exact account.log, hrefilled,
        h.read, h.shows⟩

/-- The buffer has run out, and the handle fails. -/
theorem TurnAccount.thrown {exception : Exception} {scan : ScanHandle × World σ}
    (h : TurnAccount remote duckdb opened limit state sent taken world (output, now) more rows)
    (hstarved : now.Starved)
    (hfetch : nextScanBatch remote fuel now.scan = some (.error exception, scan)) :
    ∃ more', CallAccount remote duckdb vectorSize opened limit state sent taken world
      (.error exception, { now with scan }) more' rows := by
  obtain ⟨⟨answer, handle, last⟩, hbatch, heq⟩ := Option.map_eq_some_iff.mp hfetch
  cases answer with
  | ok batch => cases heq
  | error message =>
      cases heq
      obtain ⟨new, account⟩ := nextBatch_accounts h.accounts.had hbatch
      have hhad := account.had
      rw [List.append_assoc] at hhad
      refine ⟨more ++ new, by rw [← List.append_assoc, ← h.log]; exact account.log, ?_,
        fun _ => nofun, h.shows, fun _ => nofun⟩
      refine ⟨hhad, ?_, h.accounts.remaining, h.accounts.owed, ?_⟩
      · rw [← List.append_assoc, answeredRows_append, h.accounts.rows, account.lost message rfl,
          List.append_nil]
        rfl
      · exact fun hfinished => absurd (hstarved.1.symm.trans hfinished) (by simp)

variable (vectorSize) in
/-- A row is copied, or its columns are not there. -/
theorem TurnAccount.emit {row : RustExtRow}
    (h : TurnAccount remote duckdb opened limit state sent taken world (output, now) more rows)
    (hrow : now.rows.rows[now.rowOffset]? = some row) :
    (emitRow duckdb output row now).Keeps
      (fun turn => TurnAccount remote duckdb opened limit state sent taken world turn more
        (rows ++ [row]))
      (fun call => CallAccount remote duckdb vectorSize opened limit state sent taken world
        call more (rows ++ [row])) := by
  obtain ⟨htable, hcolumns⟩ := h.shows
  cases hvalues : now.columnIndexes.mapM (outputValue duckdb now.table row) with
  | error exception =>
      have hdropped := h.accounts.dropped hrow
      rw [List.append_assoc] at hdropped
      simp only [emitRow, hvalues]
      exact ⟨h.log, hdropped, fun _ => nofun, ⟨htable, hcolumns⟩, fun _ => nofun⟩
  | ok values =>
      have hcopied := h.accounts.copied hrow
      rw [List.append_assoc] at hcopied
      have hread : List.Forall₂ (state.Reads duckdb) (rows ++ [row]) (output ++ [values]) := by
        refine List.rel_append h.read (.cons ?_ .nil)
        rw [htable, hcolumns] at hvalues
        exact hvalues
      rw [emitRow_eq hvalues]
      by_cases hlast : now.remainingRows = 1
      · rw [if_pos hlast]
        refine ⟨h.log, hcopied, ?_, ⟨htable, hcolumns⟩, ?_⟩
        · rintro chunk heq
          cases heq
          exact hread
        · -- the last row that is wanted
          intro _ _ _
          have hremaining : now.remainingRows ≤ limit := h.accounts.remaining
          have howed : limit ≤ now.remainingRows - 1 + (taken ++ (rows ++ [row])).length :=
            hcopied.owed
          exact .inl ⟨by omega, by omega⟩
      · rw [if_neg hlast]
        exact ⟨h.log, hcopied, hread, htable, hcolumns⟩

/-- **The account after a call.** -/
theorem rustBridgeScan_accounts {call : ScanCall (ScanHandle × World σ)}
    (h : Accounts remote opened limit state sent taken)
    (hcall : rustBridgeScan fuel (nextScanBatch remote) duckdb vectorSize
      (state.withScan (state.scan, world)) = some call) :
    ∃ more rows, CallAccount remote duckdb vectorSize opened limit state sent taken world
      call more rows := by
  have rule : ScanRule (nextScanBatch remote) duckdb vectorSize
      (fun turn => ∃ more rows, TurnAccount remote duckdb opened limit state sent taken world
        turn more rows)
      (fun call => ∃ more rows, CallAccount remote duckdb vectorSize opened limit state sent
        taken world call more rows) := {
    leave := by
      rintro output now ⟨more, rows, account⟩ hran
      refine ⟨more, rows, account.log, account.accounts, ?_, account.shows, ?_⟩
      · rintro chunk heq
        cases heq
        exact account.read
      · rintro chunk heq hroom
        cases heq
        exact .inr (hran hroom)
    refill := by
      rintro fuel output now batch scan ⟨more, rows, account⟩ hstarved hfetch
      obtain ⟨more', account'⟩ := account.refill hstarved hfetch
      exact ⟨more', rows, account'⟩
    thrown := by
      rintro fuel output now exception scan ⟨more, rows, account⟩ hstarved hfetch
      obtain ⟨more', account'⟩ := account.thrown hstarved hfetch
      exact ⟨more', rows, account'⟩
    emit := by
      rintro output now row ⟨more, rows, account⟩ hrow
      refine Turn.Keeps.mono (account.emit vectorSize hrow) ?_ ?_
      · exact fun _ h => ⟨more, rows ++ [row], h⟩
      · exact fun _ h => ⟨more, rows ++ [row], h⟩ }
  refine rustBridgeScan_rule rule _ ⟨[], [], ?_, ?_, .nil, rfl, rfl⟩ hcall
  · exact (List.append_nil _).symm
  · rw [List.append_nil, List.append_nil]
    exact h

end

end DuckdbCoda
