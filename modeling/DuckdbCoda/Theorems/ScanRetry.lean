import DuckdbCoda.Theorems.ScanRows

/-!
# Calling `next_batch` again after an error

A request that fails leaves the handle at the question it put (`Pending.failed`)
but for the sync check: its flag is set while the request is built, so that
after a failed sync check the handle stands at a start without tokens, and
lists the table once more (`Question.retried`). A caller that goes on after
every error therefore gets the rows of the run without failures, and repeats
each failed request, exactly if the server does not fail the sync check
(`retry_exact_iff`).
-/

namespace DuckdbCoda

open Loop Paging

variable {σ τ : Type}

/-! ## A server with failures -/

/-- A server that gives the responses of some pages to their requests, whenever
they are made, and fails finitely often: `left` bounds the failures to come. -/
def Recovers (remote : Remote σ) (scan : ScanHandle) (left : σ → Nat) (pages : RowsPages) :
    Prop :=
  ∀ page ∈ pages, ∀ world : World σ,
    (∃ world', RowsAnswer remote scan world page.1 (.ok page.2) world' ∧
        left world'.server ≤ left world.server) ∨
      ∃ message world', RowsAnswer remote scan world page.1 (.error message) world' ∧
        left world'.server < left world.server

/-- The server answers the questions of the pages one after the other. -/
inductive AnsweredFrom (remote : Remote σ) (scan : ScanHandle) :
    World σ → RowsPages → World σ → Prop where
  | nil {world} : AnsweredFrom remote scan world [] world
  | cons {world mid world' question response rest} :
      RowsAnswer remote scan world question (.ok response) mid →
      AnsweredFrom remote scan mid rest world' →
      AnsweredFrom remote scan world ((question, response) :: rest) world'

/-- When the questions of the pages are put one after the other, each until it
is answered, the server fails one that carries a sync token. -/
inductive SyncCheckFails (remote : Remote σ) (scan : ScanHandle) : World σ → RowsPages → Prop where
  | now {world world' question response rest message} :
      RowsAnswer remote scan world question (.error message) world' →
      question.ask.syncToken ≠ "" →
      SyncCheckFails remote scan world ((question, response) :: rest)
  | retried {world world' question response rest message} :
      RowsAnswer remote scan world question (.error message) world' →
      SyncCheckFails remote scan world' ((question, response) :: rest) →
      SyncCheckFails remote scan world ((question, response) :: rest)
  | later {world world' question response rest} :
      RowsAnswer remote scan world question (.ok response) world' →
      SyncCheckFails remote scan world' rest →
      SyncCheckFails remote scan world ((question, response) :: rest)

/-- What is answered does not fail. -/
theorem syncCheckFails_append {remote : Remote σ} {scan : ScanHandle} {world mid : World σ}
    {read rest : RowsPages} (answered : AnsweredFrom remote scan world read mid) :
    SyncCheckFails remote scan world (read ++ rest) ↔ SyncCheckFails remote scan mid rest := by
  induction answered with
  | nil => exact Iff.rfl
  | cons hanswer _ ih =>
      rw [← ih]
      constructor
      · intro h
        cases h with
        | now herror _ => cases hanswer.symm.trans herror
        | retried herror _ => cases hanswer.symm.trans herror
        | later hok hlater =>
            cases hanswer.symm.trans hok
            exact hlater
      · exact .later hanswer

theorem not_syncCheckFails {remote : Remote σ} {scan : ScanHandle} {world mid : World σ}
    {pages : RowsPages} (answered : AnsweredFrom remote scan world pages mid) :
    ¬ SyncCheckFails remote scan world pages := by
  rw [← List.append_nil pages, syncCheckFails_append answered]
  intro hfails
  cases hfails

/-- A failure of another question is no failure of the sync check. -/
theorem syncCheckFails_retried {remote : Remote σ} {scan : ScanHandle} {world world' : World σ}
    {question : Question} {response : CodaRowsResponse} {rest : RowsPages} {message : String}
    (herror : RowsAnswer remote scan world question (.error message) world')
    (hsync : question.ask.syncToken = "") :
    SyncCheckFails remote scan world ((question, response) :: rest) ↔
      SyncCheckFails remote scan world' ((question, response) :: rest) := by
  constructor
  · intro h
    cases h with
    | now _ hne => exact absurd hsync hne
    | retried herror' hretried =>
        cases herror.symm.trans herror'
        exact hretried
    | later hok _ => cases herror.symm.trans hok
  · exact .retried herror

/-! ## The question after a failure -/

/-- The question the handle stands at when the request for one has failed. -/
def Question.retried (question : Question) : Question :=
  if question.ask.syncToken = "" then question else ⟨true, .start⟩

/-- A failure leaves the handle at the retried question. -/
theorem Pending.failed {scan handle : ScanHandle} {question : Question}
    (pending : Pending scan handle question) :
    Pending scan { handle with syncCheckDone := question.checked } question.retried := by
  have hrequest := pending.request
  simp only [ScanHandle.request, Question.request, Prod.mk.injEq, CodaRowsRequest.mk.injEq,
    ScanHandle.mk.injEq, true_and, and_true] at hrequest
  obtain ⟨⟨hpage, _, _, hsync, _⟩, hdone⟩ := hrequest
  cases hdue : handle.syncDue with
  | false =>
      -- no sync check was built: the flag is as it was, and so is the handle
      rw [hdue, Bool.or_false] at hdone
      rw [hdue, if_neg (by simp)] at hsync
      rw [Question.retried, if_pos hsync.symm, ← hdone]
      exact pending
  | true =>
      rw [hdue, Bool.or_true] at hdone
      rw [hdue, if_pos rfl] at hsync
      simp only [ScanHandle.syncDue, Bool.and_eq_true, Bool.not_eq_true',
        String.isEmpty_iff, String.isEmpty_eq_false_iff] at hdue
      obtain ⟨⟨hempty, hne⟩, _⟩ := hdue
      rw [Question.retried, if_neg (by rw [← hsync]; exact hne)]
      refine ⟨pending.running, ?_, pending.config, pending.tableId, pending.query, pending.sortBy,
        pending.limit⟩
      simp [ScanHandle.request, ScanHandle.syncDue, Question.request, Ask.pageToken,
        Ask.syncToken, hempty, ← hdone, pending.query, pending.sortBy, pending.limit]

/-- The question is put again unless it was the sync check. -/
theorem Question.retried_request_iff (scan : ScanHandle) (question : Question) :
    question.retried.request scan = question.request scan ↔ question.ask.syncToken = "" := by
  by_cases hsync : question.ask.syncToken = ""
  · simp [Question.retried, hsync]
  · simp only [Question.retried, hsync, if_false, iff_false]
    intro heq
    exact hsync (congrArg CodaRowsRequest.syncToken heq).symm

/-- Once the check is made, only a page token leads on. -/
theorem following_of_checked (ask : Ask) (response : CodaRowsResponse) :
    following ⟨true, ask⟩ response =
      (nonEmptyString response.nextPageToken).map fun token => ⟨true, .page token⟩ := by
  cases h : nonEmptyString response.nextPageToken <;> simp [following, h]

/-- The pages repeat requests of others, and their responses. -/
def RowsPages.Repeat (pages others : RowsPages) : Prop :=
  ∀ page ∈ pages, ∃ other ∈ others, other.1.ask = page.1.ask ∧ other.2 = page.2

/-- A scan whose sync check counts as made reads no more pages from a question
on than the scan whose check is still to be made. -/
theorem exists_relisted {question : Question} {pages : RowsPages}
    (linked : Linked following question pages) :
    ∃ relisted : RowsPages, Linked following ⟨true, question.ask⟩ relisted ∧
      relisted.Repeat pages ∧ relisted.length ≤ pages.length := by
  -- the listing ends at the first page without a page token
  have hsingle : ∀ {question : Question} {response : CodaRowsResponse} {rest : RowsPages},
      response.nextPageToken = "" →
      ∃ relisted : RowsPages, Linked following ⟨true, question.ask⟩ relisted ∧
        relisted.Repeat ((question, response) :: rest) ∧
        relisted.length ≤ ((question, response) :: rest).length := by
    intro question response rest hempty
    refine ⟨[(⟨true, question.ask⟩, response)], .last ?_, ?_, ?_⟩
    · rw [following_of_checked, nonEmptyString_eq_none.mpr hempty, Option.map_none]
    · intro page hpage
      rw [List.mem_singleton.mp hpage]
      exact ⟨_, List.mem_cons_self, rfl, rfl⟩
    · simp
  induction linked with
  | @last question response hnext =>
      rcases following_cases question response with ⟨_, hf⟩ | ⟨_, _, _, hf⟩ | ⟨hempty, _, _⟩
      · rw [hf] at hnext
        cases hnext
      · rw [hf] at hnext
        cases hnext
      · exact hsingle hempty
  | @more question response question' rest hnext linked ih =>
      rcases following_cases question response with ⟨hne, hf⟩ | ⟨hempty, _, _, hf⟩ | ⟨_, _, hf⟩ <;>
        rw [hf] at hnext
      · cases hnext
        obtain ⟨relisted, hlinked, hrepeat, hlength⟩ := ih
        refine ⟨(⟨true, question.ask⟩, response) :: relisted, .more ?_ hlinked, ?_, ?_⟩
        · rw [following_of_checked, nonEmptyString_eq_some.mpr ⟨rfl, hne⟩, Option.map_some]
        · intro page hpage
          rcases List.mem_cons.mp hpage with rfl | hpage
          · exact ⟨_, List.mem_cons_self, rfl, rfl⟩
          · obtain ⟨other, hother, hsame⟩ := hrepeat page hpage
            exact ⟨other, List.mem_cons_of_mem _ hother, hsame⟩
        · simpa using hlength
      · exact hsingle hempty
      · cases hnext

/-- A repeated request gets the response it got before. -/
theorem Recovers.repeated {remote : Remote σ} {scan : ScanHandle} {left : σ → Nat}
    {pages others : RowsPages} (recovers : Recovers remote scan left others)
    (h : pages.Repeat others) : Recovers remote scan left pages := by
  intro page hpage world
  obtain ⟨other, hother, hask, hresponse⟩ := h page hpage
  have hrequest : page.1.request scan = other.1.request scan := by
    rw [Question.request, Question.request, hask]
  have hcall := recovers other hother world
  unfold RowsAnswer at hcall ⊢
  rwa [hrequest, ← hresponse]

/-! ## One call -/

/-- What a `next_batch` call returns. -/
abbrev BatchCall (σ : Type) := Except String RustExtScanBatch × ScanHandle × World σ

/-- What one call makes of the pages that are left. -/
inductive CallReads (remote : Remote σ) (scan : ScanHandle) (left : σ → Nat) (start : World σ)
    (pages : RowsPages) : BatchCall σ → Prop where
  /-- All pages are read. -/
  | last {batch handle world} : AnsweredFrom remote scan start pages world →
      batch.rows = pages.visible → batch.finished = true →
      CallReads remote scan left start pages (.ok batch, handle, world)
  /-- Some pages are read, and the handle stands at the question of the rest. -/
  | batch {read rest batch handle world question} : pages = read ++ rest →
      rest.length < pages.length → AnsweredFrom remote scan start read world →
      batch.rows = RowsPages.visible read → batch.finished = false →
      left world.server ≤ left start.server → Pending scan handle question →
      Linked following question rest →
      CallReads remote scan left start pages (.ok batch, handle, world)
  /-- Some pages without visible rows are read, and the next request fails. -/
  | failed {read rest mid message handle world question} : pages = read ++ rest →
      AnsweredFrom remote scan start read mid → RowsPages.visible read = [] →
      RowsAnswer remote scan mid question (.error message) world →
      left world.server < left mid.server → left mid.server ≤ left start.server →
      Pending scan handle question.retried → Linked following question rest →
      CallReads remote scan left start pages (.error message, handle, world)

/-- A page without visible rows before the others does not show. -/
theorem CallReads.cons {remote : Remote σ} {scan : ScanHandle} {left : σ → Nat}
    {start start' : World σ} {question : Question} {response : CodaRowsResponse}
    {pages : RowsPages} {call : BatchCall σ} (h : CallReads remote scan left start' pages call)
    (hanswer : RowsAnswer remote scan start question (.ok response) start')
    (hpage : visibleRows response = []) (hle : left start'.server ≤ left start.server) :
    CallReads remote scan left start ((question, response) :: pages) call := by
  have hvisible : ∀ pages : RowsPages,
      RowsPages.visible ((question, response) :: pages) = pages.visible := by
    intro pages
    simp [RowsPages.visible, hpage]
  cases h with
  | last hread hrows hfinished =>
      exact .last (.cons hanswer hread) (hrows.trans (hvisible pages).symm) hfinished
  | batch hsplit hlt hread hrows hfinished hleft hpending hlinked =>
      subst hsplit
      refine .batch (List.cons_append ..).symm ?_ (.cons hanswer hread) ?_ hfinished (by omega)
        hpending hlinked
      · simp only [List.length_cons]
        omega
      · rw [hrows, hvisible]
  | failed hsplit hread hrows herror hlt hleft hpending hlinked =>
      subst hsplit
      exact .failed (List.cons_append ..).symm (.cons hanswer hread) ((hvisible _).trans hrows)
        herror hlt (by omega) hpending hlinked

/-- A turn whose request fails ends the call. -/
theorem nextBatchTurn_failed {remote : Remote σ} {scan handle : ScanHandle} {question : Question}
    {world world' : World σ} {message : String} (pending : Pending scan handle question)
    (answer : RowsAnswer remote scan world question (.error message) world') :
    ScanHandle.nextBatchTurn remote (handle, world) =
      .done (.error message, { handle with syncCheckDone := question.checked }, world') :=
  nextBatchTurn_asked pending answer

/-- **One call.** It reads pages up to the first with a visible row, the last
one, or the first failure. -/
theorem nextBatch_reads {remote : Remote σ} {scan : ScanHandle} {left : σ → Nat}
    {question : Question} {pages : RowsPages} (linked : Linked following question pages) :
    ∀ {handle : ScanHandle} (world : World σ), Recovers remote scan left pages →
      Pending scan handle question →
      ∃ call : BatchCall σ, Returns (fun fuel => handle.nextBatch fuel remote world) call ∧
        CallReads remote scan left world pages call := by
  -- the request for the pending question fails, with all pages still to be read
  have hfailed : ∀ {question : Question} {pages : RowsPages} {handle : ScanHandle}
      {world world' : World σ} {message : String}, Linked following question pages →
      Pending scan handle question →
      RowsAnswer remote scan world question (.error message) world' →
      left world'.server < left world.server →
      ∃ call, Returns (fun fuel => handle.nextBatch fuel remote world) call ∧
        CallReads remote scan left world pages call := by
    intro question pages handle world world' message linked pending hanswer hlt
    exact ⟨_, nextBatch_of_done (nextBatchTurn_failed pending hanswer),
      .failed (List.nil_append _).symm .nil rfl hanswer hlt (Nat.le_refl _) pending.failed linked⟩
  induction linked with
  | @last question response hnext =>
      intro handle world recovers pending
      rcases recovers _ List.mem_cons_self world with
        ⟨world', hanswer, hle⟩ | ⟨message, world', hanswer, hlt⟩
      · have hturn := nextBatchTurn_pending pending hanswer
        rw [answered_finished hnext, Bool.or_true, if_pos rfl] at hturn
        exact ⟨_, nextBatch_of_done hturn,
          .last (.cons hanswer .nil) (by simp [RowsPages.visible]) rfl⟩
      · exact hfailed (.last hnext) pending hanswer hlt
  | @more question response question' rest hnext linked ih =>
      intro handle world recovers pending
      rcases recovers _ List.mem_cons_self world with
        ⟨world', hanswer, hle⟩ | ⟨message, world', hanswer, hlt⟩
      · have hturn := nextBatchTurn_pending pending hanswer
        have pending' := pending.more hnext
        rw [pending'.running, Bool.or_false] at hturn
        cases hrows : visibleRows response with
        | nil =>
            rw [hrows, List.isEmpty_nil, Bool.not_true, if_neg (by simp)] at hturn
            obtain ⟨call, hcall, hreads⟩ := ih world'
              (fun page hpage => recovers page (List.mem_cons_of_mem _ hpage)) pending'
            exact ⟨call, nextBatch_of_next hturn hcall, hreads.cons hanswer hrows hle⟩
        | cons row rows =>
            rw [hrows, List.isEmpty_cons, Bool.not_false, if_pos rfl] at hturn
            refine ⟨_, nextBatch_of_done hturn, .batch (List.singleton_append).symm ?_
              (.cons hanswer .nil) ?_ rfl hle pending' linked⟩
            · simp
            · simp [RowsPages.visible, hrows]
      · exact hfailed (.more hnext linked) pending hanswer hlt

/-! ## A caller that goes on after errors -/

/-- Whether a call delivered the batch marked finished. -/
def BatchCall.finishes (call : BatchCall σ) : Bool :=
  match call.1 with
  | .ok batch => batch.finished
  | .error _ => false

/-- One `next_batch` call of a caller that goes on until a batch is marked
finished, whatever the calls return. -/
def collectRetryingTurn (remote : Remote σ) (fuel : Nat) :
    List (BatchCall σ) × ScanHandle × World σ →
      Option (Turn (List (BatchCall σ) × ScanHandle × World σ) (List (BatchCall σ)))
  | (calls, handle, world) =>
      (handle.nextBatch fuel remote world).map fun call =>
        if BatchCall.finishes call then .done (calls ++ [call])
        else .next (calls ++ [call], call.2.1, call.2.2)

/-- The calls up to the finished batch. -/
def collectRetrying (fuel : Nat) (remote : Remote σ) (handle : ScanHandle) (world : World σ) :
    Option (List (BatchCall σ)) :=
  Loop.run (collectRetryingTurn remote fuel) fuel ([], handle, world)

/-- The rows of a call's batch. -/
def BatchCall.rows (call : BatchCall σ) : List RustExtRow :=
  match call.1 with
  | .ok batch => batch.rows
  | .error _ => []

/-- The rows of the successful batches. -/
def deliveredRows (calls : List (BatchCall σ)) : List RustExtRow := calls.flatMap BatchCall.rows

/-- After an error the next request is the one that failed. -/
def BatchCall.AsksAgain (call : BatchCall σ) : Prop :=
  ∀ message, call.1 = .error message →
    call.2.2.operations.getLast? =
      some (listRowsOperation call.2.1.config call.2.1.tableId call.2.1.request.1)

theorem asksAgain_ok {batch : RustExtScanBatch} {handle : ScanHandle} {world : World σ} :
    BatchCall.AsksAgain (.ok batch, handle, world) := by
  intro message herror
  cases herror

/-- A failed call asks again unless it was the sync check that failed. -/
theorem asksAgain_error_iff {remote : Remote σ} {scan handle : ScanHandle} {question : Question}
    {message : String} {mid world : World σ} {left : σ → Nat}
    (herror : RowsAnswer remote scan mid question (.error message) world)
    (hleft : left world.server < left mid.server) (pending : Pending scan handle question.retried) :
    BatchCall.AsksAgain (.error message, handle, world) ↔ question.ask.syncToken = "" := by
  have hserver : world.server ≠ mid.server := by
    intro heq
    rw [heq] at hleft
    exact Nat.lt_irrefl _ hleft
  have hlast : world.operations.getLast? =
      some (listRowsOperation scan.config scan.tableId (question.request scan)) := by
    rw [fetch_operations_of_server_ne herror hserver, List.getLast?_concat]
  have hnext : handle.request.1 = question.retried.request scan :=
    congrArg Prod.fst pending.request
  constructor
  · intro hagain
    by_contra hsync
    -- the request that failed carries the token, the next one does not
    have heq := hagain message rfl
    rw [hlast, hnext, Question.retried, if_neg hsync] at heq
    simp only [Option.some.injEq, listRowsOperation, Operation.listRows.injEq,
      ListRowsInput.mk.injEq] at heq
    obtain ⟨_, _, _, _, _, _, _, _, _, htoken⟩ := heq
    exact hsync (nonEmptyString_eq_none.mp (htoken.trans rfl))
  · intro hsync message _
    show world.operations.getLast? =
      some (listRowsOperation handle.config handle.tableId handle.request.1)
    rw [hlast, pending.config, pending.tableId, hnext,
      (question.retried_request_iff scan).mpr hsync]

/-- A call that finishes the scan delivers the pages that were left. -/
theorem CallReads.finished {remote : Remote σ} {scan : ScanHandle} {left : σ → Nat}
    {start : World σ} {pages : RowsPages} {call : BatchCall σ}
    (h : CallReads remote scan left start pages call) (hfinishes : call.finishes = true) :
    call.rows = pages.visible ∧ call.AsksAgain ∧ ¬ SyncCheckFails remote scan start pages := by
  cases h with
  | last hread hrows _ => exact ⟨hrows, asksAgain_ok, not_syncCheckFails hread⟩
  | batch _ _ _ _ hfinished _ _ _ =>
      exact absurd (hfinished.symm.trans hfinishes) Bool.false_ne_true
  | failed _ _ _ _ _ _ _ _ => cases hfinishes

/-- A bound on the calls that a run still makes: every failure costs its call
and at most a new listing, of no more than `bound` pages. -/
def runCost (left : σ → Nat) (bound : Nat) (world : World σ) (pages : RowsPages) : Nat :=
  left world.server * (bound + 1) + pages.length

/-- After another call the handle stands at pages that cost less: the rest of
them, or after a failed sync check the listing. -/
theorem CallReads.resume {remote : Remote σ} {scan : ScanHandle} {left : σ → Nat} {bound : Nat}
    {relisted pages : RowsPages} {call : BatchCall σ} {start : World σ}
    (hrelisted : Linked following ⟨true, .start⟩ relisted)
    (relistedRecovers : Recovers remote scan left relisted) (hbound : relisted.length ≤ bound)
    (recovers : Recovers remote scan left pages) (hlength : pages.length ≤ bound)
    (h : CallReads remote scan left start pages call) (hgoing : call.finishes = false) :
    ∃ (question : Question) (rest : RowsPages), Pending scan call.2.1 question ∧
      Linked following question rest ∧ Recovers remote scan left rest ∧ rest.length ≤ bound ∧
      runCost left bound call.2.2 rest < runCost left bound start pages ∧
      (call.AsksAgain → call.rows ++ rest.visible = pages.visible ∧
        (SyncCheckFails remote scan start pages ↔ SyncCheckFails remote scan call.2.2 rest)) ∧
      (¬ call.AsksAgain → SyncCheckFails remote scan start pages) := by
  unfold runCost
  cases h with
  | last _ _ hfinished => exact absurd (hgoing.symm.trans hfinished) Bool.false_ne_true
  | @batch read rest batch handle world question hsplit hlt hread hrows _ hle hpending hlinked =>
      subst hsplit
      have hcost := Nat.mul_le_mul_right (bound + 1) hle
      refine ⟨question, rest, hpending, hlinked,
        fun page hpage => recovers page (List.mem_append_right read hpage), by omega, ?_, ?_,
        fun hnot => absurd asksAgain_ok hnot⟩
      · show left world.server * (bound + 1) + rest.length < _
        omega
      · intro _
        refine ⟨?_, syncCheckFails_append hread⟩
        rw [RowsPages.visible_append, ← hrows]
        rfl
  | @failed read rest mid message handle world question hsplit hread hrows herror hlt hle hpending
      hlinked =>
      subst hsplit
      have hcost := Nat.mul_le_mul_right (bound + 1) (Nat.succ_le_of_lt (hlt.trans_le hle))
      rw [Nat.succ_mul] at hcost
      have hasks := asksAgain_error_iff herror hlt hpending
      obtain ⟨response, others, rfl⟩ := hlinked.exists_cons
      by_cases hsync : question.ask.syncToken = ""
      · -- the same request again, for the pages that are left
        rw [Question.retried, if_pos hsync] at hpending
        rw [List.length_append] at hlength
        refine ⟨question, (question, response) :: others, hpending, hlinked,
          fun page hpage => recovers page (List.mem_append_right read hpage), by omega, ?_, ?_,
          fun hnot => absurd (hasks.mpr hsync) hnot⟩
        · show left world.server * (bound + 1) + _ < _
          rw [List.length_append]
          omega
        · intro _
          refine ⟨?_, (syncCheckFails_append hread).trans (syncCheckFails_retried herror hsync)⟩
          rw [RowsPages.visible_append, hrows]
          rfl
      · -- the listing again
        rw [Question.retried, if_neg hsync] at hpending
        refine ⟨_, relisted, hpending, hrelisted, relistedRecovers, hbound, ?_,
          fun hagain => absurd (hasks.mp hagain) hsync,
          fun _ => (syncCheckFails_append hread).mpr (.now herror hsync)⟩
        show left world.server * (bound + 1) + relisted.length < _
        omega

/-- **The calls of a run.** They end; they repeat every failed request, and
deliver the pages that were left, as long as the sync check does not fail. -/
theorem collectRetrying_reads {remote : Remote σ} {scan : ScanHandle} {left : σ → Nat}
    {bound : Nat} {relisted : RowsPages} (hrelisted : Linked following ⟨true, .start⟩ relisted)
    (relistedRecovers : Recovers remote scan left relisted) (hbound : relisted.length ≤ bound) :
    ∀ (n : Nat) {handle : ScanHandle} {question : Question} {pages : RowsPages} (world : World σ),
      runCost left bound world pages ≤ n → pages.length ≤ bound →
      Linked following question pages → Recovers remote scan left pages →
      Pending scan handle question →
      ∃ calls : List (BatchCall σ),
        (∀ acc, LoopReturns (collectRetryingTurn remote) (acc, handle, world) (acc ++ calls)) ∧
        ((∀ call ∈ calls, call.AsksAgain) ↔ ¬ SyncCheckFails remote scan world pages) ∧
        ((∀ call ∈ calls, call.AsksAgain) → deliveredRows calls = pages.visible) := by
  intro n
  induction n with
  | zero =>
      intro handle question pages world hn _ linked _ _
      have hempty : pages = [] := List.length_eq_zero_iff.mp (by unfold runCost at hn; omega)
      exact absurd hempty linked.ne_nil
  | succ n ih =>
      intro handle question pages world hn hlength linked recovers pending
      obtain ⟨call, ⟨k, hk⟩, hreads⟩ := nextBatch_reads linked world recovers pending
      -- the last call of the run, or one that the caller goes on from
      cases hfinishes : call.finishes with
      | true =>
          obtain ⟨hrows, hagain, hnot⟩ := hreads.finished hfinishes
          refine ⟨[call], ?_, iff_of_true (List.forall_mem_singleton.mpr hagain) hnot, ?_⟩
          · intro acc
            apply LoopReturns.done
            exact ⟨k, fun fuel h => by simp [collectRetryingTurn, hk fuel h, hfinishes]⟩
          · intro _
            simp [deliveredRows, hrows]
      | false =>
          obtain ⟨question', rest, hpending, hlinked, hrecovers, hshort, hcost, hagain, hnot⟩ :=
            hreads.resume hrelisted relistedRecovers hbound recovers hlength hfinishes
          obtain ⟨calls, hloop, hfails, hrest⟩ :=
            ih call.2.2 (by omega) hshort hlinked hrecovers hpending
          refine ⟨call :: calls, ?_, ?_, ?_⟩
          · intro acc
            rw [List.append_cons]
            apply LoopReturns.next _ (hloop (acc ++ [call]))
            exact ⟨k, fun fuel h => by simp [collectRetryingTurn, hk fuel h, hfinishes]⟩
          · rw [List.forall_mem_cons]
            by_cases hasks : call.AsksAgain
            · rw [(hagain hasks).2, ← hfails]
              exact and_iff_right hasks
            · exact iff_of_false (fun h => hasks h.1) (not_not_intro (hnot hasks))
          · intro hall
            rw [List.forall_mem_cons] at hall
            rw [deliveredRows, List.flatMap_cons, ← (hagain hall.1).1, ← hrest hall.2,
              deliveredRows]

/-- **Retrying gives the rows of the run without failures, and repeats every
failed request, exactly if the sync check does not fail.** `pages` is the run
without failures; the one server fails finitely often, the other, `calm`, does
not. -/
theorem retry_exact_iff (remote : Remote σ) (calm : Remote τ) (config : RustExtClientConfig)
    (tableId : String) (request : RustExtScanRequest) (left : σ → Nat) (pages : RowsPages)
    (linked : Linked following firstQuestion pages)
    (recovers : Recovers remote (ScanHandle.new config tableId request) left pages)
    (calmly : Recovers calm (ScanHandle.new config tableId request) (fun _ => 0) pages)
    (world : World σ) (calmWorld : World τ) :
    let scan := ScanHandle.new config tableId request
    ∃ (calls : List (BatchCall σ)) (batches : List RustExtScanBatch)
        (calmEnd : ScanHandle × World τ),
      Returns (fun fuel => collectRetrying fuel remote scan world) calls ∧
      Returns (fun fuel => scan.collect fuel calm calmWorld) (.ok batches, calmEnd) ∧
      ((deliveredRows calls = batches.flatMap (·.rows) ∧ ∀ call ∈ calls, call.AsksAgain) ↔
        ¬ SyncCheckFails remote scan world pages) := by
  intro scan
  have pending : Pending scan scan firstQuestion := pending_new config tableId request
  obtain ⟨relisted, hrelisted, hrepeat, hbound⟩ := exists_relisted linked
  obtain ⟨calls, hloop, hfails, hrows⟩ := collectRetrying_reads hrelisted
    (recovers.repeated hrepeat) hbound _ world (Nat.le_refl _) (Nat.le_refl _) linked recovers
    pending
  have hgiven : ∀ world : World τ, ∀ page ∈ pages, ∃ world',
      RowsAnswer calm scan world page.1 (.ok page.2) world' := by
    intro world page hpage
    rcases calmly page hpage world with ⟨world', hanswer, _⟩ | ⟨_, _, _, hlt⟩
    · exact ⟨world', hanswer⟩
    · exact absurd hlt (Nat.lt_irrefl 0)
  obtain ⟨calmEnd, chain⟩ := linked.chain hgiven calmWorld
  obtain ⟨batches, calmHandle, hcalm, hvisible, _, _⟩ :=
    collect_returns pages.length (Nat.le_refl _) chain pending
  refine ⟨calls, batches, (calmHandle, calmEnd), (hloop []).returns, (hcalm []).returns, ?_⟩
  rw [hvisible, ← hfails]
  exact and_iff_right_of_imp hrows

/-! ## A connection that breaks during the sync check -/

/-- A listing with one row and a sync token, and a sync check without news. -/
def mockSyncedTexts : List (String × Json) := [
  ("\x7b\"items\":[\x7b\"id\":\"r1\"\x7d],\"nextSyncToken\":\"s1\"\x7d",
    .object [("items", .array [.object [("id", .string "r1")]]),
      ("nextSyncToken", .string "s1")]),
  ("\x7b\"items\":[]\x7d", .object [("items", .array [])])]

/-- An SDK that builds the requests for rows, with the token for an address. -/
def mockTokenSdk : Sdk where
  defaultBaseUrl := "http://127.0.0.1"
  build _ operation :=
    match operation with
    | .listRows input => .ok {
        operation := "listRows", method := "GET"
        url := (input.syncToken.or input.pageToken).getD ""
        body := none, expectedStatus := 200 }
    | _ => .error "not supported"

/-- The server lists the table without a token, and has no news for one. -/
def mockSyncedReply (request : Request) : HttpReply :=
  if request.url = "" then
    ok200 "\x7b\"items\":[\x7b\"id\":\"r1\"\x7d],\"nextSyncToken\":\"s1\"\x7d"
  else ok200 "\x7b\"items\":[]\x7d"

/-- Its state tells which of the next calls fail. -/
def mockFlakyRemote : Remote (List Bool) where
  sdk := mockTokenSdk
  serde := mockSerde mockSyncedTexts fun _ => ""
  respond
    | true :: rest, _, _ => (.failed "connection reset by peer", rest)
    | _ :: rest, _, request => (mockSyncedReply request, rest)
    | [], _, request => (mockSyncedReply request, [])

def mockCalmRemote : Remote Unit where
  sdk := mockTokenSdk
  serde := mockSerde mockSyncedTexts fun _ => ""
  respond _ _ request := (mockSyncedReply request, ())

def mockSyncedPages : RowsPages := [
  (⟨false, .start⟩, ⟨[bareRow "r1" "" false], "", "s1"⟩), (⟨true, .sync "s1"⟩, ⟨[], "", ""⟩)]

theorem mockSynced_linked : Linked following firstQuestion mockSyncedPages :=
  .more rfl (.last rfl)

theorem mockFlaky_recovers :
    Recovers mockFlakyRemote mockScan (fun failing => failing.count true) mockSyncedPages := by
  rintro page hpage ⟨failing, log⟩
  simp only [mockSyncedPages, List.mem_cons, List.not_mem_nil, or_false] at hpage
  have hanswered : ∀ rest : List Bool, rest.count true ≤ (false :: rest).count true := by simp
  have hfailed : ∀ rest : List Bool, rest.count true < (true :: rest).count true := by simp
  rcases hpage with rfl | rfl <;> rcases failing with _ | ⟨_ | _, rest⟩
  · exact .inl ⟨_, rfl, Nat.le_refl 0⟩
  · exact .inl ⟨_, rfl, hanswered rest⟩
  · exact .inr ⟨_, _, rfl, hfailed rest⟩
  · exact .inl ⟨_, rfl, Nat.le_refl 0⟩
  · exact .inl ⟨_, rfl, hanswered rest⟩
  · exact .inr ⟨_, _, rfl, hfailed rest⟩

theorem mockCalm_recovers :
    Recovers mockCalmRemote mockScan (fun _ => 0) mockSyncedPages := by
  rintro page hpage ⟨_, log⟩
  simp only [mockSyncedPages, List.mem_cons, List.not_mem_nil, or_false] at hpage
  rcases hpage with rfl | rfl <;> exact .inl ⟨_, rfl, Nat.le_refl 0⟩

/-- The first call fails, which does no harm. -/
theorem retry_exact_iff_mock :
    ∃ (calls : List (BatchCall (List Bool))) (batches : List RustExtScanBatch)
        (calmEnd : ScanHandle × World Unit),
      Returns (fun fuel => collectRetrying fuel mockFlakyRemote mockScan ⟨[true], []⟩) calls ∧
      Returns (fun fuel => mockScan.collect fuel mockCalmRemote ⟨(), []⟩)
        (.ok batches, calmEnd) ∧
      deliveredRows calls = batches.flatMap (·.rows) ∧ ∀ call ∈ calls, call.AsksAgain := by
  obtain ⟨calls, batches, calmEnd, hcalls, hcalm, hiff⟩ :=
    retry_exact_iff mockFlakyRemote mockCalmRemote mockConfig "tbl1" mockScanRequest _
      mockSyncedPages mockSynced_linked mockFlaky_recovers mockCalm_recovers ⟨[true], []⟩ ⟨(), []⟩
  have hnot : ¬ SyncCheckFails mockFlakyRemote mockScan ⟨[true], []⟩ mockSyncedPages := by
    obtain ⟨⟨failing, log⟩, herror, rfl⟩ : ∃ mid, RowsAnswer mockFlakyRemote mockScan ⟨[true], []⟩
        firstQuestion (.error "connection reset by peer") mid ∧ mid.server = [] := ⟨_, rfl, rfl⟩
    obtain ⟨world', hread⟩ : ∃ world',
        AnsweredFrom mockFlakyRemote mockScan ⟨[], log⟩ mockSyncedPages world' :=
      ⟨_, .cons rfl (.cons rfl .nil)⟩
    intro hfails
    exact not_syncCheckFails hread ((syncCheckFails_retried herror rfl).mp hfails)
  exact ⟨calls, batches, calmEnd, hcalls, hcalm, hiff.mpr hnot⟩

/-- The sync check fails, and the next call lists the row once more. -/
theorem failed_sync_check_lists_again :
    Linked following firstQuestion mockSyncedPages ∧
    Recovers mockFlakyRemote mockScan (fun failing => failing.count true) mockSyncedPages ∧
    Recovers mockCalmRemote mockScan (fun _ => 0) mockSyncedPages ∧
    ∃ (calls : List (BatchCall (List Bool))) (batches : List RustExtScanBatch)
        (calmEnd : ScanHandle × World Unit),
      collectRetrying 4 mockFlakyRemote mockScan ⟨[false, true], []⟩ = some calls ∧
      mockScan.collect 4 mockCalmRemote ⟨(), []⟩ = some (.ok batches, calmEnd) ∧
      (deliveredRows calls).map (·.id) = ["r1", "r1"] ∧
      (batches.flatMap (·.rows)).map (·.id) = ["r1"] ∧
      ¬ ∀ call ∈ calls, call.AsksAgain := by
  refine ⟨mockSynced_linked, mockFlaky_recovers, mockCalm_recovers, _, _, _, rfl, rfl, rfl, rfl, ?_⟩
  intro hagain
  -- the second call is the one that failed
  have heq := hagain _ (List.mem_cons_of_mem _ List.mem_cons_self) _ rfl
  cases heq

end DuckdbCoda
