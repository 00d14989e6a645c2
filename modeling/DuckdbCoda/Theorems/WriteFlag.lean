import DuckdbCoda.Logic.Sends
import DuckdbCoda.Model.MockCoda

/-!
# The write flag and the requests that were accepted

A sink sets the flag after the whole client call. When the server has accepted
something of a call that then fails, the flag stays unset and the rollback of
the transaction is reported as clean. `writesFlagged_iff` says exactly when
this happens: only the first chunk with rows can go wrong, because a later one
finds the flag set.
-/

namespace DuckdbCoda

variable {σ : Type}

/-- A mutation request was accepted between the two sessions. -/
def MutationAccepted (before after : Session σ) : Prop :=
  ∃ exchange ∈ sentSince before.world after.world,
    exchange.operation.isMutation = true ∧ exchange.accepted = true

/-- The flag is set exactly if a mutation request was accepted, and so a
rollback throws exactly then. -/
def WritesFlagged (before after : Session σ) : Prop :=
  (after.transaction.hasWrites = true ↔ MutationAccepted before after) ∧
  (after.transaction.rollback = .error (.notImplemented transactionRollbackNotSupportedMessage) ↔
    MutationAccepted before after)

/-- On the first chunk with rows, the server either does not accept the first
request, or it accepts all requests and their answers can be read. -/
def FirstChunkWhole (attached : Attached σ) (sinks : List (DmlOperator × DataChunk))
    (context : ClientContext) (server : σ) : Prop :=
  ∀ first, sinks.find? (fun s => !s.2.rows.isEmpty) = some first →
    ∀ steps, first.1.ready attached first.2 context = .ok steps →
      FirstAccepted attached.remote attached.config steps server →
        AllAnswered attached.remote attached.config steps server

/-! ## What later sinks keep -/

/-- A sink only adds to the log, and does not unset the flag. -/
theorem sink_extends (attached : Attached σ) (operator : DmlOperator) (chunk : DataChunk)
    (session : Session σ) :
    ∃ sent, (sink attached operator chunk session).2.world.log = session.world.log ++ sent ∧
      (session.transaction.hasWrites = true →
        (sink attached operator chunk session).2.transaction.hasWrites = true) := by
  by_cases hrows : chunk.rows = []
  · rw [sink_empty attached operator session hrows]
    exact ⟨[], by simp, id⟩
  · cases hready : operator.ready attached chunk session.context with
    | error exception =>
        rw [sink_not_ready hrows hready]
        exact ⟨[], by simp, id⟩
    | ok steps =>
        rw [sink_ready hrows hready]
        obtain ⟨sent, hlog, _⟩ := sendAll_sent attached.remote attached.config steps session.world
        revert hlog
        rcases sendAll attached.remote attached.config steps session.world with ⟨message | _, world⟩
        · intro hlog
          exact ⟨sent, hlog, id⟩
        · intro hlog
          exact ⟨sent, hlog, fun _ => rfl⟩

theorem runSinks_extends (attached : Attached σ) (sinks : List (DmlOperator × DataChunk)) :
    ∀ session : Session σ, ∃ sent,
      (runSinks attached sinks session).2.world.log = session.world.log ++ sent ∧
      (session.transaction.hasWrites = true →
        (runSinks attached sinks session).2.transaction.hasWrites = true) := by
  induction sinks with
  | nil => exact fun session => ⟨[], by simp [runSinks], id⟩
  | cons head rest ih =>
      intro session
      obtain ⟨sent, hlog, hflag⟩ := sink_extends attached head.1 head.2 session
      rw [runSinks]
      rcases hsink : sink attached head.1 head.2 session with ⟨exception | _, session'⟩
      · rw [hsink] at hlog hflag
        exact ⟨sent, hlog, hflag⟩
      · rw [hsink] at hlog hflag
        obtain ⟨sent', hlog', hflag'⟩ := ih session'
        refine ⟨sent ++ sent', ?_, fun h => hflag' (hflag h)⟩
        simp only at hlog
        rw [hlog', hlog, List.append_assoc]

/-- What was accepted stays accepted as the log grows. -/
theorem MutationAccepted.later {before mid after : Session σ} {sent later : List Exchange}
    (hsent : mid.world.log = before.world.log ++ sent)
    (hlater : after.world.log = mid.world.log ++ later)
    (h : MutationAccepted before mid) : MutationAccepted before after := by
  obtain ⟨exchange, hmem, hmutation, haccepted⟩ := h
  rw [sentSince_eq hsent] at hmem
  rw [hsent, List.append_assoc] at hlater
  refine ⟨exchange, ?_, hmutation, haccepted⟩
  rw [sentSince_eq hlater]
  exact List.mem_append_left _ hmem

theorem not_mutationAccepted_self (session : Session σ) : ¬ MutationAccepted session session := by
  rintro ⟨exchange, hmem, _⟩
  rw [sentSince_eq (List.append_nil _).symm] at hmem
  cases hmem

/-! ## The two outcomes of the first chunk with rows -/

/-- The two halves say the same, the flag being what a rollback looks at. -/
theorem writesFlagged_iff_flag {before after : Session σ} :
    WritesFlagged before after ↔
      (after.transaction.hasWrites = true ↔ MutationAccepted before after) :=
  ⟨fun h => h.1, fun h => ⟨h, (RustBridgeTransaction.rollback_eq_error_iff _).trans h⟩⟩

/-- Without the flag, nothing may have been accepted. -/
theorem writesFlagged_of_unset {before after : Session σ}
    (h : after.transaction.hasWrites = false) :
    WritesFlagged before after ↔ ¬ MutationAccepted before after := by
  rw [writesFlagged_iff_flag, h]
  simp

/-- With the flag and an accepted request behind it, the rest of the sinks
changes nothing. -/
theorem writesFlagged_runSinks (attached : Attached σ) (sinks : List (DmlOperator × DataChunk))
    {before mid : Session σ} {sent : List Exchange}
    (hsent : mid.world.log = before.world.log ++ sent)
    (hflag : mid.transaction.hasWrites = true) (haccepted : MutationAccepted before mid) :
    WritesFlagged before (runSinks attached sinks mid).2 := by
  obtain ⟨later, hlater, hkept⟩ := runSinks_extends attached sinks mid
  rw [writesFlagged_iff_flag]
  exact ⟨fun _ => haccepted.later hsent hlater, fun _ => hkept hflag⟩

/-- Steps that were all answered began with an accepted one. -/
theorem firstAccepted_of_allAnswered {remote : Remote σ} {config : RustExtClientConfig}
    {steps : List SendStep} {server : σ} (hne : steps ≠ [])
    (h : AllAnswered remote config steps server) : FirstAccepted remote config steps server := by
  cases steps with
  | nil => exact absurd rfl hne
  | cons step rest =>
      obtain ⟨operation, request, body, server', hstep, hbuild, hrespond, _⟩ := h
      exact ⟨operation, request, _, server', hstep, hbuild, hrespond, by simp [Exchange.accepted]⟩

/-- Something of the steps sent since a session was accepted exactly if the
first of them was. -/
theorem mutationAccepted_iff {attached : Attached σ} {operator : DmlOperator} {chunk : DataChunk}
    {steps : List SendStep} {before after : Session σ}
    (hsteps : operator.steps attached chunk = .ok steps)
    (hafter : after.world = (sendAll attached.remote attached.config steps before.world).2) :
    MutationAccepted before after ↔
      FirstAccepted attached.remote attached.config steps before.world.server := by
  obtain ⟨sent, hlog, hpre, _, haccepted⟩ :=
    sendAll_sent attached.remote attached.config steps before.world
  rw [← hafter] at hlog
  rw [← haccepted, MutationAccepted, sentSince_eq hlog]
  constructor
  · rintro ⟨exchange, hmem, _, hacc⟩
    exact ⟨exchange, hmem, hacc⟩
  · rintro ⟨exchange, hmem, hacc⟩
    have hstep := hpre.subset (List.mem_map_of_mem hmem)
    exact ⟨exchange, hmem, (DmlOperator.steps_writes hsteps _ hstep).1, hacc⟩

/-- The run from a chunk with rows that is ready to be sent. -/
theorem writesFlagged_ready {attached : Attached σ} {operator : DmlOperator} {chunk : DataChunk}
    {session : Session σ} {steps : List SendStep} (rest : List (DmlOperator × DataChunk))
    (hunset : session.transaction.hasWrites = false) (hrows : chunk.rows ≠ [])
    (hready : operator.ready attached chunk session.context = .ok steps) :
    WritesFlagged session (runSinks attached ((operator, chunk) :: rest) session).2 ↔
      (FirstAccepted attached.remote attached.config steps session.world.server →
        AllAnswered attached.remote attached.config steps session.world.server) := by
  have hsteps := (DmlOperator.ready_ok hready).2.2
  have hok := sendAll_ok_iff attached.remote attached.config steps session.world
  obtain ⟨sent, hlog, _⟩ := sendAll_sent attached.remote attached.config steps session.world
  rw [runSinks, sink_ready hrows hready]
  rcases hsend : sendAll attached.remote attached.config steps session.world with
    ⟨message | done, world⟩
  · -- the call failed: the flag stays unset
    rw [hsend] at hok
    have hpartial : ¬ AllAnswered attached.remote attached.config steps session.world.server := by
      intro h
      cases hok.mpr h
    have hsent : MutationAccepted session (session.failed world) ↔ _ :=
      mutationAccepted_iff hsteps (by rw [hsend]; rfl)
    have hflag : (session.failed world).transaction.hasWrites = false := hunset
    show WritesFlagged session (session.failed world) ↔ _
    rw [writesFlagged_of_unset hflag, hsent]
    exact ⟨fun hnot hfirst => absurd hfirst hnot, fun hwhole hfirst => hpartial (hwhole hfirst)⟩
  · -- the call went through: the flag is set and stays set
    rw [hsend] at hok hlog
    have hwhole := hok.mp rfl
    have hfirst := firstAccepted_of_allAnswered (DmlOperator.steps_ne_nil hsteps hrows) hwhole
    have haccepted : MutationAccepted session (session.written world chunk.rows.length) :=
      (mutationAccepted_iff hsteps (by rw [hsend]; rfl)).mpr hfirst
    have hrest := writesFlagged_runSinks attached rest hlog rfl haccepted
    exact ⟨fun _ _ => hwhole, fun _ => hrest⟩

/-- **When a rollback is honest about what was written.** After any sequence of
sinks of a transaction, up to its end or to the one that throws, the flag is
set exactly if a mutation request was accepted, and a rollback throws exactly
then, if and only if the first chunk with rows was not accepted at all or was
accepted as a whole. -/
theorem writesFlagged_iff (attached : Attached σ) (context : ClientContext) (world : World σ)
    (sinks : List (DmlOperator × DataChunk)) :
    WritesFlagged (Session.start context world)
        (runSinks attached sinks (Session.start context world)).2 ↔
      FirstChunkWhole attached sinks context world.server := by
  have hnothing : WritesFlagged (Session.start context world) (Session.start context world) :=
    (writesFlagged_of_unset rfl).mpr (not_mutationAccepted_self _)
  induction sinks with
  | nil => exact ⟨fun _ first hfirst => absurd hfirst (by simp), fun _ => hnothing⟩
  | cons head rest ih =>
      obtain ⟨operator, chunk⟩ := head
      by_cases hrows : chunk.rows = []
      · -- an empty chunk: the session stays as it is
        have hfind : FirstChunkWhole attached ((operator, chunk) :: rest) context world.server ↔
            FirstChunkWhole attached rest context world.server := by
          simp [FirstChunkWhole, hrows]
        rw [hfind, runSinks, sink_empty attached operator _ hrows]
        exact ih
      · have hfirst : ((operator, chunk) :: rest).find? (fun s => !s.2.rows.isEmpty) =
            some (operator, chunk) := by
          simp [hrows]
        cases hready : operator.ready attached chunk context with
        | error exception =>
            rw [runSinks, sink_not_ready hrows hready]
            refine ⟨fun _ first h steps hsteps => ?_, fun _ => hnothing⟩
            rw [hfirst] at h
            cases h
            rw [hready] at hsteps
            cases hsteps
        | ok steps =>
            rw [writesFlagged_ready rest rfl hrows hready]
            constructor
            · intro hwhole first h steps' hsteps
              rw [hfirst] at h
              cases h
              rw [hready] at hsteps
              cases hsteps
              exact hwhole
            · intro hwhole
              exact hwhole _ hfirst steps hready

/-! ## An update that fails at its second row -/

def mockAttached : Attached (List HttpReply) where
  remote := mockRemote (mockSerde [] fun _ => "")
  duckdb := mockDuckDb
  config := mockConfig

/-- `UPDATE "Tasks" SET "Name" = 'new'`, in autocommit mode. -/
def mockUpdate : DmlOperator := ⟨tasksInfo, .update [(0, .boundRef 0)]⟩

def mockUpdateContext : ClientContext := ⟨true, "UPDATE \"Tasks\" SET \"Name\" = 'new'"⟩

/-- A row of the update: the new value and the row id. -/
def mockUpdateRow (rowId : String) (column : Nat) : Value :=
  if column = 0 then .varchar "new" else .varchar rowId

def mockUpdateSinks : List (DmlOperator × DataChunk) :=
  [(mockUpdate, ⟨2, [mockUpdateRow "r1", mockUpdateRow "r2"]⟩)]

def rateLimited : String := "http://127.0.0.1/docs/mock-doc/tables/tbl1/rows/r2: status code 429"

/-- The first request is accepted, the second one meets the rate limit. -/
def mockPartialWorld : World (List HttpReply) :=
  mockWorld [.answered 202 (.ok ""), .failed rateLimited]

/-- The first row is updated in the document, the statement throws, and the
rollback is reported as clean. -/
theorem partial_update_unflagged :
    mockUpdateContext.isAutoCommit = true ∧
      (runSinks mockAttached mockUpdateSinks (Session.start mockUpdateContext mockPartialWorld)).1 =
        .error (.invalidInput ("failed to update Coda rows: " ++ rateLimited)) ∧
      MutationAccepted (Session.start mockUpdateContext mockPartialWorld)
        (runSinks mockAttached mockUpdateSinks
          (Session.start mockUpdateContext mockPartialWorld)).2 ∧
      (runSinks mockAttached mockUpdateSinks
        (Session.start mockUpdateContext mockPartialWorld)).2.transaction.hasWrites = false ∧
      (runSinks mockAttached mockUpdateSinks
        (Session.start mockUpdateContext mockPartialWorld)).2.transaction.rollback = .ok () := by
  refine ⟨rfl, rfl, ?_, rfl, rfl⟩
  refine ⟨⟨updateRowOperation mockConfig "tbl1" "r1" "",
    mockBuild "http://127.0.0.1" (updateRowOperation mockConfig "tbl1" "r1" ""),
    .answered 202 (.ok "")⟩, ?_, rfl, rfl⟩
  exact List.mem_cons_self

end DuckdbCoda
