import DuckdbCoda.Logic.Requests
import DuckdbCoda.Model.Storage

/-!
# What a write sends

Every client call that writes is a list of steps, each an operation to send or
a failure before it, sent one after the other up to the first failure
(`sendAll`, `DmlOperator.write_eq`). Whether the call succeeds and whether it
left anything at the server are read off the steps and the server's answers
(`sendAll_ok_iff`, `sendAll_sent`).
-/

namespace DuckdbCoda

variable {σ : Type}

/-! ## Sending a list of steps -/

/-- An operation to send, or the failure that keeps it from being sent. -/
abbrev SendStep := Except String Operation

def sendAll (remote : Remote σ) (config : RustExtClientConfig) :
    List SendStep → World σ → Except String Unit × World σ
  | [], world => (.ok (), world)
  | .error message :: _, world => (.error message, world)
  | .ok operation :: rest, world =>
      match perform remote config operation world with
      | (.error message, world) => (.error message, world)
      | (.ok _, world) => sendAll remote config rest world

/-- The server accepts the first step. -/
def FirstAccepted (remote : Remote σ) (config : RustExtClientConfig) :
    List SendStep → σ → Prop
  | [], _ => False
  | step :: _, server => ∃ operation request reply server',
      step = .ok operation ∧
      remote.sdk.build (endpoint remote.sdk config) operation = .ok request ∧
      remote.respond server config.credential request = (reply, server') ∧
      Exchange.accepted { operation, request, reply } = true

/-- The server accepts every step, and all the answers can be read. -/
def AllAnswered (remote : Remote σ) (config : RustExtClientConfig) :
    List SendStep → σ → Prop
  | [], _ => True
  | step :: rest, server => ∃ operation request body server',
      step = .ok operation ∧
      remote.sdk.build (endpoint remote.sdk config) operation = .ok request ∧
      remote.respond server config.credential request =
        (.answered request.expectedStatus (.ok body), server') ∧
      AllAnswered remote config rest server'

/-- What becomes of the first operation: it cannot be built, its answer is a
failure, or the rest is sent. -/
theorem sendAll_cases (remote : Remote σ) (config : RustExtClientConfig) (operation : Operation)
    (rest : List SendStep) (world : World σ) :
    (∃ message, remote.sdk.build (endpoint remote.sdk config) operation = .error message ∧
      sendAll remote config (.ok operation :: rest) world = (.error message, world)) ∨
    (∃ request reply server' message,
      remote.sdk.build (endpoint remote.sdk config) operation = .ok request ∧
      remote.respond world.server config.credential request = (reply, server') ∧
      replyBody request reply = .error message ∧
      sendAll remote config (.ok operation :: rest) world =
        (.error message, ⟨server', world.log ++ [⟨operation, request, reply⟩]⟩)) ∨
    (∃ request body server',
      remote.sdk.build (endpoint remote.sdk config) operation = .ok request ∧
      remote.respond world.server config.credential request =
        (.answered request.expectedStatus (.ok body), server') ∧
      sendAll remote config (.ok operation :: rest) world = sendAll remote config rest
        ⟨server', world.log ++
          [⟨operation, request, .answered request.expectedStatus (.ok body)⟩]⟩) := by
  rcases perform_cases remote config operation world with
    ⟨message, hbuild, hp⟩ | ⟨request, reply, server', hbuild, hrespond, hp⟩
  · exact .inl ⟨message, hbuild, by simp only [sendAll, hp]⟩
  · cases hreply : replyBody request reply with
    | error message =>
        refine .inr (.inl ⟨request, reply, server', message, hbuild, hrespond, hreply, ?_⟩)
        simp only [sendAll, hp, hreply]
    | ok body =>
        have hanswer := replyBody_ok hreply
        subst hanswer
        refine .inr (.inr ⟨request, body, server', hbuild, hrespond, ?_⟩)
        simp only [sendAll, hp, hreply]

theorem not_allAnswered_of_unbuilt {remote : Remote σ} {config : RustExtClientConfig}
    {operation : Operation} {rest : List SendStep} {server : σ} {message : String}
    (hbuild : remote.sdk.build (endpoint remote.sdk config) operation = .error message) :
    ¬ AllAnswered remote config (.ok operation :: rest) server := by
  rintro ⟨_, _, _, _, hstep, hbuild', _⟩
  cases hstep
  rw [hbuild] at hbuild'
  cases hbuild'

/-- With the request and the reply known, all is answered exactly if the reply
has a body and the rest is answered after it. -/
theorem allAnswered_cons_iff {remote : Remote σ} {config : RustExtClientConfig}
    {operation : Operation} {rest : List SendStep} {server server' : σ} {request : Request}
    {reply : HttpReply}
    (hbuild : remote.sdk.build (endpoint remote.sdk config) operation = .ok request)
    (hrespond : remote.respond server config.credential request = (reply, server')) :
    AllAnswered remote config (.ok operation :: rest) server ↔
      (∃ body, replyBody request reply = .ok body) ∧ AllAnswered remote config rest server' := by
  constructor
  · rintro ⟨_, _, body, _, hstep, hbuild', hrespond', hrest⟩
    cases hstep
    rw [hbuild] at hbuild'
    cases hbuild'
    rw [hrespond] at hrespond'
    cases hrespond'
    exact ⟨⟨body, by simp [replyBody]⟩, hrest⟩
  · rintro ⟨⟨body, hbody⟩, hrest⟩
    rw [replyBody_ok hbody] at hrespond
    exact ⟨operation, request, body, server', rfl, hbuild, hrespond, hrest⟩

/-- Sending succeeds exactly if every step is answered. -/
theorem sendAll_ok_iff (remote : Remote σ) (config : RustExtClientConfig)
    (steps : List SendStep) : ∀ world : World σ,
      (sendAll remote config steps world).1 = .ok () ↔
        AllAnswered remote config steps world.server := by
  induction steps with
  | nil =>
      intro world
      exact ⟨fun _ => trivial, fun _ => rfl⟩
  | cons step rest ih =>
      intro world
      cases step with
      | error message =>
          constructor
          · intro h
            cases h
          · rintro ⟨_, _, _, _, hstep, _⟩
            cases hstep
      | ok operation =>
          rcases sendAll_cases remote config operation rest world with
            ⟨message, hbuild, hsend⟩ |
            ⟨request, reply, server', message, hbuild, hrespond, hreply, hsend⟩ |
            ⟨request, body, server', hbuild, hrespond, hsend⟩
          · -- the SDK cannot build the request
            rw [hsend]
            exact ⟨fun h => (by cases h), fun h => absurd h (not_allAnswered_of_unbuilt hbuild)⟩
          · -- the reply is a failure
            rw [hsend, allAnswered_cons_iff hbuild hrespond, hreply]
            exact ⟨fun h => (by cases h), fun ⟨⟨_, h⟩, _⟩ => (by cases h)⟩
          · rw [hsend, ih, allAnswered_cons_iff hbuild hrespond]
            exact ⟨fun h => ⟨⟨body, by simp [replyBody]⟩, h⟩, And.right⟩

/-- What is sent are the first steps, all of them on success, and some of it is
accepted exactly if the first step is. -/
theorem sendAll_sent (remote : Remote σ) (config : RustExtClientConfig) (steps : List SendStep) :
    ∀ world : World σ, ∃ sent, (sendAll remote config steps world).2.log = world.log ++ sent ∧
      (sent.map fun exchange => Except.ok exchange.operation) <+: steps ∧
      ((sendAll remote config steps world).1 = .ok () → sent.length = steps.length) ∧
      ((∃ exchange ∈ sent, exchange.accepted = true) ↔
        FirstAccepted remote config steps world.server) := by
  induction steps with
  | nil =>
      intro world
      exact ⟨[], by simp [sendAll], List.nil_prefix, fun _ => rfl, by simp [FirstAccepted]⟩
  | cons step rest ih =>
      intro world
      cases step with
      | error message =>
          exact ⟨[], by simp [sendAll], List.nil_prefix, fun h => (by cases h),
            by simp [FirstAccepted]⟩
      | ok operation =>
          rcases sendAll_cases remote config operation rest world with
            ⟨message, hbuild, hsend⟩ |
            ⟨request, reply, server', message, hbuild, hrespond, _, hsend⟩ |
            ⟨request, body, server', hbuild, hrespond, hsend⟩
          · -- nothing is sent
            refine ⟨[], by simp [hsend], List.nil_prefix, fun h => ?_, ?_⟩
            · rw [hsend] at h
              cases h
            · simp [FirstAccepted, hbuild]
          · -- one request is sent; it may have been accepted with a body that cannot be read
            refine ⟨[⟨operation, request, reply⟩], by rw [hsend], ?_, fun h => ?_, ?_⟩
            · exact (List.prefix_cons_inj _).mpr List.nil_prefix
            · rw [hsend] at h
              cases h
            · simp [FirstAccepted, hbuild, hrespond]
          · obtain ⟨sent, hlog, hpre, hall, _⟩ := ih ⟨server', world.log ++
              [⟨operation, request, .answered request.expectedStatus (.ok body)⟩]⟩
            have haccepted : Exchange.accepted
                ⟨operation, request, .answered request.expectedStatus (.ok body)⟩ = true := by
              simp [Exchange.accepted]
            refine ⟨⟨operation, request, .answered request.expectedStatus (.ok body)⟩ :: sent,
              ?_, ?_, fun h => ?_, ?_⟩
            · rw [hsend, hlog, List.append_assoc, List.singleton_append]
            · exact (List.prefix_cons_inj _).mpr hpre
            · rw [hsend] at h
              rw [List.length_cons, List.length_cons, hall h]
            · refine ⟨fun _ => ?_, fun _ => ⟨_, List.mem_cons_self, haccepted⟩⟩
              exact ⟨operation, request, _, server', rfl, hbuild, hrespond, haccepted⟩

/-! ## The steps of a client call -/

/-- The steps of `update_rows` once the shape is right. -/
def updateSteps (serde : SerdeJson) (config : RustExtClientConfig) (tableId : String)
    (columns : List RustExtWriteColumn) (values : List RustExtInputValue)
    (tableCapabilities : UInt32) : Nat → List String → List SendStep
  | _, [] => []
  | rowIndex, rowId :: rest =>
      (updateBody serde columns (rowSlice values columns.length rowIndex) tableCapabilities).map
        (updateRowOperation config tableId rowId) ::
      updateSteps serde config tableId columns values tableCapabilities (rowIndex + 1) rest

/-- The steps of `update_rows`. -/
def updateRowsSteps (serde : SerdeJson) (config : RustExtClientConfig) (tableId : String)
    (rowIds : List String) (columns : List RustExtWriteColumn) (values : List RustExtInputValue)
    (tableCapabilities : UInt32) : List SendStep :=
  if columns.isEmpty && !rowIds.isEmpty then [.error "update column count mismatch"]
  else if values.length ≠ rowIds.length * columns.length then
    [.error "update value count mismatch"]
  else updateSteps serde config tableId columns values tableCapabilities 0 rowIds

/-- The steps of the client call of an operator, or what it throws before it
gets to them. -/
def DmlOperator.steps (attached : Attached σ) (operator : DmlOperator) (chunk : DataChunk) :
    Except Exception (List SendStep) :=
  let serde := attached.remote.serde
  let config := attached.config
  let table := operator.table
  match operator.statement with
  | .insert =>
      .ok [(insertBody serde (editableColumns table)
        (chunk.rows.flatMap (insertRowValues attached.duckdb table)) chunk.rows.length
        table.columns.length table.table.capabilities).map
          (upsertRowsOperation config table.table.id)]
  | .update assignments =>
      (updateValues attached.duckdb table assignments chunk.rows).map fun values =>
        updateRowsSteps serde config table.table.id
          (chunkRowIds attached.duckdb chunk (chunk.columnCount - 1))
          (assignments.map fun assignment => updateColumn table assignment.1) values
          table.table.capabilities
  | .delete rowIdIndex =>
      let rowIds := chunkRowIds attached.duckdb chunk rowIdIndex
      .ok (if rowIds.isEmpty then []
        else [.ok (deleteRowsOperation config table.table.id (deleteBody serde rowIds))])

/-- The context of the exported function a statement calls. -/
def DmlStatement.context : DmlStatement → String
  | .insert => "failed to insert Coda rows"
  | .update _ => "failed to update Coda rows"
  | .delete _ => "failed to delete Coda rows"

theorem updateRowsFrom_eq (remote : Remote σ) (config : RustExtClientConfig) (tableId : String)
    (columns : List RustExtWriteColumn) (values : List RustExtInputValue)
    (tableCapabilities : UInt32) (rowIds : List String) : ∀ (rowIndex : Nat) (world : World σ),
      updateRowsFrom remote config tableId columns values tableCapabilities rowIndex rowIds world =
        sendAll remote config (updateSteps remote.serde config tableId columns values
          tableCapabilities rowIndex rowIds) world := by
  induction rowIds with
  | nil => intro rowIndex world; rfl
  | cons rowId rest ih =>
      intro rowIndex world
      rw [updateRowsFrom, updateSteps]
      cases updateBody remote.serde columns (rowSlice values columns.length rowIndex)
          tableCapabilities with
      | error message => rfl
      | ok body =>
          simp only [Except.map, sendAll]
          rcases perform remote config (updateRowOperation config tableId rowId body) world with
            ⟨_ | body, world'⟩
          · rfl
          · exact ih (rowIndex + 1) world'

/-- **A client call sends its steps** and reports the number of rows. -/
theorem DmlOperator.write_eq (attached : Attached σ) (operator : DmlOperator) (chunk : DataChunk)
    (world : World σ) :
    operator.write attached chunk world =
      match operator.steps attached chunk with
      | .error exception => (.error exception, world)
      | .ok steps =>
          (thrown operator.statement.context
            ((sendAll attached.remote attached.config steps world).1.map
              fun _ => chunk.rows.length),
            (sendAll attached.remote attached.config steps world).2) := by
  obtain ⟨table, statement⟩ := operator
  have hrowIds : ∀ index, (chunkRowIds attached.duckdb chunk index).length = chunk.rows.length :=
    fun index => List.length_map _
  cases statement with
  | insert =>
      simp only [DmlOperator.write, DmlOperator.steps, clientInsertRows, insertRows]
      cases insertBody attached.remote.serde (editableColumns table)
          (chunk.rows.flatMap (insertRowValues attached.duckdb table)) chunk.rows.length
          table.columns.length table.table.capabilities with
      | error message => rfl
      | ok body =>
          simp only [Except.map, sendAll]
          rcases perform attached.remote attached.config
            (upsertRowsOperation attached.config table.table.id body) world with
            ⟨_ | body, world'⟩ <;> rfl
  | update assignments =>
      simp only [DmlOperator.write, DmlOperator.steps, clientUpdateRows, updateRows]
      cases updateValues attached.duckdb table assignments chunk.rows with
      | error exception => rfl
      | ok values =>
          simp only [Except.map, updateRowsSteps]
          -- both counts are checked before the first row is sent
          split
          · rfl
          · split
            · rfl
            · rw [updateRowsFrom_eq, hrowIds]
              rcases sendAll attached.remote attached.config _ world with ⟨_ | _, world'⟩ <;> rfl
  | delete rowIdIndex =>
      simp only [DmlOperator.write, DmlOperator.steps, clientDeleteRows, deleteRows]
      split
      · -- no row id, no request, and a count of zero
        rename_i hempty
        have hzero : chunk.rows.length = 0 := by
          rw [← hrowIds rowIdIndex]
          exact List.length_eq_zero_iff.mpr (List.isEmpty_iff.mp hempty)
        rw [hzero]
        rfl
      · simp only [sendAll, hrowIds]
        rcases perform attached.remote attached.config (deleteRowsOperation attached.config
          table.table.id (deleteBody attached.remote.serde
            (chunkRowIds attached.duckdb chunk rowIdIndex))) world with ⟨_ | body, world'⟩ <;> rfl

/-! ## The operations of the steps -/

/-- The operations of an operator address its table and change rows. -/
def Writes (table : RustBridgeTableInfo) (operation : Operation) : Prop :=
  operation.isMutation = true ∧ operation.tableId = some table.table.id

theorem updateSteps_writes (serde : SerdeJson) (config : RustExtClientConfig)
    (table : RustBridgeTableInfo) (columns : List RustExtWriteColumn)
    (values : List RustExtInputValue) (tableCapabilities : UInt32) (rowIds : List String) :
    ∀ rowIndex, ∀ operation, .ok operation ∈ updateSteps serde config table.table.id columns values
      tableCapabilities rowIndex rowIds → Writes table operation := by
  induction rowIds with
  | nil => intro rowIndex operation h; cases h
  | cons rowId rest ih =>
      intro rowIndex operation h
      rw [updateSteps] at h
      rcases List.mem_cons.mp h with h | h
      · cases hbody : updateBody serde columns (rowSlice values columns.length rowIndex)
            tableCapabilities with
        | error message =>
            rw [hbody] at h
            cases h
        | ok body =>
            rw [hbody] at h
            cases h
            exact ⟨rfl, rfl⟩
      · exact ih (rowIndex + 1) operation h

/-- An UPDATE of the wrong shape fails before its first request. -/
theorem updateRowsSteps_cases (serde : SerdeJson) (config : RustExtClientConfig)
    (tableId : String) (rowIds : List String) (columns : List RustExtWriteColumn)
    (values : List RustExtInputValue) (tableCapabilities : UInt32) :
    (∃ message, updateRowsSteps serde config tableId rowIds columns values tableCapabilities =
      [.error message]) ∨
    updateRowsSteps serde config tableId rowIds columns values tableCapabilities =
      updateSteps serde config tableId columns values tableCapabilities 0 rowIds := by
  unfold updateRowsSteps
  split
  · exact .inl ⟨_, rfl⟩
  · split
    · exact .inl ⟨_, rfl⟩
    · exact .inr rfl

/-- The steps of an UPDATE: one for each row, or one failure when the shape is
wrong. -/
theorem DmlOperator.update_steps_cases {attached : Attached σ} {table : RustBridgeTableInfo}
    {assignments : List (Nat × UpdateExpression)} {chunk : DataChunk} {steps : List SendStep}
    (h : DmlOperator.steps attached ⟨table, .update assignments⟩ chunk = .ok steps) :
    (∃ message, steps = [.error message]) ∨
    ∃ values, updateValues attached.duckdb table assignments chunk.rows = .ok values ∧
      steps = updateSteps attached.remote.serde attached.config table.table.id
        (assignments.map fun assignment => updateColumn table assignment.1) values
        table.table.capabilities 0 (chunkRowIds attached.duckdb chunk (chunk.columnCount - 1)) := by
  simp only [DmlOperator.steps] at h
  cases hvalues : updateValues attached.duckdb table assignments chunk.rows with
  | error exception =>
      rw [hvalues] at h
      cases h
  | ok values =>
      rw [hvalues] at h
      cases h
      rcases updateRowsSteps_cases attached.remote.serde attached.config table.table.id
        (chunkRowIds attached.duckdb chunk (chunk.columnCount - 1))
        (assignments.map fun assignment => updateColumn table assignment.1) values
        table.table.capabilities with ⟨message, hshape⟩ | hshape
      · exact .inl ⟨message, hshape⟩
      · exact .inr ⟨values, rfl, hshape⟩

theorem DmlOperator.steps_writes {attached : Attached σ} {operator : DmlOperator}
    {chunk : DataChunk} {steps : List SendStep} (h : operator.steps attached chunk = .ok steps) :
    ∀ operation, .ok operation ∈ steps → Writes operator.table operation := by
  obtain ⟨table, statement⟩ := operator
  intro operation hmem
  cases statement with
  | insert =>
      cases h
      have hstep := List.mem_singleton.mp hmem
      cases hbody : insertBody attached.remote.serde (editableColumns table)
          (chunk.rows.flatMap (insertRowValues attached.duckdb table)) chunk.rows.length
          table.columns.length table.table.capabilities with
      | error message =>
          rw [hbody] at hstep
          cases hstep
      | ok body =>
          rw [hbody] at hstep
          cases hstep
          exact ⟨rfl, rfl⟩
  | update assignments =>
      rcases DmlOperator.update_steps_cases h with ⟨message, rfl⟩ | ⟨values, _, rfl⟩
      · cases List.mem_singleton.mp hmem
      · exact updateSteps_writes _ _ table _ _ _ _ _ operation hmem
  | delete rowIdIndex =>
      cases h
      split at hmem
      · cases hmem
      · cases List.mem_singleton.mp hmem
        exact ⟨rfl, rfl⟩

theorem updateSteps_length (serde : SerdeJson) (config : RustExtClientConfig) (tableId : String)
    (columns : List RustExtWriteColumn) (values : List RustExtInputValue)
    (tableCapabilities : UInt32) (rowIds : List String) : ∀ rowIndex,
      (updateSteps serde config tableId columns values tableCapabilities rowIndex rowIds).length =
        rowIds.length := by
  induction rowIds with
  | nil => intro rowIndex; rfl
  | cons rowId rest ih => intro rowIndex; simp [updateSteps, ih]

/-- On a chunk with rows there is a step. -/
theorem DmlOperator.steps_ne_nil {attached : Attached σ} {operator : DmlOperator}
    {chunk : DataChunk} {steps : List SendStep} (h : operator.steps attached chunk = .ok steps)
    (hrows : chunk.rows ≠ []) : steps ≠ [] := by
  obtain ⟨table, statement⟩ := operator
  have hrowIds : ∀ index, chunkRowIds attached.duckdb chunk index ≠ [] := by
    intro index hnil
    exact hrows (List.map_eq_nil_iff.mp hnil)
  cases statement with
  | insert =>
      cases h
      simp
  | update assignments =>
      rcases DmlOperator.update_steps_cases h with ⟨message, rfl⟩ | ⟨values, _, rfl⟩
      · simp
      · intro hnil
        have hlen := congrArg List.length hnil
        rw [updateSteps_length] at hlen
        exact hrowIds _ (List.length_eq_zero_iff.mp hlen)
  | delete rowIdIndex =>
      cases h
      have hne := hrowIds rowIdIndex
      simp [hne]

/-! ## One sink -/

/-- What a sink sends for a chunk with rows, or what it throws before it gets
to send anything. -/
def DmlOperator.ready (attached : Attached σ) (operator : DmlOperator) (chunk : DataChunk)
    (context : ClientContext) : Except Exception (List SendStep) :=
  match rejectExplicitTransaction context with
  | .error exception => .error exception
  | .ok () =>
      if !operator.table.supports operator.statement.capability then
        .error (.notImplemented operator.statement.dmlNotSupportedMessage)
      else operator.steps attached chunk

theorem DmlOperator.ready_ok {attached : Attached σ} {operator : DmlOperator} {chunk : DataChunk}
    {context : ClientContext} {steps : List SendStep}
    (h : operator.ready attached chunk context = .ok steps) :
    context.isAutoCommit = true ∧ operator.table.supports operator.statement.capability = true ∧
      operator.steps attached chunk = .ok steps := by
  unfold DmlOperator.ready at h
  cases hguard : rejectExplicitTransaction context with
  | error exception =>
      rw [hguard] at h
      cases h
  | ok =>
      rw [hguard] at h
      cases hsupports : operator.table.supports operator.statement.capability with
      | false => simp [hsupports] at h
      | true =>
          simp only [hsupports, Bool.not_true, Bool.false_eq_true, if_false] at h
          exact ⟨isAutoCommit_of_rejectExplicitTransaction hguard, rfl, h⟩

/-- The session after a client call that failed. -/
def Session.failed (session : Session σ) (world : World σ) : Session σ :=
  { session with world }

/-- The session after a client call that wrote `count` rows. -/
def Session.written (session : Session σ) (world : World σ) (count : Nat) : Session σ :=
  { session with
    world
    transaction := session.transaction.markWrite
    affectedCount := session.affectedCount + count }

theorem sink_empty (attached : Attached σ) (operator : DmlOperator) {chunk : DataChunk}
    (session : Session σ) (hrows : chunk.rows = []) :
    sink attached operator chunk session = (.ok (), session) := by
  simp [sink, hrows]

/-- A sink that throws before it sends leaves the session as it is. -/
theorem sink_not_ready {attached : Attached σ} {operator : DmlOperator} {chunk : DataChunk}
    {session : Session σ} {exception : Exception} (hrows : chunk.rows ≠ [])
    (hready : operator.ready attached chunk session.context = .error exception) :
    sink attached operator chunk session = (.error exception, session) := by
  have hne : chunk.rows.isEmpty = false := by simpa using hrows
  unfold DmlOperator.ready at hready
  simp only [sink, hne, Bool.false_eq_true, if_false]
  cases hguard : rejectExplicitTransaction session.context with
  | error exception' =>
      rw [hguard] at hready
      cases hready
      rfl
  | ok =>
      simp only [hguard] at hready
      cases hsupports : operator.table.supports operator.statement.capability with
      | false =>
          simp only [hsupports, Bool.not_false, if_true] at hready
          cases hready
          simp
      | true =>
          simp only [hsupports, Bool.not_true, Bool.false_eq_true, if_false] at hready
          simp only [Bool.not_true, Bool.false_eq_true, if_false, DmlOperator.write_eq, hready]

/-- **One sink**: the steps are sent, and the flag is set when they all went
through. -/
theorem sink_ready {attached : Attached σ} {operator : DmlOperator} {chunk : DataChunk}
    {session : Session σ} {steps : List SendStep} (hrows : chunk.rows ≠ [])
    (hready : operator.ready attached chunk session.context = .ok steps) :
    sink attached operator chunk session =
      match sendAll attached.remote attached.config steps session.world with
      | (.error message, world) =>
          (.error (.invalidInput (operator.statement.context ++ ": " ++ message)),
            session.failed world)
      | (.ok (), world) => (.ok (), session.written world chunk.rows.length) := by
  have hne : chunk.rows.isEmpty = false := by simpa using hrows
  obtain ⟨_, hsupports, hsteps⟩ := DmlOperator.ready_ok hready
  have hguard : rejectExplicitTransaction session.context = .ok () := by
    unfold DmlOperator.ready at hready
    cases hguard : rejectExplicitTransaction session.context with
    | error exception =>
        rw [hguard] at hready
        cases hready
    | ok => rfl
  simp only [sink, hne, Bool.false_eq_true, if_false, hguard, hsupports, Bool.not_true,
    DmlOperator.write_eq, hsteps]
  rcases sendAll attached.remote attached.config steps session.world with ⟨_ | _, world⟩ <;> rfl

end DuckdbCoda
