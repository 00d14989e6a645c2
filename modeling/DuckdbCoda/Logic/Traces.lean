import DuckdbCoda.Logic.Encoding

/-!
# The requests of a statement

`DmlOperator.requests` lists the requests a chunk asks for, written down from
the values of its rows: one for an INSERT or DELETE, one for each row of an
UPDATE. A client call sends the first of them, and all of them on success
(`write_requests`); when nothing is wrong with the statement, its steps are
these requests (`DmlOperator.ready_usable`), else it has nothing to send
(`DmlOperator.sink_unusable`).
-/

namespace DuckdbCoda

variable {σ : Type}

/-! ## The bodies -/

/-- The JSON of a row with the given cells. -/
def rowObject (cells : List (String × Json)) : Json :=
  .object [("cells", .array (cells.map fun (columnId, value) =>
    .object [("column", .string columnId), ("value", value)]))]

/-- `write_cells` is determined by the cells in it. -/
theorem writeCells_eq_rowObject (columns : List RustExtWriteColumn)
    (values : List RustExtInputValue) :
    writeCells columns values = rowObject (bodyCells (writeCells columns values)) := by
  rw [bodyCells_writeCells, writeCells, writtenCells, rowObject, List.map_map]
  rfl

/-- The row an INSERT or UPDATE sends for a row of the chunk. -/
def DmlOperator.rowJson (duckdb : DuckDb) (operator : DmlOperator) (row : Nat → Value) : Json :=
  rowObject ((operator.assigned row).map (writtenCell duckdb))

/-- The requests a chunk asks for. -/
def DmlOperator.requests (attached : Attached σ) (operator : DmlOperator) (chunk : DataChunk) :
    List Operation :=
  let serde := attached.remote.serde
  let config := attached.config
  let tableId := operator.table.table.id
  match operator.statement with
  | .insert =>
      [upsertRowsOperation config tableId (serde.toString
        (.object [("rows", .array (chunk.rows.map (operator.rowJson attached.duckdb)))]))]
  | .update _ =>
      chunk.rows.map fun row =>
        updateRowOperation config tableId
          (attached.duckdb.toString (row (chunk.columnCount - 1)))
          (serde.toString (.object [("row", operator.rowJson attached.duckdb row)]))
  | .delete rowIdIndex =>
      if chunk.rows.isEmpty then []
      else
        [deleteRowsOperation config tableId (serde.toString (.object [("rowIds",
          .array (chunk.rows.map fun row =>
            .string (attached.duckdb.toString (row rowIdIndex))))]))]

/-- The requests of a statement: those of its chunks with rows, in their order. -/
def DmlOperator.trace (attached : Attached σ) (operator : DmlOperator) (chunks : List DataChunk) :
    List Operation :=
  (chunks.filter fun chunk => !chunk.rows.isEmpty).flatMap (operator.requests attached)

/-! ## Steps that are requests -/

/-- For UPDATE, something to assign, and no expression of another type on a
column of the table. -/
def DmlOperator.WellShaped (operator : DmlOperator) : Prop :=
  match operator.statement with
  | .update assignments => assignments ≠ [] ∧ ∀ target ∈ assignments,
      target.1 < operator.table.columns.length → target.2 ≠ .other
  | _ => True

theorem insertBody_eq (serde : SerdeJson) (duckdb : DuckDb) {table : RustBridgeTableInfo}
    (rows : List (Nat → Value)) (hsupports : table.supports tableInsert = true) :
    insertBody serde (editableColumns table) (rows.flatMap (insertRowValues duckdb table))
        rows.length table.columns.length table.table.capabilities =
      .ok (serde.toString (insertedRows duckdb table rows)) := by
  have hcapability : hasBit table.table.capabilities tableInsert = true := hsupports
  have hlength : (rows.flatMap (insertRowValues duckdb table)).length =
      rows.length * table.columns.length := by
    simp [List.length_flatMap, insertRowValues]
  have hcolumns : (editableColumns table).length = table.columns.length := List.length_map _
  cases hbody : insertBody serde (editableColumns table)
      (rows.flatMap (insertRowValues duckdb table)) rows.length table.columns.length
      table.table.capabilities with
  | ok body => rw [insertBody_ok hbody]
  | error message =>
      simp [insertBody, hcapability, hlength, hcolumns] at hbody

theorem insertedRows_eq (duckdb : DuckDb) (table : RustBridgeTableInfo)
    (rows : List (Nat → Value)) :
    insertedRows duckdb table rows =
      .object [("rows", .array (rows.map (DmlOperator.rowJson duckdb ⟨table, .insert⟩)))] := by
  have hrows : (rows.map fun row =>
      writeCells (editableColumns table) (insertRowValues duckdb table row)) =
        rows.map (DmlOperator.rowJson duckdb ⟨table, .insert⟩) := by
    refine List.map_congr_left fun row _ => ?_
    rw [writeCells_eq_rowObject, insertCells_eq]
    rfl
  rw [insertedRows, hrows]

theorem updateBody_eq {serde : SerdeJson} {columns : List RustExtWriteColumn}
    {values : List RustExtInputValue} {tableCapabilities : UInt32}
    (hcapability : hasBit tableCapabilities tableUpdate = true)
    (hlength : values.length = columns.length) :
    updateBody serde columns values tableCapabilities =
      .ok (serde.toString (updatedRow columns values)) := by
  simp [updateBody, hcapability, hlength, updatedRow]

theorem updateBody_unsupported {serde : SerdeJson} {columns : List RustExtWriteColumn}
    {values : List RustExtInputValue} {tableCapabilities : UInt32}
    (hcapability : hasBit tableCapabilities tableUpdate = false) :
    updateBody serde columns values tableCapabilities =
      .error "update is unsupported for this table" := by
  simp [updateBody, hcapability]

/-- The steps of an UPDATE by position. -/
theorem updateSteps_getElem? (serde : SerdeJson) (config : RustExtClientConfig)
    (tableId : String) (columns : List RustExtWriteColumn) (values : List RustExtInputValue)
    (tableCapabilities : UInt32) (rowIds : List String) : ∀ rowIndex index : Nat,
      (updateSteps serde config tableId columns values tableCapabilities rowIndex rowIds)[index]? =
        (rowIds[index]?).map fun rowId =>
          (updateBody serde columns (rowSlice values columns.length (rowIndex + index))
            tableCapabilities).map (updateRowOperation config tableId rowId) := by
  induction rowIds with
  | nil => intro rowIndex index; rfl
  | cons rowId rest ih =>
      intro rowIndex index
      cases index with
      | zero => rfl
      | succ index =>
          rw [updateSteps, List.getElem?_cons_succ, List.getElem?_cons_succ, ih,
            Nat.add_right_comm, Nat.add_assoc]

theorem updateValues_wellShaped (duckdb : DuckDb) {table : RustBridgeTableInfo}
    {assignments : List (Nat × UpdateExpression)} (rows : List (Nat → Value))
    (hshape : DmlOperator.WellShaped ⟨table, .update assignments⟩) :
    ∃ values, updateValues duckdb table assignments rows = .ok values := by
  obtain ⟨valueRows, hrows⟩ := mapM_ok_of_forall
    (fun row => assignments.mapM (updateValue duckdb table row)) rows (by
      intro row _
      refine mapM_ok_of_forall _ assignments fun target hmem => ?_
      have htarget := hshape.2 target hmem
      unfold updateValue
      split
      · exact ⟨_, rfl⟩
      · next info hinfo =>
          have hlt := (List.getElem?_eq_some_iff.mp hinfo).1
          cases hexpression : target.2 with
          | boundRef index => exact ⟨_, rfl⟩
          | valueDefault => exact ⟨_, rfl⟩
          | other => exact absurd hexpression (htarget hlt))
  exact ⟨valueRows.flatten, by rw [updateValues, hrows]; rfl⟩

/-- The steps of an UPDATE that goes through its checks are its requests. -/
theorem update_steps_requests {attached : Attached σ} {table : RustBridgeTableInfo}
    {assignments : List (Nat × UpdateExpression)} {chunk : DataChunk}
    {values : List RustExtInputValue} (hsupports : table.supports tableUpdate = true)
    (hvalues : updateValues attached.duckdb table assignments chunk.rows = .ok values) :
    updateSteps attached.remote.serde attached.config table.table.id
        (assignments.map fun assignment => updateColumn table assignment.1) values
        table.table.capabilities 0 (chunkRowIds attached.duckdb chunk (chunk.columnCount - 1)) =
      (DmlOperator.requests attached ⟨table, .update assignments⟩ chunk).map .ok := by
  obtain ⟨valueRows, rfl, hrows⟩ := updateValues_ok hvalues
  have hcells : ∀ (index : Nat) (row : Nat → Value), chunk.rows[index]? = some row →
      ∃ rowValues, valueRows[index]? = some rowValues ∧
        assignments.mapM (updateValue attached.duckdb table row) = .ok rowValues := by
    intro index row hrow
    obtain ⟨hindex, rfl⟩ := List.getElem?_eq_some_iff.mp hrow
    have hindex' : index < valueRows.length := hrows.length_eq ▸ hindex
    exact ⟨valueRows[index], List.getElem?_eq_getElem hindex', hrows.get hindex hindex'⟩
  apply List.ext_getElem?
  intro index
  rw [updateSteps_getElem?, Nat.zero_add, chunkRowIds, DmlOperator.requests, List.map_map,
    List.getElem?_map, List.getElem?_map]
  cases hrow : chunk.rows[index]? with
  | none => rfl
  | some row =>
      obtain ⟨rowValues, hget, hread⟩ := hcells index row hrow
      obtain ⟨hlength, hencoded⟩ := updateCells_eq attached.duckdb table row assignments hread
      rw [Option.map_some, Option.map_some, Option.map_some,
        rowSlice_flatten valueRows (updateValues_width hrows) hget,
        updateBody_eq hsupports (by rw [hlength, List.length_map]), updatedRow,
        writeCells_eq_rowObject, hencoded]
      rfl

/-- Nothing is wrong with the statement: the steps are the requests. -/
theorem DmlOperator.steps_requests {attached : Attached σ} {operator : DmlOperator}
    {chunk : DataChunk} (hsupports : operator.table.supports operator.statement.capability = true)
    (hshape : operator.WellShaped) :
    operator.steps attached chunk = .ok ((operator.requests attached chunk).map .ok) := by
  obtain ⟨table, statement⟩ := operator
  obtain ⟨columnCount, rows⟩ := chunk
  cases statement with
  | insert =>
      simp only [DmlOperator.steps, DmlOperator.requests]
      rw [insertBody_eq attached.remote.serde attached.duckdb rows hsupports,
        insertedRows_eq]
      rfl
  | update assignments =>
      obtain ⟨values, hvalues⟩ := updateValues_wellShaped attached.duckdb rows hshape
      have hcolumns : (assignments.map fun target => updateColumn table target.1).isEmpty =
          false := by
        simpa using hshape.1
      obtain ⟨valueRows, hflatten, hrows⟩ := updateValues_ok hvalues
      -- the second check of `update_rows` passes: every row gave each column a value
      have hlength : values.length =
          (chunkRowIds attached.duckdb ⟨columnCount, rows⟩ (columnCount - 1)).length *
            (assignments.map fun target => updateColumn table target.1).length := by
        have hlengths := List.map_congr_left (updateValues_width hrows)
        have hrowIds : (chunkRowIds attached.duckdb ⟨columnCount, rows⟩
            (columnCount - 1)).length = rows.length := List.length_map _
        rw [hflatten, List.length_flatten, hlengths, List.map_const', List.sum_replicate_nat,
          ← hrows.length_eq, hrowIds]
      simp only [DmlOperator.steps, hvalues, Except.map, updateRowsSteps, hcolumns,
        Bool.false_and, Bool.false_eq_true, if_false, ne_eq, hlength, not_true_eq_false]
      exact congrArg Except.ok (update_steps_requests hsupports hvalues)
  | delete rowIdIndex =>
      simp only [DmlOperator.steps, DmlOperator.requests, chunkRowIds, deleteBody, List.map_map]
      cases rows with
      | nil => rfl
      | cons row rest => rfl

/-- Whatever is wrong with the statement, its steps are its requests or start
with a failure. -/
theorem DmlOperator.steps_cases {attached : Attached σ} {operator : DmlOperator}
    {chunk : DataChunk} {steps : List SendStep} (h : operator.steps attached chunk = .ok steps) :
    steps = (operator.requests attached chunk).map .ok ∨
      ∃ message rest, steps = .error message :: rest := by
  obtain ⟨table, statement⟩ := operator
  obtain ⟨columnCount, rows⟩ := chunk
  cases statement with
  | insert =>
      cases h
      cases hbody : insertBody attached.remote.serde (editableColumns table)
          (rows.flatMap (insertRowValues attached.duckdb table)) rows.length
          table.columns.length table.table.capabilities with
      | error message => exact .inr ⟨message, [], rfl⟩
      | ok body =>
          left
          rw [insertBody_ok hbody, insertedRows_eq]
          rfl
  | update assignments =>
      rcases DmlOperator.update_steps_cases h with ⟨message, rfl⟩ | ⟨values, hvalues, rfl⟩
      · exact .inr ⟨message, [], rfl⟩
      · cases hsupports : table.supports tableUpdate with
        | true => exact .inl (update_steps_requests hsupports hvalues)
        | false =>
            -- the capability is checked row by row, so the first row fails
            cases rows with
            | nil => exact .inl rfl
            | cons row rest =>
                right
                have hcapability : hasBit table.table.capabilities tableUpdate = false := hsupports
                rw [chunkRowIds, List.map_cons, updateSteps, updateBody_unsupported hcapability]
                exact ⟨_, _, rfl⟩
  | delete rowIdIndex =>
      left
      cases h
      simp only [DmlOperator.requests, chunkRowIds, deleteBody, List.map_map]
      cases rows with
      | nil => rfl
      | cons row rest => rfl

/-- **A client call sends the first of its requests**, and all of them on success. -/
theorem write_requests (attached : Attached σ) (operator : DmlOperator) (chunk : DataChunk)
    (world : World σ) :
    (sentSince world (operator.write attached chunk world).2).map (·.operation) <+:
        operator.requests attached chunk ∧
      ∀ written, (operator.write attached chunk world).1 = .ok written →
        (sentSince world (operator.write attached chunk world).2).map (·.operation) =
          operator.requests attached chunk := by
  have hnothing : sentSince world world = [] := sentSince_eq (List.append_nil _).symm
  rw [DmlOperator.write_eq]
  cases hsteps : operator.steps attached chunk with
  | error exception =>
      simp only [hnothing]
      exact ⟨List.nil_prefix, fun _ h => by cases h⟩
  | ok steps =>
      rcases DmlOperator.steps_cases hsteps with rfl | ⟨message, rest, rfl⟩
      · obtain ⟨sent, hlog, hpre, hall, _⟩ := sendAll_sent attached.remote attached.config
          ((operator.requests attached chunk).map .ok) world
        have hinjective : Function.Injective (Except.ok : Operation → SendStep) :=
          fun _ _ => Except.ok.inj
        have hsent : sent.map (·.operation) <+: operator.requests attached chunk := by
          refine (List.prefix_map_iff_of_injective hinjective).mp ?_
          rw [List.map_map]
          exact hpre
        simp only [sentSince_eq hlog]
        refine ⟨hsent, fun written h => hsent.eq_of_length ?_⟩
        rw [List.length_map, hall, List.length_map]
        rcases hresult : (sendAll attached.remote attached.config
          ((operator.requests attached chunk).map .ok) world).1 with message | _
        · rw [hresult] at h
          cases h
        · rfl
      · -- the first step fails before it is sent
        simp only [sendAll, hnothing]
        exact ⟨List.nil_prefix, fun _ h => by cases h⟩

/-! ## Requests that are sent up to the first failure -/

/-- `send_request` returned the body of the answer. -/
def Exchange.succeeded (exchange : Exchange) : Bool :=
  match replyBody exchange.request exchange.reply with
  | .ok _ => true
  | .error _ => false

/-- All operations were sent, in their order, and succeeded. -/
structure Delivered (operations : List Operation) (sent : List Exchange) : Prop where
  operations_eq : sent.map (·.operation) = operations
  succeeded : ∀ exchange ∈ sent, exchange.succeeded = true

/-- The first operations were sent; all of them succeeded but the last one. -/
structure StoppedAtFailure (operations : List Operation) (sent : List Exchange) : Prop where
  operations_prefix : sent.map (·.operation) <+: operations
  failure : ∃ before last, sent = before ++ [last] ∧
    (∀ exchange ∈ before, exchange.succeeded = true) ∧ last.succeeded = false

theorem Delivered.nil : Delivered [] [] := ⟨rfl, fun _ h => by cases h⟩

theorem Delivered.append {first second : List Operation} {sent later : List Exchange}
    (h : Delivered first sent) (h' : Delivered second later) :
    Delivered (first ++ second) (sent ++ later) := by
  refine ⟨by rw [List.map_append, h.operations_eq, h'.operations_eq], ?_⟩
  intro exchange hmem
  rcases List.mem_append.mp hmem with hsent | hlater
  · exact h.succeeded exchange hsent
  · exact h'.succeeded exchange hlater

/-- Behind what was delivered, the next failure stops. -/
theorem Delivered.append_stopped {first second : List Operation} {sent later : List Exchange}
    (h : Delivered first sent) (h' : StoppedAtFailure second later) :
    StoppedAtFailure (first ++ second) (sent ++ later) := by
  obtain ⟨hpre, before, last, rfl, hbefore, hlast⟩ := h'
  refine ⟨?_, sent ++ before, last, by rw [List.append_assoc], fun exchange hmem => ?_, hlast⟩
  · rw [List.map_append, h.operations_eq]
    exact (List.prefix_append_right_inj first).mpr hpre
  · rcases List.mem_append.mp hmem with hsent | hlater
    · exact h.succeeded exchange hsent
    · exact hbefore exchange hlater

theorem StoppedAtFailure.append {first : List Operation} {sent : List Exchange}
    (h : StoppedAtFailure first sent) (second : List Operation) :
    StoppedAtFailure (first ++ second) sent :=
  ⟨h.operations_prefix.trans (List.prefix_append _ _), h.failure⟩

section

variable {attached : Attached σ}
  (builds : ∀ operation, ∃ request,
    attached.remote.sdk.build (endpoint attached.remote.sdk attached.config) operation =
      .ok request)
include builds

/-- Operations that can all be built are delivered, or stop at a failure. -/
theorem sendAll_outcome (operations : List Operation) : ∀ world : World σ, ∃ sent,
    (sendAll attached.remote attached.config (operations.map .ok) world).2.log =
        world.log ++ sent ∧
      (((sendAll attached.remote attached.config (operations.map .ok) world).1 = .ok () ∧
          Delivered operations sent) ∨
        ∃ message,
          (sendAll attached.remote attached.config (operations.map .ok) world).1 =
            .error message ∧ StoppedAtFailure operations sent) := by
  induction operations with
  | nil =>
      intro world
      exact ⟨[], (List.append_nil _).symm, .inl ⟨rfl, .nil⟩⟩
  | cons operation rest ih =>
      intro world
      rw [List.map_cons]
      rcases sendAll_cases attached.remote attached.config operation (rest.map .ok) world with
        ⟨message, hbuild, _⟩ |
        ⟨request, reply, server', message, _, _, hreply, hsend⟩ |
        ⟨request, body, server', _, _, hsend⟩
      · obtain ⟨request, hrequest⟩ := builds operation
        rw [hbuild] at hrequest
        cases hrequest
      · -- this one failed, and it is the last that is sent
        rw [hsend]
        refine ⟨[⟨operation, request, reply⟩], rfl, .inr ⟨message, rfl, ?_, [], _, rfl, ?_, ?_⟩⟩
        · exact (List.prefix_cons_inj _).mpr List.nil_prefix
        · intro exchange hmem
          cases hmem
        · simp only [Exchange.succeeded, hreply]
      · obtain ⟨exchange, hexchange⟩ : ∃ exchange : Exchange, exchange =
            ⟨operation, request, .answered request.expectedStatus (.ok body)⟩ := ⟨_, rfl⟩
        rw [hsend, ← hexchange]
        obtain ⟨sent, hlog, houtcome⟩ := ih ⟨server', world.log ++ [exchange]⟩
        have hfirst : Delivered [operation] [exchange] := by
          refine ⟨by rw [hexchange]; rfl, ?_⟩
          intro other hmem
          rw [List.mem_singleton.mp hmem, hexchange]
          simp [Exchange.succeeded, replyBody]
        refine ⟨exchange :: sent, ?_, ?_⟩
        · rw [hlog, List.append_assoc, List.singleton_append]
        · rcases houtcome with ⟨hok, hdelivered⟩ | ⟨message, herror, hstopped⟩
          · exact .inl ⟨hok, hfirst.append hdelivered⟩
          · exact .inr ⟨message, herror, hfirst.append_stopped hstopped⟩

end

/-! ## One sink -/

/-- Nothing keeps the sinks of the operator from sending. -/
structure DmlOperator.Usable (operator : DmlOperator) (context : ClientContext) : Prop where
  guard : rejectExplicitTransaction context = .ok ()
  supports : operator.table.supports operator.statement.capability = true
  shape : operator.WellShaped

theorem DmlOperator.ready_usable {attached : Attached σ} {operator : DmlOperator}
    {context : ClientContext} (h : operator.Usable context) (chunk : DataChunk) :
    operator.ready attached chunk context =
      .ok ((operator.requests attached chunk).map .ok) := by
  simp only [DmlOperator.ready, h.guard, h.supports, Bool.not_true, Bool.false_eq_true, if_false]
  exact DmlOperator.steps_requests h.supports h.shape

/-- An expression of another type is met before the values are complete. -/
theorem updateValues_other (duckdb : DuckDb) {table : RustBridgeTableInfo}
    {assignments : List (Nat × UpdateExpression)} {rows : List (Nat → Value)} (hrows : rows ≠ [])
    {target : Nat × UpdateExpression} (hmem : target ∈ assignments)
    (hcolumn : target.1 < table.columns.length) (hother : target.2 = .other) :
    ∃ exception, updateValues duckdb table assignments rows = .error exception := by
  obtain ⟨row, hrow⟩ := List.exists_mem_of_ne_nil rows hrows
  have hvalue : ∃ exception, updateValue duckdb table row target = .error exception := by
    refine ⟨.notImplemented unsupportedUpdateExpressionMessage, ?_⟩
    simp only [updateValue, List.getElem?_eq_getElem hcolumn, hother]
  obtain ⟨exception, herror⟩ := mapM_error_of_mem
    (fun row => assignments.mapM (updateValue duckdb table row)) hrow
    (mapM_error_of_mem _ hmem hvalue)
  exact ⟨exception, by rw [updateValues, herror]; rfl⟩

/-- An UPDATE with nothing to assign has the wrong shape. -/
theorem update_steps_nil (attached : Attached σ) {table : RustBridgeTableInfo} {chunk : DataChunk}
    (hrows : chunk.rows ≠ []) :
    DmlOperator.steps attached ⟨table, .update []⟩ chunk =
      .ok [.error "update column count mismatch"] := by
  obtain ⟨valueRows, hvalues⟩ := mapM_ok_of_forall
    (fun row => [].mapM (updateValue attached.duckdb table row)) chunk.rows
    (fun row _ => ⟨[], rfl⟩)
  have hrowIds : (chunkRowIds attached.duckdb chunk (chunk.columnCount - 1)).isEmpty = false := by
    simpa [chunkRowIds] using hrows
  simp only [DmlOperator.steps, updateValues, hvalues, Except.map, updateRowsSteps, List.map_nil,
    List.isEmpty_nil, hrowIds, Bool.not_false, Bool.and_true, if_true]

/-- **A sink that cannot be used** throws on a chunk with rows, and sends nothing. -/
theorem DmlOperator.sink_unusable (attached : Attached σ) {operator : DmlOperator}
    {chunk : DataChunk} {session : Session σ} (hrows : chunk.rows ≠ [])
    (h : ¬ operator.Usable session.context) :
    ∃ exception, sink attached operator chunk session = (.error exception, session) := by
  cases hguard : rejectExplicitTransaction session.context with
  | error exception =>
      exact ⟨exception, sink_not_ready hrows (by simp only [DmlOperator.ready, hguard])⟩
  | ok =>
      cases hsupports : operator.table.supports operator.statement.capability with
      | false =>
          refine ⟨.notImplemented operator.statement.dmlNotSupportedMessage,
            sink_not_ready hrows ?_⟩
          simp only [DmlOperator.ready, hguard, hsupports, Bool.not_false, if_true]
      | true =>
          have hready : operator.ready attached chunk session.context =
              operator.steps attached chunk := by
            simp only [DmlOperator.ready, hguard, hsupports, Bool.not_true, Bool.false_eq_true,
              if_false]
          have hshape : ¬ operator.WellShaped := fun hshape => h ⟨hguard, hsupports, hshape⟩
          obtain ⟨table, statement⟩ := operator
          cases statement with
          | insert => exact absurd trivial hshape
          | delete rowIdIndex => exact absurd trivial hshape
          | update assignments =>
              by_cases hnil : assignments = []
              · -- nothing to assign: `update_rows` finds the wrong shape
                subst hnil
                have hsteps : DmlOperator.ready attached ⟨table, .update []⟩ chunk session.context =
                    .ok [.error "update column count mismatch"] := by
                  rw [hready]
                  exact update_steps_nil attached hrows
                rw [sink_ready hrows hsteps]
                exact ⟨_, rfl⟩
              · obtain ⟨target, hmem, hcolumn, hother⟩ : ∃ target ∈ assignments,
                    target.1 < table.columns.length ∧ target.2 = .other := by
                  by_contra hnone
                  push Not at hnone
                  exact hshape ⟨hnil, hnone⟩
                obtain ⟨exception, herror⟩ :=
                  updateValues_other attached.duckdb hrows hmem hcolumn hother
                refine ⟨exception, sink_not_ready hrows ?_⟩
                rw [hready]
                simp only [DmlOperator.steps, herror, Except.map]

end DuckdbCoda
