import DuckdbCoda.Logic.CatalogOrigin
import DuckdbCoda.Logic.Traces
import DuckdbCoda.Theorems.WriteFlag

/-!
# What a DML statement sends and counts

* `mutation_bodies_exact` — the bodies of an INSERT or UPDATE are, byte for byte
  up to the printer, the cells of the editable columns it assigns; no slice of
  the flattened values is out of range.
* `dml_trace_exact` — a statement sends its requests up to the first one that
  fails and counts the rows it sank, or throws before it sends anything.
-/

namespace DuckdbCoda

variable {σ : Type}

/-! ## Bodies -/

/-- A column the document computes, or row metadata, is not editable. -/
theorem not_generated_of_editable {column : RustExtColumn} (hloaded : LoadedColumn column)
    (heditable : hasBit column.capabilities columnEditable = true) :
    hasBit column.capabilities columnGenerated = false ∧
      hasBit column.capabilities columnSystem = false := by
  refine ⟨?_, (hloaded.plain (.inr heditable)).notSystem⟩
  rcases hloaded with ⟨item, read, hread, hsame⟩ | ⟨name, hsame⟩
  · have hcapabilities := anonymous_capabilities hsame
    obtain ⟨id, _, hread⟩ := bind_eq_ok hread
    obtain ⟨name, _, hread⟩ := bind_eq_ok hread
    cases hread
    rw [hcapabilities] at heditable ⊢
    revert heditable
    show hasBit (columnCapabilities _ _) columnEditable = true →
      hasBit (columnCapabilities _ _) columnGenerated = false
    -- the four combinations of `calculated` and `isArray`
    generalize (item.getBool "calculated").getD false = calculated
    generalize (((item.get "format").bind fun inner => inner.asObject.map fun _ => inner).bind
      (Json.getBool "isArray")).getD false = isArray
    cases calculated <;> cases isArray <;> decide
  · have hcapabilities : column.capabilities =
        columnGenerated ||| columnSystem ||| columnSortAsc := anonymous_capabilities hsame
    rw [hcapabilities] at heditable
    exact absurd heditable (by decide)

/-- `start..start + width` of the row at `index` is within the values. -/
def SliceInRange (values : List RustExtInputValue) (width index : Nat) : Prop :=
  index * width + width ≤ values.length

theorem sliceInRange_of_length {values : List RustExtInputValue} {width count index : Nat}
    (hlength : count * width ≤ values.length) (hindex : index < count) :
    SliceInRange values width index := by
  have hrow : (index + 1) * width ≤ count * width := Nat.mul_le_mul_right width hindex
  rw [Nat.succ_mul] at hrow
  exact hrow.trans hlength

theorem insertBody_slices (serde : SerdeJson) (columns : List RustExtWriteColumn)
    (values : List RustExtInputValue) (rowCount valueColumnCount : Nat)
    (tableCapabilities : UInt32) :
    (values.length < rowCount * valueColumnCount ∨ valueColumnCount < columns.length →
      ∃ message, insertBody serde columns values rowCount valueColumnCount tableCapabilities =
        .error message) ∧
    ((∃ message, insertBody serde columns values rowCount valueColumnCount tableCapabilities =
        .error message) ∨
      ∀ index < rowCount, SliceInRange values valueColumnCount index) := by
  unfold insertBody
  split
  · exact ⟨fun _ => ⟨_, rfl⟩, .inl ⟨_, rfl⟩⟩
  · split
    · exact ⟨fun _ => ⟨_, rfl⟩, .inl ⟨_, rfl⟩⟩
    · next hshape =>
        push Not at hshape
        exact ⟨fun h => by omega, .inr fun index h => sliceInRange_of_length hshape.2 h⟩

theorem updateRows_slices (remote : Remote σ) (config : RustExtClientConfig) (tableId : String)
    (rowIds : List String) (columns : List RustExtWriteColumn) (values : List RustExtInputValue)
    (tableCapabilities : UInt32) (world : World σ) :
    (values.length ≠ rowIds.length * columns.length →
      ∃ message, updateRows remote config tableId rowIds columns values tableCapabilities world =
        (.error message, world)) ∧
    ((∃ message, updateRows remote config tableId rowIds columns values tableCapabilities world =
        (.error message, world)) ∨
      ∀ index < rowIds.length, SliceInRange values columns.length index) := by
  unfold updateRows
  split
  · exact ⟨fun _ => ⟨_, rfl⟩, .inl ⟨_, rfl⟩⟩
  · split
    · exact ⟨fun _ => ⟨_, rfl⟩, .inl ⟨_, rfl⟩⟩
    · next hshape =>
        push Not at hshape
        exact ⟨fun h => absurd hshape h,
          .inr fun index h => sliceInRange_of_length hshape.ge h⟩

/-- **Bodies.** A client call sends the first of the requests written down from
the rows of the chunk, all of them on success; the columns in them are editable
ones of the table; and no row is cut out of values it is not in. That a body holds
the values of its rows is `insert_bodies` and `update_bodies`, and that the JSON of
a value is the value `cellSqlValue_written`, with `encoded_null_iff` for null. -/
theorem mutation_bodies_exact (attached : Attached σ) (operator : DmlOperator) (chunk : DataChunk)
    (world : World σ) :
    let sent := (sentSince world (operator.write attached chunk world).2).map (·.operation)
    (sent <+: operator.requests attached chunk ∧
      ∀ written, (operator.write attached chunk world).1 = .ok written →
        sent = operator.requests attached chunk) ∧
    (∀ row, ∀ written ∈ operator.assigned row,
      written.1 ∈ operator.table.columns ∧ written.1.editable = true ∧
        (LoadedColumn written.1.column → hasBit written.1.column.capabilities columnGenerated =
          false ∧ hasBit written.1.column.capabilities columnSystem = false)) ∧
    (∀ columns values rowCount valueColumnCount tableCapabilities,
      (values.length < rowCount * valueColumnCount ∨ valueColumnCount < columns.length →
        ∃ message, insertBody attached.remote.serde columns values rowCount valueColumnCount
          tableCapabilities = .error message) ∧
      ((∃ message, insertBody attached.remote.serde columns values rowCount valueColumnCount
          tableCapabilities = .error message) ∨
        ∀ index < rowCount, SliceInRange values valueColumnCount index)) ∧
    (∀ tableId rowIds columns values tableCapabilities,
      (values.length ≠ rowIds.length * columns.length →
        ∃ message, updateRows attached.remote attached.config tableId rowIds columns values
          tableCapabilities world = (.error message, world)) ∧
      ((∃ message, updateRows attached.remote attached.config tableId rowIds columns values
          tableCapabilities world = (.error message, world)) ∨
        ∀ index < rowIds.length, SliceInRange values columns.length index)) := by
  refine ⟨write_requests attached operator chunk world, ?_,
    insertBody_slices attached.remote.serde, fun tableId rowIds columns values capabilities =>
      updateRows_slices attached.remote attached.config tableId rowIds columns values capabilities
        world⟩
  intro row written hmem
  obtain ⟨hcolumn, heditable⟩ := DmlOperator.mem_assigned hmem
  exact ⟨hcolumn, heditable, fun hloaded => not_generated_of_editable hloaded heditable⟩

/-! ## The trace of a statement -/

/-- The sinks of a statement: its operator, chunk by chunk. -/
def DmlOperator.sinks (operator : DmlOperator) (chunks : List DataChunk) :
    List (DmlOperator × DataChunk) :=
  chunks.map fun chunk => (operator, chunk)

/-- The number of rows of the chunks. -/
def totalRows (chunks : List DataChunk) : Nat := (chunks.map fun chunk => chunk.rows.length).sum

theorem trace_cons_empty (attached : Attached σ) (operator : DmlOperator) {chunk : DataChunk}
    (rest : List DataChunk) (hrows : chunk.rows = []) :
    operator.trace attached (chunk :: rest) = operator.trace attached rest := by
  simp [DmlOperator.trace, hrows]

theorem trace_cons (attached : Attached σ) (operator : DmlOperator) {chunk : DataChunk}
    (rest : List DataChunk) (hrows : chunk.rows ≠ []) :
    operator.trace attached (chunk :: rest) =
      operator.requests attached chunk ++ operator.trace attached rest := by
  simp [DmlOperator.trace, hrows]

/-- What comes of the sinks of a statement: they deliver its trace and count the
rows, or throw at the first request that fails. -/
inductive StatementOutcome (trace : List Operation) (before : Session σ) (rows : Nat)
    (result : Except Exception Unit × Session σ) (sent : List Exchange) : Prop
  | delivered : result.1 = .ok () → Delivered trace sent →
      result.2.affectedCount = before.affectedCount + rows →
      StatementOutcome trace before rows result sent
  | stopped {message : String} : result.1 = .error (.invalidInput message) →
      StoppedAtFailure trace sent → StatementOutcome trace before rows result sent

section

variable {attached : Attached σ}
  (builds : ∀ operation, ∃ request,
    attached.remote.sdk.build (endpoint attached.remote.sdk attached.config) operation =
      .ok request)
include builds

/-- One sink of a statement that can be used. -/
theorem sink_outcome {operator : DmlOperator} {chunk : DataChunk} {session : Session σ}
    (hrows : chunk.rows ≠ []) (husable : operator.Usable session.context) :
    ∃ sent, (sink attached operator chunk session).2.world.log = session.world.log ++ sent ∧
      (sink attached operator chunk session).2.context = session.context ∧
      StatementOutcome (operator.requests attached chunk) session chunk.rows.length
        (sink attached operator chunk session) sent := by
  rw [sink_ready hrows (DmlOperator.ready_usable husable chunk)]
  obtain ⟨sent, hlog, houtcome⟩ :=
    sendAll_outcome builds (operator.requests attached chunk) session.world
  rcases hsend : sendAll attached.remote attached.config
    ((operator.requests attached chunk).map .ok) session.world with ⟨message | _, world⟩
  · rw [hsend] at hlog houtcome
    rcases houtcome with ⟨hok, _⟩ | ⟨_, _, hstopped⟩
    · cases hok
    · exact ⟨sent, hlog, rfl, .stopped rfl hstopped⟩
  · rw [hsend] at hlog houtcome
    rcases houtcome with ⟨_, hdelivered⟩ | ⟨_, herror, _⟩
    · exact ⟨sent, hlog, rfl, .delivered rfl hdelivered rfl⟩
    · cases herror

/-- All sinks of a statement that can be used, by induction on the chunks. -/
theorem runSinks_outcome {operator : DmlOperator} (chunks : List DataChunk) :
    ∀ session : Session σ, operator.Usable session.context → ∃ sent,
      (runSinks attached (operator.sinks chunks) session).2.world.log =
        session.world.log ++ sent ∧
      StatementOutcome (operator.trace attached chunks) session (totalRows chunks)
        (runSinks attached (operator.sinks chunks) session) sent := by
  induction chunks with
  | nil =>
      intro session _
      exact ⟨[], (List.append_nil _).symm, .delivered rfl .nil rfl⟩
  | cons chunk rest ih =>
      intro session husable
      have hrows : totalRows (chunk :: rest) = chunk.rows.length + totalRows rest := by
        simp [totalRows]
      rw [DmlOperator.sinks, List.map_cons, runSinks, hrows]
      by_cases hempty : chunk.rows = []
      · -- an empty chunk is passed over
        rw [sink_empty attached operator session hempty, trace_cons_empty attached operator rest
          hempty, hempty, List.length_nil, Nat.zero_add]
        exact ih session husable
      · obtain ⟨sent, hlog, hcontext, houtcome⟩ := sink_outcome builds hempty husable
        rw [trace_cons attached operator rest hempty]
        rcases hsink : sink attached operator chunk session with ⟨exception | _, session'⟩
        · -- the chunk throws: nothing of the rest is sunk
          rw [hsink] at hlog houtcome
          cases houtcome with
          | delivered hok _ _ => cases hok
          | stopped herror hstopped => exact ⟨sent, hlog, .stopped herror (hstopped.append _)⟩
        · rw [hsink] at hlog hcontext houtcome
          obtain ⟨later, hlater, hrest⟩ := ih session' (by rw [hcontext]; exact husable)
          cases houtcome with
          | stopped herror _ => cases herror
          | delivered _ hdelivered hcount =>
              refine ⟨sent ++ later, ?_, ?_⟩
              · rw [← List.append_assoc, ← hlog]
                exact hlater
              · cases hrest with
                | delivered hok hrestDelivered hrestCount =>
                    refine .delivered hok (hdelivered.append hrestDelivered) ?_
                    rw [← Nat.add_assoc, ← hcount]
                    exact hrestCount
                | stopped herror hstopped =>
                    exact .stopped herror (hdelivered.append_stopped hstopped)

end

/-- A statement that cannot be used sends nothing, and throws at the first chunk
with rows. -/
theorem runSinks_unusable (attached : Attached σ) {operator : DmlOperator}
    (chunks : List DataChunk) (session : Session σ) (h : ¬ operator.Usable session.context) :
    (runSinks attached (operator.sinks chunks) session).2 = session ∧
      ((runSinks attached (operator.sinks chunks) session).1 = .ok () ↔
        ∀ chunk ∈ chunks, chunk.rows = []) := by
  induction chunks with
  | nil => exact ⟨rfl, ⟨fun _ chunk hmem => (by cases hmem), fun _ => rfl⟩⟩
  | cons chunk rest ih =>
      rw [DmlOperator.sinks, List.map_cons, runSinks]
      by_cases hempty : chunk.rows = []
      · rw [sink_empty attached operator session hempty]
        refine ⟨ih.1, ih.2.trans ?_⟩
        simp [hempty]
      · obtain ⟨exception, hsink⟩ := DmlOperator.sink_unusable attached hempty h
        rw [hsink]
        exact ⟨rfl, fun h => (by cases h), fun h => absurd (h chunk List.mem_cons_self) hempty⟩

/-- The BIGINT with the value of the number. -/
def IsCount (value : Value) (count : Nat) : Prop :=
  ∃ reported, value = .integer .big reported ∧ reported.toInt = count

/-- What `GetDataInternal` reports is the count; it is reported if it fits. -/
theorem getDataInternal_count (session : Session σ) :
    (∀ value, getDataInternal session = .ok value → IsCount value session.affectedCount) ∧
      (session.affectedCount < 2 ^ 63 → ∃ value, getDataInternal session = .ok value) := by
  unfold getDataInternal
  split
  · next hfits =>
      refine ⟨fun value h => ?_, fun _ => ⟨_, rfl⟩⟩
      cases h
      exact ⟨_, rfl, Int64.toInt_ofNat_of_lt (by simpa using hfits)⟩
  · next hlarge => exact ⟨fun value h => (by cases h), fun h => absurd h hlarge⟩

/-- **A statement sends its rows and counts what it sent.** What the operations are
about and hold is told by `insert_bodies` for an INSERT, and by `updateSteps_writes`
and `update_bodies` for an UPDATE. The counts are those of fewer than 2^64 rows. -/
theorem dml_trace_exact (attached : Attached σ)
    (builds : ∀ operation, ∃ request,
      attached.remote.sdk.build (endpoint attached.remote.sdk attached.config) operation =
        .ok request)
    (operator : DmlOperator) (context : ClientContext) (world : World σ)
    (chunks : List DataChunk) :
    let result := runSinks attached (operator.sinks chunks) (Session.start context world)
    let sent := sentSince world result.2.world
    (operator.Usable context →
      (result.1 = .ok () ∧ Delivered (operator.trace attached chunks) sent ∧
        (∀ value, getDataInternal result.2 = .ok value → IsCount value (totalRows chunks)) ∧
        (totalRows chunks < 2 ^ 63 → ∃ value, getDataInternal result.2 = .ok value)) ∨
      ((∃ message, result.1 = .error (.invalidInput message)) ∧
        StoppedAtFailure (operator.trace attached chunks) sent)) ∧
    (¬ operator.Usable context →
      sent = [] ∧ (result.1 = .ok () ↔ ∀ chunk ∈ chunks, chunk.rows = [])) := by
  constructor
  · intro husable
    obtain ⟨sent, hlog, houtcome⟩ :=
      runSinks_outcome builds chunks (Session.start context world) husable
    rw [show sentSince world _ = sent from sentSince_eq hlog]
    cases houtcome with
    | delivered hok hdelivered hcount =>
        rw [show (Session.start context world).affectedCount = 0 from rfl, Nat.zero_add] at hcount
        rw [← hcount]
        exact .inl ⟨hok, hdelivered, getDataInternal_count _⟩
    | stopped herror hstopped => exact .inr ⟨⟨_, herror⟩, hstopped⟩
  · intro hunusable
    obtain ⟨hsame, hempty⟩ :=
      runSinks_unusable attached chunks (Session.start context world) hunusable
    refine ⟨?_, hempty⟩
    rw [hsame]
    exact sentSince_eq (List.append_nil _).symm

def mockUpdateChunks : List DataChunk :=
  [⟨2, []⟩, ⟨2, [mockUpdateRow "r1", mockUpdateRow "r2"]⟩, ⟨2, [mockUpdateRow "r3"]⟩]

/-- The second of three rows fails: the third one is not sent. -/
theorem dml_trace_exact_mock :
    (∃ message, (runSinks mockAttached (mockUpdate.sinks mockUpdateChunks)
        (Session.start mockUpdateContext mockPartialWorld)).1 = .error (.invalidInput message)) ∧
      StoppedAtFailure (mockUpdate.trace mockAttached mockUpdateChunks)
        (sentSince mockPartialWorld (runSinks mockAttached (mockUpdate.sinks mockUpdateChunks)
          (Session.start mockUpdateContext mockPartialWorld)).2.world) := by
  have husable : mockUpdate.Usable mockUpdateContext :=
    ⟨rfl, rfl, by decide, by decide⟩
  refine ((dml_trace_exact mockAttached (fun operation => ⟨_, rfl⟩) mockUpdate mockUpdateContext
    mockPartialWorld mockUpdateChunks).1 husable).resolve_left ?_
  rintro ⟨hok, _⟩
  cases hok

end DuckdbCoda
