import DuckdbCoda.Model.Process

/-!
# The scan over two sources

`RustBridgeScan` does nothing to its source but ask it for batches. What every
answer of the source keeps, every call keeps (`rustBridgeScan_keeps`); what is
known of the rows of a batch is known of the rows of output read from them
(`rustBridgeScan_reads`); and two sources that answer alike make the same calls
(`rustBridgeScan_map`).
-/

namespace DuckdbCoda

open Loop

variable {S T : Type} {next : Nat → S → Option (Except Exception RustExtScanBatch × S)}
  {next' : Nat → T → Option (Except Exception RustExtScanBatch × T)} {duckdb : DuckDb}
  {vectorSize fuel : Nat}

/-! ## The rule for a call -/

/-- No row is left, and no batch is to come. -/
def RustBridgeScanGlobalState.RanOut (state : RustBridgeScanGlobalState S) : Prop :=
  state.finished = true ∧ state.rows.rows[state.rowOffset]? = none

/-- No row is left, and a batch may come. -/
def RustBridgeScanGlobalState.Starved (state : RustBridgeScanGlobalState S) : Prop :=
  state.finished = false ∧ state.rows.rows[state.rowOffset]? = none

/-- What an invariant of the turns of a call has to keep, so that the call ends
in `post`: the turn that leaves, the two answers of the source, and a row that
is copied from the buffer. A turn leaves a chunk that has room only when the
scan has run out. -/
structure ScanRule (next : Nat → S → Option (Except Exception RustExtScanBatch × S))
    (duckdb : DuckDb) (vectorSize : Nat) (inv : ScanTurn S → Prop) (post : ScanCall S → Prop) :
    Prop where
  leave : ∀ output state, inv (output, state) → (output.length < vectorSize → state.RanOut) →
    post (.ok output, state)
  refill : ∀ fuel output state batch scan, inv (output, state) → state.Starved →
    next fuel state.scan = some (.ok batch, scan) →
    inv (output, { state with scan, rows := batch, finished := batch.finished, rowOffset := 0 })
  thrown : ∀ fuel output state exception scan, inv (output, state) → state.Starved →
    next fuel state.scan = some (.error exception, scan) →
    post (.error exception, { state with scan })
  emit : ∀ output state row, inv (output, state) → state.rows.rows[state.rowOffset]? = some row →
    (emitRow duckdb output row state).Keeps inv post

section

variable {inv : ScanTurn S → Prop} {post : ScanCall S → Prop}

theorem ScanRule.turn (rule : ScanRule next duckdb vectorSize inv post) (turn : ScanTurn S)
    (result : Turn (ScanTurn S) (ScanCall S)) (h : inv turn)
    (hturn : rustBridgeScanTurn next duckdb vectorSize fuel turn = some result) :
    result.Keeps inv post := by
  obtain ⟨output, state⟩ := turn
  simp only [rustBridgeScanTurn] at hturn
  split at hturn
  case isFalse hfull =>
    cases hturn
    exact rule.leave output state h fun hroom => absurd hroom hfull
  case isTrue hroom =>
    cases hrow : state.rows.rows[state.rowOffset]? with
    | some row =>
        simp only [hrow] at hturn
        cases hturn
        exact rule.emit output state row h hrow
    | none =>
        simp only [hrow] at hturn
        split at hturn
        case isTrue hfinished =>
          cases hturn
          exact rule.leave output state h fun _ => ⟨hfinished, hrow⟩
        case isFalse hgoing =>
          have hstarved : state.Starved := ⟨Bool.eq_false_iff.mpr hgoing, hrow⟩
          obtain ⟨⟨answer, scan⟩, hfetch, rfl⟩ := Option.map_eq_some_iff.mp hturn
          cases answer with
          | error exception => exact rule.thrown fuel output state exception scan h hstarved hfetch
          | ok batch =>
              have hrefill := rule.refill fuel output state batch scan h hstarved hfetch
              dsimp only
              cases hrows : batch.rows with
              | nil =>
                  -- `break` at the end, `continue` before it
                  by_cases hlast : batch.finished = true
                  · rw [if_pos hlast]
                    exact rule.leave _ _ hrefill fun _ => ⟨hlast, by simp [hrows]⟩
                  · rw [if_neg hlast]
                    exact hrefill
              | cons row rest => exact rule.emit output _ row hrefill (by simp [hrows])

/-- **Rule for a call**, whatever the fuel. -/
theorem rustBridgeScan_rule (rule : ScanRule next duckdb vectorSize inv post)
    (state : RustBridgeScanGlobalState S) {call : ScanCall S} (h : inv ([], state))
    (hcall : rustBridgeScan fuel next duckdb vectorSize state = some call) : post call := by
  unfold rustBridgeScan at hcall
  split at hcall
  case isTrue hend =>
    cases hcall
    obtain ⟨hfinished, hle⟩ := Bool.and_eq_true_iff.mp hend
    refine rule.leave [] state h fun _ => ⟨hfinished, ?_⟩
    exact List.getElem?_eq_none (of_decide_eq_true hle)
  case isFalse => exact run_invariant inv post rule.turn fuel ([], state) call h hcall

end

/-! ## What the source keeps -/

/-- A relation of a table, the rows in the buffer and a source. -/
abbrev SourceRelation (S : Type) := RustBridgeTableInfo → RustExtScanBatch → S → Prop

/-- A batch of the source keeps `P`, and an exception leaves `Q`. -/
def SourceKeeps (next : Nat → S → Option (Except Exception RustExtScanBatch × S))
    (P Q : SourceRelation S) : Prop :=
  ∀ fuel table rows scan, P table rows scan →
    (∀ batch scan', next fuel scan = some (.ok batch, scan') → P table batch scan') ∧
    ∀ exception scan', next fuel scan = some (.error exception, scan') → Q table rows scan'

def RustBridgeScanGlobalState.Satisfies (state : RustBridgeScanGlobalState S)
    (P : SourceRelation S) : Prop :=
  P state.table state.rows state.scan

/-- A call leaves `P`, or `Q` after an exception of its source. -/
def ScanCall.Leaves (P Q : SourceRelation S) (call : ScanCall S) : Prop :=
  call.2.Satisfies P ∨ (call.2.Satisfies Q ∧ ∃ exception, call.1 = .error exception)

variable {P Q : SourceRelation S}

/-- What does not look at the counters of a state and the output so far. -/
theorem emitRow_keeps (state : RustBridgeScanGlobalState S) (h : state.Satisfies P)
    (output : List (List Value)) (row : RustExtRow) :
    (emitRow duckdb output row state).Keeps (fun turn => turn.2.Satisfies P)
      (ScanCall.Leaves P Q) := by
  unfold emitRow
  dsimp only
  cases state.columnIndexes.mapM (outputValue duckdb state.table row) with
  | error exception => exact .inl h
  | ok values =>
      dsimp only
      split
      · exact Turn.keeps_ite (.inl h) h
      · exact h

/-- **What every answer of the source keeps, every call keeps.** -/
theorem rustBridgeScan_keeps (hnext : SourceKeeps next P Q) (state : RustBridgeScanGlobalState S)
    {call : ScanCall S} (h : state.Satisfies P)
    (hcall : rustBridgeScan fuel next duckdb vectorSize state = some call) : call.Leaves P Q := by
  have rule : ScanRule next duckdb vectorSize (fun turn => turn.2.Satisfies P)
      (ScanCall.Leaves P Q) := {
    leave := fun _ _ h _ => .inl h
    refill := fun fuel _ state batch scan h _ hfetch =>
      (hnext fuel state.table state.rows state.scan h).1 batch scan hfetch
    thrown := fun fuel _ state exception scan h _ hfetch =>
      .inr ⟨(hnext fuel state.table state.rows state.scan h).2 exception scan hfetch,
        exception, rfl⟩
    emit := fun output state row h _ => emitRow_keeps state h output row }
  exact rustBridgeScan_rule rule state h hcall

/-- The same for every answer, and nothing about the rows. -/
theorem sourceKeeps_of_answers {P : RustBridgeTableInfo → S → Prop}
    (h : ∀ fuel table scan answer scan', P table scan → next fuel scan = some (answer, scan') →
      P table scan') :
    SourceKeeps next (fun table _ scan => P table scan) fun table _ scan => P table scan :=
  fun fuel table _ scan hscan =>
    ⟨fun batch scan' => h fuel table scan (.ok batch) scan' hscan,
      fun exception scan' => h fuel table scan (.error exception) scan' hscan⟩

/-- The rule for what exceptions keep, too. -/
theorem rustBridgeScan_invariant (P : SourceRelation S) (hnext : SourceKeeps next P P)
    (state : RustBridgeScanGlobalState S) {call : ScanCall S} (h : state.Satisfies P)
    (hcall : rustBridgeScan fuel next duckdb vectorSize state = some call) :
    call.2.Satisfies P :=
  (rustBridgeScan_keeps hnext state h hcall).elim id And.left

/-- The columns of a scan are those it was opened with. -/
theorem rustBridgeScan_columns (state : RustBridgeScanGlobalState S) {call : ScanCall S}
    (hcall : rustBridgeScan fuel next duckdb vectorSize state = some call) :
    call.2.columnIndexes = state.columnIndexes := by
  have rule : ScanRule next duckdb vectorSize
      (fun turn => turn.2.columnIndexes = state.columnIndexes)
      (fun call => call.2.columnIndexes = state.columnIndexes) := {
    leave := fun _ _ h _ => h
    refill := fun _ _ _ _ _ h _ _ => h
    thrown := fun _ _ _ _ _ h _ _ => h
    emit := by
      intro output now row h _
      unfold emitRow
      dsimp only
      cases now.columnIndexes.mapM (outputValue duckdb now.table row) with
      | error exception => exact h
      | ok values =>
          dsimp only
          split
          · exact Turn.keeps_ite h h
          · exact h }
  exact rustBridgeScan_rule rule state rfl hcall

/-! ## The rows of a chunk -/

/-- The values of a row of output, read from a row of the table. -/
def RustBridgeScanGlobalState.Reads (duckdb : DuckDb) (state : RustBridgeScanGlobalState S)
    (row : RustExtRow) (values : List Value) : Prop :=
  state.columnIndexes.mapM (outputValue duckdb state.table row) = .ok values

/-- Every row of a chunk is read from a row that was in the buffer: what is known
of those (`known`), and stays known when the source moves on, is known of it. -/
theorem rustBridgeScan_reads (P : SourceRelation S) {known : RustExtRow → S → Prop}
    (hnext : SourceKeeps next P P)
    (hbuffer : ∀ table rows scan, P table rows scan → ∀ row ∈ rows.rows, known row scan)
    (hknown : ∀ fuel scan answer scan' row, next fuel scan = some (answer, scan') →
      known row scan → known row scan')
    (state : RustBridgeScanGlobalState S) {call : ScanCall S} (h : state.Satisfies P)
    (hcall : rustBridgeScan fuel next duckdb vectorSize state = some call) :
    ∀ chunk, call.1 = .ok chunk → ∀ values ∈ chunk,
      ∃ row, known row call.2.scan ∧ state.Reads duckdb row values := by
  -- the chunk so far, and the columns that do not change
  let good := fun (output : List (List Value)) (now : RustBridgeScanGlobalState S) =>
    now.table = state.table ∧ now.columnIndexes = state.columnIndexes ∧
      ∀ values ∈ output, ∃ row, known row now.scan ∧ state.Reads duckdb row values
  have rule : ScanRule next duckdb vectorSize
      (fun turn => good turn.1 turn.2 ∧ turn.2.Satisfies P)
      (fun call => ∀ chunk, call.1 = .ok chunk → good chunk call.2) := {
    leave := by
      rintro output now ⟨hgood, _⟩ _ chunk heq
      cases heq
      exact hgood
    refill := by
      rintro fuel output now batch scan ⟨⟨htable, hcolumns, hread⟩, hkept⟩ _ hfetch
      refine ⟨⟨htable, hcolumns, ?_⟩, (hnext fuel now.table now.rows now.scan hkept).1 batch scan
        hfetch⟩
      intro values hmem
      obtain ⟨row, hrow, hvalues⟩ := hread values hmem
      exact ⟨row, hknown fuel now.scan _ scan row hfetch hrow, hvalues⟩
    thrown := fun _ _ _ _ _ _ _ _ => nofun
    emit := by
      rintro output now row ⟨⟨htable, hcolumns, hread⟩, hkept⟩ hrow
      unfold emitRow
      dsimp only
      cases hvalues : now.columnIndexes.mapM (outputValue duckdb now.table row) with
      | error exception => exact nofun
      | ok values =>
          have hmore : ∀ other ∈ output ++ [values],
              ∃ row, known row now.scan ∧ state.Reads duckdb row other := by
            intro other hmem
            rcases List.mem_append.mp hmem with hmem | hmem
            · exact hread other hmem
            · rw [List.mem_singleton.mp hmem]
              refine ⟨row, hbuffer _ _ _ hkept row (List.mem_of_getElem? hrow), ?_⟩
              rw [htable, hcolumns] at hvalues
              exact hvalues
          dsimp only
          split
          · refine Turn.keeps_ite ?_ ⟨⟨htable, hcolumns, hmore⟩, hkept⟩
            rintro chunk heq
            cases heq
            exact ⟨htable, hcolumns, hmore⟩
          · exact ⟨⟨htable, hcolumns, hmore⟩, hkept⟩ }
  intro chunk hchunk
  exact (rustBridgeScan_rule rule state ⟨⟨rfl, rfl, by simp⟩, h⟩ hcall chunk hchunk).2.2

/-! ## Two sources -/

/-- A turn or a call over the other source. -/
def overSource {α : Type} (f : S → T) (result : α × RustBridgeScanGlobalState S) :
    α × RustBridgeScanGlobalState T :=
  (result.1, result.2.withScan (f result.2.scan))

theorem emitRow_map (f : S → T) (output : List (List Value)) (row : RustExtRow)
    (state : RustBridgeScanGlobalState S) :
    (emitRow duckdb output row state).map (overSource f) (overSource f) =
      emitRow duckdb output row (state.withScan (f state.scan)) := by
  unfold emitRow
  dsimp only [RustBridgeScanGlobalState.withScan]
  cases state.columnIndexes.mapM (outputValue duckdb state.table row) with
  | error exception => rfl
  | ok values =>
      by_cases hlimit : 0 < state.remainingRows
      · by_cases hlast : state.remainingRows - 1 = 0 <;>
          simp [RustBridgeScanGlobalState.withScan, hlimit, hlast, Turn.map, overSource]
      · simp [RustBridgeScanGlobalState.withScan, hlimit, Turn.map, overSource]

theorem rustBridgeScanTurn_map (f : S → T)
    (hnext : ∀ fuel scan, (next fuel scan).map (fun result => (result.1, f result.2)) =
      next' fuel (f scan)) (turn : ScanTurn S) :
    (rustBridgeScanTurn next duckdb vectorSize fuel turn).map
        (Turn.map (overSource f) (overSource f)) =
      rustBridgeScanTurn next' duckdb vectorSize fuel (overSource f turn) := by
  obtain ⟨output, table, columnIndexes, scan, rows, rowOffset, remainingRows, finished⟩ := turn
  by_cases hroom : output.length < vectorSize
  · simp only [rustBridgeScanTurn, overSource, RustBridgeScanGlobalState.withScan, hroom, if_true]
    cases rows.rows[rowOffset]? with
    | some row => exact congrArg some (emitRow_map f output row _)
    | none =>
        cases finished with
        | true => simp [Turn.map, overSource, RustBridgeScanGlobalState.withScan]
        | false =>
            simp only [Bool.false_eq_true, if_false, ← hnext, Option.map_map]
            congr 1
            funext result
            obtain ⟨answer, scan'⟩ := result
            cases answer with
            | error exception => rfl
            | ok batch =>
                simp only [Function.comp]
                cases batch.rows with
                | nil =>
                    by_cases hlast : batch.finished = true <;>
                      simp [RustBridgeScanGlobalState.withScan, hlast, Turn.map, overSource]
                | cons row rest => exact emitRow_map f output row _
  · simp only [rustBridgeScanTurn, overSource, hroom, if_false]
    rfl

/-- **Two sources that answer alike** make the same calls. -/
theorem rustBridgeScan_map (f : S → T)
    (hnext : ∀ fuel scan, (next fuel scan).map (fun result => (result.1, f result.2)) =
      next' fuel (f scan)) (state : RustBridgeScanGlobalState S) :
    (rustBridgeScan fuel next duckdb vectorSize state).map (overSource f) =
      rustBridgeScan fuel next' duckdb vectorSize (state.withScan (f state.scan)) := by
  rw [rustBridgeScan, rustBridgeScan]
  by_cases hend : (state.finished && decide (state.rows.rows.length ≤ state.rowOffset)) = true
  · rw [if_pos hend, if_pos (show ((state.withScan (f state.scan)).finished &&
      decide ((state.withScan (f state.scan)).rows.rows.length ≤
        (state.withScan (f state.scan)).rowOffset)) = true from hend)]
    rfl
  · rw [if_neg hend, if_neg (show ¬ ((state.withScan (f state.scan)).finished &&
      decide ((state.withScan (f state.scan)).rows.rows.length ≤
        (state.withScan (f state.scan)).rowOffset)) = true from hend)]
    exact run_map (overSource f) (overSource f) (rustBridgeScanTurn_map f hnext) fuel ([], state)

/-! ## The handle as a source -/

variable {σ : Type}

/-- What all requests of a handle have in common. -/
def ScanHandle.terms (handle : ScanHandle) :
    RustExtClientConfig × String × String × String × Nat :=
  (handle.config, handle.tableId, handle.query, handle.sortBy, handle.limit)

/-- A handle asks for one table of one database all along, in the same way. -/
theorem nextBatch_same {remote : Remote σ} {handle handle' : ScanHandle} {world world' : World σ}
    {answer : Except String RustExtScanBatch}
    (h : handle.nextBatch fuel remote world = some (answer, handle', world')) :
    handle'.terms = handle.terms :=
  run_invariant (fun state => state.1.terms = handle.terms)
    (fun result => result.2.1.terms = handle.terms)
    (fun state turn hinv hturn => by
      obtain ⟨handle', mid⟩ := state
      cases hturn
      rw [ScanHandle.nextBatchTurn]
      split
      case isTrue hfinished => exact hinv
      case isFalse hgoing =>
        dsimp only
        rcases listRows remote handle'.request.2.config handle'.request.2.tableId
          handle'.request.1 mid with ⟨message | response, next⟩
        · exact hinv
        · exact Turn.keeps_ite hinv hinv)
    fuel (handle, world) (answer, handle', world') rfl h

theorem nextScanBatch_same {remote : Remote σ} {source source' : ScanHandle × World σ}
    {answer : Except Exception RustExtScanBatch}
    (h : nextScanBatch remote fuel source = some (answer, source')) :
    source'.1.terms = source.1.terms := by
  obtain ⟨⟨batch, handle, last⟩, hbatch, heq⟩ := Option.map_eq_some_iff.mp h
  cases heq
  exact nextBatch_same hbatch

theorem rustBridgeScan_same {remote : Remote σ}
    {state : RustBridgeScanGlobalState (ScanHandle × World σ)}
    {call : ScanCall (ScanHandle × World σ)}
    (h : rustBridgeScan fuel (nextScanBatch remote) duckdb vectorSize state = some call) :
    call.2.table = state.table ∧ call.2.scan.1.terms = state.scan.1.terms :=
  rustBridgeScan_invariant
    (fun table _ (source : ScanHandle × World σ) =>
      table = state.table ∧ source.1.terms = state.scan.1.terms)
    (sourceKeeps_of_answers fun _ _ _ _ _ hsource hnext =>
      ⟨hsource.1, (nextScanBatch_same hnext).trans hsource.2⟩)
    state ⟨rfl, rfl⟩ h

end DuckdbCoda
