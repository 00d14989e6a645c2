import DuckdbCoda.Logic.AbiAttach
import DuckdbCoda.Model.AbiWrites

/-!
# What a write reads, and what it leaves

The vectors of a write have the room for all that is pushed, so no string moves
while pointers to it are about. So a write answers and sends what the one of
`Model.Mutation` does, reads nothing that is gone, and leaves nothing behind,
whether it returns or throws (`write_borrows`); so does a sink (`sink_borrows`).
-/

namespace DuckdbCoda.Abi

open Ownership Lender

variable {σ : Type} {memory : Memory} {owned : Multiset Nat} {library : CppLibrary}
  {duckdb : DuckDb}

/-! ## Slices -/

theorem strOf_contents {value : RustExtString} (h : value.block.isSome) :
    strOf value = value.contents := by
  obtain ⟨block, hblock⟩ := Option.isSome_iff_exists.mp h
  simp [strOf, hblock]

/-- The slice of a whole vector. -/
theorem slice_items {α : Type} (array : GrowingArray α) {length : Nat}
    (hlength : length = array.items.length) (memory : Memory) :
    (sliceFromRawParts array.storage length memory).1 = array.items := by
  subst hlength
  unfold sliceFromRawParts
  split
  case isTrue hnothing =>
    refine (List.eq_nil_of_length_eq_zero ?_).symm
    rcases hnothing with hnull | hempty
    · have hfits := array.fits
      rw [array.placed hnull] at hfits
      exact Nat.le_zero.mp hfits
    · exact hempty
  case isFalse =>
    rw [GrowingArray.items, if_pos (Nat.le_refl _)]
    exact List.take_length

/-- Reading it reads the vector. -/
theorem slice_memory {α : Type} {array : GrowingArray α} {length : Nat} (h : memory.Holds owned)
    (hle : array.storage.blocks ≤ owned) (hlength : length = array.items.length) :
    (sliceFromRawParts array.storage length memory).2 = memory := by
  subst hlength
  unfold sliceFromRawParts
  split
  · rfl
  · rw [GrowingArray.items, if_pos (Nat.le_refl _)]
    exact RawParts.borrow_eq h hle

/-- Reads that change nothing, one after the other. -/
theorem foldl_borrowed {α : Type} {borrow : Memory → α → Memory} :
    ∀ items : List α, (∀ item ∈ items, borrow memory item = memory) →
      items.foldl borrow memory = memory := by
  intro items
  induction items with
  | nil => exact fun _ => rfl
  | cons item rest ih =>
      intro each
      rw [List.foldl_cons, each item List.mem_cons_self]
      exact ih fun other hmem => each other (List.mem_cons_of_mem item hmem)

/-- The strings that records point to are read as long as the records are about. -/
theorem borrow_lent {β : Type} {pointer : β → Option RustExtString} {borrow : Memory → β → Memory}
    (hborrow : ∀ memory record, borrow memory record =
      (pointer record).elim memory fun parts => parts.borrow memory)
    {lender : Lender String β} {room : Nat} (hsound : lender.Sound pointer room)
    (h : memory.Holds owned) (hle : lender.blocks ≤ owned) :
    lender.lent.items.foldl borrow memory = memory := by
  refine foldl_borrowed lender.lent.items ?_
  intro record hmem
  rw [hborrow]
  cases hpointer : pointer record with
  | none => rfl
  | some parts =>
      have hpoints := hsound.pointers record hmem parts hpointer
      exact RawParts.borrow_eq h
        ((hpoints.blocks_le.trans (Multiset.le_add_right _ _)).trans hle)

/-! ## Filling the buffers -/

abbrev LendsValues := @Lends String RustExtInputValue DuckdbCoda.RustExtInputValue
  RustExtInputValue.pointer RustExtInputValue.toValue

abbrev LendsRowIds := @Lends String RustExtString String some strOf

/-- A value that is no string. -/
theorem plainValue_lends (library : CppLibrary) (buffers : ValueBuffers × Memory)
    (record : RustExtInputValue) (hnone : record.pointer = none) :
    LendsValues [record.toValue] buffers (buffers.1.lend library.grow record buffers.2) :=
  lend_lends RustExtInputValue.toValue hnone buffers

theorem pushValue_lends (library : CppLibrary) (duckdb : DuckDb) (buffers : ValueBuffers × Memory)
    (value : Value) :
    LendsValues [DuckdbCoda.convert duckdb value] buffers
      (pushValue library duckdb buffers value) := by
  have htext : ∀ text, LendsValues [.string text] buffers
      (buffers.1.lendText library.grow (library.inPlace text) text .string buffers.2) := by
    intro text
    refine lendText_lends RustExtInputValue.pointer RustExtInputValue.toValue _ (fun _ => rfl) ?_
      buffers
    intro parts hsome hcontents
    show DuckdbCoda.RustExtInputValue.string (strOf parts) = .string text
    rw [strOf_contents hsome, hcontents]
  cases value with
  | null type => exact plainValue_lends library buffers .null rfl
  | boolean value => exact plainValue_lends library buffers (.bool value) rfl
  | integer width value => exact plainValue_lends library buffers (.int value) rfl
  | uinteger width value => exact plainValue_lends library buffers (.uint value) rfl
  | float value => exact plainValue_lends library buffers (.double value) rfl
  | double value => exact plainValue_lends library buffers (.double value) rfl
  | varchar value => exact htext (duckdb.toString (.varchar value))
  | timestampTz text => exact htext (duckdb.toString (.timestampTz text))
  | other name text => exact htext (duckdb.toString (.other name text))

theorem pushRowId_lends (library : CppLibrary) (duckdb : DuckDb) (index : Nat)
    (buffers : RowIdBuffers × Memory) (row : Nat → Value) :
    LendsRowIds [duckdb.toString (row index)] buffers
      (pushRowId library duckdb index buffers row) := by
  refine lendText_lends some strOf _ (fun _ => rfl) ?_ buffers
  intro parts hsome hcontents
  exact (strOf_contents hsome).trans hcontents

theorem pushInsertRow_lends (library : CppLibrary) (duckdb : DuckDb) (table : RustBridgeTableInfo)
    (buffers : ValueBuffers × Memory) (row : Nat → Value) :
    LendsValues (insertRowValues duckdb table row) buffers
      (pushInsertRow library duckdb table buffers row) := by
  have hrow := foldl_lends (fun index buffers =>
    pushValue_lends library duckdb buffers (row index)) (List.range table.columns.length) buffers
  rwa [← List.map_eq_flatMap] at hrow

/-- The values of a row, up to an assignment that throws. -/
theorem pushUpdateRow_lends (library : CppLibrary) (duckdb : DuckDb) (table : RustBridgeTableInfo)
    (row : Nat → Value) : ∀ (assignments : List (Nat × UpdateExpression))
      (buffers : ValueBuffers × Memory), ∃ answer after shown,
        pushUpdateRow library duckdb table row assignments buffers = (answer, after) ∧
        LendsValues shown buffers after ∧
        ((assignments.mapM (updateValue duckdb table row) = .ok shown ∧ answer = .ok ()) ∨
          ∃ exception, assignments.mapM (updateValue duckdb table row) = .error exception ∧
            answer = .error exception) := by
  intro assignments
  induction assignments with
  | nil => exact fun buffers => ⟨_, _, [], rfl, .refl _ _ buffers, .inl ⟨rfl, rfl⟩⟩
  | cons assignment rest ih =>
      intro buffers
      obtain ⟨column, expression⟩ := assignment
      -- what is left to do once the value of the assignment is there
      have hnext : ∀ value pushed, updateValue duckdb table row (column, expression) = .ok value →
          LendsValues [value] buffers pushed →
          ∃ answer after shown, pushUpdateRow library duckdb table row rest pushed =
              (answer, after) ∧ LendsValues shown buffers after ∧
            ((((column, expression) :: rest).mapM (updateValue duckdb table row) = .ok shown ∧
                answer = .ok ()) ∨
              ∃ exception, ((column, expression) :: rest).mapM (updateValue duckdb table row) =
                .error exception ∧ answer = .error exception) := by
        intro value pushed hvalue hpushed
        obtain ⟨answer, after, shown, hrest, hlends, hanswer⟩ := ih pushed
        refine ⟨answer, after, value :: shown, hrest, hpushed.trans hlends, ?_⟩
        rw [List.mapM_cons, hvalue]
        rcases hanswer with ⟨hok, rfl⟩ | ⟨exception, herror, rfl⟩
        · exact .inl ⟨by rw [hok]; rfl, rfl⟩
        · exact .inr ⟨exception, by rw [herror]; rfl, rfl⟩
      cases hcolumn : table.columns[column]? with
      | none =>
          rw [pushUpdateRow, hcolumn]
          exact hnext .null _ (by simp [updateValue, hcolumn]) 
            (plainValue_lends library buffers .null rfl)
      | some info =>
          cases expression with
          | boundRef index =>
              rw [pushUpdateRow, hcolumn]
              exact hnext _ _ (by simp [updateValue, hcolumn])
                (pushValue_lends library duckdb buffers (row index))
          | valueDefault =>
              rw [pushUpdateRow, hcolumn]
              exact hnext _ _ (by simp [updateValue, hcolumn])
                (pushValue_lends library duckdb buffers (.null info.duckdbType))
          | other =>
              refine ⟨.error (.notImplemented unsupportedUpdateExpressionMessage), buffers, [],
                by simp [pushUpdateRow, hcolumn], .refl _ _ buffers, .inr ⟨_, ?_, rfl⟩⟩
              rw [List.mapM_cons]
              simp only [updateValue, hcolumn]
              rfl

/-- What the rows of an UPDATE put into the two buffers. -/
structure Gathers (ids : List String) (shown : List DuckdbCoda.RustExtInputValue)
    (before after : RowIdBuffers × ValueBuffers × Memory) : Prop where
  rowIds : after.1.lent.items.map strOf = before.1.lent.items.map strOf ++ ids
  values : after.2.1.lent.items.map RustExtInputValue.toValue =
    before.2.1.lent.items.map RustExtInputValue.toValue ++ shown
  rowIdsSound : ∀ {room : Nat}, before.1.Sound some (ids.length + room) → after.1.Sound some room
  valuesSound : ∀ {room : Nat}, before.2.1.Sound RustExtInputValue.pointer (shown.length + room) →
    after.2.1.Sound RustExtInputValue.pointer room
  holds : ∀ {owned : Multiset Nat}, before.2.2.Holds (before.1.blocks + before.2.1.blocks + owned) →
    after.2.2.Holds (after.1.blocks + after.2.1.blocks + owned)

theorem Gathers.refl (state : RowIdBuffers × ValueBuffers × Memory) : Gathers [] [] state state where
  rowIds := (List.append_nil _).symm
  values := (List.append_nil _).symm
  rowIdsSound h := by simpa using h
  valuesSound h := by simpa using h
  holds := id

theorem Gathers.trans {ids more : List String} {shown further : List DuckdbCoda.RustExtInputValue}
    {before middle after : RowIdBuffers × ValueBuffers × Memory} (h : Gathers ids shown before middle)
    (hmore : Gathers more further middle after) :
    Gathers (ids ++ more) (shown ++ further) before after where
  rowIds := by rw [hmore.rowIds, h.rowIds, List.append_assoc]
  values := by rw [hmore.values, h.values, List.append_assoc]
  rowIdsSound hsound := by
    rw [List.length_append, Nat.add_assoc] at hsound
    exact hmore.rowIdsSound (h.rowIdsSound hsound)
  valuesSound hsound := by
    rw [List.length_append, Nat.add_assoc] at hsound
    exact hmore.valuesSound (h.valuesSound hsound)
  holds hmemory := hmore.holds (h.holds hmemory)

/-- The id of a row, then its values. -/
theorem gathers_row {ids : List String} {shown : List DuckdbCoda.RustExtInputValue}
    {rowIds rowIds' : RowIdBuffers} {values values' : ValueBuffers} {first middle last : Memory}
    (hids : LendsRowIds ids (rowIds, first) (rowIds', middle))
    (hvalues : LendsValues shown (values, middle) (values', last)) :
    Gathers ids shown (rowIds, values, first) (rowIds', values', last) where
  rowIds := hids.lent
  values := hvalues.lent
  rowIdsSound := hids.sound
  valuesSound := hvalues.sound
  holds := by
    intro owned h
    have hmiddle : middle.Holds (rowIds'.blocks + (values.blocks + owned)) :=
      hids.holds (h.of_eq (add_assoc _ _ _))
    have hlast : last.Holds (values'.blocks + (rowIds'.blocks + owned)) :=
      hvalues.holds (hmiddle.of_eq (add_left_comm _ _ _))
    exact hlast.of_eq (by abel)

/-- The rows of an UPDATE, up to one that throws. -/
theorem pushUpdateRows_gathers (library : CppLibrary) (duckdb : DuckDb)
    (table : RustBridgeTableInfo) (index : Nat) (assignments : List (Nat × UpdateExpression)) :
    ∀ (rows : List (Nat → Value)) (rowIds : RowIdBuffers) (values : ValueBuffers)
      (memory : Memory), ∃ answer after ids shown,
        pushUpdateRows library duckdb table index assignments rows rowIds values memory =
          (answer, after) ∧ Gathers ids shown (rowIds, values, memory) after ∧
        ((updateValues duckdb table assignments rows = .ok shown ∧ answer = .ok () ∧
            ids = rows.map (fun row => duckdb.toString (row index)) ∧
            shown.length = rows.length * assignments.length) ∨
          ∃ exception, updateValues duckdb table assignments rows = .error exception ∧
            answer = .error exception) := by
  intro rows
  induction rows with
  | nil =>
      exact fun rowIds values memory =>
        ⟨_, _, [], [], rfl, .refl _, .inl ⟨rfl, rfl, rfl, by simp⟩⟩
  | cons row rest ih =>
      intro rowIds values memory
      have hids := pushRowId_lends library duckdb index (rowIds, memory) row
      rcases hrow : pushRowId library duckdb index (rowIds, memory) row with ⟨rowIds', middle⟩
      rw [hrow] at hids
      obtain ⟨answer, ⟨values', last⟩, shown, hpush, hlends, hanswer⟩ :=
        pushUpdateRow_lends library duckdb table row assignments (values, middle)
      have hgathers := gathers_row hids hlends
      simp only [pushUpdateRows, hrow, hpush, updateValues, List.mapM_cons]
      rcases hanswer with ⟨hok, rfl⟩ | ⟨exception, herror, rfl⟩
      · -- the row is in, and the rest may still throw
        obtain ⟨answer, after, ids, more, hrest, hmore, hanswer⟩ := ih rowIds' values' last
        refine ⟨answer, after, _, _, hrest, hgathers.trans hmore, ?_⟩
        rw [hok]
        rcases hanswer with ⟨hrows, rfl, rfl, hlength⟩ | ⟨exception, hrows, rfl⟩
        · refine .inl ⟨?_, rfl, rfl, ?_⟩
          · unfold updateValues at hrows
            cases hmap : rest.mapM fun row => assignments.mapM (updateValue duckdb table row) with
            | error exception => rw [hmap] at hrows; cases hrows
            | ok valueRows =>
                rw [hmap] at hrows
                cases hrows
                rfl
          · rw [List.length_append, hlength, (forall₂_of_mapM_ok hok).length_eq, List.length_cons]
            ring
        · refine .inr ⟨exception, ?_, rfl⟩
          unfold updateValues at hrows
          cases hmap : rest.mapM fun row => assignments.mapM (updateValue duckdb table row) with
          | error message =>
              rw [hmap] at hrows
              cases hrows
              rfl
          | ok valueRows => rw [hmap] at hrows; cases hrows
      · exact ⟨_, _, _, _, rfl, hgathers, .inr ⟨exception, by rw [herror]; rfl, rfl⟩⟩

/-! ## The exported functions -/

/-- The strings of the values are read as long as the values are about. -/
theorem borrow_values {values : ValueBuffers} {room : Nat}
    (hsound : values.Sound RustExtInputValue.pointer room) (h : memory.Holds owned)
    (hle : values.blocks ≤ owned) :
    values.lent.items.foldl RustExtInputValue.borrow memory = memory := by
  refine borrow_lent ?_ hsound h hle
  intro memory value
  cases value <;> rfl

theorem borrow_rowIds {rowIds : RowIdBuffers} {room : Nat} (hsound : rowIds.Sound some room)
    (h : memory.Holds owned) (hle : rowIds.blocks ≤ owned) :
    rowIds.lent.items.foldl (fun memory id => id.borrow memory) memory = memory :=
  borrow_lent (fun _ _ => rfl) hsound h hle

theorem lent_le {β : Type} {lender : Lender String β} (hle : lender.blocks ≤ owned) :
    lender.lent.storage.blocks ≤ owned :=
  (Multiset.le_add_left _ _).trans hle

/-- An error is taken over without a trace. -/
theorem takeError_holds {α : Type} (context : String) (answer : Except String α)
    (h : memory.Holds owned) : (takeError context answer memory).2.Holds owned := by
  cases answer with
  | ok value => exact h
  | error message => exact takeString_holds (context ++ ": " ++ message) h

/-- A call that gives the answer of the other one, and keeps to what it is lent. -/
structure Borrows {α : Type} (owned : Multiset Nat) (memory : Memory)
    (result : α × World σ × Memory) (plain : α × World σ) : Prop where
  value : (result.1, result.2.1) = plain
  holds : memory.Holds owned → result.2.2.Holds owned

theorem insertRows_borrows (remote : Remote σ) {catalog : RustBridgeCatalog} (tableId : String)
    {columns : GrowingArray RustExtWriteColumn} {values : ValueBuffers}
    {rowCount valueColumnCount room : Nat} (tableCapabilities : UInt32) (world : World σ)
    (memory : Memory) (hsound : values.Sound RustExtInputValue.pointer room)
    (hlength : rowCount * valueColumnCount = values.lent.items.length)
    (hcatalog : catalog.blocks ≤ owned) (hcolumns : columns.storage.blocks ≤ owned)
    (hvalues : values.blocks ≤ owned) :
    Borrows owned memory
      (insertRows remote catalog tableId columns.storage columns.items.length values.lent.storage
        rowCount valueColumnCount tableCapabilities world memory)
      (DuckdbCoda.insertRows remote catalog.client.toValue tableId columns.items
        (values.lent.items.map RustExtInputValue.toValue) rowCount valueColumnCount
        tableCapabilities world) where
  value := by
    simp only [insertRows, slice_items columns rfl, slice_items values.lent hlength]
  holds := by
    intro h
    simp only [insertRows, slice_items values.lent hlength, slice_memory h hcolumns rfl,
      slice_memory h (lent_le hvalues) hlength, h.useAll hcatalog, borrow_values hsound h hvalues]
    exact h

theorem updateRows_borrows (remote : Remote σ) {catalog : RustBridgeCatalog} (tableId : String)
    {rowIds : RowIdBuffers} {columns : GrowingArray RustExtWriteColumn} {values : ValueBuffers}
    {idRoom room : Nat} (tableCapabilities : UInt32) (world : World σ) (memory : Memory)
    (hids : rowIds.Sound some idRoom) (hsound : values.Sound RustExtInputValue.pointer room)
    (hlength : rowIds.lent.items.length * columns.items.length = values.lent.items.length)
    (hcatalog : catalog.blocks ≤ owned) (hrowIds : rowIds.blocks ≤ owned)
    (hcolumns : columns.storage.blocks ≤ owned) (hvalues : values.blocks ≤ owned) :
    Borrows owned memory
      (updateRows remote catalog tableId rowIds.lent.storage rowIds.lent.items.length
        columns.storage columns.items.length values.lent.storage tableCapabilities world memory)
      (DuckdbCoda.updateRows remote catalog.client.toValue tableId (rowIds.lent.items.map strOf)
        columns.items (values.lent.items.map RustExtInputValue.toValue) tableCapabilities
        world) where
  value := by
    simp only [updateRows, slice_items rowIds.lent rfl, slice_items columns rfl,
      slice_items values.lent hlength]
  holds := by
    intro h
    simp only [updateRows, slice_items rowIds.lent rfl, slice_items values.lent hlength,
      slice_memory h (lent_le hrowIds) rfl, slice_memory h hcolumns rfl,
      slice_memory h (lent_le hvalues) hlength, h.useAll hcatalog, borrow_rowIds hids h hrowIds,
      borrow_values hsound h hvalues]
    exact h

theorem deleteRows_borrows (remote : Remote σ) {catalog : RustBridgeCatalog} (tableId : String)
    {rowIds : RowIdBuffers} {room : Nat} (world : World σ) (memory : Memory)
    (hids : rowIds.Sound some room) (hcatalog : catalog.blocks ≤ owned)
    (hrowIds : rowIds.blocks ≤ owned) :
    Borrows owned memory
      (deleteRows remote catalog tableId rowIds.lent.storage rowIds.lent.items.length world memory)
      (DuckdbCoda.deleteRows remote catalog.client.toValue tableId (rowIds.lent.items.map strOf)
        world) where
  value := by simp only [deleteRows, slice_items rowIds.lent rfl]
  holds := by
    intro h
    simp only [deleteRows, slice_items rowIds.lent rfl, slice_memory h (lent_le hrowIds) rfl,
      h.useAll hcatalog, borrow_rowIds hids h hrowIds]
    exact h

/-! ## `RustBridgeClient` -/

variable {remote : Remote σ} {catalog : RustBridgeCatalog}

theorem clientInsertRows_borrows (library : CppLibrary) (remote : Remote σ) (duckdb : DuckDb)
    (table : RustBridgeTableInfo) (chunk : DataChunk) (world : World σ) (memory : Memory)
    (hcatalog : catalog.blocks ≤ owned) :
    Borrows owned memory (clientInsertRows library remote duckdb catalog table chunk world memory)
      (DuckdbCoda.clientInsertRows remote duckdb catalog.client.toValue table chunk world) := by
  have hcolumns := GrowingArray.ofList_items library.grow (editableColumns table) memory
  have hfirst := @GrowingArray.ofList_holds _ memory owned library.grow (editableColumns table)
  rcases hlist : GrowingArray.ofList library.grow (editableColumns table) memory with
    ⟨columns, first⟩
  rw [hlist] at hcolumns hfirst
  have hlends := foldl_lends (fun row buffers =>
    pushInsertRow_lends library duckdb table buffers row) chunk.rows
    (withRoom (chunk.rows.length * table.columns.length) first)
  have hwidth : (chunk.rows.flatMap (insertRowValues duckdb table)).length =
      chunk.rows.length * table.columns.length := by
    simp [List.length_flatMap, insertRowValues]
  rcases hfill : chunk.rows.foldl (pushInsertRow library duckdb table)
    (withRoom (chunk.rows.length * table.columns.length) first) with ⟨values, second⟩
  rw [hfill] at hlends
  obtain ⟨hshown, hsound, hsecond⟩ := hlends.filled hwidth.le
  dsimp only at hcolumns hshown
  -- `Reserve` asked for as many strings as there are values, so none of them has moved
  have hcount : chunk.rows.length * table.columns.length = values.lent.items.length := by
    rw [← hwidth, ← hshown, List.length_map]
  have hcall := @insertRows_borrows σ (values.blocks + (columns.storage.blocks + owned)) remote
    catalog table.table.id columns values chunk.rows.length table.columns.length 0
    table.table.capabilities world second hsound hcount
    ((hcatalog.trans (Multiset.le_add_left _ _)).trans (Multiset.le_add_left _ _))
    ((Multiset.le_add_right _ _).trans (Multiset.le_add_left _ _)) (Multiset.le_add_right _ _)
  rcases hcalled : insertRows remote catalog table.table.id columns.storage columns.items.length
    values.lent.storage chunk.rows.length table.columns.length table.table.capabilities world
    second with ⟨answer, world', third⟩
  rw [hcalled, hcolumns, hshown] at hcall
  constructor
  · simp only [clientInsertRows, hlist, hfill, hcalled, DuckdbCoda.clientInsertRows,
      ← hcall.value, takeError_value]
  · intro h
    simp only [clientInsertRows, hlist, hfill, hcalled]
    exact RawParts.release_holds (destroy_holds
      (takeError_holds _ _ (hcall.holds (hsecond (hfirst h)))))

theorem clientUpdateRows_borrows (library : CppLibrary) (remote : Remote σ) (duckdb : DuckDb)
    (table : RustBridgeTableInfo) (chunk : DataChunk) (assignments : List (Nat × UpdateExpression))
    (world : World σ) (memory : Memory) (hcatalog : catalog.blocks ≤ owned) :
    Borrows owned memory
      (clientUpdateRows library remote duckdb catalog table chunk assignments world memory)
      (DuckdbCoda.clientUpdateRows remote duckdb catalog.client.toValue table chunk assignments
        world) := by
  let targets := assignments.map fun assignment => updateColumn table assignment.1
  have hnoIds := @withRoom_lent String RustExtString chunk.rows.length memory
  have hidRoom := withRoom_sound (some : RustExtString → Option RustExtString) chunk.rows.length
    memory
  have hfirst := @withRoom_holds String RustExtString memory owned chunk.rows.length
  rcases hrowIds : (withRoom chunk.rows.length memory : RowIdBuffers × Memory) with ⟨noIds, first⟩
  rw [hrowIds] at hnoIds hidRoom hfirst
  have hcolumns := GrowingArray.ofList_items library.grow targets first
  have hsecond := @GrowingArray.ofList_holds _ first (noIds.blocks + owned) library.grow targets
  rcases hlist : GrowingArray.ofList library.grow targets first with ⟨columns, second⟩
  rw [hlist] at hcolumns hsecond
  have hnoValues := @withRoom_lent String RustExtInputValue
    (chunk.rows.length * assignments.length) second
  have hroom := withRoom_sound RustExtInputValue.pointer (chunk.rows.length * assignments.length)
    second
  have hthird := @withRoom_holds String RustExtInputValue second
    (columns.storage.blocks + (noIds.blocks + owned)) (chunk.rows.length * assignments.length)
  rcases hvalues : (withRoom (chunk.rows.length * assignments.length) second :
    ValueBuffers × Memory) with ⟨noValues, third⟩
  rw [hvalues] at hnoValues hroom hthird
  obtain ⟨pushed, ⟨rowIds, values, fourth⟩, ids, shown, hpush, hgathers, hpushed⟩ :=
    pushUpdateRows_gathers library duckdb table (chunk.columnCount - 1) assignments chunk.rows
      noIds noValues third
  dsimp only at hnoIds hidRoom hfirst hcolumns hsecond hnoValues hroom hthird
  -- what is live when the rows have been gathered, and that it all goes
  have hgathered : memory.Holds owned →
      fourth.Holds (values.blocks + (columns.storage.blocks + (rowIds.blocks + owned))) := by
    intro h
    have hbefore : third.Holds (noIds.blocks + noValues.blocks +
        (columns.storage.blocks + owned)) :=
      (hthird (hsecond (hfirst h))).of_eq (by abel)
    exact (hgathers.holds hbefore).of_eq (by dsimp only; abel)
  have hfreed : ∀ {last : Memory},
      last.Holds (values.blocks + (columns.storage.blocks + (rowIds.blocks + owned))) →
      (rowIds.destroy (columns.storage.release (values.destroy last))).Holds owned :=
    fun h => destroy_holds (RawParts.release_holds (destroy_holds h))
  rcases hpushed with ⟨hok, rfl, rfl, hlength⟩ | ⟨exception, herror, rfl⟩
  · have hids := hgathers.rowIds
    have hshown := hgathers.values
    dsimp only at hids hshown
    rw [hnoIds, List.map_nil, List.nil_append] at hids
    rw [hnoValues, List.map_nil, List.nil_append] at hshown
    have hidCount : rowIds.lent.items.length = chunk.rows.length := by
      rw [← List.length_map strOf, hids, List.length_map]
    have hcount : rowIds.lent.items.length * columns.items.length = values.lent.items.length := by
      rw [hidCount, hcolumns, List.length_map, ← hlength, ← hshown, List.length_map]
    have hidsSound : rowIds.Sound some 0 := hgathers.rowIdsSound
      (hidRoom.mono (by simp))
    have hsound : values.Sound RustExtInputValue.pointer 0 := hgathers.valuesSound
      (hroom.mono (by simp [hlength]))
    have hcall := @updateRows_borrows σ
      (values.blocks + (columns.storage.blocks + (rowIds.blocks + owned))) remote catalog
      table.table.id rowIds columns values 0 0 table.table.capabilities world fourth hidsSound hsound
      hcount (((hcatalog.trans (Multiset.le_add_left _ _)).trans (Multiset.le_add_left _ _)).trans
        (Multiset.le_add_left _ _))
      (((Multiset.le_add_right _ _).trans (Multiset.le_add_left _ _)).trans
        (Multiset.le_add_left _ _))
      ((Multiset.le_add_right _ _).trans (Multiset.le_add_left _ _)) (Multiset.le_add_right _ _)
    rcases hcalled : updateRows remote catalog table.table.id rowIds.lent.storage
      rowIds.lent.items.length columns.storage columns.items.length values.lent.storage
      table.table.capabilities world fourth with ⟨answer, world', fifth⟩
    rw [hcalled, hcolumns, hids, hshown] at hcall
    constructor
    · simp only [clientUpdateRows, hrowIds, targets, hlist, hvalues, hpush, hcalled, takeError_value,
        DuckdbCoda.clientUpdateRows, hok, chunkRowIds, ← hcall.value]
    · intro h
      simp only [clientUpdateRows, hrowIds, targets, hlist, hvalues, hpush, hcalled]
      exact hfreed (takeError_holds _ _ (hcall.holds (hgathered h)))
  · constructor
    · simp only [clientUpdateRows, hrowIds, targets, hlist, hvalues, hpush,
        DuckdbCoda.clientUpdateRows, herror]
    · intro h
      simp only [clientUpdateRows, hrowIds, targets, hlist, hvalues, hpush]
      exact hfreed (hgathered h)

theorem clientDeleteRows_borrows (library : CppLibrary) (remote : Remote σ) (duckdb : DuckDb)
    (table : RustBridgeTableInfo) (chunk : DataChunk) (rowIdIndex : Nat) (world : World σ)
    (memory : Memory) (hcatalog : catalog.blocks ≤ owned) :
    Borrows owned memory
      (clientDeleteRows library remote duckdb catalog table chunk rowIdIndex world memory)
      (DuckdbCoda.clientDeleteRows remote duckdb catalog.client.toValue table chunk rowIdIndex
        world) := by
  have hlends := foldl_lends (fun row buffers =>
    pushRowId_lends library duckdb rowIdIndex buffers row) chunk.rows
    (withRoom chunk.rows.length memory)
  rw [← List.map_eq_flatMap] at hlends
  rcases hfill : chunk.rows.foldl (pushRowId library duckdb rowIdIndex)
    (withRoom chunk.rows.length memory) with ⟨rowIds, first⟩
  rw [hfill] at hlends
  obtain ⟨hshown, hsound, hfirst⟩ := hlends.filled (List.length_map _).le
  dsimp only at hshown
  have hcall := @deleteRows_borrows σ (rowIds.blocks + owned) remote catalog table.table.id rowIds 0
    world first hsound (hcatalog.trans (Multiset.le_add_left _ _)) (Multiset.le_add_right _ _)
  rcases hcalled : deleteRows remote catalog table.table.id rowIds.lent.storage
    rowIds.lent.items.length world first with ⟨answer, world', second⟩
  rw [hcalled, hshown] at hcall
  constructor
  · simp only [clientDeleteRows, hfill, hcalled, DuckdbCoda.clientDeleteRows, chunkRowIds,
      ← hcall.value, takeError_value]
  · intro h
    simp only [clientDeleteRows, hfill, hcalled]
    exact destroy_holds (takeError_holds _ _ (hcall.holds (hfirst h)))

/-! ## The sinks -/

/-- **A write borrows.** Its answer and its requests are those of the write without
memory, and the memory is left as it was. -/
theorem write_borrows (library : CppLibrary) (remote : Remote σ) (duckdb : DuckDb)
    (operator : DmlOperator) (chunk : DataChunk) (world : World σ) (memory : Memory)
    (hcatalog : catalog.blocks ≤ owned) :
    Borrows owned memory (write library remote duckdb catalog operator chunk world memory)
      (operator.write ⟨remote, duckdb, catalog.client.toValue⟩ chunk world) := by
  unfold write DmlOperator.write
  cases operator.statement with
  | insert => exact clientInsertRows_borrows library remote duckdb _ chunk world memory hcatalog
  | update assignments =>
      exact clientUpdateRows_borrows library remote duckdb _ chunk assignments world memory hcatalog
  | delete rowIdIndex =>
      exact clientDeleteRows_borrows library remote duckdb _ chunk rowIdIndex world memory hcatalog

theorem sink_borrows (library : CppLibrary) (remote : Remote σ) (duckdb : DuckDb)
    (operator : DmlOperator) (chunk : DataChunk) (context : ClientContext) (world : World σ)
    (memory : Memory) (hcatalog : catalog.blocks ≤ owned) :
    Borrows owned memory (sink library remote duckdb catalog operator chunk context world memory)
      ((DuckdbCoda.sink ⟨remote, duckdb, catalog.client.toValue⟩ operator chunk
          (.start context world)).1,
        (DuckdbCoda.sink ⟨remote, duckdb, catalog.client.toValue⟩ operator chunk
          (.start context world)).2.world) := by
  have hwrite := fun memory => write_borrows library remote duckdb operator chunk world memory
    hcatalog
  unfold sink DuckdbCoda.sink
  cases chunk.rows.isEmpty with
  | true => exact ⟨rfl, id⟩
  | false =>
      simp only [Bool.false_eq_true, if_false, Session.start]
      cases rejectExplicitTransaction context with
      | error exception => exact ⟨rfl, id⟩
      | ok _ =>
          dsimp only
          cases operator.table.supports operator.statement.capability with
          | false => exact ⟨rfl, fun h => by rw [h.useAll hcatalog]; exact h⟩
          | true =>
              simp only [Bool.not_true, Bool.false_eq_true, if_false]
              rw [← (hwrite (memory.useAll catalog.blocks)).value]
              constructor
              · rcases write library remote duckdb catalog operator chunk world
                  (memory.useAll catalog.blocks) with ⟨exception | count, world', memory'⟩ <;> rfl
              · intro h
                rw [h.useAll hcatalog]
                exact (hwrite memory).holds h

end DuckdbCoda.Abi
