import DuckdbCoda.Logic.Decoding
import DuckdbCoda.Logic.Encoding
import DuckdbCoda.Model.MockCoda

/-!
# What is written is what is read back

A value of the type of its column goes out as a JSON value from which the
column reads the same value (`cellSqlValue_written`). With it, every cell of
the requests of an INSERT or UPDATE reads back as the value it was made of, on
whatever page and in whatever row the server returns it (`written_read_back`).
-/

namespace DuckdbCoda

open AsciiCase

variable {σ : Type}

/-! ## One value -/

/-- A value of the type, and not an infinity or NaN. -/
def WellTyped (type : LogicalType) (value : Value) : Prop :=
  value.type = type ∧ ∀ d, value = .double d → d.isFinite = true

/-- The value, when it is a double, is read back from its JSON text. -/
def PrintsBack (serde : SerdeJson) (value : Value) : Prop :=
  ∀ d (finite : d.isFinite = true), value = .double d →
    F64.parse (serde.toString (.number (.float d finite))) = some d

/-- **Encoding and decoding.** A value of the type of a plain column is decoded
from the JSON value it is encoded as. -/
theorem cellSqlValue_written {serde : SerdeJson} (duckdb : DuckDb) {info : RustBridgeColumnInfo}
    {value : Value} (hplain : PlainColumn info.column)
    (htype : info.duckdbType = rustBridgeDuckDBLogicalType info.column.logicalType)
    (htyped : WellTyped info.duckdbType value) (hprints : PrintsBack serde value) :
    cellSqlValue serde duckdb info (inputValueJson (convert duckdb value)) = value := by
  obtain ⟨hvalue, hfinite⟩ := htyped
  rcases hplain.logicalType with hlogical | hlogical | hlogical
  · -- VARCHAR: a string is shown as it is, also an empty one
    have hvarchar : info.duckdbType = .varchar := by
      rw [htype, hlogical]
      rfl
    rw [hvarchar] at hvalue
    cases value with
    | null type => exact congrArg Value.null (hvarchar.trans hvalue.symm)
    | varchar text => exact cellSqlValue_varchar hvarchar (fun h => by cases h)
    | _ => cases hvalue
  · -- BOOLEAN: the tag of the cell decides, and the text says which
    have hboolean : info.duckdbType = .boolean := by
      rw [htype, hlogical]
      rfl
    rw [hboolean] at hvalue
    cases value with
    | null type => exact congrArg Value.null (hboolean.trans hvalue.symm)
    | boolean value => exact cellSqlValue_boolean hboolean value
    | _ => cases hvalue
  · -- DOUBLE: the text of the number is parsed again
    have hdouble : info.duckdbType = .double := by
      rw [htype, hlogical]
      rfl
    rw [hdouble] at hvalue
    cases value with
    | null type => exact congrArg Value.null (hdouble.trans hvalue.symm)
    | double d =>
        have hjson : inputValueJson (convert duckdb (.double d)) =
            .number (.float d (hfinite d rfl)) := dif_pos (hfinite d rfl)
        have hparse : F64.parse (jsonValueString serde (.number (.float d (hfinite d rfl)))) =
            some d := hprints d (hfinite d rfl) rfl
        rw [hjson, cellSqlValue_double hlogical hdouble (fun h => by cases h), hparse]
    | _ => cases hvalue

/-! ## The server in between -/

/-- The row that `rows_from_json` makes of an item of a page. -/
def PageRow (serde : SerdeJson) (body : String) (item : Json) (row : RustExtRow) : Prop :=
  ∃ root items response, ∃ index : Nat,
    serde.fromStr body = .ok root ∧ pageItems root = .ok items ∧
    rowsFromJson serde body = .ok response ∧
    items[index]? = some item ∧ response.rows[index]? = some row

theorem PageRow.decoded {serde : SerdeJson} {body : String} {item : Json} {row : RustExtRow}
    (h : PageRow serde body item row) : rowFromJson serde item = .ok row := by
  obtain ⟨root, items, response, index, hroot, hitems, hresponse, hitem, hrow⟩ := h
  obtain ⟨root', items', hroot', hitems', hread⟩ := rowsFromJson_ok hresponse
  rw [hroot] at hroot'
  cases hroot'
  rw [hitems] at hitems'
  cases hitems'
  obtain ⟨hlt, rfl⟩ := List.getElem?_eq_some_iff.mp hitem
  obtain ⟨hlt', rfl⟩ := List.getElem?_eq_some_iff.mp hrow
  exact hread.get hlt hlt'

/-- The server gives a cell back in a row: unchanged, under its column id, among
values that are all under column ids of the table. -/
def Returned (serde : SerdeJson) (table : RustBridgeTableInfo) (columnId : String) (cell : Json)
    (row : RustExtRow) : Prop :=
  ∃ body item, PageRow serde body item row ∧
    (item.get "values").bind (Json.get columnId) = some cell ∧
    ∀ member ∈ rowValues item, ∃ info ∈ table.columns, info.column.id = member.1

/-- In a table whose column ids differ beyond letter case, a column of a row
shows the cell the server gave back. -/
theorem Returned.read {serde : SerdeJson} (duckdb : DuckDb) {table : RustBridgeTableInfo}
    {info : RustBridgeColumnInfo} {cell : Json} {row : RustExtRow}
    (hids : (table.columns.map fun info => foldCase info.column.id).Nodup)
    (hinfo : info ∈ table.columns) (hplain : PlainColumn info.column)
    (h : Returned serde table info.column.id cell row) :
    info.read duckdb row = cellSqlValue serde duckdb info cell := by
  obtain ⟨body, item, hpage, hget, hkeys⟩ := h
  have hshown : shownMember info.column.id item = some (info.column.id, cell) := by
    apply shownMember_of_get hget
    intro member hmem hsame
    obtain ⟨other, hother, hid⟩ := hkeys member hmem
    rw [← hid, eqIgnoreAsciiCase_iff] at hsame
    have heq : other = info := List.inj_on_of_nodup_map hids hother hinfo hsame
    rw [← hid, heq]
  rw [read_item duckdb hpage.decoded hplain, hshown]

/-- **What is written is what is read back.** The requests of an INSERT or
UPDATE hold, for the first rows of the chunk and for all of them on success,
one cell for each editable column the statement assigns; wherever the server
gives such a cell back, its column reads the value the cell was made of. -/
theorem written_read_back (attached : Attached σ) (fuel : Nat) (before loaded : World σ)
    (catalog : RustExtCatalog)
    (hload : loadCatalog fuel attached.remote attached.config before = some (.ok catalog, loaded))
    (operator : DmlOperator) (htable : operator.table.table ∈ catalog.tables)
    (hstatement : operator.statement = .insert ∨
      ∃ assignments, operator.statement = .update assignments)
    (hids : (operator.table.columns.map fun info => foldCase info.column.id).Nodup)
    (chunk : DataChunk)
    (htyped : ∀ row ∈ chunk.rows, ∀ written ∈ operator.assigned row,
      WellTyped written.1.duckdbType written.2)
    (hprints : ∀ row ∈ chunk.rows, ∀ written ∈ operator.assigned row,
      PrintsBack attached.remote.serde written.2)
    (world : World σ) :
    ∃ bodies count,
      Carries attached.remote.serde
        (sentSince world (operator.write attached chunk world).2) bodies ∧
      List.Forall₂ (fun row rowBody => List.Forall₂ (fun written cell =>
          cell.1 = written.1.column.id ∧
          ∀ row', Returned attached.remote.serde operator.table cell.1 cell.2 row' →
            written.1.read attached.duckdb row' = written.2)
          (operator.assigned row) (bodyCells rowBody))
        (chunk.rows.take count) (bodies.flatMap bodyRows) ∧
      ∀ written, (operator.write attached chunk world).1 = .ok written →
        chunk.rows.length ≤ count := by
  obtain ⟨bodies, count, ⟨hcarries, hencodes⟩, hall⟩ :=
    write_bodies attached operator hstatement chunk world
  refine ⟨bodies, count, hcarries, ?_, hall⟩
  have hrows : ∀ row ∈ chunk.rows.take count, row ∈ chunk.rows :=
    fun row hmem => List.mem_of_mem_take hmem
  refine ((List.forall₂_and_left _ _).mpr ⟨hrows, hencodes⟩).imp ?_
  rintro row rowBody ⟨hrow, hcells⟩
  unfold Encodes at hcells
  rw [hcells, List.forall₂_map_right_iff, List.forall₂_same]
  intro written hwritten
  refine ⟨rfl, ?_⟩
  intro row' hreturned
  -- row metadata is not editable, so this column was read off a page
  obtain ⟨hinfo, heditable⟩ := DmlOperator.mem_assigned hwritten
  have hloaded := (loadCatalog_origin hload _ htable).columns _
    (RustBridgeTableInfo.column_mem hinfo)
  have hplain : PlainColumn written.1.column := hloaded.plain (.inr heditable)
  rw [hreturned.read attached.duckdb hids hinfo hplain]
  exact cellSqlValue_written attached.duckdb hplain (operator.table.duckdbType_eq hinfo)
    (htyped row hrow written hwritten) (hprints row hrow written hwritten)

/-! ## A row of one text, one missing and one number -/

/-- The two pages of the catalog, under a short text for each. -/
def typedTexts : List (String × Json) := [
  ("tables",
    .object [("items", .array [.object [("id", .string "tbl1"), ("name", .string "Tasks")]])]),
  ("columns",
    .object [("items", .array [
      .object [("id", .string "c_name"), ("name", .string "Name")],
      .object [("format", .object [("type", .string "checkbox")]), ("id", .string "c_done"),
        ("name", .string "Done")],
      .object [("format", .object [("type", .string "number")]), ("id", .string "c_size"),
        ("name", .string "Size")]])])]

/-- A codec that prints the one number of the row. -/
def typedRemote : Remote (List HttpReply) :=
  mockRemote (mockSerde typedTexts fun
    | .number _ => "1.5"
    | _ => "")

def typedAttached : Attached (List HttpReply) where
  remote := typedRemote
  duckdb := mockDuckDb
  config := mockConfig

def typedWorld : World (List HttpReply) :=
  mockWorld (typedTexts.map fun text => ok200 text.1)

def typedCatalogTable : RustExtCatalogTable :=
  catalogTable tasksTable [textColumn "c_name" "Name",
    { textColumn "c_done" "Done" with typeName := "checkbox", logicalType := 1 },
    { textColumn "c_size" "Size" with typeName := "number", logicalType := 2 }]

/-- `INSERT INTO "Tasks" VALUES ('null', NULL, 1.5)`. -/
def typedInsert : DmlOperator := ⟨borrowRustBridgeTableInfo typedCatalogTable, .insert⟩

def typedRow (column : Nat) : Value :=
  if column = 0 then .varchar "null"
  else if column = 1 then .null .boolean
  else .double ⟨0x3ff8000000000000⟩

def typedChunk : DataChunk := ⟨3, [typedRow]⟩

def typedInsertWorld : World (List HttpReply) := mockWorld [.answered 202 (.ok "")]

/-- The row is accepted, and each of its three cells reads back. -/
theorem written_read_back_mock :
    (typedInsert.write typedAttached typedChunk typedInsertWorld).1 = .ok 1 ∧
    ∃ bodies count,
      Carries typedRemote.serde (sentSince typedInsertWorld
        (typedInsert.write typedAttached typedChunk typedInsertWorld).2) bodies ∧
      List.Forall₂ (fun row rowBody => List.Forall₂ (fun written cell =>
          cell.1 = written.1.column.id ∧
          ∀ row', Returned typedRemote.serde typedInsert.table cell.1 cell.2 row' →
            written.1.read mockDuckDb row' = written.2)
          (typedInsert.assigned row) (bodyCells rowBody))
        (typedChunk.rows.take count) (bodies.flatMap bodyRows) ∧
      ∀ written, (typedInsert.write typedAttached typedChunk typedInsertWorld).1 = .ok written →
        typedChunk.rows.length ≤ count := by
  have hassigned : ∀ row ∈ typedChunk.rows, typedInsert.assigned row =
      [(typedInsert.table.columns[0], .varchar "null"),
        (typedInsert.table.columns[1], .null .boolean),
        (typedInsert.table.columns[2], .double ⟨0x3ff8000000000000⟩)] := by
    intro row hrow
    rw [List.mem_singleton.mp hrow]
    rfl
  refine ⟨rfl, written_read_back typedAttached 4 typedWorld _ ⟨[typedCatalogTable]⟩ rfl typedInsert
    List.mem_cons_self (.inl rfl) (by decide) typedChunk ?_ ?_ typedInsertWorld⟩
  · intro row hrow written hwritten
    rw [hassigned row hrow] at hwritten
    simp only [List.mem_cons, List.not_mem_nil, or_false] at hwritten
    rcases hwritten with rfl | rfl | rfl
    · exact ⟨rfl, fun d h => by cases h⟩
    · exact ⟨rfl, fun d h => by cases h⟩
    · refine ⟨rfl, ?_⟩
      intro d h
      cases h
      decide
  · intro row hrow written hwritten d finite h
    rw [hassigned row hrow] at hwritten
    simp only [List.mem_cons, List.not_mem_nil, or_false] at hwritten
    rcases hwritten with rfl | rfl | rfl
    · cases h
    · cases h
    · cases h
      show F64.parse "1.5" = _
      decide +kernel

end DuckdbCoda
