import Mathlib.Data.List.Find
import DuckdbCoda.Logic.CatalogOrigin
import DuckdbCoda.Model.Values

/-!
# The SQL value of a cell

A plain column of a row item shows the value of the first member whose key is
the column id up to ASCII case (`read_item`): SQL NULL when there is none, else
what the three decoding stages make of its JSON value (`cellSqlValue`).
-/

namespace DuckdbCoda

open AsciiCase

/-- The SQL value of a JSON value in a column that is not a system column. -/
def cellSqlValue (serde : SerdeJson) (duckdb : DuckDb) (info : RustBridgeColumnInfo)
    (cell : Json) : Value :=
  scanValueToValue duckdb
    (cellScanValue info.column.logicalType (cellFromJson serde (info.column.id, cell)))
    info.duckdbType

/-- The member of a row item that `scan_value` looks at. -/
def shownMember (columnId : String) (item : Json) : Option (String × Json) :=
  (rowValues item).find? fun member => eqIgnoreAsciiCase member.1 columnId

theorem rowFromJson_ok {serde : SerdeJson} {item : Json} {row : RustExtRow}
    (h : rowFromJson serde item = .ok row) :
    row.cells = (rowValues item).map (cellFromJson serde) := by
  obtain ⟨id, _, h⟩ := bind_eq_ok h
  cases h
  rfl

/-- The rows of a page were read from its items, one by one. -/
theorem rowsFromJson_ok {serde : SerdeJson} {body : String} {response : CodaRowsResponse}
    (h : rowsFromJson serde body = .ok response) :
    ∃ root items, serde.fromStr body = .ok root ∧ pageItems root = .ok items ∧
      List.Forall₂ (fun item row => rowFromJson serde item = .ok row) items response.rows := by
  obtain ⟨root, hroot, h⟩ := bind_eq_ok h
  obtain ⟨items, hitems, h⟩ := bind_eq_ok h
  obtain ⟨rows, hrows, h⟩ := bind_eq_ok h
  cases h
  exact ⟨root, items, hroot, hitems, forall₂_of_mapM_ok hrows⟩

/-- **What a column shows** of a row item. -/
theorem read_item {serde : SerdeJson} (duckdb : DuckDb) {info : RustBridgeColumnInfo}
    {item : Json} {row : RustExtRow} (hread : rowFromJson serde item = .ok row)
    (hplain : PlainColumn info.column) :
    info.read duckdb row =
      match shownMember info.column.id item with
      | none => .null info.duckdbType
      | some member => cellSqlValue serde duckdb info member.2 := by
  have hcell : findCell info.column.id row.cells =
      (shownMember info.column.id item).map (cellFromJson serde) := by
    rw [findCell, rowFromJson_ok hread, List.find?_map]
    rfl
  unfold RustBridgeColumnInfo.read scanValue
  rw [if_neg (by rw [hplain.notSystem]; decide), hcell]
  cases shownMember info.column.id item with
  | none => rfl
  | some member => rfl

/-! ## The member under the id itself -/

/-- A lookup in the values of a row item is one among its members. -/
theorem get_values_eq (columnId : String) (item : Json) :
    (item.get "values").bind (Json.get columnId) =
      ((rowValues item).find? fun member => member.1 = columnId).map Prod.snd := by
  unfold rowValues
  cases item.get "values" with
  | none => rfl
  | some values => cases values <;> rfl

/-- When no other key is the column id up to case, the column shows the member
under its id. -/
theorem shownMember_of_get {columnId : String} {item cell : Json}
    (hget : (item.get "values").bind (Json.get columnId) = some cell)
    (hkeys : ∀ member ∈ rowValues item,
      eqIgnoreAsciiCase member.1 columnId = true → member.1 = columnId) :
    shownMember columnId item = some (columnId, cell) := by
  rw [get_values_eq] at hget
  obtain ⟨member, hfound, rfl⟩ := Option.map_eq_some_iff.mp hget
  have hsame : ∀ member ∈ rowValues item,
      eqIgnoreAsciiCase member.1 columnId = decide (member.1 = columnId) := by
    intro member hmem
    rw [Bool.eq_iff_iff, decide_eq_true_iff]
    constructor
    · exact hkeys member hmem
    · rintro rfl
      exact eqIgnoreAsciiCase_refl _
  have hkey : member.1 = columnId := by simpa using List.find?_some hfound
  rw [shownMember, List.find?_congr hsame, hfound, ← hkey]

/-- A member that is shown under the id itself is the one a lookup finds. -/
theorem get_of_shownMember {columnId : String} {item cell : Json}
    (h : shownMember columnId item = some (columnId, cell)) :
    (item.get "values").bind (Json.get columnId) = some cell := by
  obtain ⟨_, before, after, hvalues, hbefore⟩ := List.find?_eq_some_iff_append.mp h
  have hfound : (rowValues item).find? (fun member => member.1 = columnId) =
      some (columnId, cell) := by
    rw [List.find?_eq_some_iff_append]
    refine ⟨by simp, before, after, hvalues, ?_⟩
    intro member hmem
    have hother := hbefore member hmem
    by_cases hkey : member.1 = columnId
    · rw [hkey, eqIgnoreAsciiCase_refl] at hother
      cases hother
    · simpa using hkey
  rw [get_values_eq, hfound]
  rfl

/-- Where nothing is shown, a lookup finds nothing. -/
theorem get_of_shownMember_none {columnId : String} {item : Json}
    (h : shownMember columnId item = none) :
    (item.get "values").bind (Json.get columnId) = none := by
  have hnone : (rowValues item).find? (fun member => member.1 = columnId) = none := by
    rw [List.find?_eq_none]
    intro member hmem hkey
    have hother := List.find?_eq_none.mp h member hmem
    rw [of_decide_eq_true hkey, eqIgnoreAsciiCase_refl] at hother
    exact hother rfl
  rw [get_values_eq, hnone]
  rfl

/-- The member of the values of a row item whose key is exactly the column id. -/
def ownCell (columnId : String) (item : Json) : Option Json :=
  (item.get "values").bind (Json.get columnId)

/-- When no other key is the column id up to case, the member that is shown is
the one under the id. -/
theorem shownMember_eq_ownCell {columnId : String} {item : Json}
    (hkeys : ∀ member ∈ rowValues item,
      eqIgnoreAsciiCase member.1 columnId = true → member.1 = columnId) :
    (shownMember columnId item).map Prod.snd = ownCell columnId item := by
  cases hshown : shownMember columnId item with
  | none => exact (get_of_shownMember_none hshown).symm
  | some member =>
      obtain ⟨key, cell⟩ := member
      have hkey : key = columnId :=
        hkeys _ (List.mem_of_find?_eq_some hshown)
          (List.find?_some (p := fun member : String × Json =>
            eqIgnoreAsciiCase member.1 columnId) hshown)
      rw [hkey] at hshown
      exact (get_of_shownMember hshown).symm

/-- The SQL value of the member under the column id. -/
def ownValue (serde : SerdeJson) (duckdb : DuckDb) (info : RustBridgeColumnInfo) :
    Option Json → Value
  | none => .null info.duckdbType
  | some cell => cellSqlValue serde duckdb info cell

/-- A row without other keys that are the column id up to case shows the member
under the id. -/
theorem read_ownCell {serde : SerdeJson} (duckdb : DuckDb) {info : RustBridgeColumnInfo}
    {item : Json} {row : RustExtRow} (hread : rowFromJson serde item = .ok row)
    (hplain : PlainColumn info.column)
    (hkeys : ∀ member ∈ rowValues item,
      eqIgnoreAsciiCase member.1 info.column.id = true → member.1 = info.column.id) :
    info.read duckdb row = ownValue serde duckdb info (ownCell info.column.id item) := by
  rw [read_item duckdb hread hplain, ← shownMember_eq_ownCell hkeys]
  cases shownMember info.column.id item <;> rfl

/-! ## By the type of the column -/

/-- Columns of a table of the catalog have the type of their column. -/
theorem RustBridgeTableInfo.duckdbType_eq (table : RustBridgeTableInfo)
    {info : RustBridgeColumnInfo} (h : info ∈ table.columns) :
    info.duckdbType = rustBridgeDuckDBLogicalType info.column.logicalType := by
  rw [table.borrowed] at h
  obtain ⟨column, _, rfl⟩ := List.mem_map.mp h
  rfl

theorem RustBridgeTableInfo.column_mem {table : RustBridgeTableInfo}
    {info : RustBridgeColumnInfo} (h : info ∈ table.columns) :
    info.column ∈ table.table.columns := by
  rw [table.borrowed] at h
  obtain ⟨column, hmem, rfl⟩ := List.mem_map.mp h
  exact hmem

/-- A plain column has one of three types, DOUBLE for the logical type 2. -/
theorem plain_duckdbType {info : RustBridgeColumnInfo} (hplain : PlainColumn info.column)
    (htype : info.duckdbType = rustBridgeDuckDBLogicalType info.column.logicalType) :
    info.duckdbType = .varchar ∨ info.duckdbType = .boolean ∨
      info.duckdbType = .double ∧ info.column.logicalType = 2 := by
  rcases hplain.logicalType with hlogical | hlogical | hlogical
  · exact .inl (by rw [htype, hlogical]; rfl)
  · exact .inr (.inl (by rw [htype, hlogical]; rfl))
  · exact .inr (.inr ⟨by rw [htype, hlogical]; rfl, hlogical⟩)

section

variable {serde : SerdeJson} {duckdb : DuckDb} {info : RustBridgeColumnInfo} {cell : Json}

/-- A text column shows the text of every value but null. -/
theorem cellSqlValue_varchar (htype : info.duckdbType = .varchar) (hcell : cell ≠ .null) :
    cellSqlValue serde duckdb info cell = .varchar (jsonValueString serde cell) := by
  unfold cellSqlValue
  rw [htype]
  cases cell with
  | null => exact absurd rfl hcell
  | _ => rfl

theorem cellSqlValue_boolean (htype : info.duckdbType = .boolean) (value : Bool) :
    cellSqlValue serde duckdb info (.bool value) = .boolean value := by
  unfold cellSqlValue
  rw [htype]
  cases value <;> rfl

/-- What is neither null nor a boolean is cast from its text. -/
theorem cellSqlValue_boolean_cast (htype : info.duckdbType = .boolean) (hcell : cell ≠ .null)
    (hbool : cell.asBool = none) :
    cellSqlValue serde duckdb info cell =
      castOrNull duckdb (jsonValueString serde cell) .boolean := by
  unfold cellSqlValue
  rw [htype]
  cases cell with
  | null => exact absurd rfl hcell
  | bool value => cases hbool
  | _ => rfl

/-- The double the text of a value reads as, or what DuckDB casts it to. -/
theorem cellSqlValue_double (hlogical : info.column.logicalType = 2)
    (htype : info.duckdbType = .double) (hcell : cell ≠ .null) :
    cellSqlValue serde duckdb info cell =
      match F64.parse (jsonValueString serde cell) with
      | some parsed => .double parsed
      | none => castOrNull duckdb (jsonValueString serde cell) .double := by
  have htag : ¬ (jsonValueType cell = .invalid ∨ jsonValueType cell = .null) := by
    cases cell with
    | null => exact absurd rfl hcell
    | _ => simp [jsonValueType]
  unfold cellSqlValue cellScanValue
  rw [htype, hlogical]
  simp only [cellFromJson, htag, if_false, if_true]
  cases F64.parse (jsonValueString serde cell) <;> rfl

end

end DuckdbCoda
