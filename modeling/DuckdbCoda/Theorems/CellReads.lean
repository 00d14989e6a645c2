import DuckdbCoda.Logic.Decoding
import DuckdbCoda.Model.MockCoda

/-!
# What a column reads of a row

* `readsOwnCell_iff` — a column reads its own cell and nothing else exactly if no
  key of the rows differs from its id in letter case only.
* `read_nonNull_iff` — a cell that is not null is delivered exactly if the type
  of the column can represent it.
-/

namespace DuckdbCoda

open AsciiCase

variable {σ : Type}

/-- A column of a loaded table that is not a system column is plain. -/
theorem loaded_plain {fuel : Nat} {remote : Remote σ} {config : RustExtClientConfig}
    {before loaded : World σ} {catalog : RustExtCatalog}
    (hload : loadCatalog fuel remote config before = some (.ok catalog, loaded))
    {table : RustBridgeTableInfo} (htable : table.table ∈ catalog.tables)
    {info : RustBridgeColumnInfo} (hinfo : info ∈ table.columns)
    (hsystem : hasBit info.column.capabilities columnSystem = false) :
    PlainColumn info.column :=
  ((loadCatalog_origin hload _ htable).columns _
    (RustBridgeTableInfo.column_mem hinfo)).plain_of_notSystem hsystem

/-! ## A column and its own cell -/

/-- All keys of the values of a row item are among the given ones. -/
def KeysAmong (keys : String → Prop) (item : Json) : Prop :=
  ∀ member ∈ rowValues item, keys member.1

/-- On rows with these keys, the column depends on the member under its id only,
and is NULL where there is none or a null. -/
structure ReadsOwnCell (serde : SerdeJson) (duckdb : DuckDb) (info : RustBridgeColumnInfo)
    (keys : String → Prop) : Prop where
  null : ∀ item row, rowFromJson serde item = .ok row → KeysAmong keys item →
    (ownCell info.column.id item = none ∨ ownCell info.column.id item = some .null) →
    info.read duckdb row = .null info.duckdbType
  same : ∀ item row item' row', rowFromJson serde item = .ok row →
    rowFromJson serde item' = .ok row' → KeysAmong keys item → KeysAmong keys item' →
    ownCell info.column.id item = ownCell info.column.id item' →
    info.read duckdb row = info.read duckdb row'

/-- Every column shows some value as other than NULL. -/
theorem exists_shown (serde : SerdeJson) (duckdb : DuckDb) {info : RustBridgeColumnInfo}
    (hplain : PlainColumn info.column)
    (htype : info.duckdbType = rustBridgeDuckDBLogicalType info.column.logicalType) :
    ∃ cell, (cellSqlValue serde duckdb info cell).isNull = false := by
  rcases plain_duckdbType hplain htype with hvarchar | hboolean | ⟨hdouble, hlogical⟩
  · refine ⟨.string "", ?_⟩
    rw [cellSqlValue_varchar hvarchar (fun h => by cases h)]
    rfl
  · refine ⟨.bool true, ?_⟩
    rw [cellSqlValue_boolean hboolean]
    rfl
  · refine ⟨.string (Nat.repr 1), ?_⟩
    have htext : jsonValueString serde (.string (Nat.repr 1)) = Nat.repr 1 := rfl
    rw [cellSqlValue_double hlogical hdouble (fun h => by cases h), htext, F64.parse_repr]
    rfl

/-- A row with one key that is the column id up to case shows its cell. -/
theorem read_variant (serde : SerdeJson) (duckdb : DuckDb) {info : RustBridgeColumnInfo}
    (hplain : PlainColumn info.column) {key : String} (cell : Json)
    (hkey : eqIgnoreAsciiCase key info.column.id = true) :
    ∃ row, rowFromJson serde (.object [("id", .string "r"), ("values", .object [(key, cell)])]) =
        .ok row ∧
      info.read duckdb row = cellSqlValue serde duckdb info cell := by
  have hrow : rowFromJson serde (.object [("id", .string "r"), ("values", .object [(key, cell)])]) =
      .ok { bareRow "r" "" false with cells := [cellFromJson serde (key, cell)] } := rfl
  refine ⟨_, hrow, ?_⟩
  rw [read_item duckdb hrow hplain]
  have hshown : shownMember info.column.id (.object [("id", .string "r"),
      ("values", .object [(key, cell)])]) = some (key, cell) :=
    List.find?_cons_of_pos hkey
  rw [hshown]

/-- **A column reads its own cell only**, on rows with the given keys, exactly if
no key is the column id but for the case of its letters. -/
theorem readsOwnCell_iff (remote : Remote σ) (config : RustExtClientConfig) (fuel : Nat)
    (before loaded : World σ) (catalog : RustExtCatalog)
    (hload : loadCatalog fuel remote config before = some (.ok catalog, loaded))
    (duckdb : DuckDb) (table : RustBridgeTableInfo) (htable : table.table ∈ catalog.tables)
    (info : RustBridgeColumnInfo) (hinfo : info ∈ table.columns)
    (hsystem : hasBit info.column.capabilities columnSystem = false) (keys : String → Prop) :
    ReadsOwnCell remote.serde duckdb info keys ↔
      ∀ key, keys key → eqIgnoreAsciiCase key info.column.id = true → key = info.column.id := by
  have hplain := loaded_plain hload htable hinfo hsystem
  have htype := table.duckdbType_eq hinfo
  constructor
  · intro hreads key hkey hsame
    by_contra hne
    obtain ⟨cell, hcell⟩ := exists_shown remote.serde duckdb hplain htype
    obtain ⟨row, hrow, hread⟩ := read_variant remote.serde duckdb hplain cell hsame
    have hkeys : KeysAmong keys (.object [("id", .string "r"),
        ("values", .object [(key, cell)])]) := by
      intro member hmem
      rw [List.mem_singleton.mp hmem]
      exact hkey
    -- the row has no member under the id itself
    have hown : ownCell info.column.id (.object [("id", .string "r"),
        ("values", .object [(key, cell)])]) = none := by
      unfold ownCell
      rw [get_values_eq]
      have hnone : [(key, cell)].find? (fun member => member.1 = info.column.id) = none :=
        List.find?_cons_of_neg (by simpa using hne)
      exact congrArg (Option.map Prod.snd) hnone
    have hnull := hreads.null _ row hrow hkeys (.inl hown)
    rw [hread] at hnull
    rw [hnull] at hcell
    cases hcell
  · intro hkeys
    have hown : ∀ item row, rowFromJson remote.serde item = .ok row → KeysAmong keys item →
        info.read duckdb row =
          ownValue remote.serde duckdb info (ownCell info.column.id item) :=
      fun item row hrow hamong =>
        read_ownCell duckdb hrow hplain fun member hmem => hkeys _ (hamong member hmem)
    constructor
    · intro item row hrow hamong hcell
      rw [hown item row hrow hamong]
      rcases hcell with hcell | hcell <;> rw [hcell] <;> rfl
    · intro item row item' row' hrow hrow' hamong hamong' hcell
      rw [hown item row hrow hamong, hown item' row' hrow' hamong', hcell]

/-- The row item of a table with two columns whose ids differ in case, in the
order of their keys. -/
def mockCaseItem (upper lower : String) : Json :=
  .object [("id", .string "r1"),
    ("values", .object [("C_NAME", .string upper), ("c_name", .string lower)])]

def nameInfo : RustBridgeColumnInfo := rustBridgeColumnInfo (textColumn "c_name" "Name")

/-- The column `c_name` shows the cells of the column `C_NAME`, on two rows that
have the same cell under `c_name`. -/
theorem other_column_read :
    ∃ row row', rowFromJson (mockSerde [] fun _ => "") (mockCaseItem "secret" "own") = .ok row ∧
      rowFromJson (mockSerde [] fun _ => "") (mockCaseItem "public" "own") = .ok row' ∧
      ownCell "c_name" (mockCaseItem "secret" "own") =
        ownCell "c_name" (mockCaseItem "public" "own") ∧
      nameInfo.read mockDuckDb row = .varchar "secret" ∧
      nameInfo.read mockDuckDb row' = .varchar "public" :=
  ⟨_, _, rfl, rfl, rfl, rfl, rfl⟩

/-- On rows with cells of the two columns of the mock document, the column reads
its own. -/
theorem readsOwnCell_iff_mock :
    ReadsOwnCell (mockSerde mockCatalogTexts fun _ => "") mockDuckDb nameInfo
      (fun key => key = "c_name" ∨ key = "c_copy") := by
  refine (readsOwnCell_iff (mockRemote (mockSerde mockCatalogTexts fun _ => "")) mockConfig 4
    mockCatalogWorld _ mockCatalog rfl mockDuckDb (borrowRustBridgeTableInfo
      (catalogTable tasksTable [textColumn "c_name" "Name", textColumn "c_copy" "Name_2"]))
    List.mem_cons_self nameInfo List.mem_cons_self rfl _).mpr ?_
  rintro key (rfl | rfl) hsame
  · rfl
  · exact absurd hsame (by decide)

/-! ## Cells that the type of the column cannot represent -/

/-- DuckDB casts the text to a value of the type that is not NULL. -/
def Casts (duckdb : DuckDb) (type : LogicalType) (text : String) : Prop :=
  ∃ value, duckdb.castText type text = some value ∧ value.isNull = false

/-- The type can represent the cell: every text; a boolean, or what DuckDB casts
to one; what reads as a double, or DuckDB casts to one. -/
def Representable (serde : SerdeJson) (duckdb : DuckDb) (type : LogicalType) (cell : Json) : Prop :=
  match type with
  | .varchar => True
  | .boolean => cell.asBool.isSome = true ∨ Casts duckdb .boolean (jsonValueString serde cell)
  | .double => (F64.parse (jsonValueString serde cell)).isSome = true ∨
      Casts duckdb .double (jsonValueString serde cell)
  | type => Casts duckdb type (jsonValueString serde cell)

theorem castOrNull_nonNull_iff (duckdb : DuckDb) (text : String) (type : LogicalType) :
    (castOrNull duckdb text type).isNull = false ↔ Casts duckdb type text := by
  unfold castOrNull Casts
  cases duckdb.castText type text with
  | none => simp [Value.isNull]
  | some value => simp

theorem cellSqlValue_nonNull_iff {serde : SerdeJson} {duckdb : DuckDb}
    {info : RustBridgeColumnInfo} {cell : Json} (hplain : PlainColumn info.column)
    (htype : info.duckdbType = rustBridgeDuckDBLogicalType info.column.logicalType)
    (hcell : cell ≠ .null) :
    (cellSqlValue serde duckdb info cell).isNull = false ↔
      Representable serde duckdb info.duckdbType cell := by
  rcases plain_duckdbType hplain htype with hvarchar | hboolean | ⟨hdouble, hlogical⟩
  · rw [cellSqlValue_varchar hvarchar hcell, hvarchar]
    exact ⟨fun _ => trivial, fun _ => rfl⟩
  · rw [hboolean]
    show _ ↔ _ ∨ _
    cases hbool : cell.asBool with
    | none =>
        rw [cellSqlValue_boolean_cast hboolean hcell hbool, castOrNull_nonNull_iff]
        simp
    | some value =>
        cases cell with
        | bool inner =>
            rw [cellSqlValue_boolean hboolean]
            exact ⟨fun _ => .inl rfl, fun _ => rfl⟩
        | _ => cases hbool
  · rw [cellSqlValue_double hlogical hdouble hcell, hdouble]
    show _ ↔ _ ∨ _
    cases F64.parse (jsonValueString serde cell) with
    | none => simpa using castOrNull_nonNull_iff duckdb (jsonValueString serde cell) .double
    | some parsed => exact ⟨fun _ => .inl rfl, fun _ => rfl⟩

/-- **A cell is delivered** exactly if the type of its column can represent it. -/
theorem read_nonNull_iff (remote : Remote σ) (config : RustExtClientConfig) (fuel : Nat)
    (before loaded : World σ) (catalog : RustExtCatalog)
    (hload : loadCatalog fuel remote config before = some (.ok catalog, loaded))
    (duckdb : DuckDb) (table : RustBridgeTableInfo) (htable : table.table ∈ catalog.tables)
    (info : RustBridgeColumnInfo) (hinfo : info ∈ table.columns)
    (hsystem : hasBit info.column.capabilities columnSystem = false)
    (item : Json) (row : RustExtRow) (hread : rowFromJson remote.serde item = .ok row)
    (cell : Json) (hown : ownCell info.column.id item = some cell) (hcell : cell ≠ .null)
    (hkeys : ∀ member ∈ rowValues item,
      eqIgnoreAsciiCase member.1 info.column.id = true → member.1 = info.column.id) :
    (info.read duckdb row).isNull = false ↔
      Representable remote.serde duckdb info.duckdbType cell := by
  have hplain := loaded_plain hload htable hinfo hsystem
  rw [read_ownCell duckdb hread hplain hkeys, hown]
  exact cellSqlValue_nonNull_iff hplain (table.duckdbType_eq hinfo) hcell

/-- A price column, and a row with a formatted price. -/
def mockPriceItem : Json :=
  .object [("format", .object [("type", .string "currency")]), ("id", .string "c_price"),
    ("name", .string "Price")]

def mockPricedRow : Json :=
  .object [("id", .string "r1"), ("values", .object [("c_price", .string "$12.50")])]

/-- The formatted price is no literal of a double, and is read as NULL. -/
theorem price_read_as_null :
    ∃ column row, columnFromJson mockPriceItem = .ok column ∧
      hasBit column.capabilities columnSystem = false ∧
      rowFromJson (mockSerde [] fun _ => "") mockPricedRow = .ok row ∧
      ownCell column.id mockPricedRow = some (.string "$12.50") ∧
      mockDuckDb.castText .double "$12.50" = none ∧
      (rustBridgeColumnInfo column).read mockDuckDb row = .null .double :=
  ⟨_, _, rfl, rfl, rfl, rfl, rfl, rfl⟩

/-- A text is delivered in a text column. -/
theorem read_nonNull_iff_mock :
    (nameInfo.read mockDuckDb { bareRow "r1" "" false with
      cells := [⟨"c_name", .string, "$12.50"⟩] }).isNull = false := by
  refine (read_nonNull_iff (mockRemote (mockSerde mockCatalogTexts fun _ => "")) mockConfig 4
    mockCatalogWorld _ mockCatalog rfl mockDuckDb (borrowRustBridgeTableInfo
      (catalogTable tasksTable [textColumn "c_name" "Name", textColumn "c_copy" "Name_2"]))
    List.mem_cons_self nameInfo List.mem_cons_self rfl
    (.object [("id", .string "r1"), ("values", .object [("c_name", .string "$12.50")])]) _ rfl
    (.string "$12.50") rfl (fun h => by cases h) ?_).mpr trivial
  intro member hmem _
  rw [List.mem_singleton.mp hmem]
  rfl

end DuckdbCoda
