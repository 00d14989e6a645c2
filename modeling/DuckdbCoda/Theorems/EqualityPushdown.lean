import DuckdbCoda.Logic.Literals
import DuckdbCoda.Logic.Pushdowns
import DuckdbCoda.Theorems.ScanRows

/-!
# Equality pushdown against the erased filter

The server compares the JSON value of a cell with the literal; the erased
filter compared its SQL value with the constant. Cell by cell the two agree on
cells of the JSON kind of the literal, and otherwise exactly if the text of the
cell does not read as the constant (`cellFaithful_iff`). `pushdown_exact_iff`
is what this makes of a scan: pushdown preserves the result if and only if the
rows that pass the other filters are faithful in this sense.
-/

namespace DuckdbCoda

open AsciiCase Loop Paging

/-! ## What the server selects -/

/-- The exact value of a number, in units of `2^-1074`. -/
def JsonNumber.scaled : JsonNumber → Int
  | .posInt value => value.toNat * (F64.unitsPerOne : Int)
  | .negInt value _ => value.toInt * (F64.unitsPerOne : Int)
  | .float value _ => value.scaled

/-- Whether a JSON value is the literal of a query; such a literal is neither an
array nor an object. -/
def isLiteral : Json → Json → Bool
  | .null, .null => true
  | .bool literal, .bool value => literal == value
  | .number literal, .number value => literal.scaled == value.scaled
  | .string literal, .string value => literal == value
  | _, _ => false

/-- Whether the cell of a row item under a column id is the literal. -/
def selects (columnId : String) (literal item : Json) : Bool :=
  match (item.get "values").bind (Json.get columnId) with
  | none => false
  | some cell => isLiteral literal cell

/-! ## Numbers -/

/-- A number whose value is exactly the double reads as that double. -/
theorem nearest_of_exact {number : JsonNumber} {d : F64} (hd : d.isFinite = true)
    (h : number.scaled = d.scaled) : number.nearest.sameDouble d = true := by
  cases number with
  | posInt value => exact F64.sameDouble_ofInt hd h.symm
  | negInt value negative => exact F64.sameDouble_ofInt hd h.symm
  | float value finite => exact (F64.sameDouble_iff_scaled finite hd).mpr h

/-! ## Cells -/

/-- A cell is the constant: of its kind, and equal to it. An infinity or NaN is
sent as `null`. -/
def IsConstant : Value → Json → Prop
  | .varchar constant, .string value => value = constant
  | .boolean constant, .bool value => value = constant
  | .double constant, .number number =>
      constant.isFinite = true ∧ number.scaled = constant.scaled
  | .double constant, .null => constant.isFinite = false
  | _, _ => False

/-- Whether the text of a cell in a DOUBLE column reads as a double. -/
def readsAs (duckdb : DuckDb) (text : String) (d : F64) : Bool :=
  sqlEqual (match F64.parse text with
    | some parsed => .double parsed
    | none => castOrNull duckdb text .double) (.double d)

/-- The SQL value of a cell equals the constant: a value that is not of the kind
of the column is read from its text. -/
def ShowsConstant (serde : SerdeJson) (duckdb : DuckDb) : Value → Json → Prop
  | _, .null => False
  | .varchar constant, cell => jsonValueString serde cell = constant
  | .boolean constant, .bool value => value = constant
  | .boolean constant, cell =>
      duckdb.castText .boolean (jsonValueString serde cell) = some (.boolean constant)
  | .double constant, .number number => number.nearest.sameDouble constant = true
  | .double constant, cell => readsAs duckdb (jsonValueString serde cell) constant = true
  | _, _ => False

/-- What a cell must be like for an equality with the constant, by the type of
the column. -/
def CellFaithful (serde : SerdeJson) (duckdb : DuckDb) : Value → Json → Prop
  | .varchar _, .null => True
  | .varchar _, .string _ => True
  | .boolean _, .null => True
  | .boolean _, .bool _ => True
  | .double constant, .null => constant.isFinite = true
  | .double constant, .number number =>
      (constant.isFinite = true ∧ number.scaled = constant.scaled) ∨
        number.nearest.sameDouble constant = false
  | constant, cell => ¬ ShowsConstant serde duckdb constant cell

variable {serde : SerdeJson} {duckdb : DuckDb} {info : RustBridgeColumnInfo}

/-- A cell that is not the constant agrees exactly if it does not show it. -/
theorem not_shows_iff {constant : Value} {cell : Json} (h : ¬ IsConstant constant cell) :
    (IsConstant constant cell ↔ ShowsConstant serde duckdb constant cell) ↔
      ¬ ShowsConstant serde duckdb constant cell := by
  rw [iff_false_left h]

/-- **The two equalities on a cell** agree exactly if the cell is faithful. -/
theorem cellFaithful_iff (constant : Value) (cell : Json) :
    (IsConstant constant cell ↔ ShowsConstant serde duckdb constant cell) ↔
      CellFaithful serde duckdb constant cell := by
  cases constant with
  | varchar text =>
      cases cell with
      | null => exact ⟨fun _ => trivial, fun _ => Iff.rfl⟩
      | string value => exact ⟨fun _ => trivial, fun _ => Iff.rfl⟩
      | _ => exact not_shows_iff (fun h => h)
  | boolean b =>
      cases cell with
      | null => exact ⟨fun _ => trivial, fun _ => Iff.rfl⟩
      | bool value => exact ⟨fun _ => trivial, fun _ => Iff.rfl⟩
      | _ => exact not_shows_iff (fun h => h)
  | double d =>
      cases cell with
      | null =>
          show (d.isFinite = false ↔ False) ↔ d.isFinite = true
          simp
      | number number =>
          show (d.isFinite = true ∧ number.scaled = d.scaled ↔
              number.nearest.sameDouble d = true) ↔
            (d.isFinite = true ∧ number.scaled = d.scaled) ∨ number.nearest.sameDouble d = false
          by_cases hexact : d.isFinite = true ∧ number.scaled = d.scaled
          · -- a number that is exactly the constant also rounds to it
            have hsame := nearest_of_exact hexact.1 hexact.2
            exact ⟨fun _ => .inl hexact, fun _ => ⟨fun _ => hsame, fun _ => hexact⟩⟩
          · rw [iff_false_left hexact, or_iff_right hexact, Bool.not_eq_true]
      | _ => exact not_shows_iff (fun h => h)
  | _ => cases cell <;> exact not_shows_iff (fun h => h)

/-! ## What the server and DuckDB compare -/

/-- The cell is the literal of the query exactly if it is the constant. -/
theorem isLiteral_iff {constant : Value} {cell : Json}
    (htype : constant.type = .varchar ∨ constant.type = .boolean ∨ constant.type = .double)
    (hnull : constant.isNull = false) :
    isLiteral (inputValueJson (convert duckdb constant)) cell = true ↔
      IsConstant constant cell := by
  cases constant with
  | null type => cases hnull
  | varchar text =>
      cases cell with
      | string value =>
          show (text == value) = true ↔ value = text
          rw [beq_iff_eq, eq_comm]
      | _ => exact ⟨fun h => (by cases h), fun h => h.elim⟩
  | boolean b =>
      cases cell with
      | bool value =>
          show (b == value) = true ↔ value = b
          rw [beq_iff_eq, eq_comm]
      | _ => exact ⟨fun h => (by cases h), fun h => h.elim⟩
  | double d =>
      cases hfinite : d.isFinite with
      | true =>
          -- the literal is a number
          rw [literal_of_finite hfinite]
          cases cell with
          | number number =>
              show (d.scaled == number.scaled) = true ↔
                d.isFinite = true ∧ number.scaled = d.scaled
              rw [beq_iff_eq, eq_comm]
              exact ⟨fun h => ⟨hfinite, h⟩, And.right⟩
          | null =>
              refine ⟨fun h => (by cases h), ?_⟩
              intro h
              have hnot : d.isFinite = false := h
              rw [hnot] at hfinite
              cases hfinite
          | _ => exact ⟨fun h => (by cases h), fun h => h.elim⟩
      | false =>
          -- the literal is `null`
          rw [literal_of_not_finite hfinite]
          cases cell with
          | number number =>
              exact ⟨fun h => (by cases h), fun h => absurd h.1 (by simp [hfinite])⟩
          | null => exact ⟨fun _ => hfinite, fun _ => rfl⟩
          | _ => exact ⟨fun h => (by cases h), fun h => h.elim⟩
  | _ => rcases htype with h | h | h <;> cases h

theorem sqlEqual_varchar_iff (value text : String) :
    sqlEqual (.varchar value) (.varchar text) = true ↔ value = text := by
  unfold sqlEqual
  rw [decide_eq_true_iff]
  exact ⟨fun h => Value.varchar.inj h, fun h => congrArg Value.varchar h⟩

theorem sqlEqual_boolean_cast_iff (text : String) (b : Bool) :
    sqlEqual (castOrNull duckdb text .boolean) (.boolean b) = true ↔
      duckdb.castText .boolean text = some (.boolean b) := by
  unfold castOrNull
  cases duckdb.castText .boolean text with
  | none => exact ⟨fun h => (by cases h), fun h => (by cases h)⟩
  | some value => cases value <;> simp [sqlEqual]

/-- DuckDB finds the cell equal to the constant exactly if it shows it. -/
theorem sqlEqual_cell_iff {constant : Value} {cell : Json} (hplain : PlainColumn info.column)
    (htype : info.duckdbType = rustBridgeDuckDBLogicalType info.column.logicalType)
    (hconstant : constant.type = info.duckdbType) (hnull : constant.isNull = false)
    (hprints : PrintsNumber serde cell) :
    sqlEqual (cellSqlValue serde duckdb info cell) constant = true ↔
      ShowsConstant serde duckdb constant cell := by
  by_cases hcell : cell = .null
  · -- a null cell is SQL NULL, which equals nothing
    subst hcell
    cases constant <;> exact ⟨fun h => (by cases h), fun h => h.elim⟩
  rcases plain_duckdbType hplain htype with hvarchar | hboolean | ⟨hdouble, hlogical⟩
  · -- text: every value is shown as its text
    rw [cellSqlValue_varchar hvarchar hcell]
    rw [hvarchar] at hconstant
    cases constant with
    | null type => cases hnull
    | varchar text =>
        rw [sqlEqual_varchar_iff]
        cases cell with
        | null => exact absurd rfl hcell
        | _ => exact Iff.rfl
    | _ => cases hconstant
  · -- checkbox: the text of what is not a boolean is cast
    rw [hboolean] at hconstant
    cases constant with
    | null type => cases hnull
    | boolean b =>
        cases cell with
        | null => exact absurd rfl hcell
        | bool value =>
            rw [cellSqlValue_boolean hboolean]
            show decide (Value.boolean value = Value.boolean b) = true ↔ value = b
            simp
        | _ =>
            rw [cellSqlValue_boolean_cast hboolean hcell rfl, sqlEqual_boolean_cast_iff]
            exact Iff.rfl
    | _ => cases hconstant
  · -- number: the text of every value is parsed, and cast where that fails
    rw [cellSqlValue_double hlogical hdouble hcell]
    rw [hdouble] at hconstant
    cases constant with
    | null type => cases hnull
    | double d =>
        cases cell with
        | null => exact absurd rfl hcell
        | number number =>
            have hparse : F64.parse (jsonValueString serde (.number number)) =
                some number.nearest := parse_printed hprints
            rw [hparse]
            exact Iff.rfl
        | _ => exact Iff.rfl
    | _ => cases hconstant

/-! ## Rows -/

/-- What a row must be like. Mostly the cell that is shown is the one under the
column id, and the question is its kind. Where a key comes first that is the id
but for the case of letters, the server looks at another cell than is shown. -/
def RowFaithful (serde : SerdeJson) (duckdb : DuckDb) (info : RustBridgeColumnInfo)
    (constant : Value) (item : Json) : Prop :=
  match shownMember info.column.id item with
  | none => True
  | some (key, cell) =>
      if key = info.column.id then CellFaithful serde duckdb constant cell
      else
        (∃ own, (item.get "values").bind (Json.get info.column.id) = some own ∧
          IsConstant constant own) ↔
        ShowsConstant serde duckdb constant cell

/-- On every row the server and DuckDB agree exactly if the row is faithful. -/
theorem rowFaithful_iff {constant : Value} {item : Json} {row : RustExtRow}
    (hread : rowFromJson serde item = .ok row) (hplain : PlainColumn info.column)
    (htype : info.duckdbType = rustBridgeDuckDBLogicalType info.column.logicalType)
    (hconstant : constant.type = info.duckdbType) (hnull : constant.isNull = false)
    (hprints : ∀ member ∈ rowValues item, PrintsNumber serde member.2) :
    selects info.column.id (inputValueJson (convert duckdb constant)) item =
        sqlEqual (info.read duckdb row) constant ↔
      RowFaithful serde duckdb info constant item := by
  have hselects : selects info.column.id (inputValueJson (convert duckdb constant)) item = true ↔
      ∃ own, (item.get "values").bind (Json.get info.column.id) = some own ∧
        IsConstant constant own := by
    have hconstants := plain_duckdbType hplain htype
    rw [← hconstant] at hconstants
    unfold selects
    cases (item.get "values").bind (Json.get info.column.id) with
    | none => exact ⟨fun h => (by cases h), fun ⟨_, h, _⟩ => (by cases h)⟩
    | some own =>
        simp only
        rw [isLiteral_iff (hconstants.imp_right fun h => h.imp_right And.left) hnull]
        exact ⟨fun h => ⟨own, rfl, h⟩, fun ⟨_, heq, h⟩ => (by cases heq; exact h)⟩
  rw [Bool.eq_iff_iff, hselects, read_item duckdb hread hplain]
  unfold RowFaithful
  cases hshown : shownMember info.column.id item with
  | none =>
      refine ⟨fun _ => trivial, ?_⟩
      intro _
      rw [get_of_shownMember_none hshown]
      exact ⟨fun ⟨_, h, _⟩ => (by cases h), fun h => (by cases h)⟩
  | some member =>
      obtain ⟨key, cell⟩ := member
      have hmem : (key, cell) ∈ rowValues item := List.mem_of_find?_eq_some hshown
      simp only
      rw [sqlEqual_cell_iff hplain htype hconstant hnull (hprints _ hmem)]
      by_cases hkey : key = info.column.id
      · -- the cell that is shown is the one the server looks at
        rw [if_pos hkey, ← cellFaithful_iff]
        rw [hkey] at hshown
        simp only [get_of_shownMember hshown, Option.some.injEq, exists_eq_left']
      · rw [if_neg hkey]

/-! ## The whole scan -/

/-- The rows that pass all filters but the first that can be pushed are
faithful for that filter. -/
def PushdownFaithful {serde : SerdeJson} (duckdb : DuckDb) (get : LogicalGet)
    (table : RustBridgeTableInfo) (outer : Bindings) (rows : List (TableRow serde))
    (filters : List Expression) : Prop :=
  ∀ pushed info constant, filters.find? (pushable get table) = some pushed →
    filterTarget get table pushed = some (info, constant) →
    ∀ row ∈ rows, row.row.deleted = false →
      ((filters.eraseP (pushable get table)).all fun filter =>
        filter.keeps (scanBindings duckdb get table outer row.row)) = true →
      RowFaithful serde duckdb info constant row.item

/-- The rows of the table that are not deleted. -/
def liveRows {serde : SerdeJson} (rows : List (TableRow serde)) : List (TableRow serde) :=
  rows.filter fun row => !row.row.deleted

theorem scanRows_unpushed {serde : SerdeJson} (answer : Option String → List (TableRow serde))
    {bindData : RustBridgeScanBindData} (h : bindData.pushedQuery = "") :
    scanRows answer bindData = liveRows (answer none) := by
  unfold scanRows RustBridgeScanBindData.request
  rw [h]
  rfl

theorem scanRows_pushed {serde : SerdeJson} (answer : Option String → List (TableRow serde))
    {bindData : RustBridgeScanBindData} {selected : TableRow serde → Bool}
    (hquery : bindData.pushedQuery.isEmpty = false)
    (hanswer : answer (some bindData.pushedQuery) = (answer none).filter selected) :
    scanRows answer bindData = (liveRows (answer none)).filter selected := by
  have hsome : nonEmptyString bindData.pushedQuery = some bindData.pushedQuery := by
    simp [nonEmptyString, hquery]
  show (answer (nonEmptyString bindData.pushedQuery)).filter _ = _
  rw [hsome, hanswer]
  unfold liveRows
  rw [List.filter_filter, List.filter_filter]
  apply List.filter_congr
  intro row _
  exact Bool.and_comm _ _

/-- The scan handle opened for the bind data delivers these rows, when the pages
it is answered with carry the rows that answer its query. -/
theorem scanRows_delivered {σ : Type} {remote : Remote σ} {config : RustExtClientConfig}
    {bindData : RustBridgeScanBindData} {world world' : World σ} {pages : RowsPages}
    (chain : RowsChain remote
      (ScanHandle.new config bindData.table.table.id bindData.request) world firstQuestion pages
      (.ok ()) world')
    (answer : Option String → List (TableRow remote.serde))
    (hpages : pages.flatMap (fun page => page.2.rows) =
      (answer (nonEmptyString bindData.request.filter)).map (·.row)) :
    ∃ batches handle',
      Returns (fun fuel => (ScanHandle.new config bindData.table.table.id
        bindData.request).collect fuel remote world) (.ok batches, handle', world') ∧
      batches.flatMap (·.rows) = (scanRows answer bindData).map (·.row) := by
  obtain ⟨batches, handle', hloop, hvisible, _, _⟩ :=
    collect_returns pages.length (Nat.le_refl _) chain (pending_new config _ bindData.request)
  refine ⟨batches, handle', (hloop []).returns, ?_⟩
  have hfilter : pages.visible =
      (pages.flatMap fun page => page.2.rows).filter fun row => !row.deleted :=
    List.filter_flatMap.symm
  rw [hvisible, hfilter, hpages, List.filter_map]
  rfl

/-- **When equality pushdown preserves the result.** Whatever filters the calls
hand over, the scan with the pushed query under the filters that are left gives
the rows of the unpushed scan under all filters if and only if the rows that
pass the other filters are faithful for the pushed one. The rows of a scan
are the ones its handle delivers (`scanRows_delivered`). -/
theorem pushdown_exact_iff {σ : Type} (remote : Remote σ) (config : RustExtClientConfig)
    (fuel : Nat) (world world' : World σ) (catalog : RustExtCatalog)
    (hload : loadCatalog fuel remote config world = some (.ok catalog, world'))
    (duckdb : DuckDb) (get : LogicalGet) (bindData : RustBridgeScanBindData)
    (htable : bindData.table.table ∈ catalog.tables) (hunpushed : bindData.pushedQuery = "")
    (outer : Bindings) (calls : List (List Expression))
    (answer : Option String → List (TableRow remote.serde))
    (htyped : ∀ filter ∈ calls.flatten, ∀ info constant,
      filterTarget get bindData.table filter = some (info, constant) →
        constant.type = info.duckdbType)
    (hanswer : ∀ filter ∈ calls.flatten, ∀ info constant,
      filterTarget get bindData.table filter = some (info, constant) →
        answer (some (equalityQuery remote.serde duckdb info constant)) =
          (answer none).filter fun row =>
            selects info.column.id (inputValueJson (convert duckdb constant)) row.item)
    (hprints : ∀ row ∈ answer none, ∀ member ∈ rowValues row.item,
      PrintsNumber remote.serde member.2) :
    filteredScan duckdb get outer answer
        (pushdownCalls remote.serde duckdb get calls (bindData, [])) =
      filteredScan duckdb get outer answer (bindData, calls.flatten) ↔
    PushdownFaithful duckdb get bindData.table outer (answer none) calls.flatten := by
  have hempty : bindData.pushedQuery.isEmpty = true := by
    rw [hunpushed]
    rfl
  rw [pushdownCalls_eq calls hempty (by simp), List.nil_append]
  cases hfind : calls.flatten.find? (pushable get bindData.table) with
  | none =>
      rw [pushFirst_of_find_none hfind]
      refine ⟨fun _ pushed info constant hpushed => ?_, fun _ => rfl⟩
      rw [hfind] at hpushed
      cases hpushed
  | some pushed =>
      have hmem : pushed ∈ calls.flatten := List.mem_of_find?_eq_some hfind
      obtain ⟨info, constant, description, htarget, hpush⟩ :=
        pushFirst_of_find remote.serde duckdb hfind
      obtain ⟨_, index, _, _, hinfo, hbit, hnull⟩ := filterTarget_some htarget
      have hcolumn := List.mem_of_getElem? hinfo
      have hloaded := (loadCatalog_origin hload _ htable).columns _
        (RustBridgeTableInfo.column_mem hcolumn)
      have hplain : PlainColumn info.column := hloaded.plain (.inl hbit)
      have htype := bindData.table.duckdbType_eq hcolumn
      have hconstant := htyped pushed hmem info constant htarget
      -- on every row, agreeing with the pushed filter is being faithful for it
      have hrow : ∀ row ∈ answer none,
          (selects info.column.id (inputValueJson (convert duckdb constant)) row.item =
            pushed.keeps (scanBindings duckdb get bindData.table outer row.row) ↔
          RowFaithful remote.serde duckdb info constant row.item) := by
        intro row hanswered
        rw [keeps_of_target htarget]
        exact rowFaithful_iff row.decoded hplain htype hconstant hnull (hprints row hanswered)
      unfold filteredScan
      rw [hpush, scanRows_unpushed answer hunpushed,
        scanRows_pushed answer (equalityQuery_nonempty _ _ _ _)
          (hanswer pushed hmem info constant htarget)]
      simp only [all_eq_of_find? hfind]
      rw [filter_conjunct_iff]
      -- the rows that pass the other filters are the ones both sides speak of
      constructor
      · intro h pushed' info' constant' hfind' htarget' row hanswered hlive hrest
        rw [hfind] at hfind'
        cases hfind'
        rw [htarget] at htarget'
        cases htarget'
        exact (hrow row hanswered).mp
          (h row (List.mem_filter.mpr ⟨hanswered, by simp [hlive]⟩) hrest)
      · intro h row hlive hrest
        obtain ⟨hanswered, hdeleted⟩ := List.mem_filter.mp hlive
        exact (hrow row hanswered).mpr
          (h pushed info constant hfind htarget row hanswered (by simpa using hdeleted) hrest)

/-! ## A text column with cells of other kinds -/

/-- The text of a value without escapes or parts. -/
def mockPrint : Json → String
  | .null => "null"
  | .bool value => if value then "true" else "false"
  | .string value => "\"" ++ value ++ "\""
  | _ => ""

def mockQueryRemote : Remote (List HttpReply) :=
  mockRemote (mockSerde mockCatalogTexts mockPrint)

def nameBindData : RustBridgeScanBindData where
  tableEntry := 0
  table := borrowRustBridgeTableInfo
    (catalogTable tasksTable [textColumn "c_name" "Name", textColumn "c_copy" "Name_2"])

/-- A scan of the column `Name`. -/
def nameGet : LogicalGet := ⟨0, [.column 0]⟩

def nameIs (text : String) : Expression := .equal (.columnRef 0 0) (.constant (.varchar text))

def nameRow (id : String) (cell : Json) : TableRow mockQueryRemote.serde where
  item := .object [("id", .string id), ("values", .object [("c_name", cell)])]
  row := { bareRow id "" false with
    cells := [cellFromJson mockQueryRemote.serde ("c_name", cell)] }
  decoded := rfl

/-- A server that knows one query, of the column `Name` with a text. -/
def nameAnswer (rows : List (TableRow mockQueryRemote.serde)) (text : String) :
    Option String → List (TableRow mockQueryRemote.serde)
  | none => rows
  | some _ => rows.filter fun row => selects "c_name" (.string text) row.item

def noBindings : Bindings := fun _ _ => .null .varchar

/-- A cell that is the value `true`, not the text, is shown as `true`, but the
query `c_name:"true"` does not select it: its row is lost. -/
theorem pushed_query_loses_row :
    (∃ world', loadCatalog 4 mockQueryRemote mockConfig mockCatalogWorld =
      some (.ok mockCatalog, world')) ∧
    nameBindData.table.table ∈ mockCatalog.tables ∧
    pushdownCalls mockQueryRemote.serde mockDuckDb nameGet [[nameIs "true"]] (nameBindData, []) =
      ({ nameBindData with
          pushedQuery := "c_name:\"true\"", pushedQueryDescription := "Name = true" }, []) ∧
    nameAnswer [nameRow "r1" (.bool true)] "true" (some "c_name:\"true\"") =
      (nameAnswer [nameRow "r1" (.bool true)] "true" none).filter
        (fun row => selects "c_name" (.string "true") row.item) ∧
    filteredScan mockDuckDb nameGet noBindings (nameAnswer [nameRow "r1" (.bool true)] "true")
      (nameBindData, [nameIs "true"]) = [nameRow "r1" (.bool true)] ∧
    filteredScan mockDuckDb nameGet noBindings (nameAnswer [nameRow "r1" (.bool true)] "true")
      (pushdownCalls mockQueryRemote.serde mockDuckDb nameGet [[nameIs "true"]]
        (nameBindData, [])) = [] :=
  ⟨⟨_, rfl⟩, List.Mem.head _, rfl, rfl, rfl, rfl⟩

theorem nameIs_target {text : String} {info : RustBridgeColumnInfo} {constant : Value}
    (h : filterTarget nameGet nameBindData.table (nameIs text) = some (info, constant)) :
    info.column.id = "c_name" ∧ info.duckdbType = .varchar ∧ constant = .varchar text := by
  cases h
  exact ⟨rfl, rfl, rfl⟩

def nameRows : List (TableRow mockQueryRemote.serde) :=
  [nameRow "r1" (.string "Alpha"), nameRow "r2" (.string "Beta"), nameRow "r3" .null]

/-- The cells of these rows are texts and nulls. -/
theorem nameRows_cell {row : TableRow mockQueryRemote.serde} (h : row ∈ nameRows) :
    ∃ cell, (cell = .null ∨ ∃ text, cell = .string text) ∧
      rowValues row.item = [("c_name", cell)] := by
  simp only [nameRows, List.mem_cons, List.not_mem_nil, or_false] at h
  rcases h with rfl | rfl | rfl
  · exact ⟨_, .inr ⟨_, rfl⟩, rfl⟩
  · exact ⟨_, .inr ⟨_, rfl⟩, rfl⟩
  · exact ⟨_, .inl rfl, rfl⟩

/-- On texts and nulls the pushed query selects what the filter did. -/
theorem pushdown_exact_iff_mock :
    filteredScan mockDuckDb nameGet noBindings (nameAnswer nameRows "Alpha")
        (pushdownCalls mockQueryRemote.serde mockDuckDb nameGet [[nameIs "Alpha"]]
          (nameBindData, [])) =
      filteredScan mockDuckDb nameGet noBindings (nameAnswer nameRows "Alpha")
        (nameBindData, [nameIs "Alpha"]) := by
  refine (pushdown_exact_iff mockQueryRemote mockConfig 4 mockCatalogWorld _ mockCatalog rfl
    mockDuckDb nameGet nameBindData (List.Mem.head _) rfl noBindings [[nameIs "Alpha"]]
    (nameAnswer nameRows "Alpha") ?_ ?_ ?_).mpr ?_
  · intro filter hmem info constant htarget
    rw [List.mem_singleton.mp hmem] at htarget
    obtain ⟨_, htype, rfl⟩ := nameIs_target htarget
    exact htype.symm
  · intro filter hmem info constant htarget
    rw [List.mem_singleton.mp hmem] at htarget
    obtain ⟨hid, _, rfl⟩ := nameIs_target htarget
    rw [hid]
    rfl
  · intro row hmem member hmember
    obtain ⟨cell, hcell, hitem⟩ := nameRows_cell hmem
    rw [hitem] at hmember
    rw [List.mem_singleton.mp hmember]
    rcases hcell with rfl | ⟨text, rfl⟩ <;> trivial
  · intro pushed info constant hfind htarget row hmem _ _
    have hpushed := List.mem_of_find?_eq_some hfind
    rw [List.mem_singleton.mp hpushed] at htarget
    obtain ⟨hid, _, rfl⟩ := nameIs_target htarget
    obtain ⟨cell, hcell, hitem⟩ := nameRows_cell hmem
    have hshown : shownMember "c_name" row.item = some ("c_name", cell) := by
      rw [shownMember, hitem]
      exact List.find?_cons_of_pos (eqIgnoreAsciiCase_refl "c_name")
    unfold RowFaithful
    rw [hid, hshown]
    simp only [if_true]
    rcases hcell with rfl | ⟨text, rfl⟩ <;> trivial

end DuckdbCoda
