import DuckdbCoda.Lib.DecimalText
import DuckdbCoda.Theorems.ProcessRows

/-!
# What EXPLAIN shows of a scan

EXPLAIN shows the bind data as the calls of the planner have left it; the requests
are sent later, by a handle that was opened with it. In every run of a process
the two agree (`explained_requests`).
-/

namespace DuckdbCoda

open History

variable {σ : Type} {env : Environment σ} {serde : SerdeJson} {duckdb : DuckDb}

/-! ## The lines of EXPLAIN -/

theorem scanLabels_differ : scanQueryLabel ≠ scanSortLabel ∧ scanQueryLabel ≠ scanLimitLabel ∧
    scanSortLabel ≠ scanLimitLabel := by
  decide

section

variable (bindData : RustBridgeScanBindData) (text : String)

/-- A line is there for each of the three that was pushed. -/
theorem mem_rustBridgeScanToString {line : String × String} :
    line ∈ rustBridgeScanToString bindData ↔
      (bindData.pushedQuery ≠ "" ∧ line = (scanQueryLabel, bindData.pushedQueryDescription)) ∨
      (bindData.pushedSortBy ≠ "" ∧ line = (scanSortLabel, bindData.pushedSortBy)) ∨
      (0 < bindData.pushedLimit ∧ line = (scanLimitLabel, Nat.repr bindData.pushedLimit)) := by
  rw [rustBridgeScanToString, List.mem_append, List.mem_append, or_assoc]
  by_cases hquery : bindData.pushedQuery = "" <;> by_cases horder : bindData.pushedSortBy = "" <;>
    by_cases hrows : 0 < bindData.pushedLimit <;> simp [hquery, horder, hrows]

theorem queryLine_iff : (scanQueryLabel, text) ∈ rustBridgeScanToString bindData ↔
    bindData.pushedQuery ≠ "" ∧ text = bindData.pushedQueryDescription := by
  obtain ⟨hsort, hlimit, _⟩ := scanLabels_differ
  simp [mem_rustBridgeScanToString, hsort, hlimit]

theorem sortLine_iff : (scanSortLabel, text) ∈ rustBridgeScanToString bindData ↔
    bindData.pushedSortBy ≠ "" ∧ text = bindData.pushedSortBy := by
  obtain ⟨hquery, _, hlimit⟩ := scanLabels_differ
  simp [mem_rustBridgeScanToString, hquery.symm, hlimit]

theorem limitLine_iff : (scanLimitLabel, text) ∈ rustBridgeScanToString bindData ↔
    0 < bindData.pushedLimit ∧ text = Nat.repr bindData.pushedLimit := by
  obtain ⟨_, hquery, hsort⟩ := scanLabels_differ
  simp [mem_rustBridgeScanToString, hquery.symm, hsort.symm]

end

/-! ## The value that is shown -/

/-- The text shows the value that the query compares with. A number reads back as
the number; one that is not finite stands for the `null` the query has. -/
inductive ReadsAs : String → Json → Prop where
  | bool (value : Bool) : ReadsAs (if value then "true" else "false") (.bool value)
  | posInt (value : UInt64) : ReadsAs (Nat.repr value.toNat) (.number (.posInt value))
  | negInt (value : Int64) (negative : value < 0) :
      ReadsAs ("-" ++ Nat.repr value.toInt.natAbs) (.number (.negInt value negative))
  | float {text : String} {value : F64} (finite : value.isFinite = true) :
      F64.parse text = some value → ReadsAs text (.number (.float value finite))
  | notFinite {text : String} : text = "NaN" ∨ text = "inf" ∨ text = "-inf" → ReadsAs text .null
  | string (text : String) : ReadsAs text (.string text)

theorem readsAs_int (value : Int64) :
    ReadsAs (Int.repr value.toInt) (.number (.ofInt64 value)) := by
  unfold JsonNumber.ofInt64
  split
  case isTrue hnegative =>
    -- serde keeps negative integers apart, and prints their sign and magnitude
    have hlt : value.toInt < 0 := Int64.lt_iff_toInt_lt.mp hnegative
    have hrepr : Int.repr value.toInt = "-" ++ Nat.repr value.toInt.natAbs := by
      cases hvalue : value.toInt with
      | ofNat n =>
          rw [hvalue] at hlt
          exact absurd hlt (Int.not_lt.mpr (Int.natCast_nonneg n))
      | negSucc n => rfl
    rw [hrepr]
    exact .negInt value hnegative
  case isFalse hpositive =>
    have hle : (0 : Int64) ≤ value := Int64.not_lt.mp hpositive
    have hrepr : Int.repr value.toInt = Nat.repr value.toUInt64.toNat := by
      have hnonneg : 0 ≤ value.toInt := Int64.le_iff_toInt_le.mp hle
      rw [Int64.toNat_toUInt64_of_le hle, Int64.toNatClampNeg]
      cases hvalue : value.toInt with
      | ofNat n => rfl
      | negSucc n => omega
    rw [hrepr]
    exact .posInt value.toUInt64

theorem display_notFinite {value : F64} (h : ¬ value.isFinite = true) :
    value.display = "NaN" ∨ value.display = "inf" ∨ value.display = "-inf" := by
  cases hnan : value.isNaN with
  | true => exact .inl (F64.display_NaN hnan)
  | false =>
      have hinfinite : value.magnitude = F64.infinityWord := by
        simp only [F64.isFinite, F64.isNaN, decide_eq_true_eq, decide_eq_false_iff_not] at h hnan
        omega
      rw [F64.display, hnan, if_neg Bool.false_ne_true, if_pos hinfinite]
      cases value.negative with
      | true => exact .inr (.inr rfl)
      | false => exact .inr (.inl rfl)

theorem readsAs_double (value : F64) : ReadsAs value.display (jsonDouble value) := by
  unfold jsonDouble
  split
  case isTrue hfinite => exact .float hfinite (F64.parse_display (F64.not_isNaN_of_isFinite hfinite))
  case isFalse hother => exact .notFinite (display_notFinite hother)

/-- **The text of a value shows it.** -/
theorem inputValueText_reads {value : RustExtInputValue} (h : value ≠ .null) :
    ReadsAs (inputValueText value) (inputValueJson value) := by
  cases value with
  | null => exact absurd rfl h
  | bool value => exact .bool value
  | int value => exact readsAs_int value
  | uint value => exact .posInt value
  | double value => exact readsAs_double value
  | string value => exact .string value

/-! ## The description of the query -/

/-- The description says in words what the query says to the server. -/
def Described (serde : SerdeJson) (duckdb : DuckDb) (bindData : RustBridgeScanBindData) : Prop :=
  bindData.pushedQuery = "" ∨ ∃ info ∈ bindData.table.columns, ∃ constant : Value,
    constant.isNull = false ∧
    bindData.pushedQuery = equalityQuery serde duckdb info constant ∧
    bindData.pushedQueryDescription =
      info.column.name ++ " = " ++ inputValueText (convert duckdb constant)

/-- A filter that is pushed is pushed with its description. -/
theorem described_of_extract {get : LogicalGet} {bindData : RustBridgeScanBindData}
    {filter : Expression} {query description : String}
    (h : tryExtractRustBridgeEqualityFilter serde duckdb get bindData.table filter =
      some (query, description)) :
    Described serde duckdb
      { bindData with pushedQuery := query, pushedQueryDescription := description } := by
  obtain ⟨⟨info, constant⟩, htarget, hbuilt⟩ := Option.bind_eq_some_iff.mp h
  obtain ⟨_, _, _, _, hinfo, _, hnull⟩ := filterTarget_some htarget
  simp only [buildEqualityQuery, convert_ne_null duckdb hnull, if_false] at hbuilt
  cases hbuilt
  exact .inr ⟨info, List.mem_of_getElem? hinfo, constant, hnull, rfl, rfl⟩

theorem described_apply {bindData : RustBridgeScanBindData}
    (h : Described serde duckdb bindData) (call : BindDataCall) :
    Described serde duckdb (call.apply serde duckdb bindData) := by
  cases call with
  | pushdownComplexFilter get filters =>
      show Described serde duckdb
        (rustBridgeScanPushdownComplexFilter serde duckdb get bindData filters).1
      unfold rustBridgeScanPushdownComplexFilter
      split
      case isTrue hpushed => exact h
      case isFalse hempty =>
        -- the first filter that can be sent sets the query and its description at once
        cases hextract : extractFirst
            (tryExtractRustBridgeEqualityFilter serde duckdb get bindData.table) filters with
        | none => exact h
        | some found =>
            obtain ⟨⟨query, description⟩, remaining⟩ := found
            rw [extractFirst_eq] at hextract
            obtain ⟨filter, _, hfilter⟩ := Option.bind_eq_some_iff.mp hextract
            obtain ⟨extracted, hextracted, heq⟩ := Option.map_eq_some_iff.mp hfilter
            cases heq
            exact described_of_extract hextracted
  | setScanOrder orderOptions =>
      rw [BindDataCall.apply, setScanOrder_eq]
      split <;> exact h
  | copy => exact h

theorem described_calls (calls : List BindDataCall) :
    ∀ bindData : RustBridgeScanBindData, Described serde duckdb bindData →
      Described serde duckdb (calls.foldl (BindDataCall.apply serde duckdb) bindData) := by
  induction calls with
  | nil => exact fun _ h => h
  | cons call rest ih => exact fun bindData h => ih _ (described_apply h call)

/-! ## EXPLAIN and the listing -/

/-- The lines say what the request carries: the query in words, the column it
sorts by, and the limit, of which a page has at most 500 rows. -/
structure Explained (serde : SerdeJson) (duckdb : DuckDb) (table : RustBridgeTableInfo)
    (bindData : RustBridgeScanBindData) (input : ListRowsInput) : Prop where
  query : (input.query = none ∧
      ∀ text, (scanQueryLabel, text) ∉ rustBridgeScanToString bindData) ∨
    ∃ info ∈ table.columns, ∃ constant : Value, constant.isNull = false ∧
      input.query = some (equalityQuery serde duckdb info constant) ∧
      (∀ text, (scanQueryLabel, text) ∈ rustBridgeScanToString bindData ↔
        text = info.column.name ++ " = " ++ inputValueText (convert duckdb constant)) ∧
      ReadsAs (inputValueText (convert duckdb constant)) (inputValueJson (convert duckdb constant))
  sortBy : ∀ text,
    (scanSortLabel, text) ∈ rustBridgeScanToString bindData ↔ input.sortBy = some text
  limit : input.limit =
    some (if bindData.pushedLimit = 0 then 500 else min bindData.pushedLimit 500)
  limitLine : ∀ text, (scanLimitLabel, text) ∈ rustBridgeScanToString bindData ↔
    0 < bindData.pushedLimit ∧ text = Nat.repr bindData.pushedLimit

/-- The page size of the handle. -/
theorem openedScan_limit (bindData : RustBridgeScanBindData) (config : RustExtClientConfig) :
    (bindData.openedScan config).limit =
      if bindData.pushedLimit = 0 then 500 else min bindData.pushedLimit 500 := by
  show (if bindData.request.limit = 0 then 500 else min bindData.request.limit 500) = _
  have hlimit : bindData.request.limit =
    if bindData.pushedLimit = 0 then 500 else min bindData.pushedLimit 500 := rfl
  rw [hlimit]
  by_cases hrows : bindData.pushedLimit = 0
  · rw [if_pos hrows]
    rfl
  · rw [if_neg hrows, if_neg (by omega)]
    omega

theorem explained_openedScan {bindData : RustBridgeScanBindData}
    (h : Described serde duckdb bindData) (config : RustExtClientConfig) :
    Explained serde duckdb bindData.table bindData (bindData.openedScan config).listing where
  query := by
    show (nonEmptyString bindData.pushedQuery = none ∧ _) ∨ ∃ info ∈ bindData.table.columns,
      ∃ constant : Value, constant.isNull = false ∧ nonEmptyString bindData.pushedQuery = _ ∧ _
    by_cases hquery : bindData.pushedQuery = ""
    · refine .inl ⟨nonEmptyString_eq_none.mpr hquery, ?_⟩
      exact fun text hmem => ((queryLine_iff bindData text).mp hmem).1 hquery
    · obtain ⟨info, hinfo, constant, hnull, hpushed, hdescription⟩ := h.resolve_left hquery
      refine .inr ⟨info, hinfo, constant, hnull, ?_, ?_,
        inputValueText_reads (convert_ne_null duckdb hnull)⟩
      · rw [← hpushed]
        exact nonEmptyString_eq_some.mpr ⟨rfl, hquery⟩
      · intro text
        rw [queryLine_iff, hdescription]
        exact and_iff_right hquery
  sortBy text := by
    show _ ↔ nonEmptyString bindData.pushedSortBy = some text
    rw [sortLine_iff, nonEmptyString_eq_some]
    constructor
    · rintro ⟨hne, rfl⟩
      exact ⟨rfl, hne⟩
    · rintro ⟨rfl, hne⟩
      exact ⟨hne, rfl⟩
  limit := congrArg some (openedScan_limit bindData config)
  limitLine := limitLine_iff bindData

/-- Only what all requests of a listing have in common is explained. -/
theorem Explained.of_listing {table : RustBridgeTableInfo} {bindData : RustBridgeScanBindData}
    {input asked : ListRowsInput} (h : Explained serde duckdb table bindData asked)
    (hlisting : input.listing = asked) : Explained serde duckdb table bindData input := by
  subst hlisting
  exact ⟨h.query, h.sortBy, h.limit, h.limitLine⟩

/-! ## Open scans -/

/-- The terms of a handle make its listing. -/
theorem listing_of_terms {handle handle' : ScanHandle} (h : handle.terms = handle'.terms) :
    handle.listing = handle'.listing := by
  simp only [ScanHandle.terms, Prod.mk.injEq] at h
  obtain ⟨hconfig, htable, hquery, hsort, hlimit⟩ := h
  simp only [ScanHandle.listing, hconfig, htable, hquery, hsort, hlimit]

/-- **EXPLAIN tells what is sent.** Whenever in a run a scan is called, it was opened
by an event of the run, after any number of calls of the planner, and what
EXPLAIN shows of the bind data these left is what every request of the call
carries. A line for the query is there exactly if there is one; the query compares
the column it names with the value it shows, where a number that is not finite is
compared as null. The column to sort by is shown exactly if there is one, and the
limit exactly if one was pushed: it is asked for, up to 500 rows a page. -/
theorem explained_requests (fuel : Nat) (env : Environment σ) (server : σ)
    (events : List (ProcessEvent σ)) (process process' : Process σ)
    (history : List (ProcessEvent σ × ProcessAnswer)) (name : Nat) (answer : ProcessAnswer)
    (hrun : (Process.start server).run fuel env events = some (process, history))
    (hstep : process.step fuel env (.scan name) = some (process', answer)) :
    ∃ scan catalog tableName context planned input entry,
      process.scans.get? name = some scan ∧
      OpenedBy history name scan.database tableName context planned input ∧
      process.databases.get? scan.database = some catalog ∧
      catalog.mainSchema.lookupEntry tableName = some entry ∧
      ∃ sent, process'.world.log = process.world.log ++ sent ∧ ∀ exchange ∈ sent, ∃ request,
        exchange.operation = .listRows request ∧
        Explained env.remote.serde env.duckdb entry.tableInfo
          (boundScan env.remote.serde env.duckdb (fun _ => entry) 0 planned) request := by
  obtain ⟨scan, hscan, hstep⟩ := Option.bind_eq_some_iff.mp hstep
  obtain ⟨call, hcall, heq⟩ := Option.map_eq_some_iff.mp hstep
  cases heq
  obtain ⟨catalog, hcatalog, tableName, context, planned, input, entry, hopened⟩ :=
    (wellBound_run hrun).scans.objects name scan hscan
  have hlisted := wellListed_run hrun
  obtain ⟨_, _, ⟨sent, hlog, hsent⟩, _⟩ :=
    rustBridgeScan_listing (hlisted.scans name scan hscan) hlisted.log hcall
  refine ⟨scan, catalog, tableName, context, planned, input, entry, hscan, hopened.opened, hcatalog,
    hopened.found, sent, hlog, ?_⟩
  intro exchange hexchange
  obtain ⟨request, hoperation, hlisting⟩ := hsent exchange hexchange
  have hdescribed : Described env.remote.serde env.duckdb (bindDataOf env entry planned) :=
    described_calls planned _ (.inl rfl)
  have hexplained := explained_openedScan hdescribed catalog.client
  rw [bindDataOf_table] at hexplained
  exact ⟨request, hoperation,
    hexplained.of_listing (hlisting.trans (listing_of_terms hopened.terms))⟩

/-- The requests have a query, so that the second disjunct is the one that holds. -/
theorem explained_requests_mock :
    ∃ process history process' answer, (Process.start mockRowServer).run 8 mockRowEnvironment
        mockPlanned = some (process, history) ∧
      process.step 8 mockRowEnvironment (.scan 0) = some (process', answer) ∧
      (process'.world.log.drop 3).map (·.operation) = [.listRows mockListing,
        .listRows { mockListing with pageToken := some "p2" },
        .listRows { mockListing with syncToken := some "s1" }] ∧
      ∃ scan catalog tableName context planned input entry,
        process.scans.get? 0 = some scan ∧
        OpenedBy history 0 scan.database tableName context planned input ∧
        process.databases.get? scan.database = some catalog ∧
        catalog.mainSchema.lookupEntry tableName = some entry ∧
        ∃ sent, process'.world.log = process.world.log ++ sent ∧ ∀ exchange ∈ sent, ∃ request,
          exchange.operation = .listRows request ∧
          Explained mockRowEnvironment.remote.serde mockDuckDb entry.tableInfo
            (boundScan mockRowEnvironment.remote.serde mockDuckDb (fun _ => entry) 0 planned)
            request :=
  ⟨_, _, _, _, rfl, rfl, rfl, explained_requests 8 mockRowEnvironment mockRowServer mockPlanned
    _ _ _ 0 _ rfl rfl⟩

end DuckdbCoda
