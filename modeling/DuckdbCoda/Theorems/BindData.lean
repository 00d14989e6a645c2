import DuckdbCoda.Logic.Pushdowns
import DuckdbCoda.Model.BindData
import DuckdbCoda.Model.MockCoda
import DuckdbCoda.Theorems.EqualityPushdown

/-!
# Equal bind data and equal scans

`Copy` copies what the hooks pushed, but `Equals` looks at the table alone.
The calls leave the first filter and the last order that can be pushed
(`boundScan_eq`), and a scan is what they leave (`sameScan_iff`). So `Equals`
vouches for the scan exactly when the two sequences of calls push the same
(`equals_sameScan_iff`).
-/

namespace DuckdbCoda

open RustBridgeScanBindData

variable {serde : SerdeJson} {duckdb : DuckDb}

/-! ## The same scan -/

/-- All chunks of the scan a bind data is initialised to. -/
def drainedScan {σ : Type} (fuel : Nat) (remote : Remote σ) (duckdb : DuckDb) (vectorSize : Nat)
    (context : ClientContext) (config : RustExtClientConfig) (bindData : RustBridgeScanBindData)
    (input : TableFunctionInitInput) (world : World σ) :
    Except Exception
      (Option (Except Exception (List (List (List Value))) ×
        RustBridgeScanGlobalState (ScanHandle × World σ))) :=
  (rustBridgeScanInitGlobal context config bindData input).map fun state =>
    drain fuel (nextScanBatch remote) duckdb vectorSize { state with scan := (state.scan, world) }

/-- Two bind data open the same scan: in every connection and projection the
state is the same, so that each server gives the same rows. -/
structure SameScan (left right : RustBridgeScanBindData) : Prop where
  opened : ∀ context config input,
    rustBridgeScanInitGlobal context config left input =
      rustBridgeScanInitGlobal context config right input
  rows : ∀ (σ : Type) fuel (remote : Remote σ) duckdb vectorSize context config input world,
    drainedScan fuel remote duckdb vectorSize context config left input world =
      drainedScan fuel remote duckdb vectorSize context config right input world

/-- A scan is its table with the query, the order and the limit pushed into
it. -/
theorem sameScan_iff {left right : RustBridgeScanBindData} :
    SameScan left right ↔
      left.table = right.table ∧ left.pushedQuery = right.pushedQuery ∧
        left.pushedSortBy = right.pushedSortBy ∧ left.pushedLimit = right.pushedLimit := by
  constructor
  · intro h
    -- outside a transaction the scan is opened, and its state shows all four
    have hopened := h.opened ⟨true, ""⟩ mockConfig ⟨[], []⟩
    simp only [rustBridgeScanInitGlobal, Bool.not_true, Bool.and_false, Bool.false_eq_true,
      if_false, Except.ok.injEq, RustBridgeScanGlobalState.new, ScanHandle.new, request,
      RustBridgeScanGlobalState.mk.injEq, ScanHandle.mk.injEq, true_and, and_true] at hopened
    obtain ⟨htable, ⟨_, hquery, horder, _⟩, hlimit⟩ := hopened
    exact ⟨htable, hquery, horder, hlimit⟩
  · rintro ⟨htable, hquery, horder, hlimit⟩
    have hopened : ∀ context config input,
        rustBridgeScanInitGlobal context config left input =
          rustBridgeScanInitGlobal context config right input := by
      intro context config input
      simp only [rustBridgeScanInitGlobal, RustBridgeScanGlobalState.new, request, htable,
        hquery, horder, hlimit]
    refine ⟨hopened, ?_⟩
    intro σ fuel remote duckdb vectorSize context config input world
    rw [drainedScan, hopened, drainedScan]

theorem copy_eq (bindData : RustBridgeScanBindData) : bindData.copy = bindData := rfl

theorem equals_self (idPointer : RustBridgeTableInfo → Nat) (bindData : RustBridgeScanBindData) :
    bindData.equals idPointer bindData = true := by
  simp [equals]

/-! ## What the calls push -/

/-- The column and the constant of the filter a call can push. -/
def BindDataCall.filterTarget (table : RustBridgeTableInfo) :
    BindDataCall → Option (RustBridgeColumnInfo × Value)
  | .pushdownComplexFilter get filters => filters.findSome? (DuckdbCoda.filterTarget get table)
  | .setScanOrder _ => none
  | .copy => none

/-- The column to sort by and the limit a call can push: there is a limit, the
order is not descending, and the column can be sorted by. -/
def BindDataCall.orderTarget (table : RustBridgeTableInfo) : BindDataCall → Option (String × Nat)
  | .pushdownComplexFilter _ _ => none
  | .setScanOrder orderOptions => do
      let options ← orderOptions
      let rowLimit ← options.rowLimit
      let info ← table.columns[options.columnIndex]?
      let sortBy ← scanSortBy info.column
      if options.orderType = .descending then none else some (sortBy, rowLimit)
  | .copy => none

/-- The query of the first filter the calls can push. -/
def firstQuery (serde : SerdeJson) (duckdb : DuckDb) (table : RustBridgeTableInfo)
    (calls : List BindDataCall) : Option String :=
  (calls.findSome? (BindDataCall.filterTarget table)).map fun (info, constant) =>
    equalityQuery serde duckdb info constant

/-- The last order the calls can push. -/
def lastOrder (table : RustBridgeTableInfo) (calls : List BindDataCall) :
    Option (String × Nat) :=
  calls.reverse.findSome? (BindDataCall.orderTarget table)

/-- `SetScanOrder` pushes the order of its options, when they have one it can
push. -/
theorem setScanOrder_eq (orderOptions : Option RowGroupOrderOptions)
    (bindData : RustBridgeScanBindData) :
    rustBridgeScanSetScanOrder orderOptions bindData =
      match (BindDataCall.setScanOrder orderOptions).orderTarget bindData.table with
      | none => bindData
      | some (sortBy, rowLimit) =>
          { bindData with pushedSortBy := sortBy, pushedLimit := rowLimit } := by
  cases orderOptions with
  | none => rfl
  | some options =>
      simp only [rustBridgeScanSetScanOrder, BindDataCall.orderTarget, Option.bind_eq_bind,
        Option.bind_some]
      cases options.rowLimit with
      | none => rfl
      | some rowLimit =>
          cases bindData.table.columns[options.columnIndex]? with
          | none => simp
          | some info =>
              simp only [Option.bind_some]
              cases scanSortBy info.column with
              | none => simp
              | some sortBy => by_cases hdesc : options.orderType = .descending <;> simp [hdesc]

/-! ## One call -/

/-- What a call does to the bind data, but for the description: a query is
pushed once, an order is pushed over the one before. -/
structure Pushes (serde : SerdeJson) (duckdb : DuckDb) (calls : List BindDataCall)
    (before after : RustBridgeScanBindData) : Prop where
  tableEntry : after.tableEntry = before.tableEntry
  table : after.table = before.table
  query : after.pushedQuery =
    if before.pushedQuery.isEmpty then
      (firstQuery serde duckdb before.table calls).getD before.pushedQuery
    else before.pushedQuery
  order : (after.pushedSortBy, after.pushedLimit) =
    (lastOrder before.table calls).getD (before.pushedSortBy, before.pushedLimit)

theorem pushes_apply (bindData : RustBridgeScanBindData) (call : BindDataCall) :
    Pushes serde duckdb [call] bindData (call.apply serde duckdb bindData) := by
  cases call with
  | pushdownComplexFilter get filters =>
      by_cases hempty : bindData.pushedQuery.isEmpty
      · rw [BindDataCall.apply, pushdownComplexFilter_of_empty hempty]
        have hquery := pushFirst_pushedQuery serde duckdb get bindData filters
        obtain ⟨query, description, hframe⟩ :=
          pushFirst_frame serde duckdb get bindData filters
        rw [hframe] at hquery ⊢
        refine ⟨rfl, rfl, ?_, rfl⟩
        rw [if_pos hempty, hquery]
        simp [firstQuery, BindDataCall.filterTarget]
      · rw [BindDataCall.apply, pushdownComplexFilter_of_pushed (by simpa using hempty)]
        exact ⟨rfl, rfl, by rw [if_neg hempty], rfl⟩
  | setScanOrder orderOptions =>
      rw [BindDataCall.apply, setScanOrder_eq]
      cases horder : (BindDataCall.setScanOrder orderOptions).orderTarget bindData.table with
      | none => exact ⟨rfl, rfl, by simp [firstQuery, BindDataCall.filterTarget], by
          simp [lastOrder, horder]⟩
      | some order => exact ⟨rfl, rfl, by simp [firstQuery, BindDataCall.filterTarget], by
          simp [lastOrder, horder]⟩
  | copy => exact ⟨rfl, rfl, by simp [firstQuery, BindDataCall.filterTarget, BindDataCall.apply,
      copy_eq], rfl⟩

/-! ## Many calls -/

theorem firstQuery_append (table : RustBridgeTableInfo) (calls rest : List BindDataCall) :
    firstQuery serde duckdb table (calls ++ rest) =
      (firstQuery serde duckdb table calls).or (firstQuery serde duckdb table rest) := by
  rw [firstQuery, List.findSome?_append]
  cases hcalls : calls.findSome? (BindDataCall.filterTarget table) <;> simp [firstQuery, hcalls]

theorem lastOrder_append (table : RustBridgeTableInfo) (calls rest : List BindDataCall) :
    lastOrder table (calls ++ rest) = (lastOrder table rest).or (lastOrder table calls) := by
  rw [lastOrder, List.reverse_append, List.findSome?_append]
  rfl

/-- A query the calls push is not empty. -/
theorem firstQuery_nonempty {table : RustBridgeTableInfo} {calls : List BindDataCall}
    {query : String} (h : firstQuery serde duckdb table calls = some query) :
    query.isEmpty = false := by
  obtain ⟨⟨info, constant⟩, _, heq⟩ := Option.map_eq_some_iff.mp h
  rw [← heq]
  exact equalityQuery_nonempty serde duckdb info constant

theorem getD_empty_inj {left right : Option String}
    (hleft : ∀ query, left = some query → query.isEmpty = false)
    (hright : ∀ query, right = some query → query.isEmpty = false) :
    left.getD "" = right.getD "" ↔ left = right := by
  refine ⟨?_, fun h => by rw [h]⟩
  intro h
  cases left with
  | none =>
      cases right with
      | none => rfl
      | some query =>
          have hempty : "" = query := h
          exact absurd (hright query rfl) (by simp [← hempty])
  | some query =>
      cases right with
      | none =>
          have hempty : query = "" := h
          exact absurd (hleft query rfl) (by simp [hempty])
      | some other => exact congrArg some h

/-- Pushing goes on from where the calls before left it. -/
theorem Pushes.trans {calls rest : List BindDataCall} {first second third : RustBridgeScanBindData}
    (h : Pushes serde duckdb calls first second) (hrest : Pushes serde duckdb rest second third) :
    Pushes serde duckdb (calls ++ rest) first third where
  tableEntry := hrest.tableEntry.trans h.tableEntry
  table := hrest.table.trans h.table
  query := by
    rw [hrest.query, h.query, h.table, firstQuery_append]
    by_cases hempty : first.pushedQuery.isEmpty
    · cases hcalls : firstQuery serde duckdb first.table calls with
      | none => simp [hempty]
      | some query => simp [hempty, firstQuery_nonempty hcalls]
    · simp [hempty]
  order := by
    rw [hrest.order, h.order, h.table, lastOrder_append]
    cases lastOrder first.table rest <;> rfl

/-- **The calls leave the first query and the last order they can push**. -/
theorem pushes_calls (calls : List BindDataCall) :
    ∀ bindData : RustBridgeScanBindData, Pushes serde duckdb calls bindData
      (calls.foldl (BindDataCall.apply serde duckdb) bindData) := by
  induction calls with
  | nil => exact fun bindData => ⟨rfl, rfl, by simp [firstQuery], rfl⟩
  | cons call rest ih => exact fun bindData => (pushes_apply bindData call).trans (ih _)

/-- The bind data of an entry after the calls, but for the description. -/
theorem boundScan_pushed (serde : SerdeJson) (duckdb : DuckDb)
    (entries : Nat → RustBridgeTableCatalogEntry) (address : Nat)
    (calls : List BindDataCall) :
    let bindData := boundScan serde duckdb entries address calls
    bindData.tableEntry = address ∧ bindData.table = (entries address).tableInfo ∧
      bindData.pushedQuery =
        (firstQuery serde duckdb (entries address).tableInfo calls).getD "" ∧
      (bindData.pushedSortBy, bindData.pushedLimit) =
        (lastOrder (entries address).tableInfo calls).getD ("", 0) := by
  have h : Pushes serde duckdb calls (getScanFunction entries address)
    (boundScan serde duckdb entries address calls) := pushes_calls calls _
  exact ⟨h.tableEntry, h.table, h.query, h.order⟩

/-! ## `Equals` -/

/-- `Equals` of two bind data of the catalog compares their entries. -/
theorem boundScan_equals_iff (entries : Nat → RustBridgeTableCatalogEntry)
    (idPointer : RustBridgeTableInfo → Nat) (leftAddress rightAddress : Nat)
    (leftCalls rightCalls : List BindDataCall) :
    (boundScan serde duckdb entries leftAddress leftCalls).equals idPointer
        (boundScan serde duckdb entries rightAddress rightCalls) = true ↔
      leftAddress = rightAddress := by
  obtain ⟨hleft, hleftTable, _⟩ :=
    boundScan_pushed serde duckdb entries leftAddress leftCalls
  obtain ⟨hright, hrightTable, _⟩ :=
    boundScan_pushed serde duckdb entries rightAddress rightCalls
  simp only [equals, hleft, hleftTable, hright, hrightTable, Bool.and_eq_true, decide_eq_true_eq]
  constructor
  · exact fun h => h.1.1
  · rintro rfl
    exact ⟨⟨rfl, rfl⟩, rfl⟩

/-- Two bind data of one entry open the same scan if and only if their calls
push the same. -/
theorem boundScan_sameScan_iff (entries : Nat → RustBridgeTableCatalogEntry) (address : Nat)
    (leftCalls rightCalls : List BindDataCall) :
    SameScan (boundScan serde duckdb entries address leftCalls)
        (boundScan serde duckdb entries address rightCalls) ↔
      firstQuery serde duckdb (entries address).tableInfo leftCalls =
          firstQuery serde duckdb (entries address).tableInfo rightCalls ∧
        (lastOrder (entries address).tableInfo leftCalls).getD ("", 0) =
          (lastOrder (entries address).tableInfo rightCalls).getD ("", 0) := by
  obtain ⟨_, hleftTable, hleftQuery, hleftOrder⟩ :=
    boundScan_pushed serde duckdb entries address leftCalls
  obtain ⟨_, hrightTable, hrightQuery, hrightOrder⟩ :=
    boundScan_pushed serde duckdb entries address rightCalls
  rw [sameScan_iff, hleftTable, hrightTable, hleftQuery, hrightQuery, ← hleftOrder, ← hrightOrder,
    Prod.mk.injEq, getD_empty_inj]
  · exact and_iff_right rfl
  · exact fun query => firstQuery_nonempty
  · exact fun query => firstQuery_nonempty

/-- **Equal bind data open the same scan exactly if their calls push the same
query, order and limit**: `Equals` compares none of them. `Copy` gives a value
that is equal and opens the identical scan. -/
theorem equals_sameScan_iff (serde : SerdeJson) (duckdb : DuckDb)
    (entries : Nat → RustBridgeTableCatalogEntry) (idPointer : RustBridgeTableInfo → Nat)
    (leftAddress rightAddress : Nat) (leftCalls rightCalls : List BindDataCall) :
    (((boundScan serde duckdb entries leftAddress leftCalls).equals idPointer
            (boundScan serde duckdb entries rightAddress rightCalls) = true →
          SameScan (boundScan serde duckdb entries leftAddress leftCalls)
            (boundScan serde duckdb entries rightAddress rightCalls)) ∧
        (boundScan serde duckdb entries leftAddress leftCalls).copy.equals idPointer
            (boundScan serde duckdb entries leftAddress leftCalls) = true ∧
        SameScan (boundScan serde duckdb entries leftAddress leftCalls).copy
          (boundScan serde duckdb entries leftAddress leftCalls)) ↔
      (leftAddress = rightAddress →
        firstQuery serde duckdb (entries leftAddress).tableInfo leftCalls =
            firstQuery serde duckdb (entries rightAddress).tableInfo rightCalls ∧
          (lastOrder (entries leftAddress).tableInfo leftCalls).getD ("", 0) =
            (lastOrder (entries rightAddress).tableInfo rightCalls).getD ("", 0)) := by
  have hcopy : SameScan (boundScan serde duckdb entries leftAddress leftCalls).copy
      (boundScan serde duckdb entries leftAddress leftCalls) :=
    sameScan_iff.mpr ⟨rfl, rfl, rfl, rfl⟩
  rw [boundScan_equals_iff]
  constructor
  · rintro ⟨hsame, _⟩ rfl
    exact (boundScan_sameScan_iff entries leftAddress leftCalls rightCalls).mp (hsame rfl)
  · intro hsame
    refine ⟨?_, equals_self idPointer _, hcopy⟩
    rintro rfl
    exact (boundScan_sameScan_iff entries leftAddress leftCalls rightCalls).mpr (hsame rfl)

/-- The bind data of the table `Tasks` after some calls. -/
def tasksScan (calls : List BindDataCall) : RustBridgeScanBindData :=
  boundScan mockQueryRemote.serde mockDuckDb
    (fun _ => tableCatalogEntry (catalogTable tasksTable [textColumn "c_name" "Name"])) 1 calls

/-- The scan of `Tasks` and the scan of its rows named `Alpha` are equal bind
data, but the one asks for all rows and the other for those of a query. -/
theorem filtered_equals_unfiltered :
    (tasksScan []).equals (fun _ => 2)
        (tasksScan [.pushdownComplexFilter nameGet [nameIs "Alpha"]]) = true ∧
      ¬ SameScan (tasksScan []) (tasksScan [.pushdownComplexFilter nameGet [nameIs "Alpha"]]) := by
  refine ⟨rfl, ?_⟩
  intro h
  obtain ⟨_, hquery, _⟩ := sameScan_iff.mp h
  have hpushed : ("" : String) = "c_name:\"Alpha\"" := hquery
  exact absurd hpushed (by decide)

end DuckdbCoda
