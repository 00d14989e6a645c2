import DuckdbCoda.Logic.Decoding
import DuckdbCoda.Model.Pushdown

/-!
# What the calls of the pushdown come to

However many calls hand over the filters, together they push the first filter
of all that can be pushed and leave the others (`pushdownCalls_eq`). What the
pushed filter compares is the SQL value of its column with its constant
(`keeps_of_target`).
-/

namespace DuckdbCoda

variable {serde : SerdeJson} {duckdb : DuckDb} {get : LogicalGet} {table : RustBridgeTableInfo}

/-! ## The filter that is pushed -/

/-- The filters that can be pushed. -/
def pushable (get : LogicalGet) (table : RustBridgeTableInfo) (filter : Expression) : Bool :=
  (filterTarget get table filter).isSome

/-- The query of an equality of a column with a constant. -/
def equalityQuery (serde : SerdeJson) (duckdb : DuckDb) (info : RustBridgeColumnInfo)
    (constant : Value) : String :=
  info.column.id ++ ":" ++ serde.toString (inputValueJson (convert duckdb constant))

theorem equalityQuery_nonempty (serde : SerdeJson) (duckdb : DuckDb) (info : RustBridgeColumnInfo)
    (constant : Value) : (equalityQuery serde duckdb info constant).isEmpty = false := by
  rw [String.isEmpty_eq_false_iff]
  intro h
  have hlength := congrArg String.length h
  simp only [equalityQuery, String.length_append, String.length_empty] at hlength
  have hcolon : ":".length = 1 := by decide
  omega

theorem sqlEqual_comm (left right : Value) : sqlEqual left right = sqlEqual right left := by
  cases left <;> cases right <;> simp [sqlEqual, F64.sameDouble_comm, eq_comm]

/-- An equality compares its column with its constant, on whichever sides. -/
theorem comparisonOperands_keeps {filter : Expression} {tableIndex columnIndex : Nat}
    {constant : Value} (bindings : Bindings)
    (h : comparisonOperands filter = some ((tableIndex, columnIndex), constant)) :
    filter.keeps bindings = sqlEqual (bindings tableIndex columnIndex) constant := by
  cases filter with
  | other keeps => cases h
  | equal left right =>
      cases left with
      | columnRef tableIndex' columnIndex' =>
          cases right with
          | constant value =>
              cases h
              rfl
          | _ => cases h
      | constant value =>
          cases right with
          | columnRef tableIndex' columnIndex' =>
              cases h
              exact sqlEqual_comm constant _
          | _ => cases h
      | other eval => cases h

/-- What a filter that can be pushed is about. -/
theorem filterTarget_some {filter : Expression} {info : RustBridgeColumnInfo} {constant : Value}
    (h : filterTarget get table filter = some (info, constant)) :
    ∃ columnIndex index,
      comparisonOperands filter = some ((get.tableIndex, columnIndex), constant) ∧
      get.columnIds[columnIndex]? = some (.column index) ∧ table.columns[index]? = some info ∧
      hasBit info.column.capabilities columnFilterEquality = true ∧ constant.isNull = false := by
  unfold filterTarget at h
  cases hoperands : comparisonOperands filter with
  | none =>
      rw [hoperands] at h
      cases h
  | some operands =>
      -- one check after the other, as the source makes them
      obtain ⟨⟨tableIndex, columnIndex⟩, constant'⟩ := operands
      rw [hoperands] at h
      simp only at h
      split at h
      · cases h
      · rename_i htable
        split at h
        · rename_i index hcolumn
          split at h
          · cases h
          · rename_i info' hinfo
            split at h
            · cases h
            · rename_i hbit
              split at h
              · cases h
              · rename_i hnull
                cases h
                have htable : tableIndex = get.tableIndex := by simpa using htable
                subst htable
                exact ⟨columnIndex, index, rfl, hcolumn, hinfo, by simpa using hbit,
                  by simpa using hnull⟩
        · cases h

/-- **What the pushed filter keeps**: the rows whose SQL value in the column
equals the constant. -/
theorem keeps_of_target {filter : Expression} {info : RustBridgeColumnInfo} {constant : Value}
    (h : filterTarget get table filter = some (info, constant)) (outer : Bindings)
    (row : RustExtRow) :
    filter.keeps (scanBindings duckdb get table outer row) =
      sqlEqual (info.read duckdb row) constant := by
  obtain ⟨columnIndex, index, hoperands, hcolumn, hinfo, _⟩ := filterTarget_some h
  have hvalue : scanBindings duckdb get table outer row get.tableIndex columnIndex =
      info.read duckdb row := by
    simp only [scanBindings, hcolumn, if_true, outputValue, hinfo]
  rw [comparisonOperands_keeps _ hoperands, hvalue]

theorem convert_ne_null (duckdb : DuckDb) {constant : Value} (h : constant.isNull = false) :
    convert duckdb constant ≠ .null := by
  cases constant with
  | null type => cases h
  | _ => exact fun hnull => by cases hnull

/-- Every filter that can be pushed gets its query. -/
theorem tryExtract_of_target (serde : SerdeJson) (duckdb : DuckDb) {filter : Expression}
    {info : RustBridgeColumnInfo} {constant : Value}
    (h : filterTarget get table filter = some (info, constant)) :
    ∃ description, tryExtractRustBridgeEqualityFilter serde duckdb get table filter =
      some (equalityQuery serde duckdb info constant, description) := by
  obtain ⟨_, _, _, _, _, _, hnull⟩ := filterTarget_some h
  refine ⟨info.column.name ++ " = " ++ inputValueText (convert duckdb constant), ?_⟩
  simp only [tryExtractRustBridgeEqualityFilter, h, Option.bind_some, buildEqualityQuery,
    convert_ne_null duckdb hnull, if_false]
  rfl

theorem tryExtract_isSome (serde : SerdeJson) (duckdb : DuckDb) (get : LogicalGet)
    (table : RustBridgeTableInfo) (filter : Expression) :
    (tryExtractRustBridgeEqualityFilter serde duckdb get table filter).isSome =
      pushable get table filter := by
  cases htarget : filterTarget get table filter with
  | none => simp [tryExtractRustBridgeEqualityFilter, pushable, htarget]
  | some target =>
      obtain ⟨info, constant⟩ := target
      obtain ⟨description, hextract⟩ := tryExtract_of_target serde duckdb htarget
      simp [hextract, pushable, htarget]

theorem tryExtract_nonempty {filter : Expression} {query description : String}
    (h : tryExtractRustBridgeEqualityFilter serde duckdb get table filter =
      some (query, description)) : query.isEmpty = false := by
  obtain ⟨⟨info, constant⟩, htarget, _⟩ := Option.bind_eq_some_iff.mp h
  obtain ⟨description', hextract⟩ := tryExtract_of_target serde duckdb htarget
  rw [h] at hextract
  cases hextract
  exact equalityQuery_nonempty serde duckdb info constant

/-! ## Many calls -/

/-- The bind data with the query of the first filter that can be pushed. -/
def pushFirst (serde : SerdeJson) (duckdb : DuckDb) (get : LogicalGet)
    (bindData : RustBridgeScanBindData) (filters : List Expression) :
    RustBridgeScanBindData × List Expression :=
  match extractFirst (tryExtractRustBridgeEqualityFilter serde duckdb get bindData.table)
      filters with
  | none => (bindData, filters)
  | some ((query, description), remaining) =>
      ({ bindData with pushedQuery := query, pushedQueryDescription := description }, remaining)

theorem pushdownComplexFilter_of_pushed {bindData : RustBridgeScanBindData}
    {filters : List Expression} (h : bindData.pushedQuery.isEmpty = false) :
    rustBridgeScanPushdownComplexFilter serde duckdb get bindData filters =
      (bindData, filters) := by
  simp [rustBridgeScanPushdownComplexFilter, h]

theorem pushdownComplexFilter_of_empty {bindData : RustBridgeScanBindData}
    {filters : List Expression} (h : bindData.pushedQuery.isEmpty = true) :
    rustBridgeScanPushdownComplexFilter serde duckdb get bindData filters =
      pushFirst serde duckdb get bindData filters := by
  rw [rustBridgeScanPushdownComplexFilter, h]
  rfl

/-- Once a query is pushed, the calls only gather the filters. -/
theorem pushdownCalls_pushed (calls : List (List Expression)) :
    ∀ {bindData : RustBridgeScanBindData} {filters : List Expression},
      bindData.pushedQuery.isEmpty = false →
      pushdownCalls serde duckdb get calls (bindData, filters) =
        (bindData, filters ++ calls.flatten) := by
  induction calls with
  | nil =>
      intro bindData filters _
      simp [pushdownCalls]
  | cons new rest ih =>
      intro bindData filters hpushed
      rw [pushdownCalls, pushdownComplexFilter_of_pushed hpushed, ih hpushed, List.flatten_cons,
        List.append_assoc]

/-- **Many calls are one**: they push the first filter of all they are handed
that can be pushed. -/
theorem pushdownCalls_eq (calls : List (List Expression)) :
    ∀ {bindData : RustBridgeScanBindData} {filters : List Expression},
      bindData.pushedQuery.isEmpty = true →
      (∀ filter ∈ filters, pushable get bindData.table filter = false) →
      pushdownCalls serde duckdb get calls (bindData, filters) =
        pushFirst serde duckdb get bindData (filters ++ calls.flatten) := by
  induction calls with
  | nil =>
      intro bindData filters _ hnone
      have hextract : extractFirst
          (tryExtractRustBridgeEqualityFilter serde duckdb get bindData.table) filters = none :=
        extractFirst_eq_none_iff.mpr fun filter hmem => by
          rw [← Option.isNone_iff_eq_none, ← Option.not_isSome, tryExtract_isSome,
            hnone filter hmem]
          rfl
      simp [pushdownCalls, pushFirst, hextract]
  | cons new rest ih =>
      intro bindData filters hempty _
      rw [List.flatten_cons, ← List.append_assoc]
      cases hextract : extractFirst
          (tryExtractRustBridgeEqualityFilter serde duckdb get bindData.table)
          (filters ++ new) with
      | none =>
          -- nothing to push yet: the next call is handed these filters again
          have hcall : rustBridgeScanPushdownComplexFilter serde duckdb get bindData
              (filters ++ new) = (bindData, filters ++ new) := by
            simp [rustBridgeScanPushdownComplexFilter, hempty, hextract]
          rw [pushdownCalls, hcall]
          apply ih hempty
          intro filter hmem
          rw [← tryExtract_isSome serde duckdb, extractFirst_eq_none_iff.mp hextract filter hmem]
          rfl
      | some found =>
          -- this call pushes, and the query it sets stops the later ones
          obtain ⟨⟨query, description⟩, remaining⟩ := found
          have hcall : rustBridgeScanPushdownComplexFilter serde duckdb get bindData
              (filters ++ new) =
              ({ bindData with pushedQuery := query, pushedQueryDescription := description },
                remaining) := by
            simp [rustBridgeScanPushdownComplexFilter, hempty, hextract]
          have hnonempty : query.isEmpty = false := by
            rw [extractFirst_eq] at hextract
            obtain ⟨item, _, hitem⟩ := Option.bind_eq_some_iff.mp hextract
            obtain ⟨extracted, hextracted, heq⟩ := Option.map_eq_some_iff.mp hitem
            cases heq
            exact tryExtract_nonempty hextracted
          rw [pushdownCalls, hcall, pushdownCalls_pushed rest hnonempty, pushFirst,
            extractFirst_append, hextract]

/-- What is pushed and what is left, when a filter can be pushed. -/
theorem pushFirst_of_find (serde : SerdeJson) (duckdb : DuckDb)
    {bindData : RustBridgeScanBindData} {filters : List Expression} {pushed : Expression}
    (hfind : filters.find? (pushable get bindData.table) = some pushed) :
    ∃ info constant description,
      filterTarget get bindData.table pushed = some (info, constant) ∧
      pushFirst serde duckdb get bindData filters =
        ({ bindData with
            pushedQuery := equalityQuery serde duckdb info constant
            pushedQueryDescription := description },
          filters.eraseP (pushable get bindData.table)) := by
  have hpushable : pushable get bindData.table pushed = true := List.find?_some hfind
  obtain ⟨⟨info, constant⟩, htarget⟩ := Option.isSome_iff_exists.mp hpushable
  obtain ⟨description, hextract⟩ := tryExtract_of_target serde duckdb htarget
  refine ⟨info, constant, description, htarget, ?_⟩
  simp only [pushFirst, extractFirst_eq, tryExtract_isSome, hfind, Option.bind_some, hextract,
    Option.map_some]

theorem pushFirst_of_find_none {bindData : RustBridgeScanBindData} {filters : List Expression}
    (hfind : filters.find? (pushable get bindData.table) = none) :
    pushFirst serde duckdb get bindData filters = (bindData, filters) := by
  simp only [pushFirst, extractFirst_eq, tryExtract_isSome, hfind, Option.bind_none]

/-- The filters only ever set the query and its description. -/
theorem pushFirst_frame (serde : SerdeJson) (duckdb : DuckDb) (get : LogicalGet)
    (bindData : RustBridgeScanBindData) (filters : List Expression) :
    ∃ query description, (pushFirst serde duckdb get bindData filters).1 =
      { bindData with pushedQuery := query, pushedQueryDescription := description } := by
  rw [pushFirst]
  split
  · exact ⟨bindData.pushedQuery, bindData.pushedQueryDescription, rfl⟩
  · exact ⟨_, _, rfl⟩

theorem pushFirst_pushedQuery (serde : SerdeJson) (duckdb : DuckDb) (get : LogicalGet)
    (bindData : RustBridgeScanBindData) (filters : List Expression) :
    (pushFirst serde duckdb get bindData filters).1.pushedQuery =
      ((filters.findSome? (filterTarget get bindData.table)).map fun (info, constant) =>
        equalityQuery serde duckdb info constant).getD bindData.pushedQuery := by
  rw [findSome?_eq_find?_bind]
  cases hfind : filters.find? (pushable get bindData.table) with
  | none =>
      rw [pushFirst_of_find_none hfind]
      have hnone : (filters.find? fun filter =>
          (filterTarget get bindData.table filter).isSome) = none := hfind
      simp [hnone]
  | some pushed =>
      obtain ⟨info, constant, description, htarget, hpush⟩ :=
        pushFirst_of_find serde duckdb hfind
      have hsome : (filters.find? fun filter =>
          (filterTarget get bindData.table filter).isSome) = some pushed := hfind
      rw [hpush]
      simp [hsome, htarget]

end DuckdbCoda
