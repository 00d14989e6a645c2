import DuckdbCoda.Logic.AbiWrites
import DuckdbCoda.Logic.Pushdowns
import DuckdbCoda.Model.AbiPushdown

/-!
# What the planner's calls leave

Nothing: whatever strings a call hands over and gets back, they are gone when it
is over (`boundScan_leaves`).
-/

namespace DuckdbCoda.Abi

open Ownership GrowingArray

variable {memory : Memory} {owned : Multiset Nat} {library : CppLibrary} {serde : SerdeJson}
  {duckdb : DuckDb} {get : LogicalGet} {table : RustBridgeTableInfo}

/-- A call that gives the answer of the other one and leaves the memory as it was. -/
structure LeavesNothing {α : Type} (memory : Memory) (result : α × Memory) (plain : α) : Prop where
  value : result.1 = plain
  holds : ∀ {owned : Multiset Nat}, memory.Holds owned → result.2.Holds owned

/-- Give a string away and take it back. -/
theorem takeString_value (text : String) (memory : Memory) :
    (takeToken (allocString text memory).1 (allocString text memory).2).1 = text :=
  allocString_contents text memory

/-- The only string of the buffer is good. -/
theorem convert_spec (library : CppLibrary) (duckdb : DuckDb) (value : Value) (memory : Memory) :
    ∃ record strings memory', convert library duckdb value .empty memory =
        (record, strings, memory') ∧ record.toValue = DuckdbCoda.convert duckdb value ∧
      ∀ {owned : Multiset Nat}, memory.Holds owned →
        memory'.Holds (strings.textBlocks + owned) ∧ record.borrow memory' = memory' := by
  have hnone : (GrowingArray.empty : CppStrings).textBlocks = 0 := rfl
  have hplain : ∀ {owned : Multiset Nat}, memory.Holds owned →
      memory.Holds ((GrowingArray.empty : CppStrings).textBlocks + owned) := by
    intro owned h
    rwa [hnone, zero_add]
  -- the three kinds of values that need a string keep it in the same way
  have htext : ∀ text kept,
      (GrowingArray.empty : CppStrings).keepText library.grow (library.inPlace text) text memory =
        kept →
      convert library duckdb value .empty memory = (.string kept.1, kept.2.1, kept.2.2) →
      DuckdbCoda.convert duckdb value = .string text →
      ∃ record strings memory', convert library duckdb value .empty memory =
          (record, strings, memory') ∧ record.toValue = DuckdbCoda.convert duckdb value ∧
        ∀ {owned : Multiset Nat}, memory.Holds owned →
          memory'.Holds (strings.textBlocks + owned) ∧ record.borrow memory' = memory' := by
    intro text kept hkept hconvert hvalue
    obtain ⟨pointer, strings, memory', hkeep, hcontents, hpoints, _, hholds⟩ :=
      keepText_spec library.grow (library.inPlace text) text .empty memory
    rw [hkeep] at hkept
    subst hkept
    refine ⟨.string pointer, strings, memory', hconvert, ?_, ?_⟩
    · rw [hvalue, RustExtInputValue.toValue, strOf_contents hpoints.isSome, hcontents]
    · intro owned h
      have hheld := hholds (hplain h)
      exact ⟨hheld, RawParts.borrow_eq hheld (hpoints.blocks_le.trans (Multiset.le_add_right _ _))⟩
  cases value with
  | null type => exact ⟨_, _, _, rfl, rfl, fun h => ⟨hplain h, rfl⟩⟩
  | boolean value => exact ⟨_, _, _, rfl, rfl, fun h => ⟨hplain h, rfl⟩⟩
  | integer width value => exact ⟨_, _, _, rfl, rfl, fun h => ⟨hplain h, rfl⟩⟩
  | uinteger width value => exact ⟨_, _, _, rfl, rfl, fun h => ⟨hplain h, rfl⟩⟩
  | float value => exact ⟨_, _, _, rfl, rfl, fun h => ⟨hplain h, rfl⟩⟩
  | double value => exact ⟨_, _, _, rfl, rfl, fun h => ⟨hplain h, rfl⟩⟩
  | varchar value => exact htext _ _ rfl rfl rfl
  | timestampTz text => exact htext _ _ rfl rfl rfl
  | other name text => exact htext _ _ rfl rfl rfl

/-- The two strings of a query, taken over. -/
theorem takeStrings_holds (first second : String) (h : memory.Holds owned) :
    let given := allocString second (allocString first memory).2
    let taken := takeToken (allocString first memory).1 given.2
    (takeToken given.1 taken.2).2.Holds owned := by
  obtain ⟨query, mid, hquery, _, _, hmid⟩ := allocString_spec first h
  obtain ⟨description, last, hdescription, _, _, hlast⟩ := allocString_spec second hmid
  dsimp only
  rw [hquery, hdescription]
  exact takeToken_holds (takeToken_holds (hlast.of_eq (add_left_comm _ _ _)))

theorem tryExtract_leaves (library : CppLibrary) (serde : SerdeJson) (duckdb : DuckDb)
    (get : LogicalGet) (table : RustBridgeTableInfo) (filter : Expression) (memory : Memory) :
    LeavesNothing memory
      (tryExtractRustBridgeEqualityFilter library serde duckdb get table filter memory)
      (DuckdbCoda.tryExtractRustBridgeEqualityFilter serde duckdb get table filter) := by
  unfold tryExtractRustBridgeEqualityFilter DuckdbCoda.tryExtractRustBridgeEqualityFilter
  rcases filterTarget get table filter with _ | ⟨info, constant⟩
  · exact ⟨rfl, id⟩
  · obtain ⟨record, strings, mid, hconvert, hvalue, hholds⟩ :=
      convert_spec library duckdb constant memory
    simp only [hconvert, buildEqualityQuery, hvalue, Option.bind_some]
    rcases DuckdbCoda.buildEqualityQuery serde info.column.id info.column.name
      (DuckdbCoda.convert duckdb constant) with message | ⟨query, description⟩
    · refine ⟨rfl, ?_⟩
      intro owned h
      obtain ⟨hmid, hborrow⟩ := hholds h
      dsimp only
      rw [hborrow]
      exact destroyTexts_holds (RawParts.release_holds (RawParts.into_holds _ _ hmid))
    · constructor
      · exact congrArg some (Prod.ext (takeString_value _ _) (takeString_value _ _))
      · intro owned h
        obtain ⟨hmid, hborrow⟩ := hholds h
        dsimp only
        rw [hborrow]
        exact destroyTexts_holds (takeStrings_holds query description hmid)

theorem extractFilter_leaves (library : CppLibrary) (serde : SerdeJson) (duckdb : DuckDb)
    (get : LogicalGet) (table : RustBridgeTableInfo) : ∀ (filters : List Expression)
      (memory : Memory), LeavesNothing memory
        (extractFilter library serde duckdb get table filters memory)
        (extractFirst (DuckdbCoda.tryExtractRustBridgeEqualityFilter serde duckdb get table)
          filters) := by
  intro filters
  induction filters with
  | nil => exact fun memory => ⟨rfl, id⟩
  | cons filter rest ih =>
      intro memory
      obtain ⟨hvalue, hholds⟩ := tryExtract_leaves library serde duckdb get table filter memory
      rw [extractFilter, extractFirst, ← hvalue]
      rcases htry : tryExtractRustBridgeEqualityFilter library serde duckdb get table filter memory
        with ⟨tried, mid⟩
      rw [htry] at hholds
      cases tried with
      | some pushed => exact ⟨rfl, hholds⟩
      | none =>
          have hrest := ih mid
          exact ⟨by dsimp only; rw [hrest.value], fun h => hrest.holds (hholds h)⟩

theorem pushdownComplexFilter_leaves (library : CppLibrary) (serde : SerdeJson) (duckdb : DuckDb)
    (get : LogicalGet) (bindData : RustBridgeScanBindData) (filters : List Expression)
    (memory : Memory) :
    LeavesNothing memory
      (rustBridgeScanPushdownComplexFilter library serde duckdb get bindData filters memory)
      (DuckdbCoda.rustBridgeScanPushdownComplexFilter serde duckdb get bindData filters) := by
  obtain ⟨hvalue, hholds⟩ :=
    extractFilter_leaves library serde duckdb get bindData.table filters memory
  unfold rustBridgeScanPushdownComplexFilter DuckdbCoda.rustBridgeScanPushdownComplexFilter
  split
  case isTrue hpushed => exact ⟨rfl, id⟩
  case isFalse hempty =>
    rw [← hvalue]
    rcases hextract : extractFilter library serde duckdb get bindData.table filters memory with
      ⟨found, mid⟩
    rw [hextract] at hholds
    cases found with
    | none => exact ⟨rfl, hholds⟩
    | some pushed => exact ⟨rfl, hholds⟩

theorem setScanOrder_leaves (orderOptions : Option RowGroupOrderOptions)
    (bindData : RustBridgeScanBindData) (memory : Memory) :
    LeavesNothing memory (rustBridgeScanSetScanOrder orderOptions bindData memory)
      (DuckdbCoda.rustBridgeScanSetScanOrder orderOptions bindData) := by
  have hsame : LeavesNothing memory (bindData, memory) bindData := ⟨rfl, id⟩
  unfold rustBridgeScanSetScanOrder DuckdbCoda.rustBridgeScanSetScanOrder
  cases orderOptions with
  | none => exact hsame
  | some options =>
      dsimp only
      cases options.rowLimit with
      | none => exact hsame
      | some rowLimit =>
          dsimp only
          split
          case isTrue hdescending => exact hsame
          case isFalse =>
            cases bindData.table.columns[options.columnIndex]? with
            | none => exact hsame
            | some info =>
                dsimp only
                cases scanSortBy info.column with
                | none => exact hsame
                | some sortBy =>
                    exact ⟨by simp only [takeString_value], fun h => takeString_holds sortBy h⟩

theorem applyCall_leaves (library : CppLibrary) (serde : SerdeJson) (duckdb : DuckDb)
    (state : RustBridgeScanBindData × Memory) (call : BindDataCall) :
    LeavesNothing state.2 (applyCall library serde duckdb state call)
      (call.apply serde duckdb state.1) := by
  cases call with
  | pushdownComplexFilter get filters =>
      have hpushed := pushdownComplexFilter_leaves library serde duckdb get state.1 filters state.2
      exact ⟨congrArg Prod.fst hpushed.value, hpushed.holds⟩
  | setScanOrder orderOptions => exact setScanOrder_leaves orderOptions state.1 state.2
  | copy => exact ⟨rfl, id⟩

theorem foldl_applyCall_leaves (library : CppLibrary) (serde : SerdeJson) (duckdb : DuckDb) :
    ∀ (calls : List BindDataCall) (state : RustBridgeScanBindData × Memory),
      LeavesNothing state.2 (calls.foldl (applyCall library serde duckdb) state)
        (calls.foldl (BindDataCall.apply serde duckdb) state.1) := by
  intro calls
  induction calls with
  | nil => exact fun state => ⟨rfl, id⟩
  | cons call rest ih =>
      intro state
      have hcall := applyCall_leaves library serde duckdb state call
      have hrest := ih (applyCall library serde duckdb state call)
      refine ⟨?_, fun h => hrest.holds (hcall.holds h)⟩
      rw [List.foldl_cons, List.foldl_cons, hrest.value, hcall.value]

/-- **The planner's calls leave nothing.** -/
theorem boundScan_leaves (library : CppLibrary) (serde : SerdeJson) (duckdb : DuckDb)
    (entry : RustBridgeTableCatalogEntry) (calls : List BindDataCall) (memory : Memory) :
    LeavesNothing memory (boundScan library serde duckdb entry calls memory)
      (DuckdbCoda.boundScan serde duckdb (fun _ => entry) 0 calls) :=
  foldl_applyCall_leaves library serde duckdb calls (getScanFunction (fun _ => entry) 0, memory)

end DuckdbCoda.Abi
