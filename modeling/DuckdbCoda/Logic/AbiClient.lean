import DuckdbCoda.Model.AbiClient
import DuckdbCoda.Theorems.AbiPages

/-!
# The client with and without its memory

Two facts about each function of `Model.AbiClient`: without the pointers it is its
counterpart in `Model.Client` (`*_value`), and whatever else is live stays so while
it keeps only the blocks of its result (`*_settles`).
-/

namespace DuckdbCoda.Abi

open Ownership Loop

variable {σ : Type} {memory memory' : Memory} {owned : Multiset Nat}

/-! ## Requests -/

section

variable {α γ : Type} {remote : Remote σ} {config : RustExtClientConfig} {operation : Operation}
  {decode : String → Memory → Except String α × Memory}

theorem RustExtClientConfig.borrow_eq (h : memory.Holds owned) (hle : config.blocks ≤ owned) :
    config.borrow memory = memory := by
  rw [RustExtClientConfig.blocks] at hle
  have hfirst := (Multiset.le_add_right _ _).trans hle
  rw [RustExtClientConfig.borrow,
    RawParts.borrow_eq h ((Multiset.le_add_right _ _).trans hfirst),
    RawParts.borrow_eq h ((Multiset.le_add_left _ _).trans hle),
    RawParts.borrow_eq h ((Multiset.le_add_left _ _).trans hfirst)]

/-- What an answer that came from somewhere in memory is without it. -/
def forget (value : α → γ) (result : Except String α × World σ × Memory) :
    Except String γ × World σ :=
  (result.1.map value, result.2.1)

theorem fetch_value (remote : Remote σ) (config : RustExtClientConfig) (operation : Operation)
    {plain : String → Except String γ} {value : α → γ}
    (hdecode : ∀ body memory, (decode body memory).1.map value = plain body)
    (world : World σ) (memory : Memory) :
    forget value (fetch remote config operation decode world memory) =
      DuckdbCoda.fetch remote config.toValue operation plain world := by
  unfold fetch DuckdbCoda.fetch
  rcases perform remote config.toValue operation world with ⟨message | body, world'⟩
  · rfl
  · exact Prod.ext (hdecode body _) rfl

theorem fetch_settles {blocks : α → Multiset Nat} {leaks : String → Nat}
    (hdecode : ∀ body {memory : Memory} {owned : Multiset Nat}, memory.Holds owned →
      Leaves blocks (leaks body) owned (decode body memory))
    (h : memory.Holds owned) (hconfig : config.blocks ≤ owned) {world world' : World σ}
    {answer : Except String α}
    (hfetch : fetch remote config operation decode world memory = (answer, world', memory')) :
    Settles blocks owned answer memory' := by
  unfold fetch at hfetch
  rw [RustExtClientConfig.borrow_eq h hconfig] at hfetch
  rcases hperform : perform remote config.toValue operation world with ⟨message | body, mid⟩ <;>
    simp only [hperform, Prod.mk.injEq] at hfetch
  · obtain ⟨rfl, _, rfl⟩ := hfetch
    exact settles_error.mpr ⟨0, h.of_eq (zero_add _).symm⟩
  · obtain ⟨rfl, _, rfl⟩ := hfetch
    exact ⟨_, hdecode body h⟩

end

/-- A token that is read and freed. -/
theorem takeToken_holds {token : RustExtString} (h : memory.Holds (token.blocks + owned)) :
    (takeToken token memory).2.Holds owned := by
  have hread : token.borrow memory = memory := RawParts.borrow_eq h (Multiset.le_add_right _ _)
  show (token.release (token.borrow memory)).Holds owned
  rw [hread]
  exact RawParts.release_holds h

/-! ## `prepare_columns` -/

theorem prepareFrom_value (fuel : Nat) :
    ∀ (columns taken : List RustExtColumn) (memory : Memory),
      (prepareFrom fuel taken columns memory).map (fun result =>
          result.1.map RustExtColumn.toValue) =
        DuckdbCoda.prepareFrom fuel (taken.map RustExtColumn.toValue)
          (columns.map RustExtColumn.toValue) := by
  intro columns
  induction columns with
  | nil => exact fun _ _ => rfl
  | cons column rest ih =>
      intro taken memory
      rw [prepareFrom, List.map_cons, DuckdbCoda.prepareFrom]
      show ((preparedName fuel (taken.map RustExtColumn.toValue) column.name.contents).bind
        fun candidate => _).map _ = (preparedName fuel (taken.map RustExtColumn.toValue)
          column.name.contents).bind fun candidate => _
      cases preparedName fuel (taken.map RustExtColumn.toValue) column.name.contents with
      | none => rfl
      | some candidate =>
          simp only [Option.bind_some]
          split
          case isTrue hchanged =>
            rw [ih]
            simp [RustExtColumn.toValue]
          case isFalse hsame =>
            rw [ih, List.map_append, show candidate = column.name.contents from not_not.mp hsame]
            rfl

/-- The name of a live column can be read. -/
theorem borrow_name_eq (column : RustExtColumn) (memory : Memory) (owned : Multiset Nat)
    (h : memory.Holds owned) (hle : column.blocks ≤ owned) : column.name.borrow memory = memory := by
  refine RawParts.borrow_eq h (le_trans ?_ hle)
  rw [RustExtColumn.blocks]
  exact (Multiset.le_add_left _ _).trans (Multiset.le_add_right _ _)

theorem prepareFrom_holds (fuel : Nat) :
    ∀ (columns taken : List RustExtColumn) {memory : Memory} {prepared : List RustExtColumn}
      {memory' : Memory}, memory.Holds (blocksOf RustExtColumn.blocks taken +
        (blocksOf RustExtColumn.blocks columns + owned)) →
      prepareFrom fuel taken columns memory = some (prepared, memory') →
      memory'.Holds (blocksOf RustExtColumn.blocks prepared + owned) := by
  intro columns
  induction columns with
  | nil =>
      intro taken memory prepared memory' h hprepare
      cases hprepare
      exact h.of_eq (by simp)
  | cons column rest ih =>
      intro taken memory prepared memory' h hprepare
      have hcolumn : column.name.borrow memory = memory := by
        refine borrow_name_eq column memory _ h ?_
        rw [blocksOf_cons, add_assoc]
        exact (Multiset.le_add_right _ _).trans (Multiset.le_add_left _ _)
      have htaken : taken.foldl (fun memory column => column.name.borrow memory) memory = memory :=
        foldl_borrow_eq borrow_name_eq h taken (Multiset.le_add_right _ _)
      rw [prepareFrom] at hprepare
      simp only [asStr, hcolumn, htaken] at hprepare
      obtain ⟨candidate, _, hprepare⟩ := Option.bind_eq_some_iff.mp hprepare
      split at hprepare
      case isTrue hchanged =>
        -- the old name is freed and the new one given away
        have hfreed : (column.name.release memory).Holds (blocksOf RustExtColumn.blocks taken +
            (column.id.blocks + column.typeName.blocks +
              (blocksOf RustExtColumn.blocks rest + owned))) := by
          refine RawParts.release_holds (h.of_eq ?_)
          rw [blocksOf_cons, RustExtColumn.blocks]
          abel
        obtain ⟨name, mid, hname, _, _, hmid⟩ := allocString_spec candidate hfreed
        rw [hname] at hprepare
        refine ih (taken ++ [{ column with name }]) (hmid.of_eq ?_) hprepare
        rw [blocksOf_append, blocksOf_cons, blocksOf_nil, RustExtColumn.blocks]
        abel
      case isFalse hsame =>
        refine ih (taken ++ [column]) (h.of_eq ?_) hprepare
        rw [blocksOf_append, blocksOf_cons, blocksOf_cons, blocksOf_nil]
        abel

/-! ## Row metadata -/

theorem metadataColumn_spec (name : String) (h : memory.Holds owned) :
    ∃ column memory', metadataColumn name memory = (column, memory') ∧
      column.toValue = DuckdbCoda.metadataColumn name ∧
      memory'.Holds (column.blocks + owned) := by
  obtain ⟨id, m₁, hid, hidText, _, h₁⟩ := allocString_spec name h
  obtain ⟨label, m₂, hlabel, hlabelText, _, h₂⟩ := allocString_spec name h₁
  obtain ⟨typeName, m₃, htype, htypeText, _, h₃⟩ := allocString_spec "timestampTz" h₂
  refine ⟨_, m₃, by simp only [metadataColumn, hid, hlabel, htype]; rfl, ?_, h₃.of_eq ?_⟩
  · simp only [RustExtColumn.toValue, hidText, hlabelText, htypeText]
    rfl
  · rw [RustExtColumn.blocks]
    abel

theorem appendRowMetadata_value (columns : List RustExtColumn) (memory : Memory) :
    (appendRowMetadata columns memory).1.map RustExtColumn.toValue =
      DuckdbCoda.appendRowMetadata (columns.map RustExtColumn.toValue) := by
  simp [appendRowMetadata, metadataColumn, DuckdbCoda.appendRowMetadata,
    DuckdbCoda.metadataColumn, RustExtColumn.toValue]

theorem appendRowMetadata_holds {columns : List RustExtColumn}
    (h : memory.Holds (blocksOf RustExtColumn.blocks columns + owned)) :
    (appendRowMetadata columns memory).2.Holds
      (blocksOf RustExtColumn.blocks (appendRowMetadata columns memory).1 + owned) := by
  obtain ⟨createdAt, mid, hcreated, _, hmid⟩ := metadataColumn_spec "createdAt" h
  obtain ⟨updatedAt, last, hupdated, _, hlast⟩ := metadataColumn_spec "updatedAt" hmid
  simp only [appendRowMetadata, hcreated, hupdated]
  refine hlast.of_eq ?_
  rw [blocksOf_append, blocksOf_cons, blocksOf_cons, blocksOf_nil]
  abel

theorem finishColumns_value (fuel : Nat) (config : RustExtClientConfig) (all : List RustExtColumn)
    (memory : Memory) :
    (finishColumns fuel config all memory).map (fun result =>
        result.1.map RustExtColumn.toValue) =
      DuckdbCoda.finishColumns fuel config.toValue (all.map RustExtColumn.toValue) := by
  unfold finishColumns DuckdbCoda.finishColumns prepareColumns DuckdbCoda.prepareColumns
  cases h : config.includeSystemColumns with
  | false => simp [h, RustExtClientConfig.toValue, prepareFrom_value]
  | true =>
      simp [h, RustExtClientConfig.toValue, prepareFrom_value, appendRowMetadata_value]

theorem finishColumns_holds {fuel : Nat} {config : RustExtClientConfig} {all : List RustExtColumn}
    {columns : List RustExtColumn}
    (h : memory.Holds (blocksOf RustExtColumn.blocks all + owned))
    (hfinish : finishColumns fuel config all memory = some (columns, memory')) :
    memory'.Holds (blocksOf RustExtColumn.blocks columns + owned) := by
  unfold finishColumns prepareColumns at hfinish
  cases hsystem : config.includeSystemColumns with
  | false =>
      simp only [hsystem, Bool.false_eq_true, if_false] at hfinish
      exact prepareFrom_holds fuel all [] (h.of_eq (zero_add _).symm) hfinish
  | true =>
      simp only [hsystem, if_true] at hfinish
      exact prepareFrom_holds fuel _ []
        ((appendRowMetadata_holds h).of_eq (zero_add _).symm) hfinish

/-! ## `load_columns` -/

/-- A loop over pages without its memory. -/
def forgetLoop {α γ : Type} (value : α → γ) (state : PageLoop σ α) : List γ × String × World σ :=
  (state.1.map value, state.2.1, state.2.2.1)

theorem loadColumnsTurn_value (remote : Remote σ) (config : RustExtClientConfig)
    (tableId : RustExtString) (state : PageLoop σ RustExtColumn) :
    (loadColumnsTurn remote config tableId state).map (forgetLoop RustExtColumn.toValue)
        (forget (List.map RustExtColumn.toValue)) =
      DuckdbCoda.loadColumnsTurn remote config.toValue tableId.contents
        (forgetLoop RustExtColumn.toValue state) := by
  obtain ⟨all, pageToken, world, memory⟩ := state
  have hvalue := fetch_value remote config
    (listColumnsOperation config.toValue tableId.contents pageToken)
    (columnListFromJson_owned remote.serde).value world (tableId.borrow memory)
  simp only [loadColumnsTurn, asStr, forgetLoop, DuckdbCoda.loadColumnsTurn, fetchColumns,
    ← hvalue]
  rcases fetch remote config (listColumnsOperation config.toValue tableId.contents pageToken)
    (columnListFromJson remote.serde) world (tableId.borrow memory) with ⟨message | page, mid, rest⟩
  · rfl
  · simp only [forget, Except.map, takeToken, asStr, vecFromRawParts, RustExtColumnList.toValue]
    by_cases hlast : page.nextPageToken.contents.isEmpty = true
    · rw [if_pos hlast]
      show Turn.map _ _ (if page.nextPageToken.contents.isEmpty = true then _ else _) = _
      rw [if_pos hlast]
      simp [Turn.map, forget, Except.map]
    · rw [if_neg hlast]
      show Turn.map _ _ (if page.nextPageToken.contents.isEmpty = true then _ else _) = _
      rw [if_neg hlast]
      simp [Turn.map, forgetLoop]

theorem loadColumns_value (fuel : Nat) (remote : Remote σ) (config : RustExtClientConfig)
    (tableId : RustExtString) (world : World σ) (memory : Memory) :
    (loadColumns fuel remote config tableId world memory).map
        (forget fun list => list.toValue.items) =
      DuckdbCoda.loadColumns fuel remote config.toValue tableId.contents world := by
  have hloop : (run (fun state => some (loadColumnsTurn remote config tableId state)) fuel
      ([], "", world, memory)).map (forget (List.map RustExtColumn.toValue)) =
        run (fun state =>
          some (DuckdbCoda.loadColumnsTurn remote config.toValue tableId.contents state)) fuel
          (forgetLoop RustExtColumn.toValue ([], "", world, memory)) := by
    refine run_map (forgetLoop RustExtColumn.toValue) _ ?_ fuel ([], "", world, memory)
    exact fun state => congrArg some (loadColumnsTurn_value remote config tableId state)
  unfold loadColumns DuckdbCoda.loadColumns
  rw [show (([], "", world) : List DuckdbCoda.RustExtColumn × String × World σ) =
    forgetLoop RustExtColumn.toValue (([], "", world, memory) : PageLoop σ RustExtColumn) from rfl,
    ← hloop]
  rcases run (fun state => some (loadColumnsTurn remote config tableId state)) fuel
    ([], "", world, memory) with _ | ⟨message | all, mid, rest⟩
  · rfl
  · rfl
  · have hfinish := finishColumns_value fuel config all rest
    simp only [Option.map_some, forget, Except.map, ← hfinish, Option.map_map]
    congr 1
    funext ⟨columns, last⟩
    simp [forget, Except.map, RustExtColumnList.toValue]

theorem loadColumnsTurn_keeps {remote : Remote σ} {config : RustExtClientConfig}
    {tableId : RustExtString} (hconfig : config.blocks ≤ owned) (hid : tableId.blocks ≤ owned)
    (state : PageLoop σ RustExtColumn)
    (h : state.2.2.2.Holds (blocksOf RustExtColumn.blocks state.1 + owned)) :
    (loadColumnsTurn remote config tableId state).Keeps
      (fun state => state.2.2.2.Holds (blocksOf RustExtColumn.blocks state.1 + owned))
      (fun result => Settles (blocksOf RustExtColumn.blocks) owned result.1 result.2.2) := by
  obtain ⟨all, pageToken, world, memory⟩ := state
  have hread : tableId.borrow memory = memory :=
    RawParts.borrow_eq h (hid.trans (Multiset.le_add_left _ _))
  simp only [loadColumnsTurn, asStr, hread]
  rcases hfetch : fetch remote config
    (listColumnsOperation config.toValue tableId.contents pageToken)
    (columnListFromJson remote.serde) world memory with ⟨message | page, mid, rest⟩
  · obtain ⟨lost, hlost⟩ := settles_error.mp (fetch_settles
      (columnListFromJson_owned remote.serde).leaves h
      (hconfig.trans (Multiset.le_add_left _ _)) hfetch)
    exact settles_error.mpr ⟨lost + blocksOf RustExtColumn.blocks all,
      hlost.of_eq (add_assoc _ _ _).symm⟩
  · have hpage := settles_ok.mp (fetch_settles (columnListFromJson_owned remote.serde).leaves h
      (hconfig.trans (Multiset.le_add_left _ _)) hfetch)
    have hitems : (page.items.release rest).Holds (page.nextPageToken.blocks +
        (blocksOf RustExtColumn.blocks (all ++ page.items.contents) + owned)) := by
      refine RawParts.release_holds (hpage.of_eq ?_)
      rw [RustExtColumnList.blocks, blocksOf_append]
      abel
    have htoken := takeToken_holds hitems
    exact Turn.keeps_ite (settles_ok.mpr htoken) htoken

/-- The array of a list of columns and the strings in it. -/
def RustExtColumnList.arrayBlocks (list : RustExtColumnList) : Multiset Nat :=
  list.items.blocks + blocksOf RustExtColumn.blocks list.items.contents

/-- The list that `load_columns` gives away has no token. -/
theorem loadColumns_settles {fuel : Nat} {remote : Remote σ} {config : RustExtClientConfig}
    {tableId : RustExtString} {world world' : World σ} {answer : Except String RustExtColumnList}
    (h : memory.Holds owned) (hconfig : config.blocks ≤ owned) (hid : tableId.blocks ≤ owned)
    (hload : loadColumns fuel remote config tableId world memory =
      some (answer, world', memory')) :
    Settles RustExtColumnList.arrayBlocks owned answer memory' := by
  unfold loadColumns at hload
  rcases hrun : run (fun state => some (loadColumnsTurn remote config tableId state)) fuel
    ([], "", world, memory) with _ | ⟨pages, mid, rest⟩
  · rw [hrun] at hload
    cases hload
  have hpages : Settles (blocksOf RustExtColumn.blocks) owned pages rest :=
    run_invariant (fun state => state.2.2.2.Holds (blocksOf RustExtColumn.blocks state.1 + owned))
      (fun result => Settles (blocksOf RustExtColumn.blocks) owned result.1 result.2.2)
      (fun state turn hinv hturn =>
        Option.some.inj hturn ▸ loadColumnsTurn_keeps hconfig hid state hinv)
      fuel ([], "", world, memory) _ (h.of_eq (zero_add _).symm) hrun
  rw [hrun] at hload
  cases pages with
  | error message =>
      cases hload
      exact settles_error.mpr (settles_error.mp hpages)
  | ok all =>
      obtain ⟨⟨columns, finished⟩, hfinish, hload⟩ := Option.map_eq_some_iff.mp hload
      have hcolumns := finishColumns_holds (settles_ok.mp hpages) hfinish
      cases hload
      exact settles_ok.mpr (vecIntoRawParts_holds hcolumns)

/-! ## `load_catalog` -/

theorem catalogTable_value (table : RustExtTable) (columns : RustExtColumnList) (memory : Memory) :
    (catalogTable table columns memory).1.toValue =
      DuckdbCoda.catalogTable table.toValue columns.toValue.items := by
  simp [catalogTable, asStr, RustExtCatalogTable.toValue, DuckdbCoda.catalogTable,
    RustExtTable.toValue, RustExtColumnList.toValue]

/-- The entry takes the columns over and copies the strings of a live table. -/
theorem catalogTable_holds {table : RustExtTable} {columns : RustExtColumnList}
    (h : memory.Holds (columns.arrayBlocks + owned)) (hle : table.blocks ≤ owned) :
    (catalogTable table columns memory).2.Holds
      ((catalogTable table columns memory).1.blocks + owned) := by
  rw [RustExtTable.blocks] at hle
  have hid : table.id.borrow memory = memory :=
    RawParts.borrow_eq h (((Multiset.le_add_right _ _).trans hle).trans (Multiset.le_add_left _ _))
  obtain ⟨id, mid, hidAlloc, _, _, hmid⟩ := allocString_spec table.id.contents h
  have hname : table.name.borrow mid = mid :=
    RawParts.borrow_eq hmid (((Multiset.le_add_left _ _).trans hle).trans
      ((Multiset.le_add_left _ _).trans (Multiset.le_add_left _ _)))
  obtain ⟨name, last, hnameAlloc, _, _, hlast⟩ := allocString_spec table.name.contents hmid
  simp only [catalogTable, asStr, hid, hidAlloc, hname, hnameAlloc]
  refine hlast.of_eq ?_
  rw [RustExtCatalogTable.blocks, RustExtColumnList.arrayBlocks]
  abel

theorem loadTables_value (fuel : Nat) (remote : Remote σ) (config : RustExtClientConfig) :
    ∀ (tables : List RustExtTable) (catalogTables : List RustExtCatalogTable) (world : World σ)
      (memory : Memory),
      (loadTables fuel remote config tables catalogTables world memory).map
          (forget (List.map RustExtCatalogTable.toValue)) =
        DuckdbCoda.loadTables fuel remote config.toValue (tables.map RustExtTable.toValue)
          (catalogTables.map RustExtCatalogTable.toValue) world := by
  intro tables
  induction tables with
  | nil => exact fun _ _ _ => rfl
  | cons table rest ih =>
      intro catalogTables world memory
      rw [loadTables, List.map_cons, DuckdbCoda.loadTables,
        show table.toValue.id = table.id.contents from rfl,
        ← loadColumns_value fuel remote config table.id world memory]
      rcases loadColumns fuel remote config table.id world memory with
        _ | ⟨message | columns, mid, last⟩
      · rfl
      · rfl
      · show Option.map _ (loadTables fuel remote config rest
          (catalogTables ++ [(catalogTable table columns last).1]) mid
          (freeTable (catalogTable table columns last).2 table)) = _
        rw [ih, List.map_append, List.map_singleton, catalogTable_value]
        rfl

theorem loadTables_settles {fuel : Nat} {remote : Remote σ} {config : RustExtClientConfig}
    (hconfig : config.blocks ≤ owned) :
    ∀ (tables : List RustExtTable) (catalogTables : List RustExtCatalogTable) {world : World σ}
      {memory : Memory} {answer : Except String (List RustExtCatalogTable)} {world' : World σ}
      {memory' : Memory},
      memory.Holds (blocksOf RustExtTable.blocks tables +
        (blocksOf RustExtCatalogTable.blocks catalogTables + owned)) →
      loadTables fuel remote config tables catalogTables world memory =
        some (answer, world', memory') →
      Settles (blocksOf RustExtCatalogTable.blocks) owned answer memory' := by
  intro tables
  induction tables with
  | nil =>
      intro catalogTables world memory answer world' memory' h hload
      cases hload
      exact settles_ok.mpr (h.of_eq (zero_add _))
  | cons table rest ih =>
      intro catalogTables world memory answer world' memory' h hload
      rw [blocksOf_cons, add_assoc] at h
      have hid : table.id.blocks ≤ table.blocks := Multiset.le_add_right _ _
      rw [loadTables] at hload
      rcases hcolumns : loadColumns fuel remote config table.id world memory with
        _ | ⟨message | columns, mid, last⟩ <;> rw [hcolumns] at hload
      · cases hload
      · -- everything collected so far is lost
        cases hload
        obtain ⟨lost, hlost⟩ := settles_error.mp (loadColumns_settles h
          (hconfig.trans ((Multiset.le_add_left _ _).trans
            ((Multiset.le_add_left _ _).trans (Multiset.le_add_left _ _))))
          (hid.trans (Multiset.le_add_right _ _)) hcolumns)
        exact settles_error.mpr ⟨lost + (table.blocks + (blocksOf RustExtTable.blocks rest +
          blocksOf RustExtCatalogTable.blocks catalogTables)), hlost.of_eq (by abel)⟩
      · have hlist := settles_ok.mp (loadColumns_settles h
          (hconfig.trans ((Multiset.le_add_left _ _).trans
            ((Multiset.le_add_left _ _).trans (Multiset.le_add_left _ _))))
          (hid.trans (Multiset.le_add_right _ _)) hcolumns)
        have hentry := catalogTable_holds hlist (Multiset.le_add_right _ _)
        refine ih (catalogTables ++ [(catalogTable table columns last).1])
          (freeTable_holds table _ _ (hentry.of_eq ?_)) hload
        rw [blocksOf_append, blocksOf_cons, blocksOf_nil]
        abel

theorem loadCatalogTurn_value (remote : Remote σ) (config : RustExtClientConfig) (fuel : Nat)
    (state : PageLoop σ RustExtCatalogTable) :
    (loadCatalogTurn remote config fuel state).map
        (Turn.map (forgetLoop RustExtCatalogTable.toValue) (forget RustExtCatalog.toValue)) =
      DuckdbCoda.loadCatalogTurn remote config.toValue fuel
        (forgetLoop RustExtCatalogTable.toValue state) := by
  obtain ⟨catalogTables, pageToken, world, memory⟩ := state
  have hvalue := fetch_value remote config (listTablesOperation config.toValue pageToken)
    (tableListFromJson_owned remote.serde).value world memory
  simp only [loadCatalogTurn, forgetLoop, DuckdbCoda.loadCatalogTurn, fetchTables, ← hvalue]
  rcases fetch remote config (listTablesOperation config.toValue pageToken)
    (tableListFromJson remote.serde) world memory with ⟨message | page, mid, rest⟩
  · rfl
  · have htables := loadTables_value fuel remote config page.items.contents catalogTables mid
      (vecFromRawParts page.items rest).2
    simp only [forget, Except.map, RustExtTableList.toValue, ← htables, Option.map_map]
    show Option.map _ (loadTables fuel remote config page.items.contents catalogTables mid
      (vecFromRawParts page.items rest).2) = _
    congr 1
    funext result
    obtain ⟨answer, world, memory⟩ := result
    cases answer with
    | error message => rfl
    | ok entries =>
        simp only [Function.comp, forget, Except.map]
        -- the token is read before it is freed, so both turns see the same text
        by_cases hlast : page.nextPageToken.contents.isEmpty = true
        · rw [if_pos hlast]
          show Turn.map _ _ (if page.nextPageToken.contents.isEmpty = true then _ else _) = _
          rw [if_pos hlast]
          simp [Turn.map, forget, Except.map, RustExtCatalog.toValue]
        · rw [if_neg hlast]
          show Turn.map _ _ (if page.nextPageToken.contents.isEmpty = true then _ else _) = _
          rw [if_neg hlast]
          rfl

theorem loadCatalogTurn_keeps {remote : Remote σ} {config : RustExtClientConfig} {fuel : Nat}
    (hconfig : config.blocks ≤ owned) (state : PageLoop σ RustExtCatalogTable)
    (turn : Turn (PageLoop σ RustExtCatalogTable) (Except String RustExtCatalog × World σ × Memory))
    (h : state.2.2.2.Holds (blocksOf RustExtCatalogTable.blocks state.1 + owned))
    (hturn : loadCatalogTurn remote config fuel state = some turn) :
    turn.Keeps
      (fun state => state.2.2.2.Holds (blocksOf RustExtCatalogTable.blocks state.1 + owned))
      (fun result => Settles RustExtCatalog.blocks owned result.1 result.2.2) := by
  obtain ⟨catalogTables, pageToken, world, memory⟩ := state
  have hlive := hconfig.trans
    (Multiset.le_add_left owned (blocksOf RustExtCatalogTable.blocks catalogTables))
  simp only [loadCatalogTurn] at hturn
  rcases hfetch : fetch remote config (listTablesOperation config.toValue pageToken)
    (tableListFromJson remote.serde) world memory with ⟨message | page, mid, rest⟩ <;>
    rw [hfetch] at hturn
  · cases hturn
    obtain ⟨lost, hlost⟩ := settles_error.mp
      (fetch_settles (tableListFromJson_owned remote.serde).leaves h hlive hfetch)
    exact settles_error.mpr ⟨lost + blocksOf RustExtCatalogTable.blocks catalogTables,
      hlost.of_eq (add_assoc _ _ _).symm⟩
  · have hpage := settles_ok.mp
      (fetch_settles (tableListFromJson_owned remote.serde).leaves h hlive hfetch)
    obtain ⟨⟨answer, world', memory'⟩, hload, rfl⟩ := Option.map_eq_some_iff.mp hturn
    -- while the tables of the page are read, its token stays
    have htables := loadTables_settles
      (hconfig.trans (Multiset.le_add_left owned page.nextPageToken.blocks))
      page.items.contents catalogTables (RawParts.release_holds (hpage.of_eq (by
        rw [RustExtTableList.blocks]
        abel))) hload
    cases answer with
    | error message =>
        obtain ⟨lost, hlost⟩ := settles_error.mp htables
        exact settles_error.mpr ⟨lost + page.nextPageToken.blocks,
          hlost.of_eq (add_assoc _ _ _).symm⟩
    | ok entries =>
        have htoken : (takeToken page.nextPageToken memory').2.Holds
            (blocksOf RustExtCatalogTable.blocks entries + owned) :=
          takeToken_holds ((settles_ok.mp htables).of_eq (by abel))
        exact Turn.keeps_ite (settles_ok.mpr (vecIntoRawParts_holds htoken)) htoken

theorem loadCatalog_value (fuel : Nat) (remote : Remote σ) (config : RustExtClientConfig)
    (world : World σ) (memory : Memory) :
    (loadCatalog fuel remote config world memory).map (forget RustExtCatalog.toValue) =
      DuckdbCoda.loadCatalog fuel remote config.toValue world :=
  run_map (forgetLoop RustExtCatalogTable.toValue) (forget RustExtCatalog.toValue)
    (loadCatalogTurn_value remote config fuel) fuel ([], "", world, memory)

theorem loadCatalog_settles {fuel : Nat} {remote : Remote σ} {config : RustExtClientConfig}
    {world world' : World σ} {answer : Except String RustExtCatalog} (h : memory.Holds owned)
    (hconfig : config.blocks ≤ owned)
    (hload : loadCatalog fuel remote config world memory = some (answer, world', memory')) :
    Settles RustExtCatalog.blocks owned answer memory' :=
  run_invariant
    (fun state => state.2.2.2.Holds (blocksOf RustExtCatalogTable.blocks state.1 + owned))
    (fun result => Settles RustExtCatalog.blocks owned result.1 result.2.2)
    (loadCatalogTurn_keeps hconfig) fuel ([], "", world, memory) _ (h.of_eq (zero_add _).symm)
    hload

/-! ## `next_batch` -/

theorem keepVisible_value (rows : List RustExtRow) (memory : Memory) :
    (keepVisible rows memory).1 = rows.filter fun row => !row.deleted := by
  induction rows generalizing memory with
  | nil => rfl
  | cons row rest ih =>
      rw [keepVisible, List.filter_cons]
      cases row.deleted with
      | true => exact ih _
      | false => exact congrArg (row :: ·) (ih _)

theorem keepVisible_holds :
    ∀ (rows : List RustExtRow) {memory : Memory} {owned : Multiset Nat},
      memory.Holds (blocksOf RustExtRow.blocks rows + owned) →
      (keepVisible rows memory).2.Holds
        (blocksOf RustExtRow.blocks (keepVisible rows memory).1 + owned) := by
  intro rows
  induction rows with
  | nil => exact fun h => h
  | cons row rest ih =>
      intro memory owned h
      rw [blocksOf_cons, add_assoc] at h
      rw [keepVisible]
      cases row.deleted with
      | true => exact ih (freeRow_holds row memory _ h)
      | false =>
          have hrest := ih (h.of_eq (add_left_comm _ _ _))
          refine hrest.of_eq ?_
          show _ = blocksOf RustExtRow.blocks (row :: (keepVisible rest memory).1) + owned
          rw [blocksOf_cons]
          abel

theorem visiblePage_value (response : CodaRowsResponse) (memory : Memory) :
    (visiblePage response memory).1.contents.map RustExtRow.toValue =
      visibleRows response.toValue := by
  show (vecIntoRawParts (keepVisible response.rows.contents _).1 _).1.contents.map _ = _
  rw [vecIntoRawParts_contents, keepVisible_value, visibleRows, CodaRowsResponse.toValue,
    List.filter_map]
  rfl

theorem visiblePage_holds {response : CodaRowsResponse}
    (h : memory.Holds (response.blocks + owned)) :
    (visiblePage response memory).2.Holds ((visiblePage response memory).1.blocks +
      blocksOf RustExtRow.blocks (visiblePage response memory).1.contents + owned) := by
  have hpage : response.nextPageToken.borrow memory = memory :=
    RawParts.borrow_eq h (((Multiset.le_add_left _ _).trans (Multiset.le_add_right _ _)).trans
      (Multiset.le_add_right _ _))
  have hsync : response.nextSyncToken.borrow memory = memory :=
    RawParts.borrow_eq h ((Multiset.le_add_left _ _).trans (Multiset.le_add_right _ _))
  have hrows : (vecFromRawParts response.rows (response.nextSyncToken.release
      (response.nextPageToken.release memory))).2.Holds
        (blocksOf RustExtRow.blocks response.rows.contents + owned) := by
    refine vecFromRawParts_holds (RawParts.release_holds (RawParts.release_holds (h.of_eq ?_)))
    rw [CodaRowsResponse.blocks]
    abel
  rw [visiblePage]
  simp only [hpage, hsync]
  exact vecIntoRawParts_holds (keepVisible_holds _ hrows)

theorem visiblePage_blocks_nil {response : CodaRowsResponse}
    (h : (visiblePage response memory).1.contents = []) :
    (visiblePage response memory).1.blocks = 0 :=
  vecIntoRawParts_blocks_nil _ ((vecIntoRawParts_contents _ _).symm.trans h)

/-- What a call of `next_batch` returns, without the memory. -/
def forgetBatch (result : Except String RustExtScanBatch × ScanHandle × World σ × Memory) :
    Except String DuckdbCoda.RustExtScanBatch × DuckdbCoda.ScanHandle × World σ :=
  (result.1.map RustExtScanBatch.toValue, result.2.1.toValue, result.2.2.1)

theorem nextBatchTurn_value (remote : Remote σ) (state : ScanHandle × World σ × Memory) :
    (ScanHandle.nextBatchTurn remote state).map
        (fun state => (state.1.toValue, state.2.1)) forgetBatch =
      DuckdbCoda.ScanHandle.nextBatchTurn remote (state.1.toValue, state.2.1) := by
  obtain ⟨scan, world, memory⟩ := state
  have hvalue : forget CodaRowsResponse.toValue (listRows remote scan.config
      scan.handle.request.2.tableId scan.handle.request.1 world memory) =
      DuckdbCoda.listRows remote scan.toValue.request.2.config scan.toValue.request.2.tableId
        scan.toValue.request.1 world :=
    fetch_value remote scan.config _ (rowsFromJson_owned remote.serde).value world memory
  simp only [ScanHandle.nextBatchTurn, DuckdbCoda.ScanHandle.nextBatchTurn, ← hvalue,
    show scan.toValue.finished = scan.handle.finished from rfl]
  cases scan.handle.finished with
  | true => rfl
  | false =>
      rcases listRows remote scan.config scan.handle.request.2.tableId scan.handle.request.1 world
        memory with ⟨message | response, mid, rest⟩
      · rfl
      · -- deleted rows are freed on the one side and filtered out on the other
        have hrows := visiblePage_value response rest
        have hempty : (visiblePage response rest).1.contents.isEmpty =
            (visibleRows response.toValue).isEmpty := by
          rw [← hrows, List.isEmpty_map]
        simp only [Bool.false_eq_true, if_false, forget, Except.map, hempty]
        show Turn.map _ _ (if (!(visibleRows response.toValue).isEmpty ||
          (scan.handle.request.2.advance response.toValue).finished) = true then _ else _) =
          if (!(visibleRows response.toValue).isEmpty ||
            (scan.handle.request.2.advance response.toValue).finished) = true then _ else _
        by_cases hend : (!(visibleRows response.toValue).isEmpty ||
          (scan.handle.request.2.advance response.toValue).finished) = true
        · rw [if_pos hend, if_pos hend, ← hrows]
          rfl
        · rw [if_neg hend, if_neg hend]
          rfl

theorem nextBatchTurn_keeps {remote : Remote σ} {config : RustExtClientConfig}
    (hconfig : config.blocks ≤ owned) (state : ScanHandle × World σ × Memory)
    (h : state.1.config = config ∧ state.2.2.Holds owned) :
    (ScanHandle.nextBatchTurn remote state).Keeps
      (fun state => state.1.config = config ∧ state.2.2.Holds owned)
      (fun result => result.2.1.config = config ∧
        Settles RustExtScanBatch.blocks owned result.1 result.2.2.2) := by
  obtain ⟨scan, world, memory⟩ := state
  obtain ⟨rfl, h⟩ := h
  simp only [ScanHandle.nextBatchTurn]
  cases scan.handle.finished with
  | true => exact ⟨rfl, settles_ok.mpr (h.of_eq (zero_add _).symm)⟩
  | false =>
      rcases hfetch : listRows remote scan.config scan.handle.request.2.tableId
        scan.handle.request.1 world memory with ⟨message | response, mid, rest⟩
      · exact ⟨rfl, fetch_settles (rowsFromJson_owned remote.serde).leaves h hconfig hfetch⟩
      · have hpage := visiblePage_holds (settles_ok.mp
          (fetch_settles (rowsFromJson_owned remote.serde).leaves h hconfig hfetch))
        simp only [Bool.false_eq_true, if_false]
        by_cases hend : (!(visiblePage response rest).1.contents.isEmpty ||
          (scan.handle.request.2.advance response.toValue).finished) = true
        · rw [if_pos hend]
          exact ⟨rfl, settles_ok.mpr hpage⟩
        · -- a page without visible rows has no array either
          rw [if_neg hend]
          have hnil : (visiblePage response rest).1.contents = [] := by
            simp only [Bool.or_eq_true, Bool.not_eq_true', List.isEmpty_eq_false_iff,
              not_or, ne_eq, not_not] at hend
            exact hend.1
          refine ⟨rfl, hpage.of_eq ?_⟩
          rw [hnil, visiblePage_blocks_nil hnil, blocksOf_nil, add_zero, zero_add]

theorem nextBatch_value (fuel : Nat) (remote : Remote σ) (scan : ScanHandle) (world : World σ)
    (memory : Memory) :
    (scan.nextBatch fuel remote world memory).map forgetBatch =
      scan.toValue.nextBatch fuel remote world := by
  show (run (fun state => some (ScanHandle.nextBatchTurn remote state)) fuel
    (scan, world, memory)).map forgetBatch =
      run (fun state => some (DuckdbCoda.ScanHandle.nextBatchTurn remote state)) fuel
        (scan.toValue, world)
  refine run_map (fun state => (state.1.toValue, state.2.1)) forgetBatch ?_ fuel
    (scan, world, memory)
  exact fun state => congrArg some (nextBatchTurn_value remote state)

theorem nextBatch_settles {fuel : Nat} {remote : Remote σ} {scan scan' : ScanHandle}
    {world world' : World σ} {answer : Except String RustExtScanBatch} (h : memory.Holds owned)
    (hconfig : scan.config.blocks ≤ owned)
    (hnext : scan.nextBatch fuel remote world memory = some (answer, scan', world', memory')) :
    scan'.config = scan.config ∧ Settles RustExtScanBatch.blocks owned answer memory' :=
  run_invariant (fun state => state.1.config = scan.config ∧ state.2.2.Holds owned)
    (fun result => result.2.1.config = scan.config ∧
      Settles RustExtScanBatch.blocks owned result.1 result.2.2.2)
    (fun state _ hinv hturn => Option.some.inj hturn ▸ nextBatchTurn_keeps hconfig state hinv)
    fuel (scan, world, memory) _ ⟨rfl, h⟩ hnext

end DuckdbCoda.Abi
