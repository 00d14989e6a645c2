import DuckdbCoda.Logic.PrepareColumns
import DuckdbCoda.Logic.Requests

/-!
# Where the tables of a catalog come from

Every table of a loaded catalog is an item of a table list the server answered
while the catalog was loaded, and every column of it is an item of a column
list or a row metadata column, up to its name (`loadCatalog_origin`). What the
capability bits of tables and columns promise follows from the two readers.
-/

namespace DuckdbCoda

open Loop

variable {σ : Type}

/-! ## Items of the answers -/

/-- An item of a table list answered in the log. -/
def ListedItem (serde : SerdeJson) (log : List Exchange) (item : Json) : Prop :=
  ∃ exchange ∈ log, ∃ input body root items,
    exchange.operation = .listTables input ∧
    exchange.reply = .answered exchange.request.expectedStatus (.ok body) ∧
    serde.fromStr body = .ok root ∧ pageItems root = .ok items ∧ item ∈ items

/-- A column read from an item of a column list, or row metadata, up to its
name. -/
def LoadedColumn (column : RustExtColumn) : Prop :=
  (∃ item read, columnFromJson item = .ok read ∧ anonymous column = anonymous read) ∨
  (∃ name, anonymous column = anonymous (metadataColumn name))

/-- A table read from a listed item, with loaded columns. -/
structure LoadedTable (serde : SerdeJson) (log : List Exchange) (table : RustExtCatalogTable) :
    Prop where
  listed : ∃ item, ListedItem serde log item ∧ item.getStr "id" = some table.id ∧
    table.capabilities = tableCapabilities item
  columns : ∀ column ∈ table.columns, LoadedColumn column

theorem ListedItem.mono {serde : SerdeJson} {log log' : List Exchange} {item : Json}
    (hlog : log ⊆ log') (h : ListedItem serde log item) : ListedItem serde log' item := by
  obtain ⟨exchange, hmem, h⟩ := h
  exact ⟨exchange, hlog hmem, h⟩

theorem LoadedTable.mono {serde : SerdeJson} {log log' : List Exchange}
    {table : RustExtCatalogTable} (hlog : log ⊆ log') (h : LoadedTable serde log table) :
    LoadedTable serde log' table := by
  obtain ⟨⟨item, hitem, hid⟩, hcolumns⟩ := h
  exact ⟨⟨item, hitem.mono hlog, hid⟩, hcolumns⟩

/-! ## What the bits promise -/

/-- Only base tables get the bits for writing. -/
theorem listedAsTable_of_writable {item : Json} {bit : UInt32}
    (hbit : bit = tableInsert ∨ bit = tableUpdate ∨ bit = tableDelete)
    (h : hasBit (tableCapabilities item) bit = true) : listedAsTable item = true := by
  cases hlisted : listedAsTable item with
  | true => rfl
  | false =>
      rw [tableCapabilities, hlisted] at h
      rcases hbit with rfl | rfl | rfl <;> revert h <;> decide

theorem anonymous_capabilities {column column' : RustExtColumn}
    (h : anonymous column = anonymous column') : column.capabilities = column'.capabilities := by
  show (anonymous column).capabilities = (anonymous column').capabilities
  rw [h]

theorem anonymous_logicalType {column column' : RustExtColumn}
    (h : anonymous column = anonymous column') : column.logicalType = column'.logicalType := by
  show (anonymous column).logicalType = (anonymous column').logicalType
  rw [h]

/-- What a loaded column that can be filtered or edited is like. -/
structure PlainColumn (column : RustExtColumn) : Prop where
  notSystem : hasBit column.capabilities columnSystem = false
  logicalType : column.logicalType = 0 ∨ column.logicalType = 1 ∨ column.logicalType = 2

theorem logicalType_cases (formatType : String) (isArray : Bool) :
    logicalType formatType isArray = 0 ∨ logicalType formatType isArray = 1 ∨
      logicalType formatType isArray = 2 := by
  unfold logicalType
  split
  · exact .inl rfl
  · split
    · exact .inr (.inl rfl)
    · split
      · exact .inr (.inr rfl)
      · exact .inl rfl

/-- A column of a column list is not a system column. -/
theorem plainColumn_of_columnFromJson {item : Json} {column : RustExtColumn}
    (h : columnFromJson item = .ok column) : PlainColumn column := by
  obtain ⟨id, _, h⟩ := bind_eq_ok h
  obtain ⟨name, _, h⟩ := bind_eq_ok h
  cases h
  refine ⟨?_, logicalType_cases _ _⟩
  show hasBit (columnCapabilities _ _) columnSystem = false
  -- the four combinations of `calculated` and `isArray`
  generalize (item.getBool "calculated").getD false = calculated
  generalize (((item.get "format").bind fun inner => inner.asObject.map fun _ => inner).bind
    (Json.getBool "isArray")).getD false = isArray
  cases calculated <;> cases isArray <;> decide

/-- A loaded column is plain or row metadata. -/
theorem LoadedColumn.plain_or_metadata {column : RustExtColumn} (h : LoadedColumn column) :
    PlainColumn column ∨
      column.capabilities = columnGenerated ||| columnSystem ||| columnSortAsc := by
  rcases h with ⟨item, read, hread, hsame⟩ | ⟨name, hsame⟩
  · left
    have hplain := plainColumn_of_columnFromJson hread
    have hcapabilities := anonymous_capabilities hsame
    have hlogicalType := anonymous_logicalType hsame
    exact ⟨hcapabilities ▸ hplain.notSystem, hlogicalType ▸ hplain.logicalType⟩
  · exact .inr (anonymous_capabilities hsame)

/-- A loaded column with the bit for filtering or for editing is plain. -/
theorem LoadedColumn.plain {column : RustExtColumn} (h : LoadedColumn column)
    (hbit : hasBit column.capabilities columnFilterEquality = true ∨
      hasBit column.capabilities columnEditable = true) : PlainColumn column := by
  rcases h.plain_or_metadata with hplain | hcapabilities
  · exact hplain
  · rw [hcapabilities] at hbit
    exact absurd hbit (by decide)

/-- A loaded column that is not a system column is plain. -/
theorem LoadedColumn.plain_of_notSystem {column : RustExtColumn} (h : LoadedColumn column)
    (hsystem : hasBit column.capabilities columnSystem = false) : PlainColumn column := by
  rcases h.plain_or_metadata with hplain | hcapabilities
  · exact hplain
  · rw [hcapabilities] at hsystem
    exact absurd hsystem (by decide)

/-! ## The columns of a table -/

/-- What `prepare_columns` leaves of loaded columns are loaded columns. -/
theorem loadedColumn_of_anonymous {columns columns' : List RustExtColumn}
    (hsame : columns'.map anonymous = columns.map anonymous)
    (h : ∀ column ∈ columns, LoadedColumn column) :
    ∀ column ∈ columns', LoadedColumn column := by
  intro column hmem
  have hmap : anonymous column ∈ columns.map anonymous := hsame ▸ List.mem_map_of_mem hmem
  obtain ⟨original, horiginal, hanonymous⟩ := List.mem_map.mp hmap
  rcases h original horiginal with ⟨item, read, hread, heq⟩ | ⟨name, heq⟩
  · exact .inl ⟨item, read, hread, hanonymous.symm.trans heq⟩
  · exact .inr ⟨name, hanonymous.symm.trans heq⟩

theorem finishColumns_loaded {fuel : Nat} {config : RustExtClientConfig}
    {all columns : List RustExtColumn} (h : finishColumns fuel config all = some columns)
    (hall : ∀ column ∈ all, LoadedColumn column) : ∀ column ∈ columns, LoadedColumn column := by
  refine loadedColumn_of_anonymous (prepareColumns_anonymous h) ?_
  split
  · intro column hmem
    rcases List.mem_append.mp hmem with hmem | hmem
    · exact hall column hmem
    · obtain ⟨name, _, rfl⟩ := List.mem_map.mp hmem
      exact .inr ⟨name, rfl⟩
  · exact hall

/-- The log has grown from one world to the other. -/
def LogGrows (before after : World σ) : Prop := ∃ sent, after.log = before.log ++ sent

theorem LogGrows.refl (world : World σ) : LogGrows world world := ⟨[], by simp⟩

theorem LogGrows.trans {first second third : World σ} (h : LogGrows first second)
    (h' : LogGrows second third) : LogGrows first third := by
  obtain ⟨sent, hsent⟩ := h
  obtain ⟨sent', hsent'⟩ := h'
  exact ⟨sent ++ sent', by rw [hsent', hsent, List.append_assoc]⟩

theorem LogGrows.of_fetch {α : Type} {remote : Remote σ} {config : RustExtClientConfig}
    {operation : Operation} {decode : String → Except String α} {world world' : World σ}
    {answer : Except String α} (h : fetch remote config operation decode world = (answer, world')) :
    LogGrows world world' := by
  obtain ⟨sent, hsent, _⟩ := fetch_log remote config operation decode world
  rw [h] at hsent
  exact ⟨sent, hsent⟩

/-- What was sent meanwhile was sent since an earlier world. -/
theorem LogGrows.sentSince_subset {first second third fourth : World σ}
    (h : LogGrows first second) (h' : LogGrows second third) (h'' : LogGrows third fourth) :
    sentSince second third ⊆ sentSince first fourth := by
  obtain ⟨sent, hsent⟩ := h
  obtain ⟨sent', hsent'⟩ := h'
  obtain ⟨sent'', hsent''⟩ := h''
  rw [hsent', hsent, List.append_assoc, List.append_assoc] at hsent''
  rw [sentSince_eq hsent', sentSince_eq hsent'']
  intro exchange hmem
  exact List.mem_append_right _ (List.mem_append_left _ hmem)

/-- What the loop of `load_columns` holds on to. -/
def ColumnsLoaded (world : World σ) (state : List RustExtColumn × String × World σ) : Prop :=
  LogGrows world state.2.2 ∧ ∀ column ∈ state.1, LoadedColumn column

/-- What `load_columns` promises of its result. -/
def ColumnsResult (world : World σ) (outcome : Except String (List RustExtColumn) × World σ) :
    Prop :=
  LogGrows world outcome.2 ∧
    ∀ columns, outcome.1 = .ok columns → ∀ column ∈ columns, LoadedColumn column

/-- One turn of `load_columns` adds columns of the page to those so far. -/
theorem loadColumnsTurn_loaded {remote : Remote σ} {config : RustExtClientConfig}
    {tableId : String} {world : World σ} {state : List RustExtColumn × String × World σ}
    {turn : Turn (List RustExtColumn × String × World σ)
      (Except String (List RustExtColumn) × World σ)}
    (hstate : ColumnsLoaded world state)
    (hturn : some (loadColumnsTurn remote config tableId state) = some turn) :
    turn.Keeps (ColumnsLoaded world) (ColumnsResult world) := by
  have hturn := Option.some.inj hturn
  obtain ⟨all, pageToken, mid⟩ := state
  obtain ⟨hgrows, hall⟩ := hstate
  rcases hpage : fetchColumns remote config tableId pageToken mid with ⟨message | page, world'⟩
  · simp only [loadColumnsTurn, hpage] at hturn
    subst hturn
    exact ⟨hgrows.trans (.of_fetch hpage), fun columns h => by cases h⟩
  · have hitems : ∀ column ∈ all ++ page.items, LoadedColumn column := by
      intro column hmem
      rcases List.mem_append.mp hmem with hmem | hmem
      · exact hall column hmem
      · -- a column of the page was read from one of its items
        obtain ⟨_, body, _, _, _, hdecode⟩ := fetch_ok hpage
        obtain ⟨item, hread⟩ := columnListFromJson_ok hdecode column hmem
        exact .inl ⟨item, column, hread, rfl⟩
    cases hempty : page.nextPageToken.isEmpty
    · simp only [loadColumnsTurn, hpage, hempty, Bool.false_eq_true, if_false] at hturn
      subst hturn
      exact ⟨hgrows.trans (.of_fetch hpage), hitems⟩
    · simp only [loadColumnsTurn, hpage, hempty, if_true] at hturn
      subst hturn
      refine ⟨hgrows.trans (.of_fetch hpage), ?_⟩
      intro columns h
      cases h
      exact hitems

/-- `load_columns` only adds to the log, and gives loaded columns. -/
theorem loadColumns_loaded {fuel : Nat} {remote : Remote σ} {config : RustExtClientConfig}
    {tableId : String} {world : World σ} {outcome : Except String (List RustExtColumn) × World σ}
    (h : loadColumns fuel remote config tableId world = some outcome) :
    ColumnsResult world outcome := by
  have hloop : ∀ outcome, Loop.run
      (fun state => some (loadColumnsTurn remote config tableId state)) fuel ([], "", world) =
        some outcome → ColumnsResult world outcome := by
    intro outcome
    exact run_invariant (ColumnsLoaded world) (ColumnsResult world)
      (fun state turn => loadColumnsTurn_loaded) fuel _ outcome ⟨.refl world, by simp⟩
  unfold loadColumns at h
  split at h
  · cases h
  · rename_i message world' hrun
    cases h
    exact hloop _ hrun
  · rename_i all world' hrun
    obtain ⟨hgrows, hall⟩ := hloop _ hrun
    obtain ⟨columns, hfinish, rfl⟩ := Option.map_eq_some_iff.mp h
    refine ⟨hgrows, ?_⟩
    intro columns' h
    cases h
    exact finishColumns_loaded hfinish (hall all rfl)

/-! ## The tables of a page -/

/-- `for table in tables` adds tables of the page, with loaded columns. -/
theorem loadTables_loaded {fuel : Nat} {remote : Remote σ} {config : RustExtClientConfig}
    (items : List RustExtTable) :
    ∀ {acc : List RustExtCatalogTable} {world : World σ}
      {outcome : Except String (List RustExtCatalogTable) × World σ},
      loadTables fuel remote config items acc world = some outcome →
      LogGrows world outcome.2 ∧
        ∀ tables, outcome.1 = .ok tables → ∀ table ∈ tables, table ∈ acc ∨
          ∃ listed ∈ items, ∃ columns, table = catalogTable listed columns ∧
            ∀ column ∈ columns, LoadedColumn column := by
  induction items with
  | nil =>
      intro acc world outcome h
      cases h
      refine ⟨.refl world, ?_⟩
      intro tables h table hmem
      cases h
      exact .inl hmem
  | cons head rest ih =>
      intro acc world outcome h
      rw [loadTables] at h
      split at h
      · cases h
      · rename_i message world' hcolumns
        cases h
        exact ⟨(loadColumns_loaded hcolumns).1, fun tables h => by cases h⟩
      · rename_i columns world' hcolumns
        obtain ⟨hgrows, hloaded⟩ := loadColumns_loaded hcolumns
        obtain ⟨hgrows', htables⟩ := ih h
        refine ⟨hgrows.trans hgrows', ?_⟩
        intro tables h table hmem
        -- a table at the end is one of before, this one, or one of the rest
        rcases htables tables h table hmem with hmem | ⟨listed, hlisted, hread⟩
        · rcases List.mem_append.mp hmem with hmem | hmem
          · exact .inl hmem
          · exact .inr ⟨head, List.mem_cons_self, columns, List.mem_singleton.mp hmem,
              hloaded columns rfl⟩
        · exact .inr ⟨listed, List.mem_cons_of_mem _ hlisted, hread⟩

/-! ## The catalog -/

/-- What the loop of `load_catalog` holds on to. -/
def TablesLoaded (serde : SerdeJson) (world : World σ)
    (state : List RustExtCatalogTable × String × World σ) : Prop :=
  LogGrows world state.2.2 ∧
    ∀ table ∈ state.1, LoadedTable serde (sentSince world state.2.2) table

/-- What `load_catalog` promises of its result. -/
def CatalogResult (serde : SerdeJson) (world : World σ)
    (outcome : Except String RustExtCatalog × World σ) : Prop :=
  LogGrows world outcome.2 ∧ ∀ catalog, outcome.1 = .ok catalog →
    ∀ table ∈ catalog.tables, LoadedTable serde (sentSince world outcome.2) table

/-- The tables of a page that was fetched are listed. -/
theorem listed_of_fetchTables {remote : Remote σ} {config : RustExtClientConfig}
    {pageToken : String} {world world' : World σ} {page : RustExtTableList}
    (h : fetchTables remote config pageToken world = (.ok page, world')) :
    ∀ listed ∈ page.items, ∃ item, ListedItem remote.serde (sentSince world world') item ∧
      tableFromJson item = .ok listed := by
  obtain ⟨exchange, body, hlog, hoperation, hreply, hdecode⟩ := fetch_ok h
  obtain ⟨root, items, hroot, hitems, hread⟩ := tableListFromJson_ok hdecode
  intro listed hmem
  obtain ⟨item, hitem, hlisted⟩ := hread listed hmem
  refine ⟨item, ?_, hlisted⟩
  rw [sentSince_eq hlog]
  exact ⟨exchange, List.mem_cons_self, _, body, root, items, hoperation, hreply, hroot, hitems,
    hitem⟩

theorem tableFromJson_ok {item : Json} {table : RustExtTable}
    (h : tableFromJson item = .ok table) :
    item.getStr "id" = some table.id ∧ table.capabilities = tableCapabilities item := by
  obtain ⟨id, hid, h⟩ := bind_eq_ok h
  obtain ⟨name, _, h⟩ := bind_eq_ok h
  cases h
  exact ⟨okOr_eq_ok.mp hid, rfl⟩

theorem loadCatalogTurn_loaded {fuel : Nat} {remote : Remote σ} {config : RustExtClientConfig}
    {world : World σ} {state : List RustExtCatalogTable × String × World σ}
    {turn : Turn (List RustExtCatalogTable × String × World σ)
      (Except String RustExtCatalog × World σ)}
    (hstate : TablesLoaded remote.serde world state)
    (hturn : loadCatalogTurn remote config fuel state = some turn) :
    turn.Keeps (TablesLoaded remote.serde world) (CatalogResult remote.serde world) := by
  obtain ⟨acc, pageToken, mid⟩ := state
  obtain ⟨hgrows, hacc⟩ := hstate
  rcases hpage : fetchTables remote config pageToken mid with ⟨message | page, asked⟩
  · simp only [loadCatalogTurn, hpage] at hturn
    cases hturn
    exact ⟨hgrows.trans (.of_fetch hpage), fun catalog h => by cases h⟩
  · simp only [loadCatalogTurn, hpage] at hturn
    obtain ⟨outcome, htables, hturn⟩ := Option.map_eq_some_iff.mp hturn
    obtain ⟨hgrows', hloaded⟩ := loadTables_loaded page.items htables
    have hasked : LogGrows world asked := hgrows.trans (.of_fetch hpage)
    have hafter : LogGrows world outcome.2 := hasked.trans hgrows'
    obtain ⟨result, after⟩ := outcome
    cases result with
    | error message =>
        subst hturn
        exact ⟨hafter, fun catalog h => by cases h⟩
    | ok tables =>
        have hall : ∀ table ∈ tables, LoadedTable remote.serde (sentSince world after) table := by
          intro table hmem
          rcases hloaded tables rfl table hmem with hmem | ⟨listed, hlisted, columns, rfl, hcolumns⟩
          · -- listed on an earlier page
            exact (hacc table hmem).mono
              ((LogGrows.refl world).sentSince_subset hgrows (.trans (.of_fetch hpage) hgrows'))
          · -- listed on this page
            obtain ⟨item, hitem, hread⟩ := listed_of_fetchTables hpage listed hlisted
            have hsent := hgrows.sentSince_subset (.of_fetch hpage) hgrows'
            exact ⟨⟨item, hitem.mono hsent, tableFromJson_ok hread⟩, hcolumns⟩
        cases hempty : page.nextPageToken.isEmpty
        · simp only [hempty, Bool.false_eq_true, if_false] at hturn
          subst hturn
          exact ⟨hafter, hall⟩
        · simp only [hempty, if_true] at hturn
          subst hturn
          refine ⟨hafter, ?_⟩
          intro catalog h
          cases h
          exact hall

/-- **Where a catalog comes from**: its tables are items of the table lists the
server answered while it was loaded. -/
theorem loadCatalog_origin {fuel : Nat} {remote : Remote σ} {config : RustExtClientConfig}
    {world world' : World σ} {catalog : RustExtCatalog}
    (h : loadCatalog fuel remote config world = some (.ok catalog, world')) :
    ∀ table ∈ catalog.tables, LoadedTable remote.serde (sentSince world world') table := by
  have hresult : CatalogResult remote.serde world (.ok catalog, world') :=
    run_invariant (TablesLoaded remote.serde world) (CatalogResult remote.serde world)
      (fun state turn => loadCatalogTurn_loaded) fuel _ _ ⟨.refl world, by simp⟩ h
  exact hresult.2 catalog rfl

end DuckdbCoda
