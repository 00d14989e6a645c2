import DuckdbCoda.Logic.CatalogOrigin
import DuckdbCoda.Logic.Speakers

/-!
# Columns and the table they were listed for

Every column of a table of a loaded catalog was listed by the server for that
table of that document, or is row metadata, up to its name
(`loadCatalog_columns`). So a column that can be filtered was listed, and one
that can be sorted by is row metadata.
-/

namespace DuckdbCoda

open Loop

variable {σ : Type} {serde : SerdeJson} {log log' : List Exchange} {docId tableId : String}

/-- A column of a column list the server has answered for the table. -/
def ListedColumn (serde : SerdeJson) (log : List Exchange) (docId tableId : String)
    (column : RustExtColumn) : Prop :=
  ∃ exchange ∈ log, ∃ input body page,
    exchange.operation = .listColumns input ∧ input.docId = docId ∧
    input.tableIdOrName = tableId ∧
    exchange.reply = .answered exchange.request.expectedStatus (.ok body) ∧
    columnListFromJson serde body = .ok page ∧ column ∈ page.items

/-- Up to its name, a listed column or one of the two of row metadata. -/
def ColumnOf (serde : SerdeJson) (log : List Exchange) (docId tableId : String)
    (column : RustExtColumn) : Prop :=
  (∃ listed, ListedColumn serde log docId tableId listed ∧ anonymous column = anonymous listed) ∨
    anonymous column = anonymous (metadataColumn "createdAt") ∨
    anonymous column = anonymous (metadataColumn "updatedAt")

/-- Every column of the catalog is one of its table. -/
def CatalogColumns (serde : SerdeJson) (log : List Exchange) (docId : String)
    (catalog : RustExtCatalog) : Prop :=
  ∀ table ∈ catalog.tables, ∀ column ∈ table.columns, ColumnOf serde log docId table.id column

theorem ListedColumn.mono {column : RustExtColumn} (hlog : log ⊆ log')
    (h : ListedColumn serde log docId tableId column) :
    ListedColumn serde log' docId tableId column := by
  obtain ⟨exchange, hmem, h⟩ := h
  exact ⟨exchange, hlog hmem, h⟩

theorem ColumnOf.mono {column : RustExtColumn} (hlog : log ⊆ log')
    (h : ColumnOf serde log docId tableId column) : ColumnOf serde log' docId tableId column := by
  rcases h with ⟨listed, hlisted, hsame⟩ | hmetadata
  · exact .inl ⟨listed, hlisted.mono hlog, hsame⟩
  · exact .inr hmetadata

theorem CatalogColumns.mono {catalog : RustExtCatalog} (hlog : log ⊆ log')
    (h : CatalogColumns serde log docId catalog) : CatalogColumns serde log' docId catalog :=
  fun table htable column hcolumn => (h table htable column hcolumn).mono hlog

/-! ## What the bits promise -/

theorem anonymous_id {column column' : RustExtColumn} (h : anonymous column = anonymous column') :
    column.id = column'.id := by
  show (anonymous column).id = (anonymous column').id
  rw [h]

/-- No column of a column list can be sorted by. -/
theorem not_sortable_of_listed {column : RustExtColumn}
    (h : ListedColumn serde log docId tableId column) :
    hasBit column.capabilities columnSortAsc = false := by
  obtain ⟨_, _, _, body, page, _, _, _, _, hdecode, hmem⟩ := h
  obtain ⟨item, hread⟩ := columnListFromJson_ok hdecode column hmem
  obtain ⟨id, _, hread⟩ := bind_eq_ok hread
  obtain ⟨name, _, hread⟩ := bind_eq_ok hread
  cases hread
  show hasBit (columnCapabilities _ _) columnSortAsc = false
  -- the four combinations of `calculated` and `isArray`
  generalize (item.getBool "calculated").getD false = calculated
  generalize (((item.get "format").bind fun inner => inner.asObject.map fun _ => inner).bind
    (Json.getBool "isArray")).getD false = isArray
  cases calculated <;> cases isArray <;> decide

/-- A column that can be sorted by is row metadata. -/
theorem ColumnOf.sortable {column : RustExtColumn} (h : ColumnOf serde log docId tableId column)
    (hsort : hasBit column.capabilities columnSortAsc = true) :
    column.id = "createdAt" ∨ column.id = "updatedAt" := by
  rcases h with ⟨listed, hlisted, hsame⟩ | hsame | hsame
  · rw [anonymous_capabilities hsame, not_sortable_of_listed hlisted] at hsort
    cases hsort
  · exact .inl (anonymous_id hsame)
  · exact .inr (anonymous_id hsame)

/-- A column that can be filtered was listed. -/
theorem ColumnOf.filterable {column : RustExtColumn} (h : ColumnOf serde log docId tableId column)
    (hfilter : hasBit column.capabilities columnFilterEquality = true) :
    ∃ listed, ListedColumn serde log docId tableId listed ∧ listed.id = column.id ∧
      hasBit listed.capabilities columnFilterEquality = true := by
  rcases h with ⟨listed, hlisted, hsame⟩ | hsame | hsame
  · refine ⟨listed, hlisted, (anonymous_id hsame).symm, ?_⟩
    rw [← anonymous_capabilities hsame]
    exact hfilter
  · rw [anonymous_capabilities hsame] at hfilter
    exact absurd hfilter (by decide)
  · rw [anonymous_capabilities hsame] at hfilter
    exact absurd hfilter (by decide)

/-! ## Loading -/

variable {remote : Remote σ} {config : RustExtClientConfig} {fuel : Nat}

/-- A page of columns that was read is in the log. -/
theorem listed_of_fetchColumns {pageToken : String} {world world' : World σ}
    {page : RustExtColumnList}
    (h : fetchColumns remote config tableId pageToken world = (.ok page, world')) :
    ∀ column ∈ page.items,
      ListedColumn remote.serde world'.log config.resource tableId column := by
  obtain ⟨exchange, body, hlog, hoperation, hreply, hdecode⟩ := fetch_ok h
  intro column hmem
  refine ⟨exchange, ?_, _, body, page, hoperation, rfl, rfl, hreply, hdecode, hmem⟩
  rw [hlog]
  exact List.mem_append_right _ List.mem_cons_self

theorem loadColumns_listed {world world' : World σ} {columns : List RustExtColumn}
    (h : loadColumns fuel remote config tableId world = some (.ok columns, world')) :
    ∀ column ∈ columns, ColumnOf remote.serde world'.log config.resource tableId column := by
  unfold loadColumns at h
  rcases hrun : run (fun state => some (loadColumnsTurn remote config tableId state)) fuel
    ([], "", world) with _ | ⟨message | all, last⟩ <;> rw [hrun] at h
  · cases h
  · cases h
  have hall := run_invariant
    (fun state : List RustExtColumn × String × World σ => ∀ column ∈ state.1,
      ListedColumn remote.serde state.2.2.log config.resource tableId column)
    (fun result : Except String (List RustExtColumn) × World σ =>
      ∀ columns, result.1 = .ok columns → ∀ column ∈ columns,
        ListedColumn remote.serde result.2.log config.resource tableId column)
    (fun state turn hinv hturn => by
      obtain ⟨all, pageToken, mid⟩ := state
      cases hturn
      rw [loadColumnsTurn]
      rcases hfetch : fetchColumns remote config tableId pageToken mid with ⟨message | page, next⟩
      · intro columns heq
        cases heq
      · have hgrows := fetch_log_grows hfetch
        have hitems : ∀ column ∈ all ++ page.items,
            ListedColumn remote.serde next.log config.resource tableId column := by
          intro column hmem
          rcases List.mem_append.mp hmem with hmem | hmem
          · exact (hinv column hmem).mono hgrows.subset
          · exact listed_of_fetchColumns hfetch column hmem
        refine Turn.keeps_ite ?_ hitems
        rintro columns heq
        cases heq
        exact hitems)
    fuel ([], "", world) (.ok all, last) (by simp) hrun
  obtain ⟨finished, hfinish, heq⟩ := Option.map_eq_some_iff.mp h
  cases heq
  -- the names are made usable, the rest stays
  have hsame := prepareColumns_anonymous hfinish
  intro column hmem
  have hmap : anonymous column ∈ columns.map anonymous := List.mem_map_of_mem hmem
  rw [hsame] at hmap
  obtain ⟨original, horiginal, hanonymous⟩ := List.mem_map.mp hmap
  split at horiginal
  · rcases List.mem_append.mp horiginal with hmem | hmem
    · exact .inl ⟨original, hall all rfl original hmem, hanonymous.symm⟩
    · rcases List.mem_pair.mp hmem with rfl | rfl
      · exact .inr (.inl hanonymous.symm)
      · exact .inr (.inr hanonymous.symm)
  · exact .inl ⟨original, hall all rfl original horiginal, hanonymous.symm⟩

/-- The tables that are read of a page, after those so far. -/
theorem loadTables_listed :
    ∀ (tables : List RustExtTable) {catalogTables catalogTables' : List RustExtCatalogTable}
      {world world' : World σ},
      CatalogColumns remote.serde world.log config.resource ⟨catalogTables⟩ →
      loadTables fuel remote config tables catalogTables world =
        some (.ok catalogTables', world') →
      CatalogColumns remote.serde world'.log config.resource ⟨catalogTables'⟩ := by
  intro tables
  induction tables with
  | nil =>
      intro catalogTables catalogTables' world world' hcatalog h
      cases h
      exact hcatalog
  | cons table rest ih =>
      intro catalogTables catalogTables' world world' hcatalog h
      rw [loadTables] at h
      rcases hload : loadColumns fuel remote config table.id world with
        _ | ⟨message | columns, mid⟩ <;> rw [hload] at h
      · cases h
      · cases h
      · refine ih ?_ h
        intro entry hentry
        rcases List.mem_append.mp hentry with hentry | hentry
        · exact hcatalog.mono (loadColumns_sends hload).log_grows.subset entry hentry
        · rw [List.mem_singleton.mp hentry]
          exact loadColumns_listed hload

/-- **The columns of a catalog** are those the server listed for each table of the
document, and row metadata. -/
theorem loadCatalog_columns {world world' : World σ} {catalog : RustExtCatalog}
    (h : loadCatalog fuel remote config world = some (.ok catalog, world')) :
    CatalogColumns remote.serde world'.log config.resource catalog :=
  run_invariant
    (fun state : List RustExtCatalogTable × String × World σ =>
      CatalogColumns remote.serde state.2.2.log config.resource ⟨state.1⟩)
    (fun result : Except String RustExtCatalog × World σ => ∀ catalog, result.1 = .ok catalog →
      CatalogColumns remote.serde result.2.log config.resource catalog)
    (fun state turn hinv hturn => by
      obtain ⟨catalogTables, pageToken, mid⟩ := state
      rw [loadCatalogTurn] at hturn
      rcases hfetch : fetchTables remote config pageToken mid with ⟨message | page, next⟩ <;>
        rw [hfetch] at hturn
      · cases hturn
        intro catalog heq
        cases heq
      · obtain ⟨⟨entries, last⟩, hload, rfl⟩ := Option.map_eq_some_iff.mp hturn
        have hgrows := fetch_log_grows hfetch
        cases entries with
        | error message =>
            intro catalog heq
            cases heq
        | ok entries =>
            have hentries := loadTables_listed page.items (hinv.mono hgrows.subset) hload
            refine Turn.keeps_ite ?_ hentries
            rintro catalog heq
            cases heq
            exact hentries)
    fuel ([], "", world) (.ok catalog, world') (by simp [CatalogColumns]) h catalog rfl

end DuckdbCoda
