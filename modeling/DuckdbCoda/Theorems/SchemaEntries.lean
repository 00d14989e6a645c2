import DuckdbCoda.Model.MockCoda
import DuckdbCoda.Model.Client
import DuckdbCoda.Model.Schema

/-!
# Which tables of the catalog are reachable in SQL

The map of the schema overwrites: of two tables whose names are equal up to
ASCII case only the later one stays. `tables_reachable_iff` is the exact
condition under which nothing is lost.
-/

namespace DuckdbCoda

open AsciiCase RustBridgeSchemaCatalogEntry

/-- The schema holds one entry per table: a scan visits every table once, and
every table is found under some name. -/
def EveryTableReachable (catalog : RustExtCatalog) : Prop :=
  (ofCatalog catalog).scannedTables.Perm catalog.tables ∧
    ∀ table ∈ catalog.tables, ∃ name entry,
      (ofCatalog catalog).lookupEntry name = some entry ∧ entry.tableInfo.table = table

/-- The names of the tables are pairwise distinct ignoring ASCII case. -/
def TableNamesDistinct (catalog : RustExtCatalog) : Prop :=
  (catalog.tables.map fun table => foldCase table.name).Nodup

/-- The folded keys under which the tables are entered. -/
theorem entryKeys_eq (tables : List RustExtCatalogTable) :
    ((tables.map tableCatalogEntry).map fun entry => foldCase entry.tableInfo.table.name) =
      tables.map fun table => foldCase table.name := by
  rw [List.map_map]
  rfl

theorem scannedTables_eq (schema : RustBridgeSchemaCatalogEntry) :
    schema.scannedTables = schema.entries.entries.map fun entry => entry.2.tableInfo.table := by
  show (schema.entries.entries.map Prod.snd).map _ = _
  rw [List.map_map]
  rfl

/-- Distinct names: every table has its own entry, in catalog order. -/
theorem entries_of_namesDistinct {catalog : RustExtCatalog} (h : TableNamesDistinct catalog) :
    (ofCatalog catalog).entries.entries =
      catalog.tables.map fun table => (table.name, tableCatalogEntry table) := by
  have hentries := KeyedMap.insertAll_entries
    (fun entry : RustBridgeTableCatalogEntry => entry.tableInfo.table.name)
    (catalog.tables.map tableCatalogEntry) (KeyedMap.empty : KeyedMap foldCase _) (by
      rw [entryKeys_eq]
      exact h)
  rw [List.map_map] at hentries
  exact hentries

/-- **Every table of a catalog is reachable exactly if no two table names are
equal ignoring ASCII case.** -/
theorem tables_reachable_iff (catalog : RustExtCatalog) :
    EveryTableReachable catalog ↔ TableNamesDistinct catalog := by
  constructor
  · intro h
    have hlen := h.1.length_eq
    rw [scannedTables_eq, List.length_map] at hlen
    have hnodup := KeyedMap.nodup_of_length_insertAll
      (fun entry : RustBridgeTableCatalogEntry => entry.tableInfo.table.name)
      (catalog.tables.map tableCatalogEntry) (KeyedMap.empty : KeyedMap foldCase _) (by
        rw [List.length_map]
        exact hlen.trans (Nat.zero_add _).symm)
    rw [entryKeys_eq] at hnodup
    exact hnodup
  · intro h
    have hentries := entries_of_namesDistinct h
    refine ⟨?_, fun table hmem => ⟨table.name, tableCatalogEntry table, ?_, rfl⟩⟩
    · rw [scannedTables_eq, hentries, List.map_map]
      exact List.Perm.of_eq (List.map_id _)
    · apply KeyedMap.find?_eq_some_of_mem
      rw [hentries]
      exact List.mem_map.mpr ⟨table, hmem, rfl⟩

/-! ## Two tables whose names differ in case -/

/-- A table list with the two names `Tasks` and `tasks`, and no columns. -/
def mockTwinTexts : List (String × Json) := [
  ("\x7b\"items\":[\x7b\"id\":\"tbl1\",\"name\":\"Tasks\"\x7d,\x7b\"id\":\"tbl2\",\"name\":\"tasks\"\x7d]\x7d",
    .object [("items", .array [
      .object [("id", .string "tbl1"), ("name", .string "Tasks")],
      .object [("id", .string "tbl2"), ("name", .string "tasks")]])]),
  ("\x7b\"items\":[]\x7d", .object [("items", .array [])])]

def mockTwinReplies : List HttpReply :=
  [0, 1, 1].filterMap fun index => mockTwinTexts[index]?.map fun text => ok200 text.1

/-- The table `Tasks` is loaded, and then reachable under no name. -/
theorem twin_table_unreachable :
    ∃ catalog world,
      loadCatalog 3 (mockRemote (mockSerde mockTwinTexts fun _ => "")) mockConfig
        (mockWorld mockTwinReplies) = some (.ok catalog, world) ∧
      catalog.tables.map (·.id) = ["tbl1", "tbl2"] ∧
      (ofCatalog catalog).scannedTables.map (·.id) = ["tbl2"] ∧
      ¬ EveryTableReachable catalog ∧
      ∀ name entry, (ofCatalog catalog).lookupEntry name = some entry →
        entry.tableInfo.table.id ≠ "tbl1" := by
  refine ⟨_, _, rfl, rfl, rfl, ?_, ?_⟩
  · intro h
    have hlen := h.1.length_eq
    revert hlen
    show ¬ (1 = 2)
    decide
  · intro name entry h
    have hmem := KeyedMap.mem_values_of_find? _ h
    have hid : entry.tableInfo.table.id ∈ ["tbl2"] :=
      List.mem_map_of_mem (f := fun entry : RustBridgeTableCatalogEntry =>
        entry.tableInfo.table.id) hmem
    rw [List.mem_singleton.mp hid]
    decide

end DuckdbCoda
