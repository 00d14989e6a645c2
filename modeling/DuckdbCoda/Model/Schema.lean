import DuckdbCoda.Lib.KeyedMap
import DuckdbCoda.Model.Values

/-!
# The main schema

`RustBridgeSchemaCatalogEntry` puts the tables of the loaded catalog one after
the other into a map keyed by the table name, ignoring ASCII case.
-/

namespace DuckdbCoda

open AsciiCase

/-- `CreateTableInfo`: the name and the columns SQL knows the table by. -/
structure CreateTableInfo where
  schemaName : String
  tableName : String
  columns : List (String × LogicalType)

def rustBridgeCreateTableInfo (info : RustBridgeTableInfo) (schemaName : String) :
    CreateTableInfo where
  schemaName := schemaName
  tableName := info.table.name
  columns := info.columns.map fun column => (column.column.name, column.duckdbType)

structure RustBridgeTableCatalogEntry where
  createInfo : CreateTableInfo
  tableInfo : RustBridgeTableInfo

/-- `DEFAULT_SCHEMA`, the name of the only schema. -/
def defaultSchema : String := "main"

/-- The entry made of one table of the catalog. -/
def tableCatalogEntry (table : RustExtCatalogTable) : RustBridgeTableCatalogEntry where
  createInfo := rustBridgeCreateTableInfo (borrowRustBridgeTableInfo table) defaultSchema
  tableInfo := borrowRustBridgeTableInfo table

inductive CatalogType where
  | tableEntry
  | invalid
  | other
  deriving DecidableEq

structure RustBridgeSchemaCatalogEntry where
  entries : KeyedMap foldCase RustBridgeTableCatalogEntry

namespace RustBridgeSchemaCatalogEntry

/-- The constructor: `entries[table.name] = entry` for each table in turn. -/
def ofCatalog (catalog : RustExtCatalog) : RustBridgeSchemaCatalogEntry where
  entries := KeyedMap.empty.insertAll (fun entry => entry.tableInfo.table.name)
    (catalog.tables.map tableCatalogEntry)

def lookupEntry (schema : RustBridgeSchemaCatalogEntry) (name : String) :
    Option RustBridgeTableCatalogEntry :=
  schema.entries.find? name

/-- The entries `Scan` hands to its callback. -/
def scan (schema : RustBridgeSchemaCatalogEntry) (type : CatalogType) :
    List RustBridgeTableCatalogEntry :=
  if type ≠ .tableEntry ∧ type ≠ .invalid then [] else schema.entries.values

/-- The tables of the catalog that a scan of the tables visits. -/
def scannedTables (schema : RustBridgeSchemaCatalogEntry) : List RustExtCatalogTable :=
  (schema.scan .tableEntry).map fun entry => entry.tableInfo.table

end RustBridgeSchemaCatalogEntry

end DuckdbCoda
