import DuckdbCoda.Theorems.LoadCatalog
import DuckdbCoda.Theorems.ScanRows
import DuckdbCoda.Theorems.ScanRetry
import DuckdbCoda.Theorems.SchemaEntries
import DuckdbCoda.Theorems.ColumnNames
import DuckdbCoda.Model.Scan
import DuckdbCoda.Logic.ScanBuffer
import DuckdbCoda.Theorems.Rechunk
import DuckdbCoda.Model.Mutation
import DuckdbCoda.Model.Storage
import DuckdbCoda.Logic.Sends
import DuckdbCoda.Theorems.WriteFlag
import DuckdbCoda.Logic.CatalogOrigin
import DuckdbCoda.Theorems.WriteGuards
import DuckdbCoda.Logic.Encoding
import DuckdbCoda.Logic.Traces
import DuckdbCoda.Theorems.WriteTrace
import DuckdbCoda.Logic.Decoding
import DuckdbCoda.Theorems.ReadBack
import DuckdbCoda.Theorems.CellReads
import DuckdbCoda.Logic.Literals
import DuckdbCoda.Theorems.InputValues
import DuckdbCoda.Lib.Extract
import DuckdbCoda.Model.Pushdown
import DuckdbCoda.Logic.Pushdowns
import DuckdbCoda.Theorems.EqualityPushdown
import DuckdbCoda.Model.BindData
import DuckdbCoda.Theorems.BindData
import DuckdbCoda.Lib.QuotedText
import DuckdbCoda.Theorems.TransactionGuard
import DuckdbCoda.Lib.History
import DuckdbCoda.Model.TransactionManager
import DuckdbCoda.Theorems.TransactionTable
import DuckdbCoda.Model.Attach
import DuckdbCoda.Theorems.AttachConfig
import DuckdbCoda.Lib.Ownership
import DuckdbCoda.Lib.Slots
import DuckdbCoda.Model.Abi
import DuckdbCoda.Logic.AbiRecords
import DuckdbCoda.Theorems.AbiPages
import DuckdbCoda.Model.AbiClient
import DuckdbCoda.Logic.AbiClient
import DuckdbCoda.Model.Process
import DuckdbCoda.Logic.ScanSource
import DuckdbCoda.Logic.Speakers
import DuckdbCoda.Logic.ProcessSteps
import DuckdbCoda.Theorems.ProcessRequests
import DuckdbCoda.Logic.ListedColumns
import DuckdbCoda.Logic.Listings
import DuckdbCoda.Theorems.ProcessRows
import DuckdbCoda.Model.AbiAttach
import DuckdbCoda.Logic.AbiAttach
import DuckdbCoda.Lib.GrowingArray
import DuckdbCoda.Model.AbiWrites
import DuckdbCoda.Logic.AbiWrites
import DuckdbCoda.Model.AbiPushdown
import DuckdbCoda.Logic.AbiPushdown
import DuckdbCoda.Model.AbiProcess
import DuckdbCoda.Theorems.ProcessMemory
import DuckdbCoda.Model.Secrets
import DuckdbCoda.Logic.SecretStore
import DuckdbCoda.Theorems.SecretCredentials
import DuckdbCoda.Lib.DecimalText
import DuckdbCoda.Theorems.ScanExplain
import DuckdbCoda.Logic.ScanDelivery
import DuckdbCoda.Lib.Accounts
import DuckdbCoda.Theorems.ScanDelivery
import DuckdbCoda.Lib.Termination
import DuckdbCoda.Theorems.Termination
