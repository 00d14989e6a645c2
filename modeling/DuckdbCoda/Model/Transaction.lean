import DuckdbCoda.Model.Values

/-!
# Transactions and their guard

The transaction state DuckDB keeps for a connection, the guard of planning and
of the sinks, and the transaction of the extension with its write flag.
-/

namespace DuckdbCoda

open AsciiCase

/-- What the extension reads of `ClientContext`. -/
structure ClientContext where
  isAutoCommit : Bool
  currentQuery : String

/-! ## Messages and switches of `exports.rs` -/

def supportsExplicitTransactions : Bool := false

def supportsTransactionRollback : Bool := false

def explicitTransactionNotSupportedMessage : String :=
  "Coda does not support explicit DuckDB transactions; use autocommit statements"

def transactionRollbackNotSupportedMessage : String :=
  "Coda writes cannot be rolled back after they are sent; use autocommit statements"

/-! ## The guard -/

/-- `query.find(word) != npos` on the lower-cased query text. -/
def queryMentions (word query : String) : Bool :=
  decide (word.toList <:+: foldCase query)

/-- Outside autocommit mode, or on a query that mentions transaction control. -/
def isExplicitTransaction (context : ClientContext) : Bool :=
  !context.isAutoCommit || queryMentions "begin" context.currentQuery ||
    queryMentions "rollback" context.currentQuery || queryMentions "commit" context.currentQuery

/-- `RejectExplicitTransaction`. `rust_bridge_catalog.cpp` (planning) and
`rust_bridge_dml.cpp` (the sinks) have a copy each, word for word. -/
def rejectExplicitTransaction (context : ClientContext) : Except Exception Unit :=
  if supportsExplicitTransactions then .ok ()
  else if isExplicitTransaction context then
    .error (.notImplemented explicitTransactionNotSupportedMessage)
  else .ok ()

/-- The guard lets through autocommit statements only. -/
theorem isAutoCommit_of_rejectExplicitTransaction {context : ClientContext}
    (h : rejectExplicitTransaction context = .ok ()) : context.isAutoCommit = true := by
  cases hauto : context.isAutoCommit with
  | true => rfl
  | false => simp [rejectExplicitTransaction, supportsExplicitTransactions,
      isExplicitTransaction, hauto] at h

/-! ## `RustBridgeTransaction` -/

structure RustBridgeTransaction where
  hasWrites : Bool := false
  deriving DecidableEq

namespace RustBridgeTransaction

def markWrite (transaction : RustBridgeTransaction) : RustBridgeTransaction :=
  { transaction with hasWrites := true }

def rollback (transaction : RustBridgeTransaction) : Except Exception Unit :=
  if transaction.hasWrites && !supportsTransactionRollback then
    .error (.notImplemented transactionRollbackNotSupportedMessage)
  else .ok ()

/-- Rolling back throws exactly if the flag is set. -/
theorem rollback_eq_error_iff (transaction : RustBridgeTransaction) :
    transaction.rollback = .error (.notImplemented transactionRollbackNotSupportedMessage) ↔
      transaction.hasWrites = true := by
  cases h : transaction.hasWrites <;> simp [rollback, supportsTransactionRollback, h]

end RustBridgeTransaction

/-- `StartTransaction`, with the same guard but for the text of the query. -/
def startTransaction (context : ClientContext) : Except Exception RustBridgeTransaction :=
  if !supportsExplicitTransactions && !context.isAutoCommit then
    .error (.notImplemented explicitTransactionNotSupportedMessage)
  else .ok {}

end DuckdbCoda
