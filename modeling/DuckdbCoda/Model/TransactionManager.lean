import DuckdbCoda.Lib.History
import DuckdbCoda.Lib.KeyedMap
import DuckdbCoda.Model.Transaction

/-!
# The transaction manager and its clients

`rust_bridge_transaction_manager.cpp`. The manager owns its transactions in a
map keyed by the address of the object. Of a method only the part under
`transaction_lock` is atomic: what it does before it takes the lock is a step of
its own, so the calls of any number of clients interleave there.

A step is a call that arrives (`ManagerEvent`) or a call that waits and gets
the lock. What an outsider sees of it is an `Observation`; a method has
returned, or thrown, with the observation of its last step.
-/

namespace DuckdbCoda

open History

/-! ## The methods -/

/-- `reference_map_t<Transaction, unique_ptr<RustBridgeTransaction>>`: an address
and the object that lies there. -/
structure RustBridgeTransactionManager where
  transactions : KeyedMap (id : Nat → Nat) RustBridgeTransaction

namespace RustBridgeTransactionManager

def find? (manager : RustBridgeTransactionManager) (address : Nat) :
    Option RustBridgeTransaction :=
  manager.transactions.find? address

/-- `transactions[result] = std::move(transaction)`. -/
def insert (manager : RustBridgeTransactionManager) (address : Nat)
    (transaction : RustBridgeTransaction) : RustBridgeTransactionManager :=
  ⟨manager.transactions.insert address transaction⟩

/-- `transactions.erase(transaction)`, which destroys the object. -/
def erase (manager : RustBridgeTransactionManager) (address : Nat) :
    RustBridgeTransactionManager :=
  ⟨manager.transactions.erase address⟩

/-- `StartTransaction`, where `make_uniq` puts the object at `address`. -/
def startTransaction (manager : RustBridgeTransactionManager) (context : ClientContext)
    (address : Nat) : Except Exception Unit × RustBridgeTransactionManager :=
  match DuckdbCoda.startTransaction context with
  | .error exception => (.error exception, manager)
  | .ok transaction => (.ok (), manager.insert address transaction)

/-- `CommitTransaction`; `Commit` does nothing and the `ErrorData` is empty. -/
def commitTransaction (manager : RustBridgeTransactionManager) (address : Nat) :
    RustBridgeTransactionManager :=
  manager.erase address

/-- `RollbackTransaction`, which erases in the `catch` block too. -/
def rollbackTransaction (manager : RustBridgeTransactionManager) (address : Nat)
    (transaction : RustBridgeTransaction) : Except Exception Unit × RustBridgeTransactionManager :=
  match transaction.rollback with
  | .error exception => (.error exception, manager.erase address)
  | .ok () => (.ok (), manager.erase address)

end RustBridgeTransactionManager

/-! ## Calls of several clients -/

/-- A call that has done what it does before it takes the lock. -/
inductive WaitingCall where
  | start (address : Nat) (transaction : RustBridgeTransaction)
  | commit (address : Nat)
  | rollback (address : Nat) (outcome : Except Exception Unit)

/-- The object a waiting call is about. -/
def WaitingCall.address : WaitingCall → Nat
  | .start address _ => address
  | .commit address => address
  | .rollback address _ => address

/-- What a client does next; `locked` lets its waiting call take the lock. -/
inductive ManagerEvent (κ : Type) where
  | startTransaction (client : κ) (context : ClientContext) (address : Nat)
  | markWrite (client : κ) (address : Nat)
  | commitTransaction (client : κ) (address : Nat)
  | rollbackTransaction (client : κ) (address : Nat)
  | locked (client : κ)

inductive Observation where
  | waits
  | startThrew (exception : Exception)
  | started (address : Nat)
  | marked (address : Nat)
  | committed (address : Nat)
  | rolledBack (address : Nat) (outcome : Except Exception Unit)

/-- The manager with the calls that wait for its lock, one for a client at
most. -/
structure TransactionServer (κ : Type) where
  manager : RustBridgeTransactionManager
  waiting : KeyedMap (id : κ → κ) WaitingCall

namespace TransactionServer

variable {κ : Type} [DecidableEq κ]

/-- An attached database on which nothing happened yet. -/
def fresh : TransactionServer κ := ⟨⟨.empty⟩, .empty⟩

/-- The client is not in a call. -/
def idle (server : TransactionServer κ) (client : κ) : Bool :=
  (server.waiting.find? client).isNone

/-- No call that waits is about the address. -/
def untouched (server : TransactionServer κ) (address : Nat) : Bool :=
  server.waiting.values.all fun call => call.address != address

/-- No object lies at the address, in the map or with a client that has yet to
put it there: what an allocator may return. -/
def free (server : TransactionServer κ) (address : Nat) : Bool :=
  (server.manager.find? address).isNone && server.untouched address

/-- The transaction at the address, unless a client is finishing it: what a
client may pass to `MarkWrite`, `CommitTransaction` and `RollbackTransaction`. -/
def live? (server : TransactionServer κ) (address : Nat) : Option RustBridgeTransaction :=
  if server.untouched address then server.manager.find? address else none

def wait (server : TransactionServer κ) (client : κ) (call : WaitingCall) :
    TransactionServer κ × Observation :=
  ({ server with waiting := server.waiting.insert client call }, .waits)

/-- The part of a call under the lock. -/
def underLock (manager : RustBridgeTransactionManager) :
    WaitingCall → RustBridgeTransactionManager × Observation
  | .start address transaction => (manager.insert address transaction, .started address)
  | .commit address => (manager.erase address, .committed address)
  -- the `catch` block, which then throws again
  | .rollback address (.error exception) =>
      (manager.erase address, .rolledBack address (.error exception))
  | .rollback address (.ok ()) => (manager.erase address, .rolledBack address (.ok ()))

/-- One step; none when a client cannot do this now. -/
def step (server : TransactionServer κ) :
    ManagerEvent κ → Option (TransactionServer κ × Observation)
  | .startTransaction client context address =>
      if server.idle client then
        match DuckdbCoda.startTransaction context with
        | .error exception => some (server, .startThrew exception)
        | .ok transaction =>
            if server.free address then some (server.wait client (.start address transaction))
            else none
      else none
  | .markWrite client address =>
      if server.idle client then
        (server.live? address).map fun transaction =>
          ({ server with manager := server.manager.insert address transaction.markWrite },
            .marked address)
      else none
  | .commitTransaction client address =>
      if server.idle client then
        (server.live? address).map fun _ => server.wait client (.commit address)
      else none
  | .rollbackTransaction client address =>
      if server.idle client then
        (server.live? address).map fun transaction =>
          server.wait client (.rollback address transaction.rollback)
      else none
  | .locked client =>
      (server.waiting.find? client).map fun call =>
        let (manager, observation) := underLock server.manager call
        (⟨manager, server.waiting.erase client⟩, observation)

/-- A run of the clients, with its history. -/
def run (server : TransactionServer κ) (events : List (ManagerEvent κ)) :
    Option (TransactionServer κ × List Observation) :=
  runSteps step server events

end TransactionServer

/-! ## Transactions in a history -/

/-- A transaction lives from the return of `StartTransaction` to the return, or
the exception, of the call that finishes it. -/
def transactionLifetimes : Lifetimes Observation Nat where
  begins
    | .started address => some address
    | _ => none
  ends
    | .committed address => some address
    | .rolledBack address _ => some address
    | _ => none

/-- The transaction that started at `birth` was not finished yet. -/
abbrev LiveTransaction : List Observation → Nat → Nat → Prop := Lives transactionLifetimes

/-- `MarkWrite` was called at the address after the event at `birth`. -/
def MarkedSince (history : List Observation) (birth address : Nat) : Prop :=
  Since history birth (· = .marked address)

end DuckdbCoda
