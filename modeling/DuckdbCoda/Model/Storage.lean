import DuckdbCoda.Model.Mutation
import DuckdbCoda.Model.Scan
import DuckdbCoda.Model.Schema

/-!
# Planning and running DML

The planner checks the transaction state, RETURNING and the capability of the
table; the sinks check the transaction state and the capability again, chunk
by chunk, and set the write flag once the client call has returned. A
`Connection` is what DuckDB keeps between these calls; its events can come in
any order.
-/

namespace DuckdbCoda

variable {σ : Type}

/-- What an attached database works with. -/
structure Attached (σ : Type) where
  remote : Remote σ
  duckdb : DuckDb
  config : RustExtClientConfig

/-! ## The three operators -/

/-- A DML statement on a table. -/
inductive DmlStatement where
  | insert
  | update (assignments : List (Nat × UpdateExpression))
  | delete (rowIdIndex : Nat)

/-- `RustBridgeInsert`, `RustBridgeUpdate` or `RustBridgeDelete`. -/
structure DmlOperator where
  table : RustBridgeTableInfo
  statement : DmlStatement

/-- The capability a statement needs of its table. -/
def DmlStatement.capability : DmlStatement → UInt32
  | .insert => tableInsert
  | .update _ => tableUpdate
  | .delete _ => tableDelete

def DmlStatement.dmlNotSupportedMessage : DmlStatement → String
  | .insert => "Coda INSERT is not supported for this table"
  | .update _ => "Coda UPDATE is not supported for this table"
  | .delete _ => "Coda DELETE is not supported for this table"

def DmlStatement.returningNotSupportedMessage : DmlStatement → String
  | .insert => "RETURNING is not supported for Coda INSERT"
  | .update _ => "RETURNING is not supported for Coda UPDATE"
  | .delete _ => "RETURNING is not supported for Coda DELETE"

/-- The client call of a statement. -/
def DmlOperator.write (attached : Attached σ) (operator : DmlOperator) (chunk : DataChunk)
    (world : World σ) : Except Exception Nat × World σ :=
  match operator.statement with
  | .insert =>
      clientInsertRows attached.remote attached.duckdb attached.config operator.table chunk world
  | .update assignments =>
      clientUpdateRows attached.remote attached.duckdb attached.config operator.table chunk
        assignments world
  | .delete rowIdIndex =>
      clientDeleteRows attached.remote attached.duckdb attached.config operator.table chunk
        rowIdIndex world

/-! ## `PlanInsert`, `PlanUpdate`, `PlanDelete` -/

def planDml (context : ClientContext) (operator : DmlOperator) (returnChunk : Bool) :
    Except Exception DmlOperator :=
  match rejectExplicitTransaction context with
  | .error exception => .error exception
  | .ok () =>
      if returnChunk then
        .error (.notImplemented operator.statement.returningNotSupportedMessage)
      else if !operator.table.supports operator.statement.capability then
        .error (.notImplemented operator.statement.dmlNotSupportedMessage)
      else .ok operator

def planInsert (context : ClientContext) (table : RustBridgeTableInfo) (returnChunk : Bool) :
    Except Exception DmlOperator :=
  planDml context ⟨table, .insert⟩ returnChunk

def planUpdate (context : ClientContext) (table : RustBridgeTableInfo)
    (assignments : List (Nat × UpdateExpression)) (returnChunk : Bool) :
    Except Exception DmlOperator :=
  planDml context ⟨table, .update assignments⟩ returnChunk

def planDelete (context : ClientContext) (table : RustBridgeTableInfo) (rowIdIndex : Nat)
    (returnChunk : Bool) : Except Exception DmlOperator :=
  planDml context ⟨table, .delete rowIdIndex⟩ returnChunk

/-! ## `Sink` -/

/-- The state a DML statement works on: the client context, the transaction,
the global sink state and the outside. The count is that of the source's `idx_t`
as long as a statement is given fewer than 2^64 rows. -/
structure Session (σ : Type) where
  context : ClientContext
  transaction : RustBridgeTransaction
  affectedCount : Nat
  world : World σ

/-- The session a transaction begins with. -/
def Session.start (context : ClientContext) (world : World σ) : Session σ where
  context := context
  transaction := {}
  affectedCount := 0
  world := world

def sink (attached : Attached σ) (operator : DmlOperator) (chunk : DataChunk)
    (session : Session σ) : Except Exception Unit × Session σ :=
  if chunk.rows.isEmpty then (.ok (), session)
  else
    match rejectExplicitTransaction session.context with
    | .error exception => (.error exception, session)
    | .ok () =>
        if !operator.table.supports operator.statement.capability then
          (.error (.notImplemented operator.statement.dmlNotSupportedMessage), session)
        else
          match operator.write attached chunk session.world with
          -- an exception passes `MarkRemoteWrite` by, whatever was sent before it
          | (.error exception, world) => (.error exception, { session with world })
          | (.ok count, world) =>
              (.ok (), { session with
                world
                transaction := session.transaction.markWrite
                affectedCount := session.affectedCount + count })

def rustBridgeInsertSink (attached : Attached σ) (table : RustBridgeTableInfo) :
    DataChunk → Session σ → Except Exception Unit × Session σ :=
  sink attached ⟨table, .insert⟩

def rustBridgeUpdateSink (attached : Attached σ) (table : RustBridgeTableInfo)
    (assignments : List (Nat × UpdateExpression)) :
    DataChunk → Session σ → Except Exception Unit × Session σ :=
  sink attached ⟨table, .update assignments⟩

def rustBridgeDeleteSink (attached : Attached σ) (table : RustBridgeTableInfo)
    (rowIdIndex : Nat) : DataChunk → Session σ → Except Exception Unit × Session σ :=
  sink attached ⟨table, .delete rowIdIndex⟩

/-- A sequence of sinks, up to the first one that throws. -/
def runSinks (attached : Attached σ) :
    List (DmlOperator × DataChunk) → Session σ → Except Exception Unit × Session σ
  | [], session => (.ok (), session)
  | (operator, chunk) :: rest, session =>
      match sink attached operator chunk session with
      | (.error exception, session) => (.error exception, session)
      | (.ok (), session) => runSinks attached rest session

/-- The count `GetDataInternal` reports, a BIGINT; `NumericCast` throws when it
does not fit. -/
def getDataInternal (session : Session σ) : Except Exception Value :=
  if session.affectedCount < 2 ^ 63 then .ok (.integer .big (Int64.ofNat session.affectedCount))
  else .error (.internal ("Information loss on integer cast: value " ++
    Nat.repr session.affectedCount ++
    " outside of target range [-9223372036854775808, 9223372036854775807]"))

/-! ## A connection -/

/-- What happens on a connection. `outside` is whatever else goes on at the
document between two calls: scans, other connections, other clients. -/
inductive ConnectionEvent (σ : Type) where
  | query (text : String)
  | beginTransaction
  | endTransaction
  | startTransaction
  | plan (tableName : String) (statement : DmlStatement) (returnChunk : Bool)
  | sink (plan : Nat) (chunk : DataChunk)
  | initScan (tableName : String) (bindData : RustBridgeTableInfo → RustBridgeScanBindData)
      (input : TableFunctionInitInput)
  | outside (world : World σ)

/-- A connection with the statements planned on it so far. The two journals
record, with the autocommit mode they happened in, the requests of the sinks
and the scans that were opened. -/
structure Connection (σ : Type) where
  session : Session σ
  plans : List DmlOperator
  issued : List (Bool × Operation)
  opened : List Bool

/-- One event on a connection. An event that throws changes nothing but what
it changed before it threw. -/
def Connection.step (attached : Attached σ) (schema : RustBridgeSchemaCatalogEntry)
    (connection : Connection σ) : ConnectionEvent σ → Connection σ
  | .query text =>
      { connection with session := { connection.session with
          context := { connection.session.context with currentQuery := text } } }
  | .beginTransaction =>
      { connection with session := { connection.session with
          context := { connection.session.context with isAutoCommit := false } } }
  | .endTransaction =>
      { connection with session := { connection.session with
          context := { connection.session.context with isAutoCommit := true } } }
  | .startTransaction =>
      match DuckdbCoda.startTransaction connection.session.context with
      | .error _ => connection
      | .ok transaction =>
          { connection with session := { connection.session with transaction, affectedCount := 0 } }
  | .plan tableName statement returnChunk =>
      match schema.lookupEntry tableName with
      | none => connection
      | some entry =>
          match planDml connection.session.context ⟨entry.tableInfo, statement⟩ returnChunk with
          | .error _ => connection
          | .ok operator => { connection with plans := connection.plans ++ [operator] }
  | .sink plan chunk =>
      match connection.plans[plan]? with
      | none => connection
      | some operator =>
          let session := (DuckdbCoda.sink attached operator chunk connection.session).2
          { connection with
            session
            issued := connection.issued ++
              (sentSince connection.session.world session.world).map fun exchange =>
                (connection.session.context.isAutoCommit, exchange.operation) }
  | .initScan tableName bindData input =>
      match schema.lookupEntry tableName with
      | none => connection
      | some entry =>
          match rustBridgeScanInitGlobal connection.session.context attached.config
              (bindData entry.tableInfo) input with
          | .error _ => connection
          | .ok _ =>
              { connection with
                opened := connection.opened ++ [connection.session.context.isAutoCommit] }
  | .outside world => { connection with session := { connection.session with world } }

/-- A run of a connection. -/
def Connection.run (attached : Attached σ) (schema : RustBridgeSchemaCatalogEntry)
    (connection : Connection σ) (events : List (ConnectionEvent σ)) : Connection σ :=
  events.foldl (Connection.step attached schema) connection

/-- A connection on which nothing happened yet. -/
def Connection.fresh (context : ClientContext) (world : World σ) : Connection σ where
  session := { context, transaction := {}, affectedCount := 0, world }
  plans := []
  issued := []
  opened := []

end DuckdbCoda
